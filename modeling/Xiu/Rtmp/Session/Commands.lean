import Xiu.Rtmp.Session.ClientSession
import Xiu.Rtmp.Session.Ledger

/-! Which commands make a session of RTMP panic: a `play` without a stream name, or with so many
values that their number is lost, and a status without a value; and, where the address of the peer is
not known, every command with which a session subscribes. -/

namespace Xiu.Rtmp.Session

open Xiu.Common ProofKit StreamHub Flv.Amf0

/-! ### What never panics -/

section Parts

variable {σ α : Type} {w : Surroundings} {s : σ}

theorem not_fails_throw : ¬Fails Stop.panic (throw .error : EStateM Stop σ α) s := by
  rintro ⟨s', h⟩
  cases h

theorem fails_orPanic {o : Option α} : Fails Stop.panic (orPanic o : EStateM Stop σ α) s ↔ o = none := by
  cases o with
  | none => exact iff_of_true ⟨s, rfl⟩ rfl
  | some a => exact iff_of_false (not_fails_ok rfl) nofun

theorem fails_orPanic_bind {β : Type} {o : Option α} {f : α → EStateM Stop σ β} :
    Fails Stop.panic (orPanic o >>= f) s ↔ ∀ a, o = some a → Fails Stop.panic (f a) s := by
  cases o with
  | none => exact iff_of_true ⟨s, rfl⟩ fun a h => nomatch h
  | some a =>
    constructor
    · rintro h b hSame
      cases hSame
      exact h
    · exact fun h => h a rfl

theorem not_fails_write (message : Written) (io : Io) : ¬Fails .panic (Io.write w message) io := by
  rw [Io.write, fails_get_bind]
  split
  · exact not_fails_set _
  · exact not_fails_throw

theorem not_fails_writeAll (messages : List Written) (io : Io) :
    ¬Fails .panic (Io.writeAll w messages) io := by
  induction messages generalizing io with
  | nil => exact not_fails_pure _
  | cons message rest ih =>
    rw [Io.writeAll, fails_bind]
    rintro (h | ⟨u, io1, -, h⟩)
    · exact not_fails_write message io h
    · exact ih io1 h

variable {appName streamName : String} {c : Common}

theorem not_fails_unpublish : ¬Fails .panic (Common.unpublishToStreamHub w appName streamName) c := by
  rw [Common.unpublishToStreamHub, fails_get_bind]
  split
  · exact not_fails_modify _
  · exact not_fails_throw

theorem not_fails_publish : ¬Fails .panic (Common.publishToStreamHub w appName streamName) c := by
  rw [Common.publishToStreamHub, fails_get_bind]
  split
  · rw [Common.send, fails_modify_bind]
    split
    · exact not_fails_pure _
    · exact not_fails_throw
  · exact not_fails_throw

/-- A subscription panics when it is granted and the address of the peer is not known. -/
theorem fails_subscribe :
    Fails .panic (Common.subscribeFromStreamHub w appName streamName) c ↔
      ¬(w.hubListens = true → w.accepted = true → c.remoteAddr.isSome = true) := by
  rw [Common.subscribeFromStreamHub, fails_get_bind]
  cases w.hubListens with
  | false => exact iff_of_false not_fails_throw fun h => h (by rintro ⟨⟩)
  | true =>
    rw [if_pos rfl, Common.send, fails_modify_bind]
    cases w.accepted with
    | false => exact iff_of_false not_fails_throw fun h => h (by rintro - ⟨⟩)
    | true =>
      rw [if_pos rfl, fails_orPanic_bind]
      cases c.remoteAddr with
      | none => exact iff_of_true (by rintro a ⟨⟩) fun h => Bool.false_ne_true (h rfl rfl)
      | some addr =>
        exact iff_of_false (fun h => not_fails_pure _ (h addr rfl)) fun h => h fun _ _ => rfl

end Parts

/-! ### The server -/

section Server

variable {digest : String → String} {w : Surroundings} {s : ServerSession}

theorem not_fails_sessionWrite (message : Written) : ¬Fails .panic (write w message) s :=
  fun h => not_fails_write _ _ (fails_onPart.mp h)

theorem not_fails_sessionWrites (messages : List Written) : ¬Fails .panic (writeAll w messages) s :=
  fun h => not_fails_writeAll _ _ (fails_onPart.mp h)

theorem not_fails_onConnect {transactionId : UInt64} {obj : List (String × Amf0ValueType)} :
    ¬Fails .panic (onConnect w transactionId obj) s := by
  rw [onConnect, fails_bind]
  rintro (h | ⟨u, s1, -, h⟩)
  · exact not_fails_ok rfl h
  rw [fails_bind] at h
  rcases h with h | ⟨u, s2, -, h⟩
  · exact not_fails_sessionWrites _ h
  dsimp only at h
  rw [fails_bind_left fun _ _ => not_fails_sessionWrite _, takeApp] at h
  split at h
  · exact not_fails_modify _ h
  · exact not_fails_throw h

theorem not_fails_onDeleteStream {transactionId : UInt64} :
    ¬Fails .panic (onDeleteStream w transactionId) s := by
  rw [onDeleteStream, fails_bind_left fun _ _ => not_fails_sessionWrite _, unpublish, fails_get_bind, onCommon, fails_onPart]
  exact not_fails_unpublish

theorem not_fails_authenticate {isPull : Bool} : ¬Fails .panic (authenticate digest isPull) s := by
  rw [authenticate, fails_get_bind]
  split
  · exact not_fails_pure _
  · exact not_fails_throw

theorem not_fails_onPublish {transactionId : UInt64} {streamId : UInt32}
    {otherValues : List Amf0ValueType} :
    ¬Fails .panic (onPublish digest w transactionId streamId otherValues) s := by
  rw [onPublish.eq_def]
  split
  swap
  · exact not_fails_throw
  split
  · exact not_fails_throw
  rw [fails_bind]
  rintro (h | ⟨u, s1, -, h⟩)
  · rw [namePublisher, fails_get_bind] at h
    split at h
    · exact not_fails_modify _ h
    · exact not_fails_pure _ h
  rw [fails_bind_right not_fails_authenticate] at h
  obtain ⟨u, s2, -, h⟩ := h
  split at h
  · exact not_fails_throw h
  rw [fails_bind] at h
  rcases h with h | ⟨u, s3, -, h⟩
  · exact not_fails_sessionWrites _ h
  rw [fails_get_bind, onCommon, fails_onPart] at h
  exact not_fails_publish h

/-- A `play` whose name is there, and for which, when it is admitted and granted, the address of the
peer is known. -/
def PlaySound (digest : String → String) (w : Surroundings) (otherValues : List Amf0ValueType)
    (s : ServerSession) : Prop :=
  (∀ i < 6, w.flushed (s.io.written.length + i) = true) →
    ∃ name, playedName otherValues = some name ∧
      (Auth.admits digest s.auth (RtmpUrlParser.parseStreamNameWithQuery name).1
          ((RtmpUrlParser.parseStreamNameWithQuery name).2.map .query) true = true →
        w.hubListens = true → w.accepted = true → s.common.remoteAddr.isSome = true)

/-- The part of a `play` behind its messages. -/
theorem fails_playNamed {name : String} :
    Fails .panic (do
      setName (RtmpUrlParser.parseStreamNameWithQuery name)
      authenticate digest true
      let s ← get
      onCommon (Common.subscribeFromStreamHub w s.appName s.streamName)
      modify fun s => { s with state := .play } : Handler Unit) s ↔
    ¬(Auth.admits digest s.auth (RtmpUrlParser.parseStreamNameWithQuery name).1
        ((RtmpUrlParser.parseStreamNameWithQuery name).2.map .query) true = true →
      w.hubListens = true → w.accepted = true → s.common.remoteAddr.isSome = true) := by
  rw [setName, fails_modify_bind, fails_bind_right not_fails_authenticate]
  have hRest : ∀ s1 : ServerSession, Fails .panic (do
      let s ← get
      onCommon (Common.subscribeFromStreamHub w s.appName s.streamName)
      modify fun s => { s with state := .play } : Handler Unit) s1 ↔
      ¬(w.hubListens = true → w.accepted = true → s1.common.remoteAddr.isSome = true) := by
    intro s1
    rw [fails_get_bind, fails_bind_left fun _ _ => not_fails_modify _, onCommon, fails_onPart,
      fails_subscribe]
  simp only [hRest]
  constructor
  · rintro ⟨u, s1, hOk, hNot⟩ hSound
    refine hNot fun hListens hAccepted => ?_
    simp only [authenticate, bind_get] at hOk
    split at hOk
    · rename_i hAdmits
      cases hOk
      exact hSound hAdmits hListens hAccepted
    · cases hOk
  · intro hNot
    by_cases hAdmits : Auth.admits digest s.auth (RtmpUrlParser.parseStreamNameWithQuery name).1
        ((RtmpUrlParser.parseStreamNameWithQuery name).2.map .query) true = true
    · refine ⟨(), { s with
        streamName := (RtmpUrlParser.parseStreamNameWithQuery name).1
        query := (RtmpUrlParser.parseStreamNameWithQuery name).2 }, ?_,
        fun hSound => hNot fun _ => hSound⟩
      simp only [authenticate, bind_get]
      rw [if_pos hAdmits]
      rfl
    · exact absurd (fun h => absurd h hAdmits) hNot

theorem fails_onPlay {transactionId : UInt64} {streamId : UInt32}
    {otherValues : List Amf0ValueType} :
    Fails .panic (onPlay digest w transactionId streamId otherValues) s ↔
      ¬PlaySound digest w otherValues s := by
  obtain ⟨arguments, hArguments, hName⟩ :=
    Option.map_eq_some_iff.mp (playArguments_streamName otherValues)
  have hWrites : Fails .panic (onPlay digest w transactionId streamId otherValues) s ↔
      ∃ io1, Io.writeAll w (playMessages transactionId streamId) s.io = .ok () io1 ∧
        ∀ name, playedName otherValues = some name → Fails .panic (do
          setName (RtmpUrlParser.parseStreamNameWithQuery name)
          authenticate digest true
          let s ← get
          onCommon (Common.subscribeFromStreamHub w s.appName s.streamName)
          modify fun s => { s with state := .play } : Handler Unit) { s with io := io1 } := by
    rw [onPlay, hArguments, fails_orPanic_bind]
    simp only [Option.some.injEq, forall_eq']
    rw [fails_bind_right (not_fails_sessionWrites _)]
    simp only [fails_orPanic_bind, hName]
    constructor
    · rintro ⟨u, s1, hOk, h⟩
      simp only [writeAll, onPart] at hOk
      split at hOk
      · rename_i io1 hIo
        cases hOk
        exact ⟨io1, hIo, h⟩
      · cases hOk
    · rintro ⟨io1, hIo, h⟩
      refine ⟨(), { s with io := io1 }, ?_, h⟩
      simp only [writeAll, onPart, hIo]
  rw [hWrites]
  simp only [fails_playNamed, PlaySound]
  have hFlushed := @Io.writeAll_ok w (playMessages transactionId streamId) s.io
  constructor
  · rintro ⟨io1, hIo, h⟩ hSound
    obtain ⟨name, hPlayed, hPeer⟩ := hSound (hFlushed.mp ⟨io1, hIo⟩)
    exact h name hPlayed hPeer
  · intro hNot
    obtain ⟨io1, hIo⟩ := hFlushed.mpr (by
      by_contra hSome
      exact hNot fun h => absurd h hSome)
    refine ⟨io1, hIo, fun name hPlayed hPeer => hNot fun _ => ⟨name, hPlayed, hPeer⟩⟩

/-- A command of a client panics if and only if it is an unsound `play`. -/
theorem fails_serverCommand {streamId : UInt32} {commandName transactionId commandObject : Amf0ValueType}
    {others : List Amf0ValueType} :
    Fails .panic
      (onAmf0CommandMessage digest w streamId commandName transactionId commandObject others) s ↔
      asText commandName = some "play" ∧ ¬PlaySound digest w others s := by
  have hName : ∀ name, name ≠ "" →
      ((asText commandName).getD "" = name ↔ asText commandName = some name) := by
    intro name hNe
    cases asText commandName with
    | none => exact iff_of_false (fun h => hNe h.symm) nofun
    | some text => simp
  have hPlay := hName "play" (by decide)
  simp only [onAmf0CommandMessage]
  rw [← hPlay]
  split
  · rename_i hConnect
    rw [hConnect]
    exact iff_of_false not_fails_onConnect fun h => absurd h.1 (by decide)
  split
  · rename_i hCreate
    rw [hCreate]
    exact iff_of_false (not_fails_sessionWrite _) fun h => absurd h.1 (by decide)
  split
  · rename_i hDelete
    rw [hDelete]
    refine iff_of_false ?_ fun h => absurd h.1 (by decide)
    split
    · exact not_fails_pure _
    · rw [fails_bind_left fun _ _ => not_fails_modify _]
      exact not_fails_onDeleteStream
  split
  · rename_i hIsPlay
    rw [fails_onPlay]
    exact ⟨fun h => ⟨hIsPlay, h⟩, fun h => h.2⟩
  · rename_i hNotPlay
    refine iff_of_false ?_ fun h => hNotPlay h.1
    split
    · exact not_fails_onPublish
    · exact not_fails_pure _

end Server

/-! ### The client -/

namespace ClientSession

variable {w : Surroundings} {s : ClientSession}

/-- A status with a value, and for whose subscription, when it is granted, the address of the peer is
known. -/
def StatusSound (w : Surroundings) (others : List Amf0ValueType) (s : ClientSession) : Prop :=
  ∃ first rest, others = first :: rest ∧
    ∀ obj, first = .object obj →
      (obj.lookup "code").bind asText = some "NetStream.Publish.Start" →
        w.hubListens = true → w.accepted = true → s.common.remoteAddr.isSome = true

theorem not_fails_sessionWrites (messages : List Written) : ¬Fails .panic (writeAll w messages) s :=
  fun h => not_fails_writeAll _ _ (fails_onPart.mp h)

theorem fails_onStatus {obj : List (String × Amf0ValueType)} :
    Fails .panic (onStatus w obj) s ↔
      (obj.lookup "code").bind asText = some "NetStream.Publish.Start" ∧
        ¬(w.hubListens = true → w.accepted = true → s.common.remoteAddr.isSome = true) := by
  rw [onStatus]
  split
  · rename_i hNone
    rw [hNone]
    exact iff_of_false (not_fails_pure _) fun h => nomatch h.1
  rename_i codeInfo hCode
  rw [hCode]
  split
  · rename_i hStart
    rw [setState, fails_modify_bind, fails_get_bind, onCommon, fails_onPart, fails_subscribe, hStart]
    simp only [true_and]
  · rename_i hNotStart
    refine iff_of_false ?_ fun h => hNotStart (Option.some.inj h.1)
    split
    · rw [fails_get_bind, onCommon, fails_onPart]
      exact not_fails_publish
    · exact not_fails_pure _

/-- A command of a server panics if and only if it is an unsound status. -/
theorem fails_clientCommand {commandName transactionId : Amf0ValueType} {others : List Amf0ValueType} :
    Fails .panic (onAmf0CommandMessage w commandName transactionId others) s ↔
      asText commandName = some "onStatus" ∧ ¬StatusSound w others s := by
  have hName : ∀ name, name ≠ "" →
      ((asText commandName).getD "" = name ↔ asText commandName = some name) := by
    intro name hNe
    cases asText commandName with
    | none => exact iff_of_false (fun h => hNe h.symm) nofun
    | some text => simp
  have hStatus := hName "onStatus" (by decide)
  simp only [onAmf0CommandMessage]
  rw [← hStatus]
  split
  · rename_i hResult
    rw [hResult]
    refine iff_of_false ?_ fun h => absurd h.1 (by decide)
    split
    · rw [onResultConnect, fails_get_bind]
      simp only [setState]
      rw [fails_bind_left fun _ _ => not_fails_modify _]
      exact not_fails_sessionWrites _
    split
    · exact not_fails_ok rfl
    · exact not_fails_pure _
  split
  · rename_i hIsStatus
    rw [fails_orPanic_bind]
    simp only [hIsStatus, true_and, StatusSound]
    cases others with
    | nil =>
      refine iff_of_true (fun a h => nomatch h) ?_
      rintro ⟨first, rest, h, -⟩
      cases h
    | cons first rest =>
      simp only [removeFirst, Option.some.injEq, forall_eq', List.cons.injEq]
      cases first with
      | object obj =>
        simp only
        rw [fails_onStatus]
        constructor
        · rintro ⟨hCode, hNot⟩ ⟨_, _, ⟨rfl, rfl⟩, hSound⟩
          exact hNot (hSound obj rfl hCode)
        · intro hNot
          by_contra hFine
          refine hNot ⟨_, _, ⟨rfl, rfl⟩, ?_⟩
          intro obj' hSame hCode
          cases hSame
          by_contra hUnsound
          exact hFine ⟨hCode, hUnsound⟩
      | _ =>
        refine iff_of_false not_fails_throw fun hNot => hNot ⟨_, _, ⟨rfl, rfl⟩, ?_⟩
        intro obj h
        cases h
  · rename_i hNotStatus
    exact iff_of_false (not_fails_pure _) fun h => hNotStatus h.1

end ClientSession

/-- The handling of a command ends with success or an error, in the server's session if and only if
the command is no unsound `play`, and in the client's if and only if it is no unsound status. -/
theorem commands_calm_iff (digest : String → String) (w : Surroundings) (streamId : UInt32)
    (commandName transactionId commandObject : Amf0ValueType) (others : List Amf0ValueType)
    (server : ServerSession) (client : ClientSession) :
    (¬Fails .panic
        (onAmf0CommandMessage digest w streamId commandName transactionId commandObject others)
        server ↔ (asText commandName = some "play" → PlaySound digest w others server)) ∧
      (¬Fails .panic (ClientSession.onAmf0CommandMessage w commandName transactionId others)
        client ↔ (asText commandName = some "onStatus" → ClientSession.StatusSound w others client)) := by
  rw [fails_serverCommand, ClientSession.fails_clientCommand]
  simp only [not_and, not_not, and_self]

/-- A `play` without arguments makes the server's session panic. -/
theorem play_without_name_panics :
    ¬∀ (digest : String → String) (w : Surroundings) (streamId : UInt32)
      (commandName transactionId commandObject : Amf0ValueType) (others : List Amf0ValueType)
      (server : ServerSession),
      ¬Fails .panic
        (onAmf0CommandMessage digest w streamId commandName transactionId commandObject others)
        server := by
  intro h
  let server : ServerSession := .new (Uuid.new .four 1700000000 fun _ => 0) none none
  refine h id ⟨true, true, fun _ => true, none⟩ 1 (.utf8String "play") (.number 0) .null [] server ?_
  refine fails_serverCommand.mpr ⟨rfl, fun hSound => ?_⟩
  obtain ⟨name, hName, -⟩ := hSound fun _ _ => rfl
  cases hName

end Xiu.Rtmp.Session
