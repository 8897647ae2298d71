import Xiu.Rtmp.Session.ServerSession

/-! What handling a message does to the fields of a server's session from which it publishes,
subscribes and releases, however the handling ends. -/

namespace Xiu.Rtmp.Session

open Xiu.Common ProofKit StreamHub Flv.Amf0 Messages

/-- All of a session but what has been written and what is left to read. -/
structure Ledger where
  appName : String
  streamName : String
  query : Option String
  state : ServerSessionState
  connectProperties : ConnectProperties
  common : Common
  auth : Option Auth

def ServerSession.ledger (s : ServerSession) : Ledger :=
  ⟨s.appName, s.streamName, s.query, s.state, s.connectProperties, s.common, s.auth⟩

namespace Ledger

def identifier (l : Ledger) : StreamIdentifier := .rtmp l.appName l.streamName

def named (l : Ledger) (name : String × Option String) : Ledger :=
  { l with streamName := name.1, query := name.2 }

def send (l : Ledger) (event : StreamHubEvent) (accepted : Bool) : Ledger :=
  { l with common := { l.common with sent := l.common.sent ++ [⟨event, accepted⟩] } }

/-- What is told to the hub, if it listens. -/
def tell (w : Surroundings) (l : Ledger) (event : StreamHubEvent) (accepted : Bool) : Ledger :=
  if w.hubListens then l.send event accepted else l

def admits (digest : String → String) (l : Ledger) (isPull : Bool) : Bool :=
  Auth.admits digest l.auth l.streamName (l.query.map .query) isPull

end Ledger

/-- The name under which a publisher's command publishes, and its query. -/
def publisherName (l : Ledger) (others : List Amf0ValueType) : Option (String × Option String) :=
  match others with
  | first :: _ :: _ => (asText first).map fun raw =>
    (publishedName raw l.connectProperties.swfUrl).getD (l.streamName, l.query)
  | _ => none

/-- The name that a `play` begins with, unless the number of its values is lost. -/
def playedName (otherValues : List Amf0ValueType) : Option String :=
  if otherValues.length % 256 = 0 then none else otherValues.head?.bind asText

/-- The arguments are there as far as they are counted. -/
theorem playArguments_streamName (otherValues : List Amf0ValueType) :
    (playArguments otherValues).map (·.streamName) = some (playedName otherValues) := by
  have hMod := Nat.mod_le otherValues.length 256
  simp only [playArguments, playedName]
  by_cases hNone : otherValues.length % 256 = 0
  · simp [hNone]
  rw [if_neg (by omega), if_neg hNone]
  match otherValues, hMod, hNone with
  | [], _, hNone => exact absurd rfl hNone
  | [v], _, _ => rfl
  | [v, v1], _, _ => rfl
  | [v, v1, v2], _, _ => rfl
  | v :: v1 :: v2 :: v3 :: rest, _, _ =>
    simp only [removeFirst, Option.bind_eq_bind, Option.bind_some, List.head?_cons]
    repeat' split
    all_goals rfl

/-- What handling a command does: nothing; or, for a `connect`, it changes the properties, or these and
the application; for a `play`, it names a stream, or asks for it too; for a `publish`, it names a
stream, or asks to publish it too; for a `deleteStream`, it gives the present stream back. -/
inductive Effect (digest : String → String) (w : Surroundings) (cmdName : String)
    (obj : List (String × Amf0ValueType)) (others : List Amf0ValueType) (l : Ledger) :
    Ledger → Prop where
  | none : Effect digest w cmdName obj others l l
  | properties (isConnect : cmdName = "connect") (p : ConnectProperties) :
      Effect digest w cmdName obj others l { l with connectProperties := p }
  | connect (isConnect : cmdName = "connect") (p : ConnectProperties) (app : String)
      (given : (obj.lookup "app").bind asText = some app) :
      Effect digest w cmdName obj others l { l with connectProperties := p, appName := appOf app }
  | playName (isPlay : cmdName = "play") (raw : String) (played : playedName others = some raw) :
      Effect digest w cmdName obj others l (l.named (RtmpUrlParser.parseStreamNameWithQuery raw))
  | play (isPlay : cmdName = "play") (raw : String) (played : playedName others = some raw)
      (admitted : (l.named (RtmpUrlParser.parseStreamNameWithQuery raw)).admits digest true)
      (state : ServerSessionState) :
      Effect digest w cmdName obj others l
        { (l.named (RtmpUrlParser.parseStreamNameWithQuery raw)).tell w
            (.subscribe (l.named (RtmpUrlParser.parseStreamNameWithQuery raw)).identifier
              l.common.getSubscriberInfo) w.accepted with state := state }
  | publishName (isPublish : cmdName = "publish") (name : String × Option String)
      (published : publisherName l others = some name) :
      Effect digest w cmdName obj others l (l.named name)
  | publish (isPublish : cmdName = "publish") (name : String × Option String)
      (published : publisherName l others = some name)
      (admitted : (l.named name).admits digest false) :
      Effect digest w cmdName obj others l
        ((l.named name).tell w (.publish (l.named name).identifier l.common.getPublisherInfo)
          w.accepted)
  | delete (isDelete : cmdName = "deleteStream") (given : others ≠ []) (listens : w.hubListens)
      (state : ServerSessionState) :
      Effect digest w cmdName obj others l
        { l.send (.unPublish l.identifier l.common.getPublisherInfo) true with state := state }

/-! ### Handlers that leave the ledger alone -/

def Keeps {α : Type} (x : Handler α) : Prop := ∀ s, (stateOf (x s)).ledger = s.ledger

section Keeps

variable {α β : Type} {x : Handler α} {f : α → Handler β} {w : Surroundings}

theorem keeps_pure (a : α) : Keeps (pure a : Handler α) := fun _ => rfl

theorem keeps_throw (e : Stop) : Keeps (throw e : Handler α) := fun _ => rfl

theorem keeps_orPanic (o : Option α) : Keeps (orPanic o : Handler α) := by
  cases o with
  | none => exact keeps_throw _
  | some a => exact keeps_pure a

theorem Keeps.bind (hx : Keeps x) (hf : ∀ a, Keeps (f a)) : Keeps (x >>= f) := fun s =>
  stateOf_bind (R := fun s s' : ServerSession => s'.ledger = s.ledger) (fun h h' => h'.trans h) (hx s)
    fun a s1 => hf a s1

theorem keeps_get {f : ServerSession → Handler β} (h : ∀ s, Keeps (f s)) : Keeps (get >>= f) :=
  fun s => h s s

/-- What follows an action that keeps the ledger, unless it fails. -/
theorem Keeps.cases (hx : Keeps x) (s : ServerSession) (f : α → Handler β) :
    (stateOf ((x >>= f) s)).ledger = s.ledger ∨
      ∃ a s1, x s = .ok a s1 ∧ s1.ledger = s.ledger ∧ (x >>= f) s = f a s1 := by
  have hLedger := hx s
  cases hResult : x s with
  | ok a s1 =>
    rw [hResult] at hLedger
    exact .inr ⟨a, s1, rfl, hLedger, bind_of_ok hResult⟩
  | error e s1 =>
    rw [hResult] at hLedger
    rw [bind_of_error hResult]
    exact .inl hLedger

theorem keeps_onIo (x : EStateM Stop Io α) :
    Keeps (onPart (·.io) (fun s io => { s with io }) x : Handler α) := by
  intro s
  simp only [onPart]
  split <;> rfl

theorem keeps_write (message : Written) : Keeps (write w message) := keeps_onIo _

theorem keeps_writeAll (messages : List Written) : Keeps (writeAll w messages) := keeps_onIo _

theorem keeps_authenticate {digest : String → String} (isPull : Bool) :
    Keeps (authenticate digest isPull) := by
  refine keeps_get fun s => ?_
  split
  · exact keeps_pure _
  · exact keeps_throw _

end Keeps

variable {digest : String → String} {w : Surroundings} {s : ServerSession}

theorem authenticate_ok {isPull : Bool} {u : Unit} {s1 : ServerSession}
    (h : authenticate digest isPull s = .ok u s1) : s1 = s ∧ s.ledger.admits digest isPull := by
  simp only [authenticate, bind_get] at h
  split at h
  · rename_i hAdmits
    cases h
    exact ⟨rfl, hAdmits⟩
  · cases h

/-- What follows does not change the ledger further. -/
theorem ledger_bind {α β : Type} {x : Handler α} {f : α → Handler β} (hf : ∀ a, Keeps (f a))
    (s : ServerSession) : (stateOf ((x >>= f) s)).ledger = (stateOf (x s)).ledger := by
  cases hResult : x s with
  | ok a s1 =>
    rw [bind_of_ok hResult]
    exact hf a s1
  | error e s1 =>
    rw [bind_of_error hResult]
    rfl

/-! ### Events -/

theorem ledger_subscribe (s : ServerSession) :
    (stateOf (onCommon (Common.subscribeFromStreamHub w s.appName s.streamName) s)).ledger =
      s.ledger.tell w (.subscribe s.ledger.identifier s.common.getSubscriberInfo) w.accepted := by
  simp only [onCommon, onPart, Common.subscribeFromStreamHub, bind_get, Ledger.tell]
  cases w.hubListens with
  | false => rfl
  | true =>
    simp only [if_true, Common.send, bind_modify]
    cases w.accepted with
    | false => rfl
    | true =>
      simp only [if_true]
      obtain ⟨_, _, _, _, _, _, ⟨_, _, addr, _⟩, _, _⟩ := s
      cases addr <;> rfl

/-- The subscription of a player, and the state that it leads to. -/
theorem ledger_subscribe_play (s : ServerSession) :
    ∃ state, (stateOf ((onCommon (Common.subscribeFromStreamHub w s.appName s.streamName) >>= fun _ =>
        modify fun s => { s with state := .play }) s)).ledger =
      { s.ledger.tell w (.subscribe s.ledger.identifier s.common.getSubscriberInfo) w.accepted with
        state := state } := by
  have hSubscribe := ledger_subscribe (w := w) s
  cases hResult : onCommon (Common.subscribeFromStreamHub w s.appName s.streamName) s with
  | ok u s1 =>
    rw [hResult] at hSubscribe
    rw [bind_of_ok hResult, ← hSubscribe]
    exact ⟨.play, rfl⟩
  | error e s1 =>
    rw [hResult] at hSubscribe
    rw [bind_of_error hResult, ← hSubscribe]
    exact ⟨s1.state, rfl⟩

theorem ledger_publish (s : ServerSession) :
    (stateOf (onCommon (Common.publishToStreamHub w s.appName s.streamName) s)).ledger =
      s.ledger.tell w (.publish s.ledger.identifier s.common.getPublisherInfo) w.accepted := by
  simp only [onCommon, onPart, Common.publishToStreamHub, bind_get, Ledger.tell]
  cases w.hubListens with
  | false => rfl
  | true =>
    simp only [if_true, Common.send, bind_modify]
    cases w.accepted <;> rfl

theorem ledger_unpublish (s : ServerSession) :
    (stateOf (unpublish w s)).ledger =
      s.ledger.tell w (.unPublish s.ledger.identifier s.common.getPublisherInfo) true := by
  simp only [unpublish, onCommon, onPart, Common.unpublishToStreamHub, bind_get, Ledger.tell]
  cases w.hubListens <;> rfl

theorem effect_connect {transactionId : UInt64} {obj : List (String × Amf0ValueType)}
    (others : List Amf0ValueType) (s : ServerSession) :
    Effect digest w "connect" obj others s.ledger
      (stateOf (onConnect w transactionId obj s)).ledger := by
  simp only [onConnect, parseConnectProperties, bind_assoc, bind_get, bind_set]
  rcases (keeps_writeAll _).cases _ _ with hSame | ⟨u, s1, -, hLedger, hNext⟩
  · rw [hSame]
    exact .properties rfl _
  rw [hNext, ledger_bind fun _ => keeps_write _, takeApp]
  cases hApp : (obj.lookup "app").bind asText with
  | none =>
    refine hLedger ▸ ?_
    exact .properties rfl _
  | some app =>
    have hNamed : (stateOf ((modify fun s => { s with appName := appOf app } : Handler Unit) s1)).ledger =
        { s1.ledger with appName := appOf app } := rfl
    rw [hNamed, hLedger]
    exact .connect rfl _ app hApp

/-- A `deleteStream` that the hub hears gives the present stream back. -/
theorem ledger_delete {transactionId : UInt64} (hListens : w.hubListens = true) (s : ServerSession) :
    ∃ state, (stateOf ((onDeleteStream w transactionId >>= fun _ =>
        modify fun s => { s with state := .deleteStream }) s)).ledger =
      { s.ledger.send (.unPublish s.ledger.identifier s.common.getPublisherInfo) true with
        state := state } := by
  have hUnpublish := ledger_unpublish (w := w) s
  simp only [Ledger.tell, hListens, if_true] at hUnpublish
  rw [onDeleteStream, bind_assoc, ← hUnpublish]
  cases hResult : unpublish w s with
  | error e s1 =>
    rw [bind_of_error hResult]
    exact ⟨s1.state, rfl⟩
  | ok u s1 =>
    rw [bind_of_ok hResult]
    rcases (keeps_write _).cases s1 _ with hSame | ⟨u, s2, -, hLedger, hNext⟩
    · rw [hSame]
      exact ⟨s1.state, rfl⟩
    · have hState : (stateOf ((modify fun s => { s with state := .deleteStream } : Handler Unit)
          s2)).ledger = { s2.ledger with state := .deleteStream } := rfl
      rw [hNext, hState, hLedger]
      exact ⟨.deleteStream, rfl⟩

theorem effect_delete {transactionId : UInt64} (obj : List (String × Amf0ValueType))
    {others : List Amf0ValueType} (hGiven : others ≠ []) (s : ServerSession) :
    Effect digest w "deleteStream" obj others s.ledger
      (stateOf ((onDeleteStream w transactionId >>= fun _ =>
        modify fun s => { s with state := .deleteStream }) s)).ledger := by
  cases hListens : w.hubListens with
  | false =>
    have hError : unpublish w s = .error .error s := by
      simp only [unpublish, onCommon, onPart, Common.unpublishToStreamHub, bind_get, hListens]
      rfl
    rw [onDeleteStream, bind_assoc, bind_of_error hError]
    exact .none
  | true =>
    obtain ⟨state, hState⟩ := @ledger_delete w transactionId hListens s
    rw [hState]
    exact .delete rfl hGiven hListens state

theorem effect_play {transactionId : UInt64} {streamId : UInt32}
    (obj : List (String × Amf0ValueType)) (others : List Amf0ValueType) (s : ServerSession) :
    Effect digest w "play" obj others s.ledger
      (stateOf (onPlay digest w transactionId streamId others s)).ledger := by
  obtain ⟨arguments, hArguments, hName⟩ :=
    Option.map_eq_some_iff.mp (playArguments_streamName others)
  rw [onPlay, hArguments]
  rcases (keeps_orPanic _).cases s _ with hSame | ⟨a, s1, hOk, hLedger, hNext⟩
  · rw [hSame]
    exact .none
  cases hOk
  rw [hNext]
  rcases (keeps_writeAll _).cases s _ with hSame | ⟨u, s2, -, hLedger2, hNext⟩
  · rw [hSame]
    exact .none
  rw [hNext, hName]
  cases hPlayed : playedName others with
  | none =>
    rw [show s.ledger = s2.ledger from hLedger2.symm]
    exact .none
  | some raw =>
    rw [← hLedger2]
    change Effect digest w "play" obj others s2.ledger (stateOf ((do
      setName (RtmpUrlParser.parseStreamNameWithQuery raw)
      authenticate digest true
      let s ← get
      onCommon (Common.subscribeFromStreamHub w s.appName s.streamName)
      modify fun s => { s with state := .play } : Handler Unit) s2)).ledger
    simp only [setName, bind_modify]
    have hNamed : ({ s2 with
        streamName := (RtmpUrlParser.parseStreamNameWithQuery raw).1
        query := (RtmpUrlParser.parseStreamNameWithQuery raw).2 } : ServerSession).ledger =
        s2.ledger.named (RtmpUrlParser.parseStreamNameWithQuery raw) := rfl
    rcases (keeps_authenticate true).cases _ _ with hSame | ⟨u, s3, hOk, hLedger3, hNext⟩
    · rw [hSame, hNamed]
      exact .playName rfl raw hPlayed
    obtain ⟨hSame, hAdmits⟩ := authenticate_ok hOk
    obtain ⟨state, hState⟩ := ledger_subscribe_play (w := w) s3
    rw [hNext, bind_get, hState, hLedger3, hNamed]
    rw [hNamed] at hAdmits
    rw [hSame]
    exact .play rfl raw hPlayed hAdmits state

theorem effect_publish {transactionId : UInt64} {streamId : UInt32}
    (obj : List (String × Amf0ValueType)) (others : List Amf0ValueType) (s : ServerSession) :
    Effect digest w "publish" obj others s.ledger
      (stateOf (onPublish digest w transactionId streamId others s)).ledger := by
  rw [onPublish.eq_def]
  split
  swap
  · exact .none
  rename_i first second rest
  rcases hRaw : asText first with _ | raw
  · exact .none
  dsimp only
  have hName : publisherName s.ledger (first :: second :: rest) =
      some ((publishedName raw s.connectProperties.swfUrl).getD (s.streamName, s.query)) := by
    simp only [publisherName, hRaw]
    rfl
  generalize hNamed : (publishedName raw s.connectProperties.swfUrl).getD (s.streamName, s.query) =
    name at hName
  have hSet : namePublisher raw s =
      .ok () { s with streamName := name.1, query := name.2 } := by
    simp only [namePublisher, bind_get, ← hNamed]
    cases publishedName raw s.connectProperties.swfUrl <;> rfl
  have hLedger : ({ s with streamName := name.1, query := name.2 } : ServerSession).ledger =
      s.ledger.named name := rfl
  rw [bind_of_ok hSet]
  rcases (keeps_authenticate false).cases _ _ with hSame | ⟨u, s1, hOk, hLedger1, hNext⟩
  · rw [hSame, hLedger]
    exact .publishName rfl name hName
  obtain ⟨hSame, hAdmits⟩ := authenticate_ok hOk
  rw [hNext]
  rcases asText second with _ | kind
  · have hThrow : (stateOf ((throw .error : Handler Unit) s1)).ledger = s1.ledger := rfl
    rw [hThrow, hLedger1, hLedger]
    exact .publishName rfl name hName
  dsimp only
  rcases (keeps_writeAll _).cases s1 _ with hKept | ⟨u, s2, -, hLedger2, hNext⟩
  · rw [hKept, hLedger1, hLedger]
    exact .publishName rfl name hName
  have hCommon : s2.common = s.common :=
    congrArg Ledger.common (hLedger2.trans (hLedger1.trans hLedger))
  rw [hNext, bind_get, ledger_publish, hLedger2, hLedger1, hLedger, hCommon]
  rw [hLedger] at hAdmits
  exact .publish rfl name hName hAdmits

/-- Every command has one of the effects, however its handling ends. -/
theorem effect_onAmf0CommandMessage (digest : String → String) (w : Surroundings)
    (streamId : UInt32) (commandName transactionId commandObject : Amf0ValueType)
    (others : List Amf0ValueType) (s : ServerSession) :
    Effect digest w ((asText commandName).getD "") ((asObject commandObject).getD []) others s.ledger
      (stateOf (onAmf0CommandMessage digest w streamId commandName transactionId commandObject others
        s)).ledger := by
  simp only [onAmf0CommandMessage]
  split
  · rename_i hName
    rw [hName]
    exact effect_connect others s
  split
  · rw [onCreateStream, keeps_write]
    exact .none
  split
  · rename_i hName
    rw [hName]
    cases others with
    | nil => exact .none
    | cons first rest => exact effect_delete _ (List.cons_ne_nil _ _) s
  split
  · rename_i hName
    rw [hName]
    exact effect_play _ others s
  split
  · rename_i hName
    rw [hName]
    exact effect_publish _ others s
  · exact .none

/-- What a message says as a command; one that is no command has no name. -/
def commandOf : RtmpMessageData → String × List (String × Amf0ValueType) × List Amf0ValueType
  | .amf0Command commandName _ commandObject others =>
    ((asText commandName).getD "", (asObject commandObject).getD [], others)
  | _ => ("", [], [])

theorem effect_processMessages (digest : String → String) (w : Surroundings) (msgStreamId : UInt32)
    (message : RtmpMessageData) (s : ServerSession) :
    Effect digest w (commandOf message).1 (commandOf message).2.1 (commandOf message).2.2 s.ledger
      (stateOf (processMessages digest w msgStreamId message s)).ledger := by
  have hMedia : Keeps (onMedia w) := by
    rw [onMedia]
    split
    · exact keeps_pure _
    · exact keeps_throw _
  cases message with
  | amf0Command commandName transactionId commandObject others =>
    exact effect_onAmf0CommandMessage digest w msgStreamId commandName transactionId commandObject
      others s
  | audioData data =>
    rw [processMessages, hMedia]
    exact .none
  | videoData data =>
    rw [processMessages, hMedia]
    exact .none
  | amfData rawData =>
    rw [processMessages, hMedia]
    exact .none
  | _ => exact .none

end Xiu.Rtmp.Session
