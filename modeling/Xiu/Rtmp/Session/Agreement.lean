import Xiu.Rtmp.Session.Answering
import Xiu.Rtmp.Session.Asking

/-! A relay and a server agree.  In whatever order they act and hear each other, and whatever fails: each says
what its script has, the stream is the one that the relay is allowed, each hub is asked for it once at most, and
the exchange comes to rest only when both hubs have been asked. -/

namespace Xiu.Rtmp.Session

open Xiu.Common ProofKit StreamHub Flv.Amf0 Messages ClientSession

variable {digest : String → String} {auth : Option Auth} {s : ClientSession}

/-- The relay and the server. -/
def relaying (digest : String → String) (auth : Option Auth) (s : ClientSession) :
    System (Talk Running Served) (TalkMove ClientSession.Move Surroundings Move Surroundings) :=
  exchange (asking s) (answering digest auth)

/-- Both are in their loops, nothing is on its way, and each waits for the other or has its stream. -/
structure Resting (c : Talk Running Served) : Prop where
  leftLoops : c.left.phase = .looping
  rightLoops : c.right.phase = .looping
  leftHeard : c.heardByLeft = c.right.session.io.written.length
  rightHeard : c.heardByRight = c.left.session.io.written.length
  leftWaits : c.left.session.state = .waitStateChange ∨ c.left.session.state = .startPublish
  rightWaits : c.right.session.state ≠ .handshake

/-- What holds at any time. -/
structure Agrees (digest : String → String) (auth : Option Auth) (s : ClientSession) (c : Talk Running Served) :
    Prop where
  asked : c.left.session.io.written <+: asks s
  answered : c.right.session.io.written <+: answers s.clientType
  told : c.left.session.common.sent = [] ∨ c.left.session.common.sent.map (·.event) = [told s] ∧
    (answers s.clientType).take (5 + starts s.clientType) <+: c.right.session.io.written
  opened : c.right.session.common.opened = [] ∨
    c.right.session.common.opened = [wanted s c.right.session.common] ∧ Admitted digest auth s
  pushes : s.clientType = .push → c.left.session.common.sent ≠ [] → Admitted digest auth s
  rests : Resting c → c.left.session.common.sent.map (·.event) = [ClientSession.told s] ∧
    c.right.session.common.opened = [wanted s c.right.session.common]

/-- A relay that waits has asked all that is due, and has told its hub when it has heard that the stream
starts. -/
theorem asks_all {k : Nat} {c : Running} (h : Asks s k c) (hLooping : c.phase = .looping)
    (hWaits : c.session.state = .waitStateChange ∨ c.session.state = .startPublish) :
    c.session.io.written.length = askDue s.clientType k ∧
      (5 + starts s.clientType ≤ k → c.session.common.sent.map (·.event) = [told s]) := by
  have hStarts : 1 ≤ starts s.clientType := by cases s.clientType <;> decide
  have hLength {n : Nat} (hLe : n ≤ 8) : ((asks s).take n).length = n := by
    refine List.length_take_of_le (hLe.trans ?_)
    rw [length_asks]
    cases s.clientType <;> decide
  have hAll (i : Nat) : ((asks s).take (asks s).length).length = askDue s.clientType (5 + i) := by
    have hLate : ¬5 + i ≤ 2 ∧ 5 + i ≠ 3 ∧ 5 + i ≠ 4 := by omega
    rw [List.take_length, length_asks]
    simp only [askDue, if_neg hLate.1, if_neg hLate.2.1, if_neg hLate.2.2]
    rfl
  cases h with
  | @begins state hState =>
    have hWaits' : state = .waitStateChange ∨ state = .startPublish := hWaits
    rcases hState with rfl | rfl <;> rcases hWaits' with hWait | hWait <;> cases hWait
  | connects hLess hAlive =>
    refine ⟨(hLength (by decide)).trans ?_, fun hLate => by omega⟩
    simp only [askDue, if_pos hLess]
  | limited hAlive => exact ⟨hLength (by decide), fun hLate => by omega⟩
  | accepted hAlive => rcases hWaits with hWait | hWait <;> cases hWait
  | creates hAlive => exact ⟨hLength (by decide), fun hLate => by omega⟩
  | created hAlive =>
    have hWaits' : request s.clientType = .waitStateChange ∨ request s.clientType = .startPublish := hWaits
    cases hType : s.clientType <;> rw [hType] at hWaits' <;> rcases hWaits' with hWait | hWait <;> cases hWait
  | @requests i phase hLess hAlive => exact ⟨hAll i, fun hLate => by omega⟩
  | @starts i sent phase hLess hSent hAlive => exact ⟨hAll i, fun _ => hSent⟩
  | gone hBound hSent hDead => exact absurd hLooping hDead.not_looping

/-- A server behind its handshake has answered all that is due, and has asked its hub when it has heard the
request. -/
theorem answers_all {k : Nat} {c : Served} (h : Answers digest auth s k c) (hLooping : c.phase = .looping)
    (hState : c.session.state ≠ .handshake) :
    c.session.io.written.length = answerDue s.clientType k ∧
      (8 ≤ k → c.session.common.opened = [wanted s c.session.common]) := by
  have hLength {n : Nat} {t : ServerSession} (hAnswered : Answered auth s n t) (hLe : n ≤ 7) :
      t.io.written.length = n := by
    rw [hAnswered.written]
    refine List.length_take_of_le (hLe.trans ?_)
    cases s.clientType <;> decide
  cases h with
  | shakes hHandshake hWaiting => exact absurd hHandshake hState
  | greets hLess hReads hWaiting hAlive =>
    refine ⟨(hLength hWaiting.toAnswered (by decide)).trans ?_, fun hLate => by omega⟩
    rw [answerDue, if_pos hLess]
  | connects hFrom hLess hReads hApp hWaiting hAlive =>
    refine ⟨(hLength hWaiting.toAnswered (by decide)).trans ?_, fun hLate => by omega⟩
    rw [answerDue, if_neg (by omega), if_pos hLess]
  | creates hReads hApp hWaiting hAlive =>
    exact ⟨hLength hWaiting.toAnswered (Nat.le_of_ble_eq_true rfl), fun hLate => by omega⟩
  | serves hFrom hServes hAnswered hOpened hAdmitted hAlive =>
    refine ⟨?_, fun _ => hOpened⟩
    rw [hAnswered.written, List.take_length, length_answers]
    simp only [answerDue]
    split_ifs <;> omega
  | gone hAnswered hBound hOpened hStarts hDead => exact absurd hLooping hDead.not_looping

/-- Where each has heard all that is due, the request has been answered. -/
theorem due_meets {clientType : ClientSessionType} {k k' : Nat} (hLeft : k' = askDue clientType k)
    (hRight : k = answerDue clientType k') : 5 + starts clientType ≤ k ∧ 8 ≤ k' := by
  cases clientType <;>
    simp only [askDue, answerDue, starts, reply, playMessages, List.length_cons, List.length_nil] at * <;>
    split_ifs at * <;> omega

/-- A relay and a server agree at any time, in whatever order they act and hear each other, and whatever
fails. -/
theorem relay_agrees (hFresh : s.Fresh) (hShort : s.Short)
    (hNamed : s.clientType = .push → s.rawStreamName ≠ "") {c : Talk Running Served}
    (h : (relaying digest auth s).Reached c) : Agrees digest auth s c := by
  have hAsks := asking_follows hFresh
  have hAnswers : (answering digest auth).Follows _ _ _ _ _ := answering_follows hShort hNamed
  have hTogether := together_of_follows hAsks hAnswers (askDue_mono _) (answerDue_mono _) h
  obtain ⟨state, sent, n, hSession, -, hSent⟩ := hTogether.left.form
  obtain ⟨n', hAnswered, -, hOpened, hStarts⟩ := hTogether.right.form
  have hEvents : c.left.session.common.sent = sent := congrArg (fun t : ClientSession => t.common.sent) hSession
  have hScript := (hAnswers.said _ _ hTogether.right).1
  have hHeard (hLate : 5 + starts s.clientType ≤ c.heardByLeft) :
      (answers s.clientType).take (5 + starts s.clientType) <+: c.right.session.io.written := by
    obtain ⟨rest, hRest⟩ := hScript
    have hLength : 5 + starts s.clientType ≤ ((answering digest auth).said c.right).length :=
      hLate.trans hTogether.leftHeard
    rw [← hRest, List.take_append_of_le_length hLength]
    exact List.take_prefix _ _
  refine ⟨(hAsks.said _ _ hTogether.left).1, hScript, ?_, hOpened, ?_, ?_⟩
  · rw [hEvents]
    exact hSent.imp id fun hSome => ⟨hSome.1, hHeard hSome.2⟩
  · intro hPush hTold
    rw [hEvents] at hTold
    obtain ⟨-, hLate⟩ := hSent.resolve_left hTold
    refine hStarts hPush ?_
    have hLength : c.heardByLeft ≤ c.right.session.io.written.length := hTogether.leftHeard
    rw [hAnswered.written, hPush] at hLength
    rw [hPush] at hLate
    have hSeven : 7 ≤ c.heardByLeft := hLate
    have hTake := List.length_take_le n' (answers .push)
    omega
  · intro hRests
    obtain ⟨hLeft, hTold⟩ := asks_all hTogether.left hRests.leftLoops hRests.leftWaits
    obtain ⟨hRight, hWanted⟩ := answers_all hTogether.right hRests.rightLoops hRests.rightWaits
    obtain ⟨hLate, hLate'⟩ := due_meets (hRests.rightHeard.trans hLeft) (hRests.leftHeard.trans hRight)
    exact ⟨hTold hLate, hWanted hLate'⟩

/-- A relay that pulls a stream has asked to connect. -/
theorem relay_connects :
    let s := ClientSession.new (Uuid.new .four 1700000000 fun _ => 0) none .pull "192.0.2.1:1935" "live" "cam"
    ∃ c : Talk Running Served, c.left.session.io.written.length = 2 ∧ Agrees id none s c := by
  intro s
  let w : Surroundings := ⟨true, true, fun _ => true, none⟩
  let start : Talk Running Served :=
    ⟨⟨s, .looping⟩, ⟨.new (Uuid.new .four 1700000000 fun _ => 0) none none, .looping⟩, 0, 0⟩
  have hShort : s.Short := by decide
  obtain ⟨c1, h1, c2, h2, hLength⟩ : ∃ c1 ∈ start.left.acts (.handshake true), ∃ c2 ∈ c1.acts (.turn w true),
      c2.session.io.written.length = 2 := by
    decide +kernel
  have hReached : (relaying id none s).Reached { start with left := c2 } :=
    ⟨start, [.leftActs (.handshake true), .leftActs (.turn w true)], ⟨rfl, ⟨_, _, rfl⟩, rfl, rfl⟩,
      .cons ⟨c1, h1, rfl⟩ (.cons ⟨c2, h2, rfl⟩ (.nil _))⟩
  exact ⟨_, hLength, relay_agrees (fresh_new _ _ _ _ _ _) hShort (by rintro ⟨⟩) hReached⟩

end Xiu.Rtmp.Session
