import Xiu.ProofKit.System
import Xiu.Rtsp.Relay

/-! The registry of the manager that pulls streams over RTSP.  It has an entry for each session that
runs and has not been told to stop, as long as no session ends before it is told to. -/

namespace Xiu.Rtsp.Relay.RtspPullClientManager

open ProofKit StreamHub

/-- An event of which a result is asked; the `run` of a session ends. -/
inductive Move where
  | event (event : BroadcastEvent) (connected : Except String Unit)
  | ends (session : Nat)

def step (self : RtspPullClientManager) : Move → Option RtspPullClientManager
  | .event event connected =>
    match handle ⟨⟨event, true⟩, connected⟩ self with
    | .ok _ self' => some self'
    | .error _ _ => none
  | .ends session =>
    match self.pulls[session]? with
    | none => none
    | some pull =>
      if pull.ended then none
      else some { self with pulls := self.pulls.set session { pull with ended := true } }

/-- The manager with its sessions. -/
def system : System RtspPullClientManager Move where
  init self := self = new
  step self move self' := self.step move = some self'

/-- A session for the identifier runs and has not been told to stop. -/
def Live (self : RtspPullClientManager) (id : String) : Prop :=
  ∃ pull ∈ self.pulls, pull.id = id ∧ pull.isRunning = true ∧ pull.ended = false

/-- The registry has exactly the identifiers of the live sessions. -/
def Mirrors (self : RtspPullClientManager) : Prop :=
  ∀ id, (self.clients.lookup id).isSome ↔ self.Live id

/-- An identifier without a live session can be started, and its stop is refused. -/
def Answers (self : RtspPullClientManager) : Prop :=
  ∀ id, ¬self.Live id →
    (∀ streamPath serverAddress, (stateOf (handle
        ⟨⟨.subscribe id (.rtsp streamPath) (some serverAddress), true⟩, .ok ()⟩ self)).replies =
      self.replies ++ [.ok ()]) ∧
    ∀ connected, (stateOf (handle ⟨⟨.unSubscribe id, true⟩, connected⟩ self)).replies =
      self.replies ++ [.error (.rtspClientSessionError "the client session not exists")]

/-- A session ends only when it has been told to stop. -/
def Told (self : RtspPullClientManager) : Move → Prop
  | .ends session => ∀ pull, self.pulls[session]? = some pull → pull.isRunning = false
  | .event _ _ => True

/-- An entry is that of a live session, and a session that has not been told to stop has its entry. -/
structure Registered (manager : RtspPullClientManager) : Prop where
  entered : ∀ id i, manager.clients.lookup id = some i → manager.pulls[i]? = some ⟨id, true, false⟩
  running : ∀ i pull, manager.pulls[i]? = some pull → pull.isRunning = true →
    manager.clients.lookup pull.id = some i

variable {self self' : RtspPullClientManager}

theorem Registered.mirrors (h : self.Registered) : self.Mirrors := by
  intro id
  constructor
  · intro hEntry
    obtain ⟨i, hLookup⟩ := Option.isSome_iff_exists.mp hEntry
    exact ⟨_, List.mem_of_getElem? (h.entered id i hLookup), rfl, rfl, rfl⟩
  · rintro ⟨pull, hMem, rfl, hRunning, -⟩
    obtain ⟨i, hPull⟩ := List.mem_iff_getElem?.mp hMem
    rw [h.running i pull hPull hRunning]
    rfl

theorem Mirrors.answers (h : self.Mirrors) : self.Answers := by
  intro id hNone
  have hAbsent : self.clients.lookup id = none :=
    Option.not_isSome_iff_eq_none.mp fun hEntry => hNone ((h id).mp hEntry)
  constructor
  · intro streamPath serverAddress
    have hStart : onSubscribe (.ok ()) id (.rtsp streamPath) (some serverAddress) self =
        (do startPull id; reply (.ok ()) : EStateM Left RtspPullClientManager Unit) self := by
      simp only [onSubscribe, bind_get, hAbsent]
      rfl
    exact congrArg (fun r => (stateOf r).replies) hStart
  · intro connected
    have hRefuse : onUnSubscribe id self = replyError "the client session not exists" self := by
      simp only [onUnSubscribe, bind_get, hAbsent]
    exact congrArg (fun r => (stateOf r).replies) hRefuse

/-! ### Steps -/

theorem Registered.start {id : String} (h : self.Registered) (hAbsent : self.clients.lookup id = none)
    (hClients : self'.clients = self.clients.insert id self.pulls.length)
    (hPulls : self'.pulls = self.pulls ++ [⟨id, true, false⟩]) : self'.Registered := by
  constructor
  · intro id' i hLookup
    rw [hClients] at hLookup
    rw [hPulls]
    by_cases hSame : id' = id
    · subst hSame
      rw [AList.lookup_insert] at hLookup
      cases hLookup
      exact List.getElem?_concat_length
    · rw [AList.lookup_insert_ne hSame] at hLookup
      have hOld := h.entered id' i hLookup
      exact (List.getElem?_append_left (List.getElem?_eq_some_iff.mp hOld).1).trans hOld
  · intro i pull hPull hRunning
    rw [hPulls] at hPull
    rw [hClients]
    by_cases hLt : i < self.pulls.length
    · rw [List.getElem?_append_left hLt] at hPull
      have hOld := h.running i pull hPull hRunning
      have hOther : pull.id ≠ id := by
        rintro rfl
        rw [hAbsent] at hOld
        cases hOld
      exact (AList.lookup_insert_ne hOther).trans hOld
    · have hLength := (List.getElem?_eq_some_iff.mp hPull).1
      rw [List.length_append, List.length_singleton] at hLength
      obtain rfl : i = self.pulls.length := by omega
      rw [List.getElem?_concat_length] at hPull
      cases hPull
      exact AList.lookup_insert self.clients

theorem Registered.stop {id : String} {session : Nat} (h : self.Registered)
    (hEntry : self.clients.lookup id = some session)
    (hClients : self'.clients = self.clients.erase id)
    (hPulls : self'.pulls = self.pulls.modify session fun pull => { pull with isRunning := false }) :
    self'.Registered := by
  have hSession := h.entered id session hEntry
  constructor
  · intro id' i hLookup
    rw [hClients] at hLookup
    by_cases hSame : id' = id
    · subst hSame
      rw [AList.lookup_erase] at hLookup
      cases hLookup
    · rw [AList.lookup_erase_ne hSame] at hLookup
      have hOld := h.entered id' i hLookup
      have hOther : session ≠ i := by
        rintro rfl
        rw [hSession] at hOld
        cases hOld
        exact hSame rfl
      rw [hPulls, List.getElem?_modify, hOld, Option.map_eq_map, Option.map_some, if_neg hOther]
  · intro i pull hPull hRunning
    rw [hPulls, List.getElem?_modify] at hPull
    rw [hClients]
    by_cases hSame : session = i
    · subst hSame
      rw [hSession] at hPull
      simp only [if_true] at hPull
      cases hPull
      cases hRunning
    · simp only [if_neg hSame, id_map'] at hPull
      have hOld := h.running i pull hPull hRunning
      have hOther : pull.id ≠ id := by
        rintro rfl
        rw [hEntry] at hOld
        exact hSame (Option.some.inj hOld)
      exact (AList.lookup_erase_ne hOther).trans hOld

theorem Registered.ends {session : Nat} {pull : Pull} (h : self.Registered)
    (hPull : self.pulls[session]? = some pull) (hTold : pull.isRunning = false) :
    ({ self with pulls := self.pulls.set session { pull with ended := true } } :
      RtspPullClientManager).Registered := by
  constructor
  · intro id i hLookup
    have hOld := h.entered id i hLookup
    have hOther : session ≠ i := by
      rintro rfl
      rw [hPull] at hOld
      cases hOld
      cases hTold
    exact (List.getElem?_set_ne hOther).trans hOld
  · intro i pull' hPull' hRunning
    by_cases hSame : session = i
    · subst hSame
      rw [List.getElem?_set_self (List.getElem?_eq_some_iff.mp hPull).1] at hPull'
      cases hPull'
      exact absurd hRunning (by simp [hTold])
    · exact h.running i pull' ((List.getElem?_set_ne hSame).symm.trans hPull') hRunning

/-- A change that is none to the registry and the sessions. -/
theorem Registered.same (h : self.Registered) (hClients : self'.clients = self.clients)
    (hPulls : self'.pulls = self.pulls) : self'.Registered := by
  constructor
  · rw [hClients, hPulls]
    exact h.entered
  · rw [hClients, hPulls]
    exact h.running

theorem Registered.onSubscribe {connected : Except String Unit} {id : String}
    {identifier : StreamIdentifier} {serverAddress : Option String} (h : self.Registered)
    (hStep : onSubscribe connected id identifier serverAddress self = .ok () self') :
    self'.Registered := by
  simp only [RtspPullClientManager.onSubscribe, bind_get] at hStep
  split at hStep
  · split at hStep
    · cases hStep
      exact h.same rfl rfl
    · rename_i hAbsent
      cases connected with
      | error text =>
        cases hStep
        exact h.same rfl rfl
      | ok u =>
        cases hStep
        exact h.start (Option.not_isSome_iff_eq_none.mp hAbsent) rfl rfl
  · cases hStep
    exact h.same rfl rfl
  · cases hStep
    exact h

theorem Registered.onUnSubscribe {id : String} (h : self.Registered)
    (hStep : onUnSubscribe id self = .ok () self') : self'.Registered := by
  simp only [RtspPullClientManager.onUnSubscribe, bind_get] at hStep
  cases hEntry : self.clients.lookup id with
  | some session =>
    rw [hEntry] at hStep
    cases hStep
    exact h.stop hEntry rfl rfl
  | none =>
    rw [hEntry] at hStep
    cases hStep
    exact h.same rfl rfl

theorem Registered.step {move : Move} (h : self.Registered) (hTold : self.Told move)
    (hStep : self.step move = some self') : self'.Registered := by
  cases move with
  | event event connected =>
    simp only [RtspPullClientManager.step] at hStep
    split at hStep
    · rename_i u self1 hHandled
      cases hStep
      cases event with
      | publish identifier =>
        cases hHandled
        exact h
      | subscribe id identifier serverAddress => exact h.onSubscribe hHandled
      | unSubscribe id => exact h.onUnSubscribe hHandled
    · cases hStep
  | ends session =>
    simp only [RtspPullClientManager.step] at hStep
    split at hStep
    · cases hStep
    · rename_i pull hPull
      split at hStep
      · cases hStep
      · cases hStep
        exact h.ends hPull (hTold pull hPull)

/-- In every run in which sessions end only when they have been told to stop, the registry has exactly
the live sessions; one that is not live can be started, and its stop is refused. -/
theorem registry_mirrors {self : RtspPullClientManager} (h : (system.guard Told).Reached self) :
    self.Mirrors ∧ self.Answers := by
  have hRegistered : self.Registered := by
    refine System.Reached.invariant ?_ ?_ h
    · rintro self rfl
      exact ⟨fun id i hLookup => by simp [new] at hLookup, fun i pull hPull => by simp [new] at hPull⟩
    · rintro self move self' hSelf ⟨hTold, hStep⟩
      exact hSelf.step hTold hStep
  exact ⟨hRegistered.mirrors, hRegistered.mirrors.answers⟩

/-- A pull is started, stopped, and ends. -/
theorem stopped_pull_mirrored : ∃ self : RtspPullClientManager,
    self.pulls = [⟨"1", false, true⟩] ∧ self.Mirrors ∧ self.Answers := by
  let start : Move := .event (.subscribe "1" (.rtsp "live/cam") (some "10.0.0.2:554")) (.ok ())
  let stop : Move := .event (.unSubscribe "1") (.ok ())
  obtain ⟨c1, h1, c2, h2, hPulls2, c3, h3, hPulls⟩ : ∃ c1 ∈ new.step start, ∃ c2 ∈ c1.step stop,
      c2.pulls = [⟨"1", false, false⟩] ∧
      ∃ c3 ∈ c2.step (.ends 0), c3.pulls = [⟨"1", false, true⟩] := by
    decide +kernel
  have hTold : Told c2 (.ends 0) := by
    intro pull hPull
    rw [hPulls2] at hPull
    cases hPull
    rfl
  have hReached : (system.guard Told).Reached c3 :=
    ⟨new, [start, stop, .ends 0], rfl,
      .cons ⟨trivial, h1⟩ (.cons ⟨trivial, h2⟩ (.cons ⟨hTold, h3⟩ (.nil _)))⟩
  exact ⟨c3, hPulls, registry_mirrors hReached⟩

/-- A pull whose session ends by itself keeps its entry. -/
theorem dead_pull_kept : ¬∀ self : RtspPullClientManager, system.Reached self →
    self.Mirrors ∧ self.Answers := by
  intro h
  let start : Move := .event (.subscribe "1" (.rtsp "live/cam") (some "10.0.0.2:554")) (.ok ())
  obtain ⟨c1, h1, c2, h2, hEntry, hPulls⟩ : ∃ c1 ∈ new.step start, ∃ c2 ∈ c1.step (.ends 0),
      (c2.clients.lookup "1").isSome ∧ c2.pulls = [⟨"1", true, true⟩] := by
    decide +kernel
  have hReached : system.Reached c2 :=
    ⟨new, [start, .ends 0], rfl, .cons h1 (.cons h2 (.nil _))⟩
  obtain ⟨pull, hMem, -, -, hAlive⟩ := ((h c2 hReached).1 "1").mp hEntry
  rw [hPulls] at hMem
  obtain rfl := List.mem_singleton.mp hMem
  cases hAlive

end Xiu.Rtsp.Relay.RtspPullClientManager
