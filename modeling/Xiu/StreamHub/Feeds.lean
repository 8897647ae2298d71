import Xiu.StreamHub.Transceiver
import Xiu.ProofKit.System

/-! What the subscribers of a stream receive: `receive_frame_data` and `receive_packet_data` hand each
frame and packet to all registered senders, and every subscriber gets all that is handed out while it
is subscribed, as long as no two of them have drawn the same identifier. -/

namespace Xiu.StreamHub

open ProofKit StreamDataTransceiver

/-- What subscribers receive. -/
inductive Data where
  | frame (data : FrameData)
  | packet (data : PacketData)
  deriving DecidableEq

/-- A channel after `send`. -/
def send (received : Channel → List Data) (sender : Channel) (data : Data) : Channel → List Data :=
  fun c => if c = sender then received c ++ [data] else received c

/-- The loop that hands data to every sender of a map. -/
def sendAll (senders : List (Sigma fun _ : Uuid => Channel)) (received : Channel → List Data)
    (data : Data) : Channel → List Data :=
  senders.foldl (fun received entry => send received entry.2 data) received

/-- `receive_frame_data`: metadata are not handed on. -/
def receiveFrameData (t : StreamDataTransceiver) (received : Channel → List Data) :
    FrameData → Channel → List Data
  | .metaData _ _ => received
  | data => sendAll t.idToFrameSender.entries received (.frame data)

def receivePacketData (t : StreamDataTransceiver) (received : Channel → List Data)
    (data : PacketData) : Channel → List Data :=
  sendAll t.idToPacketSender.entries received (.packet data)

/-- The kind of data that the sessions of the protocols ask for, by the type of their subscription. -/
def SubscribeType.dataType : SubscribeType → SubDataType
  | .rtpPull | .whepPull => .packet
  | _ => .frame

/-- A session that has subscribed: its information and the channel it reads; whether it is still
subscribed, and what has been handed out meanwhile. -/
structure Listener where
  info : SubscriberInfo
  channel : Channel
  live : Bool
  due : List Data

structure Feed where
  transceiver : StreamDataTransceiver
  /-- The loop that takes events is going round. -/
  looping : Bool
  channels : Nat
  received : Channel → List Data
  listeners : List Listener

/-- A session draws an identifier and subscribes; a session unsubscribes, once or again; a frame or a
packet comes from the publisher. -/
inductive FeedMove where
  | subscribe (count : RandomDigitCount) (seconds : Nat) (drawn : Nat → Fin 10)
      (subType : SubscribeType) (prior : Except StreamHubErrorValue Unit)
  | unSubscribe (listener : Nat)
  | frame (data : FrameData)
  | packet (data : PacketData)

namespace Feed

def new : Feed := ⟨.new, true, 0, fun _ => [], []⟩

/-- The listeners after data for a kind of subscription have been handed out. -/
def owe (listeners : List Listener) (kind : SubDataType) (data : Data) : List Listener :=
  listeners.map fun l =>
    if l.live ∧ l.info.subDataType = kind then { l with due := l.due ++ [data] } else l

def senderOf (channel : Channel) : SubDataType → DataSender
  | .frame => .frame channel
  | .packet => .packet channel

def step (feed : Feed) : FeedMove → Option Feed
  | .subscribe count seconds drawn subType prior =>
    if feed.looping then
      let info : SubscriberInfo := ⟨Uuid.new count seconds drawn, subType, subType.dataType⟩
      let sender := senderOf feed.channels info.subDataType
      match feed.transceiver.receiveEvent prior (.subscribe sender info) with
      | .next t =>
        some { feed with
          transceiver := t
          channels := feed.channels + 1
          listeners := feed.listeners ++ [⟨info, feed.channels, true, []⟩] }
      | .leave t | .panic t =>
        some { feed with transceiver := t, looping := false, channels := feed.channels + 1 }
    else none
  | .unSubscribe n =>
    match feed.looping, feed.listeners[n]? with
    | true, some l =>
      let listeners := feed.listeners.set n { l with live := false }
      match feed.transceiver.receiveEvent (.ok ()) (.unSubscribe l.info) with
      | .next t => some { feed with transceiver := t, listeners }
      | .leave t | .panic t => some { feed with transceiver := t, looping := false, listeners }
    | _, _ => none
  | .frame data =>
    some { feed with
      received := receiveFrameData feed.transceiver feed.received data
      listeners := match data with
        | .metaData _ _ => feed.listeners
        | data => owe feed.listeners .frame (.frame data) }
  | .packet data =>
    some { feed with
      received := receivePacketData feed.transceiver feed.received data
      listeners := owe feed.listeners .packet (.packet data) }

end Feed

/-- A stream with the sessions that subscribe to it, until it is unpublished. -/
def feedSystem : System Feed FeedMove where
  init feed := feed = .new
  step feed move feed' := feed.step move = some feed'

/-- A session that subscribes has drawn an identifier that no live listener of its kind of data has,
and a session that unsubscribes has one that no other live listener of its kind has. -/
def OwnId (feed : Feed) : FeedMove → Prop
  | .subscribe count seconds drawn subType prior =>
    prior = .ok () → ∀ l ∈ feed.listeners, l.live → l.info.subDataType = subType.dataType →
      l.info.id ≠ Uuid.new count seconds drawn
  | .unSubscribe n =>
    ∀ l, feed.listeners[n]? = some l → ∀ (m : Nat) (l' : Listener), m ≠ n →
      feed.listeners[m]? = some l' → l'.live →
      l'.info.subDataType = l.info.subDataType → l'.info.id ≠ l.info.id
  | _ => True

/-- The map of the senders for a kind of data. -/
def senders (t : StreamDataTransceiver) : SubDataType → Table Uuid Channel
  | .frame => t.idToFrameSender
  | .packet => t.idToPacketSender

/-- A live listener's own sender is registered, and its channel has received what has been handed out
since it subscribed. -/
structure Fed (feed : Feed) (l : Listener) : Prop where
  registered : (senders feed.transceiver l.info.subDataType).lookup l.info.id = some l.channel
  received : feed.received l.channel = l.due

/-! ### Handing out -/

theorem sendAll_of_not_mem {entries : List (Sigma fun _ : Uuid => Channel)} {c : Channel}
    (h : ∀ e ∈ entries, e.2 ≠ c) (received : Channel → List Data) (data : Data) :
    sendAll entries received data c = received c := by
  induction entries generalizing received with
  | nil => rfl
  | cons e entries ih =>
    have hFirst : c ≠ e.2 := (h e List.mem_cons_self).symm
    calc sendAll (e :: entries) received data c
        = send received e.2 data c := ih (fun e' he => h e' (List.mem_cons_of_mem e he)) _
      _ = received c := if_neg hFirst

/-- A channel that one entry of a map names receives the data once. -/
theorem sendAll_of_mem {entries : List (Sigma fun _ : Uuid => Channel)} {id : Uuid} {c : Channel}
    (hNodup : entries.NodupKeys) (hMem : ⟨id, c⟩ ∈ entries)
    (hOnly : ∀ e ∈ entries, e.2 = c → e.1 = id) (received : Channel → List Data) (data : Data) :
    sendAll entries received data c = received c ++ [data] := by
  induction entries generalizing received with
  | nil => cases hMem
  | cons e entries ih =>
    obtain ⟨hNew, hRest⟩ := List.nodupKeys_cons.mp hNodup
    rcases List.mem_cons.mp hMem with rfl | hMem
    · have hNone : ∀ e ∈ entries, e.2 ≠ c := by
        intro e he hc
        have hKey := List.mem_keys_of_mem he
        rw [hOnly e (List.mem_cons_of_mem _ he) hc] at hKey
        exact hNew hKey
      calc sendAll (⟨id, c⟩ :: entries) received data c
          = send received c data c := sendAll_of_not_mem hNone _ data
        _ = received c ++ [data] := if_pos rfl
    · have hFirst : c ≠ e.2 := fun hc =>
        hNew (hOnly e List.mem_cons_self hc.symm ▸ List.mem_keys_of_mem hMem)
      calc sendAll (e :: entries) received data c
          = send received e.2 data c ++ [data] :=
            ih hRest hMem (fun e' he => hOnly e' (List.mem_cons_of_mem e he)) _
        _ = received c ++ [data] := by rw [send, if_neg hFirst]

theorem mem_entries {m : Table Uuid Channel} {id : Uuid} {c : Channel} :
    ⟨id, c⟩ ∈ m.entries ↔ m.lookup id = some c :=
  (AList.mem_lookup_iff (s := m)).symm

/-! ### The maps -/

@[simp] theorem senders_insertSender (t : StreamDataTransceiver) (id : Uuid) (channel : Channel)
    (kind kind' : SubDataType) (count : Nat) :
    senders { t.insertSender id (Feed.senderOf channel kind) with subscriberCount := count } kind' =
      if kind' = kind then (senders t kind).insert id channel else senders t kind' := by
  cases kind <;> cases kind' <;> rfl

@[simp] theorem senders_removeSender (t : StreamDataTransceiver) {info : SubscriberInfo}
    (h : info.subDataType = info.subType.dataType) (kind : SubDataType) :
    senders (t.removeSender info) kind =
      if kind = info.subDataType then (senders t kind).erase info.id else senders t kind := by
  rw [h]
  cases hType : info.subType <;> cases kind <;>
    simp [senders, removeSender, SubscribeType.dataType, hType]

/-! ### The invariant -/

/-- Channels belong to one entry of one map, new channels are empty, and live listeners are fed. -/
structure Feeding (feed : Feed) : Prop where
  bound : ∀ kind id c, (senders feed.transceiver kind).lookup id = some c → c < feed.channels
  own : ∀ kind kind' id id' c, (senders feed.transceiver kind).lookup id = some c →
    (senders feed.transceiver kind').lookup id' = some c → kind = kind' ∧ id = id'
  fresh : ∀ c, feed.channels ≤ c → feed.received c = []
  kind : ∀ l ∈ feed.listeners, l.info.subDataType = l.info.subType.dataType
  fed : ∀ (n : Nat) (l : Listener), feed.listeners[n]? = some l → l.live → Fed feed l

/-- What an entry of the maps is after a subscription. -/
theorem lookup_insertSender {t : StreamDataTransceiver} {id id' : Uuid} {channel c : Channel}
    {kind kind' : SubDataType} {count : Nat}
    (h : (senders { t.insertSender id (Feed.senderOf channel kind) with subscriberCount := count }
      kind').lookup id' = some c) :
    (kind' = kind ∧ id' = id ∧ c = channel) ∨ (senders t kind').lookup id' = some c := by
  rw [senders_insertSender] at h
  by_cases hKind : kind' = kind
  · subst hKind
    rw [if_pos rfl] at h
    by_cases hId : id' = id
    · subst hId
      rw [AList.lookup_insert] at h
      exact .inl ⟨rfl, rfl, (Option.some.inj h).symm⟩
    · rw [AList.lookup_insert_ne hId] at h
      exact .inr h
  · rw [if_neg hKind] at h
    exact .inr h

theorem lookup_removeSender {t : StreamDataTransceiver} {info : SubscriberInfo} {id : Uuid}
    {c : Channel} {kind : SubDataType} (hInfo : info.subDataType = info.subType.dataType)
    (h : (senders (t.removeSender info) kind).lookup id = some c) :
    (senders t kind).lookup id = some c := by
  rw [senders_removeSender t hInfo] at h
  by_cases hKind : kind = info.subDataType
  · rw [if_pos hKind] at h
    by_cases hId : id = info.id
    · subst hId
      rw [AList.lookup_erase] at h
      cases h
    · rwa [AList.lookup_erase_ne hId] at h
  · rwa [if_neg hKind] at h

theorem lookup_insertSender_ne {t : StreamDataTransceiver} {id id' : Uuid} {channel : Channel}
    {kind kind' : SubDataType} {count : Nat} (h : kind' = kind → id' ≠ id) :
    (senders { t.insertSender id (Feed.senderOf channel kind) with subscriberCount := count }
      kind').lookup id' = (senders t kind').lookup id' := by
  rw [senders_insertSender]
  by_cases hKind : kind' = kind
  · rw [if_pos hKind, ← hKind, AList.lookup_insert_ne (h hKind)]
  · rw [if_neg hKind]

theorem lookup_removeSender_ne {t : StreamDataTransceiver} {info : SubscriberInfo} {id : Uuid}
    {kind : SubDataType} (hInfo : info.subDataType = info.subType.dataType)
    (h : kind = info.subDataType → id ≠ info.id) :
    (senders (t.removeSender info) kind).lookup id = (senders t kind).lookup id := by
  rw [senders_removeSender t hInfo]
  by_cases hKind : kind = info.subDataType
  · rw [if_pos hKind, AList.lookup_erase_ne (h hKind)]
  · rw [if_neg hKind]

/-- A subscription with an identifier of its own leaves everybody fed. -/
theorem Feeding.subscribe {feed : Feed} (h : Feeding feed) {id : Uuid} {subType : SubscribeType}
    (hOwn : ∀ l ∈ feed.listeners, l.live → l.info.subDataType = subType.dataType → l.info.id ≠ id)
    (count : Nat) (looping : Bool) :
    Feeding { feed with
      transceiver := { feed.transceiver.insertSender id
        (Feed.senderOf feed.channels subType.dataType) with subscriberCount := count }
      looping := looping
      channels := feed.channels + 1
      listeners := feed.listeners ++
        [⟨⟨id, subType, subType.dataType⟩, feed.channels, true, []⟩] } := by
  refine ⟨fun kind id' c hLookup => ?_, fun kind kind' i i' c hA hB => ?_, fun c hc => ?_,
    fun l hMem => ?_, fun n l hGet hLive => ?_⟩
  · rcases lookup_insertSender hLookup with ⟨-, -, rfl⟩ | hOld
    · exact Nat.lt_succ_self _
    · exact Nat.lt_succ_of_lt (h.bound kind id' c hOld)
  · rcases lookup_insertSender hA with ⟨rfl, rfl, rfl⟩ | hOldA <;>
      rcases lookup_insertSender hB with ⟨rfl, rfl, hc⟩ | hOldB
    · exact ⟨rfl, rfl⟩
    · exact absurd (h.bound _ _ _ hOldB) (Nat.lt_irrefl _)
    · subst hc
      exact absurd (h.bound _ _ _ hOldA) (Nat.lt_irrefl _)
    · exact h.own kind kind' i i' c hOldA hOldB
  · exact h.fresh c (Nat.le_of_succ_le hc)
  · rcases List.mem_append.mp hMem with hMem | hMem
    · exact h.kind l hMem
    · rw [List.mem_singleton.mp hMem]
  · rcases Nat.lt_or_ge n feed.listeners.length with hn | hn
    · rw [List.getElem?_append_left hn] at hGet
      have hFed := h.fed n l hGet hLive
      refine ⟨?_, hFed.received⟩
      rw [lookup_insertSender_ne (hOwn l (List.mem_of_getElem? hGet) hLive)]
      exact hFed.registered
    · rw [List.getElem?_append_right hn, List.getElem?_singleton] at hGet
      split at hGet
      · cases hGet
        refine ⟨?_, h.fresh feed.channels (Nat.le_refl _)⟩
        rw [senders_insertSender, if_pos rfl]
        exact AList.lookup_insert _
      · cases hGet

/-- An unsubscription by a session that shares its identifier with no live listener leaves the others
fed. -/
theorem Feeding.unSubscribe {feed : Feed} (h : Feeding feed) {n : Nat} {l : Listener}
    (hGet : feed.listeners[n]? = some l)
    (hOwn : ∀ (m : Nat) (l' : Listener), m ≠ n → feed.listeners[m]? = some l' → l'.live →
      l'.info.subDataType = l.info.subDataType → l'.info.id ≠ l.info.id)
    (count : Nat) (looping : Bool) :
    Feeding { feed with
      transceiver := { feed.transceiver.removeSender l.info with subscriberCount := count }
      looping := looping
      listeners := feed.listeners.set n { l with live := false } } := by
  have hInfo := h.kind l (List.mem_of_getElem? hGet)
  refine ⟨fun kind id c hLookup => h.bound kind id c (lookup_removeSender hInfo hLookup),
    fun kind kind' i i' c hA hB => h.own kind kind' i i' c (lookup_removeSender hInfo hA)
      (lookup_removeSender hInfo hB), h.fresh, fun l' hMem => ?_, fun m l' hGet' hLive => ?_⟩
  · rcases List.mem_or_eq_of_mem_set hMem with hMem | rfl
    · exact h.kind l' hMem
    · exact hInfo
  · by_cases hm : n = m
    · subst hm
      rw [List.getElem?_set_self (List.getElem?_eq_some_iff.mp hGet).1] at hGet'
      cases hGet'
      cases hLive
    · rw [List.getElem?_set_ne hm] at hGet'
      have hFed := h.fed m l' hGet' hLive
      exact ⟨(lookup_removeSender_ne hInfo (hOwn m l' (fun hEq => hm hEq.symm) hGet' hLive)).trans
        hFed.registered, hFed.received⟩

/-- What is handed to the senders of one map reaches its live listeners once, and nobody else. -/
theorem Feeding.hand {feed : Feed} (h : Feeding feed) (kind : SubDataType) (data : Data) :
    Feeding { feed with
      received := sendAll (senders feed.transceiver kind).entries feed.received data
      listeners := Feed.owe feed.listeners kind data } := by
  refine ⟨h.bound, h.own, fun c hc => ?_, fun l hMem => ?_, fun n l hGet hLive => ?_⟩
  · have hNone : ∀ e ∈ (senders feed.transceiver kind).entries, e.2 ≠ c := by
      rintro ⟨id, c'⟩ he rfl
      exact absurd (h.bound kind id c' (mem_entries.mp he)) (Nat.not_lt.mpr hc)
    exact (sendAll_of_not_mem hNone _ _).trans (h.fresh c hc)
  · obtain ⟨l0, hMem0, rfl⟩ := List.mem_map.mp hMem
    split
    · exact h.kind l0 hMem0
    · exact h.kind l0 hMem0
  · rw [Feed.owe, List.getElem?_map] at hGet
    obtain ⟨l0, hGet0, rfl⟩ := Option.map_eq_some_iff.mp hGet
    by_cases hDue : l0.live = true ∧ l0.info.subDataType = kind
    · simp only [if_pos hDue] at hLive ⊢
      have hFed := h.fed n l0 hGet0 hLive
      have hRegistered := hFed.registered
      refine ⟨hRegistered, ?_⟩
      rw [hDue.2] at hRegistered
      refine (sendAll_of_mem (AList.nodupKeys _) (mem_entries.mpr hRegistered) ?_ _ _).trans ?_
      · rintro ⟨id, c⟩ he rfl
        exact (h.own kind kind _ _ _ (mem_entries.mp he) hRegistered).2
      · rw [hFed.received]
    · simp only [if_neg hDue] at hLive ⊢
      have hFed := h.fed n l0 hGet0 hLive
      refine ⟨hFed.registered, ?_⟩
      refine (sendAll_of_not_mem ?_ _ _).trans hFed.received
      rintro ⟨id, c⟩ he rfl
      exact hDue ⟨hLive, (h.own _ _ _ _ _ (mem_entries.mp he) hFed.registered).1.symm⟩

theorem Feeding.step {feed feed' : Feed} {move : FeedMove} (h : Feeding feed)
    (hStep : (feedSystem.guard OwnId).step feed move feed') : Feeding feed' := by
  obtain ⟨hOwn, hStep⟩ := hStep
  cases move with
  | subscribe count seconds drawn subType prior =>
    simp only [feedSystem, Feed.step] at hStep
    split at hStep
    · cases prior with
      | ok u =>
        simp only [receiveEvent] at hStep
        cases hStep
        exact h.subscribe (hOwn rfl) _ _
      | error e =>
        simp only [receiveEvent] at hStep
        cases hStep
        exact ⟨fun kind id c hLookup => Nat.lt_succ_of_lt (h.bound kind id c hLookup), h.own,
          fun c hc => h.fresh c (Nat.le_of_succ_le hc), h.kind,
          fun n l hGet hLive => ⟨(h.fed n l hGet hLive).registered, (h.fed n l hGet hLive).received⟩⟩
    · cases hStep
  | unSubscribe n =>
    simp only [feedSystem, Feed.step] at hStep
    split at hStep
    · rename_i l hLooping hGet
      simp only [receiveEvent] at hStep
      split at hStep
      · rename_i t hTurn
        split at hTurn
        · cases hTurn
        · cases hTurn
          cases hStep
          exact h.unSubscribe hGet (hOwn l hGet) _ _
      · rename_i t hTurn
        split at hTurn <;> cases hTurn
      · rename_i t hTurn
        split at hTurn
        · cases hTurn
          cases hStep
          exact h.unSubscribe hGet (hOwn l hGet) _ _
        · cases hTurn
    · cases hStep
  | frame data =>
    cases data with
    | metaData timestamp data =>
      cases hStep
      exact ⟨h.bound, h.own, h.fresh, h.kind, h.fed⟩
    | video timestamp data =>
      cases hStep
      exact h.hand .frame (.frame (.video timestamp data))
    | audio timestamp data =>
      cases hStep
      exact h.hand .frame (.frame (.audio timestamp data))
    | mediaInfo info =>
      cases hStep
      exact h.hand .frame (.frame (.mediaInfo info))
  | packet data =>
    cases hStep
    exact h.hand .packet (.packet data)

end Xiu.StreamHub
