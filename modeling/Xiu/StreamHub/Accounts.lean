import Xiu.StreamHub.Transceiver

/-! That the count of subscribers of a stream is exact as long as every subscription is of a new
identifier and every unsubscription of a registered one. -/

namespace Xiu.StreamHub

namespace StreamDataTransceiver

/-- The number of identifiers in both maps. -/
def registered (t : StreamDataTransceiver) : Nat :=
  t.idToFrameSender.keys.length + t.idToPacketSender.keys.length

def Exact (t : StreamDataTransceiver) : Prop := t.subscriberCount = t.registered

/-- The loop goes through events, each with the result of `send_prior_data`, without underflow, and
the count is exact after each of them. -/
def Accounts (t : StreamDataTransceiver) :
    List (TransceiverEvent × Except StreamHubErrorValue Unit) → Prop
  | [] => True
  | (event, prior) :: events =>
    match t.receiveEvent prior event with
    | .next t => t.Exact ∧ t.Accounts events
    | .leave t => t.Exact
    | .panic _ => False

/-- A subscription that succeeds is of an identifier that its map does not have, and an
unsubscription of one that its map has. -/
def Fits (t : StreamDataTransceiver) (prior : Except StreamHubErrorValue Unit) :
    TransceiverEvent → Prop
  | .subscribe sender info => prior = .ok () → info.id ∉ t.mapOf sender
  | .unSubscribe info => info.id ∈ t.mapFrom info
  | _ => True

/-- Every event that the loop takes fits the maps at that time. -/
def AllFit (t : StreamDataTransceiver) :
    List (TransceiverEvent × Except StreamHubErrorValue Unit) → Prop
  | [] => True
  | (event, prior) :: events =>
    t.Fits prior event ∧
      match t.receiveEvent prior event with
      | .next t => t.AllFit events
      | _ => True

/-! ### Sizes of maps -/

theorem length_insert {m : Table Uuid Channel} {id : Uuid} (sender : Channel) :
    (m.insert id sender).keys.length = m.keys.length + 1 ↔ id ∉ m := by
  rw [AList.keys_insert, List.length_cons, List.length_erase, AList.mem_keys]
  split
  · rename_i h
    have hPos := List.length_pos_of_mem h
    simp only [h, not_true_eq_false, iff_false]
    omega
  · rename_i h
    simp [h]

theorem length_erase {m : Table Uuid Channel} {id : Uuid} :
    (m.erase id).keys.length + 1 = m.keys.length ↔ id ∈ m := by
  rw [AList.keys_erase, List.length_erase, AList.mem_keys]
  split
  · rename_i h
    have hPos := List.length_pos_of_mem h
    simp only [h, iff_true]
    omega
  · rename_i h
    simp [h]

theorem registered_insertSender (t : StreamDataTransceiver) (id : Uuid) (sender : DataSender) :
    (t.insertSender id sender).registered = t.registered + 1 ↔ id ∉ t.mapOf sender := by
  cases sender with
  | frame sender =>
    simp only [registered, insertSender, mapOf]
    rw [← length_insert sender]
    omega
  | packet sender =>
    simp only [registered, insertSender, mapOf]
    rw [← length_insert sender]
    omega

theorem registered_removeSender (t : StreamDataTransceiver) (info : SubscriberInfo) :
    (t.removeSender info).registered + 1 = t.registered ↔ info.id ∈ t.mapFrom info := by
  cases hType : info.subType <;> simp only [registered, removeSender, mapFrom, hType] <;>
    rw [← length_erase] <;> omega

@[simp] theorem subscriberCount_insertSender (t : StreamDataTransceiver) (id : Uuid)
    (sender : DataSender) : (t.insertSender id sender).subscriberCount = t.subscriberCount := by
  cases sender <;> rfl

@[simp] theorem subscriberCount_removeSender (t : StreamDataTransceiver) (info : SubscriberInfo) :
    (t.removeSender info).subscriberCount = t.subscriberCount := by
  unfold removeSender
  split <;> rfl

/-! ### One event -/

theorem subscribe_exact_iff {t : StreamDataTransceiver} (ht : t.Exact) (id : Uuid)
    (sender : DataSender) :
    { t.insertSender id sender with subscriberCount := t.subscriberCount + 1 : StreamDataTransceiver
      }.Exact ↔ id ∉ t.mapOf sender := by
  rw [← registered_insertSender]
  unfold Exact at ht ⊢
  rw [ht]
  exact eq_comm

theorem unSubscribe_exact_iff {t : StreamDataTransceiver} (ht : t.Exact) (info : SubscriberInfo) :
    t.subscriberCount ≠ 0 ∧
      { t.removeSender info with subscriberCount := t.subscriberCount - 1 : StreamDataTransceiver
        }.Exact ↔ info.id ∈ t.mapFrom info := by
  rw [← registered_removeSender]
  unfold Exact at ht ⊢
  change t.subscriberCount ≠ 0 ∧ t.subscriberCount - 1 = (t.removeSender info).registered ↔ _
  rw [ht]
  omega

/-- An event keeps the count exact if and only if it fits the maps. -/
theorem accounts_cons_iff {t : StreamDataTransceiver} (ht : t.Exact) (event : TransceiverEvent)
    (prior : Except StreamHubErrorValue Unit)
    (events : List (TransceiverEvent × Except StreamHubErrorValue Unit))
    (ih : ∀ t' : StreamDataTransceiver, t'.Exact → (t'.Accounts events ↔ t'.AllFit events)) :
    t.Accounts ((event, prior) :: events) ↔ t.AllFit ((event, prior) :: events) := by
  cases event with
  | subscribe sender info =>
    cases prior with
    | error e => simp [Accounts, AllFit, receiveEvent, Fits, ht]
    | ok _ =>
      have hStep := subscribe_exact_iff ht info.id sender
      simp only [Accounts, AllFit, receiveEvent, Fits, forall_const, ← hStep,
        subscriberCount_insertSender]
      exact and_congr_right fun hExact => ih _ hExact
  | unSubscribe info =>
    have hStep := unSubscribe_exact_iff ht info
    simp only [Accounts, AllFit, receiveEvent, Fits, ← hStep, subscriberCount_removeSender]
    by_cases hZero : t.subscriberCount = 0
    · simp [hZero]
    · simp only [hZero, if_false, ne_eq, not_false_eq_true, true_and]
      exact and_congr_right fun hExact => ih _ hExact
  | unPublish => simp [Accounts, AllFit, receiveEvent, Fits, ht]
  | api sender uuid => simpa [Accounts, AllFit, receiveEvent, Fits, ht] using ih t ht
  | request => simpa [Accounts, AllFit, receiveEvent, Fits, ht] using ih t ht

/-- From an exact count, the count stays exact through events if and only if each of them fits. -/
theorem accounts_iff (events : List (TransceiverEvent × Except StreamHubErrorValue Unit))
    (t : StreamDataTransceiver) (ht : t.Exact) : t.Accounts events ↔ t.AllFit events := by
  induction events generalizing t with
  | nil => exact Iff.rfl
  | cons entry events ih => exact accounts_cons_iff ht entry.1 entry.2 events ih

end StreamDataTransceiver

open StreamDataTransceiver

/-- The count of the subscribers of a new stream is exact after each event, and never goes below
zero, if and only if every event fits the maps when it comes. -/
theorem subscriberCount_exact_iff
    (events : List (TransceiverEvent × Except StreamHubErrorValue Unit)) :
    new.Accounts events ↔ new.AllFit events :=
  accounts_iff events new rfl

/-- A player that has been taken off a stream and then leaves by itself makes the count underflow. -/
theorem kicked_subscriber_underflows :
    ¬ new.Accounts
      [(.subscribe (.frame 0) ⟨Uuid.new .four 1700000000 fun _ => 0, .rtmpPull, .frame⟩, .ok ()),
        (.unSubscribe ⟨Uuid.new .four 1700000000 fun _ => 0, .rtmpPull, .frame⟩, .ok ()),
        (.unSubscribe ⟨Uuid.new .four 1700000000 fun _ => 0, .rtmpPull, .frame⟩, .ok ())] := by
  rintro ⟨-, -, h⟩
  exact h

end Xiu.StreamHub
