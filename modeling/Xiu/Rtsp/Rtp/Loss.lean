import Mathlib.Data.List.Forall2
import Xiu.Rtsp.Rtp.Conformance
import Xiu.Rtsp.Rtp.Reassembly

/-! Packets that get lost.  The unpackers notice no gap in the sequence numbers, so what is left of a
NAL unit stays in their buffer: the frames handed over are the NAL units that arrived whole exactly
when no last fragment arrives while the buffer holds the rest of a NAL unit that did not. -/

namespace Xiu.Rtsp.Rtp

open Bytesio ProofKit StreamHub

/-- What arrives of a list, item by item. -/
def survivors {α : Type} : List Bool → List α → List α
  | true :: arrived, x :: xs => x :: survivors arrived xs
  | false :: arrived, _ :: xs => survivors arrived xs
  | _, _ => []

/-- A NAL unit that is sent, with which of its packets arrive. -/
structure Sending where
  timestamp : UInt32
  nalu : List UInt8
  arrived : List Bool

/-- A packer sends NAL units, and these packets of them arrive. -/
inductive Lossy (codec : VideoCodecType) : VideoPacker → List Sending → List RtpPacket → Prop
  | nil {packer} : Lossy codec packer [] []
  | cons {packer packer' : VideoPacker} {s : Sending} {rest : List Sending}
      {sent packets : List RtpPacket}
      (hPack : packNalu codec s.nalu (packer.at s.timestamp) = .ok () packer')
      (hSent : packer'.packets = packer.packets ++ sent) (hArrived : s.arrived.length = sent.length)
      (hRest : Lossy codec packer' rest packets) :
      Lossy codec packer (s :: rest) (survivors s.arrived sent ++ packets)

/-- Every packet of the NAL unit arrives. -/
def Sending.Whole (s : Sending) : Prop := ∀ b ∈ s.arrived, b = true

/-- Some packets of the NAL unit arrive and some do not. -/
def Sending.Partly (s : Sending) : Prop := true ∈ s.arrived ∧ false ∈ s.arrived

/-- The NAL unit is cut up, and its last fragment arrives. -/
def Sending.Ends (s : Sending) : Prop := 2 ≤ s.arrived.length ∧ s.arrived.getLast? = some true

instance (s : Sending) : Decidable s.Whole := inferInstanceAs (Decidable (∀ b ∈ s.arrived, _))
instance (s : Sending) : Decidable s.Partly := inferInstanceAs (Decidable (_ ∧ _))
instance (s : Sending) : Decidable s.Ends := inferInstanceAs (Decidable (_ ∧ _))

/-- The frames of the NAL units that arrive whole. -/
def wholeFrames (sendings : List Sending) : List FrameData :=
  (sendings.filter fun s => s.Whole).map fun s => frameOf s.timestamp s.nalu

/-- When the last fragment of a NAL unit arrives, neither that NAL unit nor one before it arrived only
in part. -/
def NoResidue (sendings : List Sending) : Prop :=
  ∀ before s after, sendings = before ++ s :: after → s.Ends → ∀ v ∈ before ++ [s], ¬v.Partly

/-- `NoResidue` from a buffer that may hold something. -/
def NoResidueFrom : Prop → List Sending → Prop
  | _, [] => True
  | dirty, s :: rest =>
    (s.Ends → ¬dirty ∧ ¬s.Partly) ∧ NoResidueFrom (¬s.Ends ∧ (dirty ∨ s.Partly)) rest

theorem noResidueFrom_iff (dirty : Prop) (sendings : List Sending) :
    NoResidueFrom dirty sendings ↔ ∀ before s after, sendings = before ++ s :: after → s.Ends →
      ¬dirty ∧ ∀ v ∈ before ++ [s], ¬v.Partly := by
  induction sendings generalizing dirty with
  | nil => exact iff_of_true trivial fun before s after h => by simp at h
  | cons first rest ih =>
    rw [NoResidueFrom, ih]
    constructor
    · rintro ⟨hFirst, hRest⟩ before s after h hEnds
      obtain _ | ⟨_, before⟩ := before
      · obtain ⟨rfl, rfl⟩ := List.cons.inj h
        obtain ⟨hDirty, hPartly⟩ := hFirst hEnds
        exact ⟨hDirty, by simpa using hPartly⟩
      · obtain ⟨rfl, rfl⟩ := List.cons.inj h
        obtain ⟨hClean, hMore⟩ := hRest before s after rfl hEnds
        by_cases hEnds' : first.Ends
        · obtain ⟨hDirty, hPartly⟩ := hFirst hEnds'
          exact ⟨hDirty, List.forall_mem_cons.mpr ⟨hPartly, hMore⟩⟩
        · have hNot : ¬dirty ∧ ¬first.Partly := not_or.mp fun hOr => hClean ⟨hEnds', hOr⟩
          exact ⟨hNot.1, List.forall_mem_cons.mpr ⟨hNot.2, hMore⟩⟩
    · intro hAll
      refine ⟨fun hEnds => ?_, fun before s after h hEnds => ?_⟩
      · obtain ⟨hDirty, hPartly⟩ := hAll [] first rest rfl hEnds
        exact ⟨hDirty, hPartly first (List.mem_singleton_self _)⟩
      · obtain ⟨hDirty, hPartly⟩ := hAll (first :: before) s after (congrArg (first :: ·) h) hEnds
        rw [List.cons_append, List.forall_mem_cons] at hPartly
        exact ⟨fun hNot => hNot.2.elim hDirty hPartly.1, hPartly.2⟩

theorem noResidue_iff (sendings : List Sending) :
    NoResidue sendings ↔ NoResidueFrom False sendings := by
  rw [noResidueFrom_iff]
  simp only [not_false_eq_true, true_and]
  rfl

/-! ### What survives -/

section

variable {α β : Type} {R : α → β → Prop}

theorem survivors_forall₂ {xs : List α} {ys : List β} (h : List.Forall₂ R xs ys)
    (arrived : List Bool) : List.Forall₂ R (survivors arrived xs) (survivors arrived ys) := by
  induction h generalizing arrived with
  | nil => cases arrived <;> simp [survivors]
  | cons hFirst _ ih =>
    obtain _ | ⟨_ | _, arrived⟩ := arrived
    · exact .nil
    · exact ih arrived
    · exact .cons hFirst (ih arrived)

theorem survivors_whole {xs : List α} {arrived : List Bool} (hLength : arrived.length = xs.length)
    (h : ∀ b ∈ arrived, b = true) : survivors arrived xs = xs := by
  induction xs generalizing arrived with
  | nil =>
    obtain rfl := List.eq_nil_of_length_eq_zero hLength
    rfl
  | cons x xs ih =>
    obtain _ | ⟨b, arrived⟩ := arrived
    · simp at hLength
    · obtain ⟨rfl, hRest⟩ := List.forall_mem_cons.mp h
      rw [survivors, ih (by simpa using hLength) hRest]

/-- What survives of byte strings is no longer than they are, and as long only if all survive. -/
theorem length_survivors {xs : List (List UInt8)} {arrived : List Bool}
    (hLength : arrived.length = xs.length) (hNe : ∀ x ∈ xs, x ≠ []) :
    (survivors arrived xs).flatten.length ≤ xs.flatten.length ∧
      (xs.flatten.length ≤ (survivors arrived xs).flatten.length → ∀ b ∈ arrived, b = true) := by
  induction xs generalizing arrived with
  | nil =>
    obtain rfl := List.eq_nil_of_length_eq_zero hLength
    exact ⟨le_rfl, fun _ => nofun⟩
  | cons x xs ih =>
    obtain _ | ⟨b, arrived⟩ := arrived
    · simp at hLength
    obtain ⟨hx, hRest⟩ := List.forall_mem_cons.mp hNe
    have hPos := List.length_pos_iff.mpr hx
    obtain ⟨hLe, hAll⟩ := @ih arrived (by simpa using hLength) hRest
    cases b with
    | false =>
      simp only [survivors, List.flatten_cons, List.length_append]
      exact ⟨by omega, fun h => absurd h (by omega)⟩
    | true =>
      simp only [survivors, List.flatten_cons, List.length_append]
      exact ⟨by omega, fun h => List.forall_mem_cons.mpr ⟨rfl, hAll (by omega)⟩⟩

/-- Something survives exactly when a packet arrives. -/
theorem survivors_flatten_eq_nil {xs : List (List UInt8)} {arrived : List Bool}
    (hLength : arrived.length = xs.length) (hNe : ∀ x ∈ xs, x ≠ []) :
    (survivors arrived xs).flatten = [] ↔ true ∉ arrived := by
  induction xs generalizing arrived with
  | nil =>
    obtain rfl := List.eq_nil_of_length_eq_zero hLength
    exact iff_of_true rfl (List.not_mem_nil)
  | cons x xs ih =>
    obtain _ | ⟨b, arrived⟩ := arrived
    · simp at hLength
    obtain ⟨hx, hRest⟩ := List.forall_mem_cons.mp hNe
    have hTail := @ih arrived (by simpa using hLength) hRest
    cases b with
    | false => simpa [survivors] using hTail
    | true => simp [survivors, hx]

end

/-- Fragments that arrive go to the buffer, and out of it if the last one arrives. -/
theorem steps_survivors {bs : List (List UInt8)} {arrived : List Bool}
    (hLength : arrived.length = bs.length) (buffer : List UInt8) :
    Arrival.steps buffer (survivors arrived (fuArrivals bs)) =
      if arrived.getLast? = some true then ([], [buffer ++ (survivors arrived bs).flatten])
      else (buffer ++ (survivors arrived bs).flatten, []) := by
  induction bs generalizing arrived buffer with
  | nil =>
    obtain rfl := List.eq_nil_of_length_eq_zero hLength
    simp [survivors, Arrival.steps]
  | cons bytes rest ih =>
    obtain _ | ⟨b, arrived⟩ := arrived
    · simp at hLength
    obtain _ | ⟨next, rest⟩ := rest
    · obtain rfl : arrived = [] := List.eq_nil_of_length_eq_zero (by simpa using hLength)
      cases b
      · simp [fuArrivals, survivors, Arrival.steps]
      · simp [fuArrivals, survivors, Arrival.steps, Arrival.step]
    · have hRest : arrived.length = (next :: rest).length := by simpa using hLength
      have hLast : (b :: arrived).getLast? = arrived.getLast? := by
        obtain _ | ⟨b', arrived⟩ := arrived
        · simp at hRest
        · rfl
      rw [hLast, fuArrivals]
      cases b
      · exact ih hRest buffer
      · rw [survivors, Arrival.steps, Arrival.step, ih hRest]
        split
        · simp [survivors]
        · simp [survivors]

/-! ### One NAL unit -/

section

variable {codec : VideoCodecType} {mtu : Nat} {s : Sending}

/-- What arrives of a NAL unit. -/
def Sending.got (codec : VideoCodecType) (mtu : Nat) (s : Sending) : List Arrival :=
  survivors s.arrived (arrivals codec mtu s.nalu)

/-- What should be handed over of a NAL unit. -/
def Sending.due (s : Sending) : List (List UInt8) := if s.Whole then [s.nalu] else []

/-- What an unpacker makes of a NAL unit from which packets got lost. -/
structure SendingRun (s : Sending) (buffer : List UInt8) (r : List UInt8 × List (List UInt8)) :
    Prop where
  due_le : s.due.length ≤ r.2.length
  eq_due : r.2 = s.due ↔ (s.Ends → ¬buffer ≠ [] ∧ ¬s.Partly)
  dirty : r.1 ≠ [] ↔ ¬s.Ends ∧ (buffer ≠ [] ∨ s.Partly)

theorem sendingRun_single (hFits : s.nalu.length + RTP_FIXED_HEADER_LEN ≤ mtu)
    (hLength : s.arrived.length = (arrivals codec mtu s.nalu).length) (buffer : List UInt8) :
    SendingRun s buffer (Arrival.steps buffer (s.got codec mtu)) := by
  obtain ⟨timestamp, nalu, arrived⟩ := s
  dsimp only [Sending.got] at hFits hLength ⊢
  rw [show arrivals codec mtu nalu = [.whole nalu] from if_pos hFits] at hLength ⊢
  obtain _ | ⟨b, _ | ⟨_, _⟩⟩ := arrived
  · simp at hLength
  · have hEnds : ¬Sending.Ends ⟨timestamp, nalu, [b]⟩ := fun h => absurd h.1 (by simp)
    have hPartly : ¬Sending.Partly ⟨timestamp, nalu, [b]⟩ := by
      rintro ⟨hTrue, hFalse⟩
      rw [List.mem_singleton] at hTrue hFalse
      exact absurd (hTrue.trans hFalse.symm) nofun
    cases b
    · have hWhole : ¬Sending.Whole ⟨timestamp, nalu, [false]⟩ := fun h =>
        absurd (h false (List.mem_singleton_self _)) nofun
      refine ⟨?_, ?_, ?_⟩
      · simp [Sending.due, hWhole]
      · simp [Sending.due, hWhole, hEnds, survivors, Arrival.steps]
      · simp [survivors, Arrival.steps, hEnds, hPartly]
    · have hWhole : Sending.Whole ⟨timestamp, nalu, [true]⟩ := fun b hb => List.mem_singleton.mp hb
      refine ⟨?_, ?_, ?_⟩
      · simp [Sending.due, hWhole, survivors, Arrival.steps, Arrival.step]
      · simp [Sending.due, hWhole, hEnds, survivors, Arrival.steps, Arrival.step]
      · simp [survivors, Arrival.steps, Arrival.step, hEnds, hPartly]
  · simp at hLength

theorem sendingRun_fragments (hMtu : RTP_FIXED_HEADER_LEN + 3 < mtu)
    (hLong : ¬s.nalu.length + RTP_FIXED_HEADER_LEN ≤ mtu)
    (hLength : s.arrived.length = (arrivals codec mtu s.nalu).length) (buffer : List UInt8) :
    SendingRun s buffer (Arrival.steps buffer (s.got codec mtu)) := by
  obtain ⟨hTwo, hNe, hFlatten⟩ := @fuBytes_spec codec _ _ hMtu hLong
  unfold Sending.got
  rw [show arrivals codec mtu s.nalu = fuArrivals (fuBytes codec mtu s.nalu) from if_neg hLong]
    at hLength ⊢
  rw [length_fuArrivals] at hLength
  rw [steps_survivors hLength]
  obtain ⟨_, hAll⟩ := length_survivors hLength hNe
  have hNil := survivors_flatten_eq_nil hLength hNe
  have hWhole : s.Whole → (survivors s.arrived (fuBytes codec mtu s.nalu)).flatten = s.nalu := by
    intro hWhole
    rw [survivors_whole hLength hWhole, hFlatten]
  have hPos : s.arrived ≠ [] := List.ne_nil_of_length_pos (by omega)
  have hMem : ∀ b, s.arrived.getLast? = some b → b ∈ s.arrived := fun b h =>
    List.mem_of_getLast? h
  split
  · rename_i hLast
    have hEnds : s.Ends := ⟨by omega, hLast⟩
    have hPartly : s.Partly ↔ ¬s.Whole := by
      constructor
      · intro hPartly hWhole
        exact absurd (hWhole false hPartly.2) nofun
      · intro hNot
        unfold Sending.Whole at hNot
        push Not at hNot
        obtain ⟨b, hb, hFalse⟩ := hNot
        exact ⟨hMem true hLast, by cases b <;> simp_all⟩
    by_cases hw : s.Whole
    · refine ⟨?_, ?_, ?_⟩
      · simp [Sending.due, hw]
      · rw [hWhole hw]
        simp [Sending.due, hw, hPartly, hEnds]
      · simp [hEnds]
    · refine ⟨?_, ?_, ?_⟩
      · simp [Sending.due, hw]
      · simp [Sending.due, hw, hPartly, hEnds]
      · simp [hEnds]
  · rename_i hLast
    have hEnds : ¬s.Ends := fun h => hLast h.2
    have hFalse : false ∈ s.arrived := by
      cases hGet : s.arrived.getLast? with
      | none => exact absurd (List.getLast?_eq_none_iff.mp hGet) hPos
      | some b =>
        cases b
        · exact hMem false hGet
        · exact absurd hGet hLast
    have hNot : ¬s.Whole := fun h => absurd (h false hFalse) nofun
    refine ⟨?_, ?_, ?_⟩
    · simp [Sending.due, hNot]
    · simp [Sending.due, hNot, hEnds]
    · rw [← not_iff_not]
      simp only [ne_eq, not_not, List.append_eq_nil_iff, hNil, hEnds, not_false_eq_true, true_and,
        Sending.Partly, hFalse, and_true, not_or]

theorem sendingRun (hMtu : RTP_FIXED_HEADER_LEN + 3 < mtu)
    (hLength : s.arrived.length = (arrivals codec mtu s.nalu).length) (buffer : List UInt8) :
    SendingRun s buffer (Arrival.steps buffer (s.got codec mtu)) := by
  by_cases hFits : s.nalu.length + RTP_FIXED_HEADER_LEN ≤ mtu
  · exact sendingRun_single hFits hLength buffer
  · exact sendingRun_fragments hMtu hFits hLength buffer

end

/-! ### Any number of NAL units -/

theorem wholeFrames_cons (s : Sending) (rest : List Sending) :
    wholeFrames (s :: rest) = s.due.map (frameOf s.timestamp) ++ wholeFrames rest := by
  unfold wholeFrames Sending.due
  by_cases hWhole : s.Whole
  · simp [hWhole]
  · simp [hWhole]

/-- What an unpacker with this buffer hands over. -/
def delivered (codec : VideoCodecType) (mtu : Nat) : List UInt8 → List Sending → List FrameData
  | _, [] => []
  | buffer, s :: rest =>
    (Arrival.steps buffer (s.got codec mtu)).2.map (frameOf s.timestamp) ++
      delivered codec mtu (Arrival.steps buffer (s.got codec mtu)).1 rest

/-- The NAL units that arrive whole are at least so many as those handed over, and the same exactly
when no residue is handed over. -/
theorem delivered_wholeFrames {codec : VideoCodecType} {mtu : Nat}
    (hMtu : RTP_FIXED_HEADER_LEN + 3 < mtu) {sendings : List Sending}
    (hLength : ∀ s ∈ sendings, s.arrived.length = (arrivals codec mtu s.nalu).length)
    (buffer : List UInt8) :
    (wholeFrames sendings).length ≤ (delivered codec mtu buffer sendings).length ∧
      (delivered codec mtu buffer sendings = wholeFrames sendings ↔
        NoResidueFrom (buffer ≠ []) sendings) := by
  induction sendings generalizing buffer with
  | nil => exact ⟨le_rfl, iff_of_true rfl trivial⟩
  | cons s rest ih =>
    obtain ⟨hFirst, hRest⟩ := List.forall_mem_cons.mp hLength
    have hRun := sendingRun hMtu hFirst buffer
    obtain ⟨hLe, hIff⟩ := ih hRest (Arrival.steps buffer (s.got codec mtu)).1
    have hDue := hRun.due_le
    rw [wholeFrames_cons, delivered, NoResidueFrom, ← hRun.eq_due, ← propext hRun.dirty, ← hIff]
    constructor
    · simp only [List.length_append, List.length_map]
      omega
    · constructor
      · intro hEq
        have hLengths := congrArg List.length hEq
        simp only [List.length_append, List.length_map] at hLengths
        obtain ⟨hHere, hLater⟩ := List.append_inj hEq (by simp only [List.length_map]; omega)
        exact ⟨List.map_injective_iff.mpr (frameOf_injective _) hHere, hLater⟩
      · rintro ⟨hHere, hLater⟩
        rw [hHere, hLater]

/-- What the surviving packets of NAL units do to an unpacker. -/
theorem lossy_receive {codec : VideoCodecType} {packer : VideoPacker} {sendings : List Sending}
    {packets : List RtpPacket} (hLossy : Lossy codec packer sendings packets)
    (hPlain : packer.header.Plain) (hNalus : ∀ s ∈ sendings, IsNalu codec s.nalu)
    {unpacker : VideoUnPacker} {buffer : List UInt8} {frames : List FrameData}
    (hHolds : Holds unpacker buffer frames) :
    (∀ s ∈ sendings, s.arrived.length = (arrivals codec packer.mtu s.nalu).length) ∧
    ∃ unpacker', receiveAll (unpack codec) unpacker (packets.map (·.marshal)) = some unpacker' ∧
      unpacker'.onFrameHandler = some (frames ++ delivered codec packer.mtu buffer sendings) := by
  induction hLossy generalizing unpacker buffer frames with
  | nil => exact ⟨nofun, unpacker, rfl, by simpa [delivered] using hHolds.frames⟩
  | @cons packer packer' s rest sent packets hPack hSent hArrived _ ih =>
    obtain ⟨hNalu, hNalus⟩ := List.forall_mem_cons.mp hNalus
    have hPlainAt := hPlain.at s.timestamp
    obtain ⟨hPlain', hMtu, hSent'⟩ : packer'.header.Plain ∧ packer'.mtu = packer.mtu ∧
        sent = packetsOf (packer.at s.timestamp).header (parcels codec packer.mtu s.nalu) := by
      by_cases hSeq : SeqFits codec (packer.at s.timestamp).header.seqNumber
          (parcels codec (packer.at s.timestamp).mtu s.nalu).length
      · obtain ⟨_, rfl⟩ := EStateM.Result.ok.inj ((packNalu_ok hSeq).symm.trans hPack)
        exact ⟨plain_sent hPlainAt _, rfl, (List.append_cancel_left hSent).symm⟩
      · obtain ⟨packer'', hPanic⟩ := packNalu_panic hSeq
        exact nomatch hPanic.symm.trans hPack
    have hBrings := brings_arrivals hPlainAt hNalu
    obtain ⟨unpacker1, hFirst, hHolds1⟩ :=
      receiveAll_brings (survivors_forall₂ hBrings s.arrived) hHolds
    obtain ⟨hLengths, unpacker2, hRest, hFrames⟩ := ih hPlain' hNalus hHolds1
    rw [hMtu] at hLengths hFrames
    refine ⟨List.forall_mem_cons.mpr ⟨?_, hLengths⟩, unpacker2, ?_, ?_⟩
    · rw [hArrived, hSent']
      exact List.Forall₂.length_eq hBrings
    · unfold receiveAll at hFirst hRest ⊢
      rw [hSent', List.map_append, List.foldlM_append]
      exact (Option.bind_eq_some_iff).mpr ⟨unpacker1, hFirst, hRest⟩
    · rw [hFrames, delivered, List.append_assoc]
      rfl

/-- Everything handed over is a NAL unit that arrived whole, and none is handed over twice. -/
def HandsOverWhole (codec : VideoCodecType) (sendings : List Sending) (packets : List RtpPacket) :
    Prop :=
  ∃ unpacker frames, receiveAll (unpack codec) .new (packets.map (·.marshal)) = some unpacker ∧
    unpacker.onFrameHandler = some frames ∧ frames.Sublist (wholeFrames sendings)

/-- What a packer sends of one NAL unit, some of it lost. -/
theorem lossy_one {codec : VideoCodecType} {packer : VideoPacker} {s : Sending}
    (hSeq : SeqFits codec packer.header.seqNumber (packetCount codec packer.mtu s.nalu))
    (hArrived : s.arrived.length = packetCount codec packer.mtu s.nalu) :
    ∃ packets, Lossy codec packer [s] packets := by
  rw [← length_parcels packer.room] at hSeq hArrived
  have hPack : packNalu codec s.nalu (packer.at s.timestamp) = _ := packNalu_ok hSeq
  refine ⟨_, .cons hPack rfl ?_ .nil⟩
  rw [length_packetsOf]
  exact hArrived

theorem handsOverWhole_iff {codec : VideoCodecType} {packer : VideoPacker} {sendings : List Sending}
    {packets : List RtpPacket} (hLossy : Lossy codec packer sendings packets)
    (hPlain : packer.header.Plain) (hNalus : ∀ s ∈ sendings, IsNalu codec s.nalu) :
    HandsOverWhole codec sendings packets ↔ NoResidue sendings := by
  have hNew : Holds .new [] [] := ⟨rfl, rfl, rfl⟩
  obtain ⟨hLengths, unpacker, hReceive, hFrames⟩ := lossy_receive hLossy hPlain hNalus hNew
  obtain ⟨hLe, hIff⟩ := delivered_wholeFrames packer.room hLengths []
  rw [List.nil_append] at hFrames
  have hFrom : NoResidueFrom ([] ≠ ([] : List UInt8)) sendings ↔ NoResidue sendings := by
    rw [noResidue_iff, ne_eq, eq_self, not_true]
  rw [← hFrom, ← hIff]
  constructor
  · rintro ⟨unpacker', frames, hReceive', hFrames', hSublist⟩
    obtain rfl := Option.some.inj (hReceive.symm.trans hReceive')
    obtain rfl := Option.some.inj (hFrames.symm.trans hFrames')
    exact hSublist.eq_of_length_le hLe
  · intro hEq
    exact ⟨unpacker, _, hReceive, hFrames, hEq ▸ List.Sublist.refl _⟩

/-- An unpacker hands over only NAL units that arrived whole exactly when no last fragment arrives
for a NAL unit that arrived in part, or after one. -/
theorem loss_iff (codec : VideoCodecType) (payloadType : UInt8) (ssrc : UInt32) (initSeq : UInt16)
    (mtu : Nat) (room : RTP_FIXED_HEADER_LEN + 3 < mtu) (sendings : List Sending)
    (packets : List RtpPacket)
    (hLossy : Lossy codec (.new payloadType ssrc initSeq mtu room) sendings packets)
    (hNalus : ∀ s ∈ sendings, IsNalu codec s.nalu) :
    HandsOverWhole codec sendings packets ↔ NoResidue sendings :=
  handsOverWhole_iff hLossy (plain_new ..) hNalus

/-- A NAL unit of 41 bytes and mtu 32: three fragments, the last of which is lost. -/
theorem loss_iff_open : ∃ packets,
    Lossy .h264 (.new 96 1 0 32 (by decide))
      [⟨3000, 0x65 :: List.replicate 40 1, [true, true, false]⟩] packets ∧
    (HandsOverWhole .h264 [⟨3000, 0x65 :: List.replicate 40 1, [true, true, false]⟩] packets ↔
      NoResidue [⟨3000, 0x65 :: List.replicate 40 1, [true, true, false]⟩]) := by
  obtain ⟨packets, hLossy⟩ := @lossy_one .h264 (.new 96 1 0 32 (by decide))
    ⟨3000, 0x65 :: List.replicate 40 1, [true, true, false]⟩ trivial (by decide)
  refine ⟨packets, hLossy, loss_iff .h264 96 1 0 32 (by decide) _ packets hLossy fun s hs => ?_⟩
  obtain rfl := List.mem_singleton.mp hs
  exact ⟨by decide, by decide⟩

/-- Without the first of its three fragments, what is left of the NAL unit is handed over. -/
theorem firstFragment_lost : ∃ packets,
    Lossy .h264 (.new 96 1 0 32 (by decide))
      [⟨3000, 0x65 :: List.replicate 40 1, [false, true, true]⟩] packets ∧
    ¬HandsOverWhole .h264 [⟨3000, 0x65 :: List.replicate 40 1, [false, true, true]⟩] packets := by
  obtain ⟨packets, hLossy⟩ := @lossy_one .h264 (.new 96 1 0 32 (by decide))
    ⟨3000, 0x65 :: List.replicate 40 1, [false, true, true]⟩ trivial (by decide)
  refine ⟨packets, hLossy, ?_⟩
  rw [handsOverWhole_iff hLossy (plain_new ..) fun s hs => ?_]
  · intro hNone
    exact hNone [] _ [] rfl (by decide) _ (List.mem_singleton_self _) (by decide)
  · obtain rfl := List.mem_singleton.mp hs
    exact ⟨by decide, by decide⟩

end Xiu.Rtsp.Rtp
