import Mathlib.Data.List.Forall2
import Xiu.Rtsp.Rtp.Annexb
import Xiu.Rtsp.Rtp.Conformance
import Xiu.Rtsp.Rtp.Reassembly

/-! The round trip of access units: what a packer sends for them, handed to an unpacker, gives back
their NAL units. -/

namespace Xiu.Rtsp.Rtp

open Bytesio ProofKit Bytesio.Read StreamHub

/-- What is given to a packer at one time. -/
structure AccessUnit where
  timestamp : UInt32
  coded : List Coded

/-- Calls of `pack` one after the other. -/
def packAll (codec : VideoCodecType) : List AccessUnit → Pack Unit
  | [] => pure ()
  | a :: rest => do
    pack codec (annexb a.coded) a.timestamp
    packAll codec rest

/-- The frames that the unpacker should hand over. -/
def framesOf : List AccessUnit → List FrameData
  | [] => []
  | a :: rest => (a.coded.map fun c => frameOf a.timestamp c.nalu) ++ framesOf rest

/-- How many packets NAL units take. -/
def packetTotal (codec : VideoCodecType) (mtu : Nat) (nalus : List (List UInt8)) : Nat :=
  (nalus.map (packetCount codec mtu)).sum

/-- The NAL units of access units. -/
def nalusOf (units : List AccessUnit) : List (List UInt8) :=
  units.flatMap fun a => a.coded.map (·.nalu)

/-- The packets of the access units give back their NAL units. -/
def RoundTrips (codec : VideoCodecType) (units : List AccessUnit) (packer : VideoPacker) : Prop :=
  ∃ packer' unpacker, packAll codec units packer = .ok () packer' ∧
    receiveAll (unpack codec) .new (packer'.packets.map (·.marshal)) = some unpacker ∧
    unpacker.onFrameHandler = some (framesOf units)

section

variable {codec : VideoCodecType}

theorem length_flatMap_parcels {mtu : Nat} (hMtu : RTP_FIXED_HEADER_LEN + 3 < mtu)
    (nalus : List (List UInt8)) :
    (nalus.flatMap (parcels codec mtu)).length = packetTotal codec mtu nalus := by
  rw [List.length_flatMap, packetTotal]
  exact congrArg List.sum (List.map_congr_left fun nalu _ => length_parcels hMtu)

theorem packNalus_ok {nalus : List (List UInt8)} {packer : VideoPacker}
    (h : SeqFits codec packer.header.seqNumber (nalus.flatMap (parcels codec packer.mtu)).length) :
    packNalus codec nalus packer =
      .ok () (packer.sent (nalus.flatMap (parcels codec packer.mtu))) := by
  induction nalus generalizing packer with
  | nil => rw [List.flatMap_nil, VideoPacker.sent_nil]; rfl
  | cons nalu rest ih =>
    rw [List.flatMap_cons, List.length_append, seqFits_add] at h
    obtain ⟨hFirst, hRest⟩ := h
    rw [packNalus, bind_of_ok (packNalu_ok hFirst), List.flatMap_cons, VideoPacker.sent_append]
    exact ih hRest

theorem packNalus_panic {nalus : List (List UInt8)} {packer : VideoPacker}
    (h : ¬SeqFits codec packer.header.seqNumber
      (nalus.flatMap (parcels codec packer.mtu)).length) :
    ∃ packer', packNalus codec nalus packer = .error .panic packer' := by
  induction nalus generalizing packer with
  | nil => exact absurd (seqFits_zero ..) h
  | cons nalu rest ih =>
    rw [packNalus]
    by_cases hFirst : SeqFits codec packer.header.seqNumber (parcels codec packer.mtu nalu).length
    · rw [List.flatMap_cons, List.length_append, seqFits_add] at h
      rw [bind_of_ok (packNalu_ok hFirst)]
      exact ih fun hRest => h ⟨hFirst, hRest⟩
    · obtain ⟨packer', hPanic⟩ := packNalu_panic hFirst
      exact ⟨packer', bind_of_error hPanic⟩

theorem steps_append (buffer : List UInt8) (as more : List Arrival) :
    Arrival.steps buffer (as ++ more) =
      ((Arrival.steps (Arrival.steps buffer as).1 more).1,
        (Arrival.steps buffer as).2 ++ (Arrival.steps (Arrival.steps buffer as).1 more).2) := by
  induction as generalizing buffer with
  | nil => rfl
  | cons a rest ih =>
    rw [List.cons_append, Arrival.steps, ih, Arrival.steps, List.append_assoc]

/-- The arrivals of NAL units give back these. -/
theorem steps_flatMap {mtu : Nat} (hMtu : RTP_FIXED_HEADER_LEN + 3 < mtu)
    (nalus : List (List UInt8)) :
    Arrival.steps [] (nalus.flatMap (arrivals codec mtu)) = ([], nalus) := by
  induction nalus with
  | nil => rfl
  | cons nalu rest ih =>
    rw [List.flatMap_cons, steps_append, steps_arrivals hMtu, ih]
    rfl

theorem carries_flatMap {mtu : Nat} (hMtu : RTP_FIXED_HEADER_LEN + 3 < mtu)
    {nalus : List (List UInt8)} (h : ∀ nalu ∈ nalus, IsNalu codec nalu) :
    List.Forall₂ (fun a (parcel : Parcel) => Carries codec a parcel.payload)
      (nalus.flatMap (arrivals codec mtu)) (nalus.flatMap (parcels codec mtu)) := by
  induction nalus with
  | nil => exact .nil
  | cons nalu rest ih =>
    obtain ⟨hFirst, hRest⟩ := List.forall_mem_cons.mp h
    rw [List.flatMap_cons, List.flatMap_cons]
    exact List.rel_append (carries_arrivals hMtu hFirst) (ih hRest)

/-- What can be given to a packer. -/
def AccessUnit.Packable (codec : VideoCodecType) (a : AccessUnit) : Prop :=
  ∀ c ∈ a.coded, IsNalu codec c.nalu ∧ Delimited c.nalu

/-- One call of `pack`, and what its packets do to an unpacker whose buffer is empty. -/
theorem pack_ok {packer : VideoPacker} (hPlain : packer.header.Plain) {a : AccessUnit}
    (hPackable : a.Packable codec)
    (hSeq : SeqFits codec packer.header.seqNumber
      (packetTotal codec packer.mtu (a.coded.map (·.nalu)))) :
    ∃ packer' more, pack codec (annexb a.coded) a.timestamp packer = .ok () packer' ∧
      packer'.header.Plain ∧ packer'.mtu = packer.mtu ∧
      packer'.header.seqNumber = packer.header.seqNumber +
        UInt16.ofNat (packetTotal codec packer.mtu (a.coded.map (·.nalu))) ∧
      packer'.packets = packer.packets ++ more ∧
      ∀ unpacker frames, Holds unpacker [] frames →
        ∃ unpacker', receiveAll (unpack codec) unpacker (more.map (·.marshal)) = some unpacker' ∧
          Holds unpacker' [] (frames ++ a.coded.map fun c => frameOf a.timestamp c.nalu) := by
  have hNalus : ∀ nalu ∈ a.coded.map (·.nalu), IsNalu codec nalu := by
    intro nalu hMem
    obtain ⟨c, hc, rfl⟩ := List.mem_map.mp hMem
    exact (hPackable c hc).1
  have hPlainAt := hPlain.at a.timestamp
  rw [← length_flatMap_parcels packer.room] at hSeq ⊢
  refine ⟨_, _, (pack_annexb codec a.timestamp packer fun c hc => (hPackable c hc).2).trans
    (packNalus_ok hSeq), plain_sent hPlainAt _, rfl, rfl, rfl, fun unpacker frames hHolds => ?_⟩
  have hBrings := brings_carries hPlainAt (carries_flatMap packer.room hNalus)
  obtain ⟨unpacker', hReceive, hHolds'⟩ := receiveAll_brings hBrings hHolds
  rw [steps_flatMap packer.room, List.map_map] at hHolds'
  exact ⟨unpacker', hReceive, hHolds'⟩

theorem pack_panic {packer : VideoPacker} {a : AccessUnit} (hPackable : a.Packable codec)
    (hSeq : ¬SeqFits codec packer.header.seqNumber
      (packetTotal codec packer.mtu (a.coded.map (·.nalu)))) :
    ∃ packer', pack codec (annexb a.coded) a.timestamp packer = .error .panic packer' := by
  rw [← length_flatMap_parcels packer.room] at hSeq
  rw [pack_annexb codec a.timestamp packer fun c hc => (hPackable c hc).2]
  exact packNalus_panic hSeq

theorem packetTotal_append (mtu : Nat) (nalus more : List (List UInt8)) :
    packetTotal codec mtu (nalus ++ more) =
      packetTotal codec mtu nalus + packetTotal codec mtu more := by
  simp only [packetTotal, List.map_append, List.sum_append]

/-- Calls of `pack` one after the other, and what their packets do to an unpacker. -/
theorem packAll_ok {packer : VideoPacker} (hPlain : packer.header.Plain) {units : List AccessUnit}
    (hPackable : ∀ a ∈ units, a.Packable codec)
    (hSeq : SeqFits codec packer.header.seqNumber (packetTotal codec packer.mtu (nalusOf units))) :
    ∃ packer' more, packAll codec units packer = .ok () packer' ∧
      packer'.packets = packer.packets ++ more ∧
      ∀ unpacker frames, Holds unpacker [] frames →
        ∃ unpacker', receiveAll (unpack codec) unpacker (more.map (·.marshal)) = some unpacker' ∧
          Holds unpacker' [] (frames ++ framesOf units) := by
  induction units generalizing packer with
  | nil =>
    refine ⟨packer, [], rfl, (List.append_nil _).symm, fun unpacker frames hHolds => ?_⟩
    exact ⟨unpacker, rfl, by rwa [framesOf, List.append_nil]⟩
  | cons a rest ih =>
    obtain ⟨hFirst, hRest⟩ := List.forall_mem_cons.mp hPackable
    rw [nalusOf, List.flatMap_cons, packetTotal_append, seqFits_add] at hSeq
    obtain ⟨packer1, more1, hPack, hPlain1, hMtu, hNumber, hSent1, hHolds1⟩ :=
      pack_ok hPlain hFirst hSeq.1
    obtain ⟨packer2, more2, hPackRest, hSent2, hHolds2⟩ := ih hPlain1 hRest (by
      rw [hNumber, hMtu]
      exact hSeq.2)
    refine ⟨packer2, more1 ++ more2, ?_, ?_, fun unpacker frames hHolds => ?_⟩
    · rw [packAll, bind_of_ok hPack]
      exact hPackRest
    · rw [hSent2, hSent1, List.append_assoc]
    · obtain ⟨unpacker1, hReceive1, hFrames1⟩ := hHolds1 unpacker frames hHolds
      obtain ⟨unpacker2, hReceive2, hFrames2⟩ := hHolds2 unpacker1 _ hFrames1
      refine ⟨unpacker2, ?_, ?_⟩
      · unfold receiveAll at hReceive1 hReceive2 ⊢
        rw [List.map_append, List.foldlM_append]
        exact Option.bind_eq_some_iff.mpr ⟨unpacker1, hReceive1, hReceive2⟩
      · rw [framesOf, ← List.append_assoc]
        exact hFrames2

theorem packAll_panic {packer : VideoPacker} (hPlain : packer.header.Plain)
    {units : List AccessUnit} (hPackable : ∀ a ∈ units, a.Packable codec)
    (hSeq : ¬SeqFits codec packer.header.seqNumber
      (packetTotal codec packer.mtu (nalusOf units))) :
    ∃ packer', packAll codec units packer = .error .panic packer' := by
  induction units generalizing packer with
  | nil => exact absurd (seqFits_zero ..) hSeq
  | cons a rest ih =>
    obtain ⟨hFirst, hRest⟩ := List.forall_mem_cons.mp hPackable
    rw [nalusOf, List.flatMap_cons, packetTotal_append, seqFits_add] at hSeq
    rw [packAll]
    by_cases hFits : SeqFits codec packer.header.seqNumber
        (packetTotal codec packer.mtu (a.coded.map (·.nalu)))
    · obtain ⟨packer1, _, hPack, hPlain1, hMtu, hNumber, _, _⟩ := pack_ok hPlain hFirst hFits
      rw [bind_of_ok hPack]
      refine ih hPlain1 hRest fun hMore => hSeq ⟨hFits, ?_⟩
      rw [hNumber, hMtu] at hMore
      exact hMore
    · obtain ⟨packer', hPanic⟩ := pack_panic hFirst hFits
      exact ⟨packer', bind_of_error hPanic⟩

end

theorem unpack_pack_iff_of_plain {codec : VideoCodecType} {packer : VideoPacker}
    (hPlain : packer.header.Plain) (hNew : packer.packets = []) {units : List AccessUnit}
    (hPackable : ∀ a ∈ units, a.Packable codec) :
    RoundTrips codec units packer ↔
      SeqFits codec packer.header.seqNumber (packetTotal codec packer.mtu (nalusOf units)) := by
  constructor
  · rintro ⟨packer', unpacker, hPack, _⟩
    by_contra hSeq
    obtain ⟨packer'', hPanic⟩ := packAll_panic hPlain hPackable hSeq
    exact nomatch hPanic.symm.trans hPack
  · intro hSeq
    obtain ⟨packer', more, hPack, hSent, hHolds⟩ := packAll_ok hPlain hPackable hSeq
    obtain ⟨unpacker, hReceive, hFrames⟩ := hHolds .new [] ⟨rfl, rfl, rfl⟩
    rw [hNew, List.nil_append] at hSent
    rw [← hSent] at hReceive
    exact ⟨packer', unpacker, hPack, hReceive, hFrames.frames⟩

/-- Unpacking gives back the NAL units of all access units exactly when the sequence number of the
H265 packer does not overflow. -/
theorem unpack_pack_iff (codec : VideoCodecType) (payloadType : UInt8) (ssrc : UInt32)
    (initSeq : UInt16) (mtu : Nat) (room : RTP_FIXED_HEADER_LEN + 3 < mtu)
    (units : List AccessUnit) (hPackable : ∀ a ∈ units, a.Packable codec) :
    RoundTrips codec units (.new payloadType ssrc initSeq mtu room) ↔
      SeqFits codec initSeq (packetTotal codec mtu (nalusOf units)) :=
  unpack_pack_iff_of_plain (plain_new ..) rfl hPackable

/-- Two NAL units of H265 in one access unit, one of which is cut up. -/
theorem unpack_pack_iff_h265 :
    (∀ a ∈ [AccessUnit.mk 3000 [⟨true, [0x42, 1, 7]⟩, ⟨false, 0x26 :: List.replicate 40 1⟩]],
      a.Packable .h265) ∧
    RoundTrips .h265 [⟨3000, [⟨true, [0x42, 1, 7]⟩, ⟨false, 0x26 :: List.replicate 40 1⟩]⟩]
      (.new 96 1 0xFFF0 32 (by decide)) := by
  have hPackable : ∀ a ∈ [AccessUnit.mk 3000
      [⟨true, [0x42, 1, 7]⟩, ⟨false, 0x26 :: List.replicate 40 1⟩]], a.Packable .h265 := by
    rintro a ha c hc
    obtain rfl := List.mem_singleton.mp ha
    obtain rfl | hc := List.mem_cons.mp hc
    · exact ⟨⟨by decide, by decide⟩, by decide, by decide, by decide⟩
    · obtain rfl := List.mem_singleton.mp hc
      exact ⟨⟨by decide, by decide⟩, by decide, by decide, by decide⟩
  exact ⟨hPackable, (unpack_pack_iff .h265 96 1 0xFFF0 32 (by decide) _ hPackable).mpr (by decide)⟩

/-- The packer of H265 panics after the packet with sequence number 65535. -/
theorem lastSeqNumber_panics :
    (∀ a ∈ [AccessUnit.mk 3000 [⟨true, [0x26, 1, 7]⟩]], a.Packable .h265) ∧
    ¬RoundTrips .h265 [⟨3000, [⟨true, [0x26, 1, 7]⟩]⟩] (.new 96 1 0xFFFF 32 (by decide)) := by
  have hPackable : ∀ a ∈ [AccessUnit.mk 3000 [⟨true, [0x26, 1, 7]⟩]], a.Packable .h265 := by
    rintro a ha c hc
    obtain rfl := List.mem_singleton.mp ha
    obtain rfl := List.mem_singleton.mp hc
    exact ⟨⟨by decide, by decide⟩, by decide, by decide, by decide⟩
  refine ⟨hPackable, ?_⟩
  rw [unpack_pack_iff_of_plain (plain_new ..) rfl hPackable]
  decide

end Xiu.Rtsp.Rtp
