import Mathlib.Algebra.GroupWithZero.Nat
import Xiu.Rtsp.Rtp.Hostile
import Xiu.Rtsp.Rtp.Marshal
import Xiu.Rtsp.Rtp.Reassembly

/-! Aggregation packets of H264 and fragments with a decoding order number: which of them the unpacker
takes apart into the NAL units that they were made of. -/

namespace Xiu.Rtsp.Rtp

open Bytesio ProofKit Bytesio.Read StreamHub

/-! ### What is handed over -/

/-- A packet that arrives. -/
def handlePacket (packet : RtpPacket) : UnPack Unit := readOver packet.marshal RtpH264UnPacker.unpack

/-- The unpacker takes the packets and hands over exactly these NAL units. -/
def Delivers (unpacker : VideoUnPacker) (packets : List RtpPacket) (timestamp : UInt32)
    (nalus : List (List UInt8)) : Prop :=
  ∃ unpacker', handleAll handlePacket packets unpacker = .ok () unpacker' ∧
    unpacker'.onFrameHandler = unpacker.onFrameHandler.map (· ++ nalus.map (frameOf timestamp))

theorem handlePacket_eq {packet : RtpPacket} (h : packet.Readable) (unpacker : VideoUnPacker) :
    handlePacket packet unpacker =
      RtpH264UnPacker.unpackPayload packet.payload (unpacker.stamped packet.header) := by
  have hRead := RtpPacket.codes_unmarshal.decodes packet h unpacker [] rfl
  rw [List.append_nil, ← RtpPacket.marshal_eq h.padding.absent] at hRead
  have hUnpack : RtpH264UnPacker.unpack ⟨unpacker, ⟨packet.marshal⟩⟩ =
      onOwner (RtpH264UnPacker.unpackPayload packet.payload)
        ⟨unpacker.stamped packet.header, ⟨[]⟩⟩ := by
    rw [RtpH264UnPacker.unpack, bind_of_ok hRead, bind_act]
    rfl
  rw [handlePacket]
  cases hRun : RtpH264UnPacker.unpackPayload packet.payload (unpacker.stamped packet.header) with
  | ok u it => rw [readOver_ok (hUnpack.trans (onOwner_ok hRun))]
  | error e it => rw [readOver_error (hUnpack.trans (onOwner_error hRun))]

/-- For one packet, its payload decides. -/
theorem delivers_singleton_iff {packet : RtpPacket} (h : packet.Readable) {unpacker : VideoUnPacker}
    {nalus : List (List UInt8)} :
    Delivers unpacker [packet] packet.header.timestamp nalus ↔
      ∃ unpacker', RtpH264UnPacker.unpackPayload packet.payload (unpacker.stamped packet.header) =
          .ok () unpacker' ∧ unpacker'.onFrameHandler =
        unpacker.onFrameHandler.map (· ++ nalus.map (frameOf packet.header.timestamp)) := by
  have hOne : handleAll handlePacket [packet] unpacker = handlePacket packet unpacker := by
    rw [handleAll]
    cases hRun : handlePacket packet unpacker with
    | ok u it => exact bind_of_ok hRun
    | error e it => exact bind_of_error hRun
  rw [Delivers, hOne, handlePacket_eq h]

/-- An unpacker that has handed over NAL units. -/
def VideoUnPacker.onFrames (unpacker : VideoUnPacker) (nalus : List (List UInt8)) : VideoUnPacker :=
  nalus.foldl VideoUnPacker.onFrame unpacker

theorem onFrameHandler_onFrames (unpacker : VideoUnPacker) (nalus : List (List UInt8)) :
    (unpacker.onFrames nalus).onFrameHandler =
      unpacker.onFrameHandler.map (· ++ nalus.map (frameOf unpacker.timestamp)) := by
  induction nalus generalizing unpacker with
  | nil =>
    rw [List.map_nil]
    simp only [List.append_nil]
    exact Option.map_id'.symm
  | cons nalu rest ih =>
    rw [VideoUnPacker.onFrames, List.foldl_cons, ← VideoUnPacker.onFrames, ih]
    simp [VideoUnPacker.onFrame, frameOf, Option.map_map, Function.comp_def]

/-- With a frame handler, the frames tell what has been handed over. -/
theorem onFrames_eq_iff {unpacker : VideoUnPacker} (h : unpacker.onFrameHandler ≠ none)
    {nalus nalus' : List (List UInt8)} :
    (unpacker.onFrames nalus).onFrameHandler =
        unpacker.onFrameHandler.map (· ++ nalus'.map (frameOf unpacker.timestamp)) ↔
      nalus = nalus' := by
  rw [onFrameHandler_onFrames]
  cases hHandler : unpacker.onFrameHandler with
  | none => exact absurd hHandler h
  | some handed =>
    rw [Option.map_some, Option.map_some, Option.some.injEq, List.append_cancel_left_eq]
    exact (List.map_injective_iff.mpr (frameOf_injective unpacker.timestamp)).eq_iff

theorem readOver_ok_iff {x : Read VideoUnPacker Unit} {buffer : List UInt8} {it : VideoUnPacker}
    {P : VideoUnPacker → Prop} :
    (∃ it', readOver buffer x it = .ok () it' ∧ P it') ↔
      ∃ s, x ⟨it, ⟨buffer⟩⟩ = .ok () s ∧ P s.owner := by
  constructor
  · rintro ⟨it', hRun, hP⟩
    cases hX : x ⟨it, ⟨buffer⟩⟩ with
    | ok u s =>
      obtain ⟨-, rfl⟩ := EStateM.Result.ok.inj ((readOver_ok hX).symm.trans hRun)
      exact ⟨s, rfl, hP⟩
    | error e s => cases (readOver_error hX).symm.trans hRun
  · rintro ⟨s, hX, hP⟩
    exact ⟨s.owner, readOver_ok hX, hP⟩

/-! ### Loops over units -/

section Loops

variable {turn : Unit → Read VideoUnPacker (Turn Unit Unit)} {measure : Reading VideoUnPacker → Nat}
  {decreases : ∀ a a' s s', turn a s = .ok (.again a') s' → measure s' < measure s} {k : Nat}

/-- A loop whose turns each take `k` bytes and a NAL unit, to the end of the bytes, hands over units
that account for all the bytes. -/
theorem onFrames_of_loop
    (hDone : ∀ s s', turn () s = .ok (.done ()) s' → s' = s ∧ s.reader.len = 0)
    (hAgain : ∀ s s', turn () s = .ok (.again ()) s' → ∃ nalu, s'.owner = s.owner.onFrame nalu ∧
      s.reader.len = k + nalu.length + s'.reader.len)
    {s s' : Reading VideoUnPacker} (hRun : loopM turn measure decreases () s = .ok () s') :
    ∃ nalus : List (List UInt8), s'.owner = s.owner.onFrames nalus ∧
      s.reader.len = (nalus.map fun nalu => k + nalu.length).sum := by
  induction (), s using loopM_induct turn measure decreases with
  | again a s a' s1 hTurn ih =>
    obtain ⟨nalu, hOwner, hLength⟩ := hAgain s s1 hTurn
    obtain ⟨nalus, hOwner', hLength'⟩ := ih (loopM_again hTurn ▸ hRun)
    refine ⟨nalu :: nalus, ?_, ?_⟩
    · rw [hOwner', hOwner]
      rfl
    · rw [List.map_cons, List.sum_cons, ← hLength']
      exact hLength
  | done a s b s1 hTurn =>
    obtain ⟨-, rfl⟩ := EStateM.Result.ok.inj ((loopM_done hTurn).symm.trans hRun)
    obtain ⟨rfl, hEmpty⟩ := hDone s s1 hTurn
    exact ⟨[], rfl, hEmpty⟩
  | error a s e s1 hTurn => cases (loopM_error hTurn).symm.trans hRun

end Loops

/-! ### Single-time aggregation packets -/

/-- A NAL unit that an aggregation packet can hold. -/
def Sized (nalu : List UInt8) : Prop := 1 ≤ nalu.length ∧ nalu.length < 2 ^ 16

/-- A NAL unit behind its size. -/
def stapUnit (nalu : List UInt8) : List UInt8 := toBE 2 nalu.length ++ nalu

/-- The payload of a STAP-A, whose DON has no bytes, or of a STAP-B. -/
def stapPayload (header : UInt8) (don : List UInt8) (nalus : List (List UInt8)) : List UInt8 :=
  header :: (don ++ nalus.flatMap stapUnit)

/-- A size of two bytes is read. -/
theorem readU16_toBE {n : Nat} (h : n < 2 ^ 16) (it : VideoUnPacker) (rest : List UInt8) :
    readU16 .bigEndian ⟨it, ⟨toBE 2 n ++ rest⟩⟩ = .ok (UInt16.ofNat n) ⟨it, ⟨rest⟩⟩ := by
  have hRead := codes_readU16.decodes (UInt16.ofNat n) trivial it rest trivial
  rwa [UInt16.toNat_ofNat_of_lt' h] at hRead

theorem aggregateTurn_unit {nalu rest : List UInt8} (h : nalu.length < 2 ^ 16) (it : VideoUnPacker) :
    aggregateTurn 0 () ⟨it, ⟨stapUnit nalu ++ rest⟩⟩ =
      .ok (.again ()) ⟨it.onFrame nalu, ⟨rest⟩⟩ := by
  have hMore : ¬(stapUnit nalu ++ rest).length = 0 := by simp [stapUnit]
  rw [aggregateTurn, bind_len]
  refine (congrFun (if_neg hMore) _).trans ?_
  rw [bind_of_ok (readBytes_ok (Nat.zero_le _)), List.drop_zero, stapUnit, List.append_assoc,
    bind_of_ok (readU16_toBE h it _), UInt16.toNat_ofNat_of_lt' h, bind_of_ok (readBytes_append rfl),
    bind_act]
  rfl

/-- Units behind their sizes are taken apart. -/
theorem aggregateLoop_units {nalus : List (List UInt8)} (h : ∀ nalu ∈ nalus, nalu.length < 2 ^ 16)
    (it : VideoUnPacker) :
    aggregateLoop 0 ⟨it, ⟨nalus.flatMap stapUnit⟩⟩ = .ok () ⟨it.onFrames nalus, ⟨[]⟩⟩ := by
  induction nalus generalizing it with
  | nil => exact loopM_done rfl
  | cons nalu rest ih =>
    obtain ⟨hFirst, hRest⟩ := List.forall_mem_cons.mp h
    rw [List.flatMap_cons, aggregateLoop, loopM_again (aggregateTurn_unit hFirst it)]
    exact ih hRest (it.onFrame nalu)

theorem aggregateTurn_done {s s' : Reading VideoUnPacker}
    (h : aggregateTurn 0 () s = .ok (.done ()) s') : s' = s ∧ s.reader.len = 0 := by
  rw [aggregateTurn, bind_len] at h
  split at h
  · cases h
    exact ⟨rfl, ‹_›⟩
  · obtain ⟨_, s1, -, h⟩ := bind_eq_ok h
    obtain ⟨_, s2, -, h⟩ := bind_eq_ok h
    obtain ⟨_, s3, -, h⟩ := bind_eq_ok h
    cases h

theorem aggregateTurn_again {s s' : Reading VideoUnPacker}
    (h : aggregateTurn 0 () s = .ok (.again ()) s') :
    ∃ nalu, s'.owner = s.owner.onFrame nalu ∧ s.reader.len = 2 + nalu.length + s'.reader.len := by
  rw [aggregateTurn, bind_len] at h
  split at h
  · cases h
  · obtain ⟨_, s1, hSkip, h⟩ := bind_eq_ok h
    obtain ⟨_, s2, hSize, h⟩ := bind_eq_ok h
    obtain ⟨nalu, s3, hNalu, h⟩ := bind_eq_ok h
    obtain ⟨_, rfl⟩ := EStateM.Result.ok.inj h
    have hFirst := readBytes_eq_ok hSkip
    have hSecond := read_cursor_eq_ok hSize
    have hThird := readBytes_eq_ok hNalu
    obtain ⟨hLength, -, -, -⟩ := (codes_readBytes _).encodes _ _ _ hNalu
    refine ⟨nalu, ?_, ?_⟩
    · change s3.owner.onFrame nalu = s.owner.onFrame nalu
      rw [hThird.1, hSecond.1, hFirst.1]
    · change s.reader.len = 2 + nalu.length + s3.reader.len
      omega

/-- What the bytes of units and two more bytes leave room for are not those units. -/
theorem aggregateLoop_shifted {don : List UInt8} (hDon : don.length = 2) {nalus : List (List UInt8)}
    {it : VideoUnPacker} {s : Reading VideoUnPacker}
    (hRun : aggregateLoop 0 ⟨it, ⟨don ++ nalus.flatMap stapUnit⟩⟩ = .ok () s) :
    ∃ nalus', nalus' ≠ nalus ∧ s.owner = it.onFrames nalus' := by
  obtain ⟨nalus', hOwner, hLength⟩ := onFrames_of_loop (k := 2) (fun _ _ => aggregateTurn_done)
    (fun _ _ => aggregateTurn_again) hRun
  refine ⟨nalus', ?_, hOwner⟩
  rintro rfl
  have hSum : (nalus'.flatMap stapUnit).length = (nalus'.map fun nalu => 2 + nalu.length).sum := by
    rw [List.length_flatMap]
    simp only [stapUnit, List.length_append, length_toBE]
  change (don ++ nalus'.flatMap stapUnit).length = _ at hLength
  rw [List.length_append, hDon, hSum] at hLength
  omega

/-- A first byte is its type when its F and NRI bits are clear. -/
theorem eq_type_iff {header t : UInt8} (h : header &&& 0x1F = t) :
    header = t ↔ header &&& 0xE0 = 0 := by
  have hAll : ∀ b : UInt8, b = b &&& 0x1F ↔ b &&& 0xE0 = 0 := forall_byte (by decide +kernel)
  rw [← h]
  exact hAll header

theorem unpackPayload_stap {header : UInt8}
    (h : header &&& 0x1F = STAP_A ∨ header &&& 0x1F = STAP_B) (body : List UInt8) :
    RtpH264UnPacker.unpackPayload (header :: body) =
      RtpH264UnPacker.unpackStap (header :: body) header := by
  have hSingle : ¬(1 ≤ header &&& 0x1F ∧ header &&& 0x1F ≤ 23) := by
    rintro ⟨-, hLe⟩
    rcases h with h | h
    · rw [h] at hLe
      exact absurd hLe (by decide)
    · rw [h] at hLe
      exact absurd hLe (by decide)
  rw [RtpH264UnPacker.unpackPayload, if_neg hSingle, if_pos h]

/-- What a STAP with these bytes for its DON leaves. -/
theorem unpackStap_apply (header : UInt8) {don : List UInt8}
    (hDon : don.length = if header = STAP_B then 2 else 0) (rest : List UInt8) (it : VideoUnPacker) :
    RtpH264UnPacker.unpackStap (header :: (don ++ rest)) header it =
      readOver rest (aggregateLoop 0) it := by
  rw [RtpH264UnPacker.unpackStap]
  apply readOver_congr
  rw [bind_of_ok (readU8_cons header), bind_of_ok (readBytes_append hDon)]

section Stap

variable {packet : RtpPacket} {unpacker : VideoUnPacker} {header : UInt8} {don : List UInt8}
  {nalus : List (List UInt8)}

/-- A STAP is taken apart when its DON is skipped. -/
theorem delivers_stap (hPacket : packet.Readable)
    (hType : header &&& 0x1F = STAP_A ∨ header &&& 0x1F = STAP_B)
    (hPayload : packet.payload = stapPayload header don nalus)
    (hDon : don.length = if header = STAP_B then 2 else 0) (hSized : ∀ nalu ∈ nalus, Sized nalu) :
    Delivers unpacker [packet] packet.header.timestamp nalus := by
  rw [delivers_singleton_iff hPacket, hPayload, stapPayload, unpackPayload_stap hType,
    unpackStap_apply header hDon,
    readOver_ok (aggregateLoop_units (fun nalu hMem => (hSized nalu hMem).2) _)]
  exact ⟨_, rfl, onFrameHandler_onFrames _ nalus⟩

/-- A STAP-B is taken apart exactly when the F and NRI bits of its first byte are clear. -/
theorem delivers_stapB_iff (hHandler : unpacker.onFrameHandler ≠ none) (hPacket : packet.Readable)
    (hType : header &&& 0x1F = STAP_B) (hPayload : packet.payload = stapPayload header don nalus)
    (hDon : don.length = 2) (hSized : ∀ nalu ∈ nalus, Sized nalu) :
    Delivers unpacker [packet] packet.header.timestamp nalus ↔ header &&& 0xE0 = 0 := by
  rw [← eq_type_iff hType]
  constructor
  · intro hDelivers
    by_contra hOther
    rw [delivers_singleton_iff hPacket, hPayload, stapPayload, unpackPayload_stap (.inr hType)] at hDelivers
    obtain ⟨it, hRun, hFrames⟩ := hDelivers
    have hSkip := @unpackStap_apply header [] (if_neg hOther).symm
      (don ++ nalus.flatMap stapUnit) (unpacker.stamped packet.header)
    rw [List.nil_append] at hSkip
    rw [hSkip] at hRun
    cases hLoop : aggregateLoop 0
        ⟨unpacker.stamped packet.header, ⟨don ++ nalus.flatMap stapUnit⟩⟩ with
    | ok u s =>
      obtain ⟨nalus', hNe, hOwner⟩ := aggregateLoop_shifted hDon hLoop
      rw [readOver_ok hLoop] at hRun
      obtain ⟨-, rfl⟩ := EStateM.Result.ok.inj hRun
      rw [hOwner] at hFrames
      have hStamped : (unpacker.stamped packet.header).onFrameHandler ≠ none := hHandler
      exact hNe ((onFrames_eq_iff hStamped).mp hFrames)
    | error e s =>
      rw [readOver_error hLoop] at hRun
      cases hRun
  · rintro rfl
    exact delivers_stap hPacket (.inr rfl) hPayload hDon hSized

end Stap

/-! ### Multi-time aggregation packets -/

/-- A NAL unit of a multi-time aggregation packet, with its DOND and its timestamp offset. -/
structure MtapUnit where
  nalu : List UInt8
  dond : UInt8
  tsOffset : Nat

/-- The bytes of a unit whose timestamp offset has `n` bytes.  Its size counts, beside the NAL unit,
`counted` of the bytes before that: none in RFC 6184. -/
def MtapUnit.bytes (n counted : Nat) (unit : MtapUnit) : List UInt8 :=
  toBE 2 (unit.nalu.length + counted) ++ unit.dond :: (toBE n unit.tsOffset ++ unit.nalu)

/-- The payload of an MTAP. -/
def mtapPayload (header : UInt8) (donb : UInt16) (n counted : Nat) (units : List MtapUnit) :
    List UInt8 :=
  header :: (toBE 2 donb.toNat ++ units.flatMap (·.bytes n counted))

/-- The numbers of a unit have room in their bytes. -/
structure MtapUnit.Fits (n counted : Nat) (unit : MtapUnit) : Prop where
  sized : Sized unit.nalu
  size : unit.nalu.length + counted < 2 ^ 16
  tsOffset : unit.tsOffset < 256 ^ n

theorem onFrames_injective {unpacker : VideoUnPacker} (h : unpacker.onFrameHandler ≠ none)
    {nalus nalus' : List (List UInt8)} (hSame : unpacker.onFrames nalus = unpacker.onFrames nalus') :
    nalus = nalus' := by
  rw [← onFrames_eq_iff h, hSame, onFrameHandler_onFrames]

theorem toBE_two {m : Nat} (h : m < 2 ^ 16) : ∃ hi lo, toBE 2 m = [hi, lo] ∧ (ofU16 hi lo).toNat = m := by
  refine ⟨_, _, rfl, ?_⟩
  have hDecode := BytesReader.decodeU16_encode .bigEndian (UInt16.ofNat m)
  rw [UInt16.toNat_ofNat_of_lt' h] at hDecode
  exact (congrArg UInt16.toNat hDecode).trans (UInt16.toNat_ofNat_of_lt' h)

section Mtap

variable {t : UInt8} {n : Nat}

theorem readTs_eq_ok (h : TsBytes t n) {s s' : Reading VideoUnPacker} {r : UInt32 × Nat}
    (hRead : RtpH264UnPacker.readTs t s = .ok r s') :
    r.2 = n ∧ s'.owner = s.owner ∧ s'.reader.len + n = s.reader.len := by
  rw [RtpH264UnPacker.readTs] at hRead
  rcases h with ⟨rfl, rfl⟩ | ⟨rfl, rfl⟩
  · rw [if_pos rfl] at hRead
    obtain ⟨ts, s1, hTs, hRead⟩ := bind_eq_ok hRead
    obtain ⟨rfl, rfl⟩ := EStateM.Result.ok.inj hRead
    exact ⟨rfl, read_cursor_eq_ok hTs⟩
  · rw [if_neg (by decide), if_pos rfl] at hRead
    obtain ⟨ts, s1, hTs, hRead⟩ := bind_eq_ok hRead
    obtain ⟨rfl, rfl⟩ := EStateM.Result.ok.inj hRead
    exact ⟨rfl, read_cursor_eq_ok hTs⟩

theorem mtapTurn_done {s s' : Reading VideoUnPacker}
    (h : RtpH264UnPacker.mtapTurn t () s = .ok (.done ()) s') : s' = s ∧ s.reader.len = 0 := by
  rw [RtpH264UnPacker.mtapTurn, bind_len] at h
  split at h
  · cases h
    exact ⟨rfl, ‹_›⟩
  · rw [RtpH264UnPacker.mtapUnit] at h
    obtain ⟨_, s1, -, h⟩ := bind_eq_ok h
    obtain ⟨_, s2, -, h⟩ := bind_eq_ok h
    obtain ⟨r, s3, -, h⟩ := bind_eq_ok h
    dsimp only at h
    split at h
    · cases h
    · obtain ⟨_, s4, -, h⟩ := bind_eq_ok h
      obtain ⟨_, s5, -, h⟩ := bind_eq_ok h
      obtain ⟨_, s6, -, h⟩ := bind_eq_ok h
      cases h

theorem mtapTurn_again (h : TsBytes t n) {s s' : Reading VideoUnPacker}
    (hTurn : RtpH264UnPacker.mtapTurn t () s = .ok (.again ()) s') :
    ∃ nalu, s'.owner = s.owner.onFrame nalu ∧
      s.reader.len = 3 + n + nalu.length + s'.reader.len := by
  rw [RtpH264UnPacker.mtapTurn, bind_len] at hTurn
  split at hTurn
  · cases hTurn
  · rw [RtpH264UnPacker.mtapUnit] at hTurn
    obtain ⟨_, s1, hSize, hTurn⟩ := bind_eq_ok hTurn
    obtain ⟨_, s2, hDond, hTurn⟩ := bind_eq_ok hTurn
    obtain ⟨r, s3, hTs, hTurn⟩ := bind_eq_ok hTurn
    dsimp only at hTurn
    split at hTurn
    · cases hTurn
    · obtain ⟨_, s4, hFirst, hTurn⟩ := bind_eq_ok hTurn
      obtain ⟨_, s5, hSecond, hTurn⟩ := bind_eq_ok hTurn
      obtain ⟨nalu, s6, hNalu, hTurn⟩ := bind_eq_ok hTurn
      obtain ⟨_, rfl⟩ := EStateM.Result.ok.inj hTurn
      obtain ⟨rfl, _⟩ := sub_eq_ok hFirst
      obtain ⟨rfl, _⟩ := sub_eq_ok hSecond
      have hFirst := read_cursor_eq_ok hSize
      have hSecond := read_cursor_eq_ok hDond
      have hThird := readTs_eq_ok h hTs
      have hFourth := readBytes_eq_ok hNalu
      obtain ⟨hLength, -, -, -⟩ := (codes_readBytes _).encodes _ _ _ hNalu
      refine ⟨nalu, ?_, ?_⟩
      · change s6.owner.onFrame nalu = s.owner.onFrame nalu
        rw [hFourth.1, hThird.2.1, hSecond.1, hFirst.1]
      · change s.reader.len = 3 + n + nalu.length + s6.reader.len
        omega

/-- A turn on a unit: it panics, or its bytes are cut short, or it takes as many as the size makes it. -/
theorem mtapTurn_bytes (h : TsBytes t n) {counted : Nat} {unit : MtapUnit}
    (hFits : unit.Fits n counted) (rest : List UInt8) (it : VideoUnPacker) :
    let left := unit.nalu.length + counted - n - 1
    let s : Reading VideoUnPacker := ⟨it, ⟨unit.bytes n counted ++ rest⟩⟩
    if unit.tsOffset ≠ 0 ∧ n + 1 ≤ unit.nalu.length + counted then
      if (unit.nalu ++ rest).length < left then
        ∃ s', RtpH264UnPacker.mtapTurn t () s = .error (.bytesReadError .notEnoughBytes) s'
      else
        RtpH264UnPacker.mtapTurn t () s = .ok (.again ())
          ⟨it.onFrame ((unit.nalu ++ rest).take left), ⟨(unit.nalu ++ rest).drop left⟩⟩
    else ∃ s', RtpH264UnPacker.mtapTurn t () s = .error .panic s' := by
  obtain ⟨hi, lo, hBytes, hSize⟩ := toBE_two hFits.size
  have hTurn := @mtapTurn_unit t it n h hi lo unit.dond (toBE n unit.tsOffset) (unit.nalu ++ rest)
    (length_toBE ..)
  have hDecode : ByteOrder.bigEndian.decode (toBE n unit.tsOffset) = unit.tsOffset :=
    (ByteOrder.decode_encode .bigEndian n unit.tsOffset).trans (Nat.mod_eq_of_lt hFits.tsOffset)
  have hSplit : unit.bytes n counted ++ rest =
      hi :: lo :: unit.dond :: (toBE n unit.tsOffset ++ (unit.nalu ++ rest)) := by
    simp [MtapUnit.bytes, hBytes]
  rw [hDecode, hSize, ← hSplit] at hTurn
  exact hTurn

/-- The loop takes a unit apart whose size counts what the code takes it to count. -/
theorem mtapLoop_right (h : TsBytes t n) {unit : MtapUnit} (hFits : unit.Fits n (n + 1))
    (hTs : unit.tsOffset ≠ 0) (rest : List UInt8) (it : VideoUnPacker) :
    mtapLoop t ⟨it, ⟨unit.bytes n (n + 1) ++ rest⟩⟩ = mtapLoop t ⟨it.onFrame unit.nalu, ⟨rest⟩⟩ := by
  have hTurn := mtapTurn_bytes h hFits rest it
  dsimp only at hTurn
  rw [if_pos ⟨hTs, by omega⟩, show unit.nalu.length + (n + 1) - n - 1 = unit.nalu.length by omega,
    if_neg (by rw [List.length_append]; omega), List.take_left, List.drop_left] at hTurn
  exact loopM_again hTurn

/-- Of another unit it hands over no unit or another one. -/
theorem mtapLoop_wrong (h : TsBytes t n) {counted : Nat} {unit : MtapUnit}
    (hFits : unit.Fits n counted) (hWrong : ¬(unit.tsOffset ≠ 0 ∧ counted = n + 1))
    {rest : List UInt8} {it : VideoUnPacker} {s : Reading VideoUnPacker}
    (hRun : mtapLoop t ⟨it, ⟨unit.bytes n counted ++ rest⟩⟩ = .ok () s) :
    ∃ nalu more, nalu ≠ unit.nalu ∧ s.owner = it.onFrames (nalu :: more) := by
  have hTurn := mtapTurn_bytes h hFits rest it
  dsimp only at hTurn
  split at hTurn
  · rename_i hHead
    split at hTurn
    · obtain ⟨s', hError⟩ := hTurn
      cases (loopM_error hError).symm.trans hRun
    · rename_i hEnough
      rw [mtapLoop, loopM_again hTurn] at hRun
      obtain ⟨more, hOwner, -⟩ := onFrames_of_loop (k := 3 + n) (fun _ _ => mtapTurn_done)
        (fun _ _ => mtapTurn_again h) hRun
      refine ⟨_, more, ?_, hOwner⟩
      intro hSame
      have hLength := congrArg List.length hSame
      rw [List.length_take] at hLength
      apply hWrong
      exact ⟨hHead.1, by omega⟩
  · obtain ⟨s', hError⟩ := hTurn
    cases (loopM_error hError).symm.trans hRun

/-- The loop takes the units apart exactly when there are none, or their sizes count the bytes before
them and no timestamp offset is zero. -/
theorem mtapLoop_units_iff (h : TsBytes t n) {counted : Nat} {units : List MtapUnit}
    (hFits : ∀ unit ∈ units, unit.Fits n counted) {it : VideoUnPacker}
    (hHandler : it.onFrameHandler ≠ none) :
    (∃ s, mtapLoop t ⟨it, ⟨units.flatMap (·.bytes n counted)⟩⟩ = .ok () s ∧
        s.owner = it.onFrames (units.map (·.nalu))) ↔
      units = [] ∨ counted = n + 1 ∧ ∀ unit ∈ units, unit.tsOffset ≠ 0 := by
  induction units generalizing it with
  | nil => exact iff_of_true ⟨_, loopM_done mtapTurn_nil, rfl⟩ (.inl rfl)
  | cons unit rest ih =>
    obtain ⟨hFirst, hRest⟩ := List.forall_mem_cons.mp hFits
    rw [List.flatMap_cons]
    by_cases hRight : unit.tsOffset ≠ 0 ∧ counted = n + 1
    · obtain ⟨hTs, rfl⟩ := hRight
      have hHandler' : (it.onFrame unit.nalu).onFrameHandler ≠ none := by
        simpa [VideoUnPacker.onFrame] using hHandler
      rw [mtapLoop_right h hFirst hTs]
      refine (ih hRest hHandler').trans ?_
      rw [List.forall_mem_cons]
      constructor
      · rintro (rfl | ⟨-, hAll⟩)
        · exact .inr ⟨rfl, hTs, by simp⟩
        · exact .inr ⟨rfl, hTs, hAll⟩
      · rintro (hNil | ⟨-, -, hAll⟩)
        · cases hNil
        · exact .inr ⟨rfl, hAll⟩
    · refine iff_of_false ?_ ?_
      · rintro ⟨s, hRun, hOwner⟩
        obtain ⟨nalu, more, hNe, hOwner'⟩ := mtapLoop_wrong h hFirst hRight hRun
        have hSame := onFrames_injective hHandler (hOwner'.symm.trans hOwner)
        rw [List.map_cons] at hSame
        exact hNe (List.cons.inj hSame).1
      · rintro (hNil | ⟨hCounted, hAll⟩)
        · cases hNil
        · exact hRight ⟨hAll unit List.mem_cons_self, hCounted⟩

theorem unpackPayload_mtap {header : UInt8} (hType : header &&& 0x1F = t) (h : TsBytes t n)
    (body : List UInt8) : RtpH264UnPacker.unpackPayload (header :: body) =
      RtpH264UnPacker.unpackMtap (header :: body) header := by
  have hKind : header &&& 0x1F = MTAP_16 ∨ header &&& 0x1F = MTAP_24 := by
    rcases h with ⟨rfl, -⟩ | ⟨rfl, -⟩
    · exact .inl hType
    · exact .inr hType
  have hOthers : ∀ kind : UInt8, kind = MTAP_16 ∨ kind = MTAP_24 →
      ¬(1 ≤ kind ∧ kind ≤ 23) ∧ ¬(kind = STAP_A ∨ kind = STAP_B) := by
    rintro kind (rfl | rfl)
    · decide
    · decide
  obtain ⟨hSingle, hStap⟩ := hOthers _ hKind
  rw [RtpH264UnPacker.unpackPayload, if_neg hSingle, if_neg hStap, if_pos hKind]

theorem unpackMtap_apply (header : UInt8) (donb : UInt16) (rest : List UInt8) (it : VideoUnPacker) :
    RtpH264UnPacker.unpackMtap (header :: (toBE 2 donb.toNat ++ rest)) header it =
      readOver rest (mtapLoop header) it := by
  rw [RtpH264UnPacker.unpackMtap]
  apply readOver_congr
  rw [bind_of_ok (readU8_cons header), bind_of_ok (codes_readU16.decodes donb trivial it rest trivial)]

/-- An MTAP is taken apart exactly when it has no units, or when the F and NRI bits of its first byte
are clear, its sizes count the bytes before a unit, and no timestamp offset is zero. -/
theorem delivers_mtap_iff (h : TsBytes t n) {packet : RtpPacket} {unpacker : VideoUnPacker}
    (hHandler : unpacker.onFrameHandler ≠ none) (hPacket : packet.Readable) {header : UInt8}
    (hType : header &&& 0x1F = t) {donb : UInt16} {counted : Nat} {units : List MtapUnit}
    (hPayload : packet.payload = mtapPayload header donb n counted units)
    (hFits : ∀ unit ∈ units, unit.Fits n counted) :
    Delivers unpacker [packet] packet.header.timestamp (units.map (·.nalu)) ↔
      units = [] ∨ header &&& 0xE0 = 0 ∧ counted = n + 1 ∧ ∀ unit ∈ units, unit.tsOffset ≠ 0 := by
  have hStamped : (unpacker.stamped packet.header).onFrameHandler ≠ none := hHandler
  rw [delivers_singleton_iff hPacket, hPayload, mtapPayload, unpackPayload_mtap hType h,
    unpackMtap_apply, ← eq_type_iff hType]
  rw [readOver_ok_iff]
  by_cases hHeader : header = t
  · subst hHeader
    rw [and_iff_right rfl, ← mtapLoop_units_iff h hFits hStamped]
    refine exists_congr fun s => and_congr_right fun hRun => ?_
    obtain ⟨nalus, hOwner, -⟩ := onFrames_of_loop (k := 3 + n) (fun _ _ => mtapTurn_done)
      (fun _ _ => mtapTurn_again h) hRun
    rw [hOwner]
    refine (onFrames_eq_iff hStamped).trans ⟨?_, onFrames_injective hStamped⟩
    rintro rfl
    rfl
  · rw [or_iff_left fun hAll => hHeader hAll.1]
    constructor
    · rintro ⟨s, hRun, -⟩
      cases units with
      | nil => rfl
      | cons unit rest =>
        have hOther : ¬header = MTAP_16 ∧ ¬header = MTAP_24 := by
          rw [eq_type_iff hType] at hHeader
          have hAll : ∀ b : UInt8, ¬b &&& 0xE0 = 0 → ¬b = MTAP_16 ∧ ¬b = MTAP_24 :=
            forall_byte (by decide +kernel)
          exact hAll header hHeader
        have hLong : ¬((unit :: rest).flatMap (·.bytes n counted)).length < 3 := by
          simp [MtapUnit.bytes]
          omega
        obtain ⟨s', hPanic⟩ := (@mtapLoop_panics_other header (unpacker.stamped packet.header) _
          hOther.1 hOther.2).mpr hLong
        cases hPanic.symm.trans hRun
    · rintro rfl
      refine ⟨_, loopM_done mtapTurn_nil, ?_⟩
      exact onFrameHandler_onFrames (unpacker.stamped packet.header) []

end Mtap

/-! ### Fragments -/

/-- A piece of a NAL unit, in an FU-B with a decoding order number or in an FU-A. -/
structure Fragment where
  don : Option UInt16
  piece : List UInt8

namespace Fragment

def donBytes (fragment : Fragment) : List UInt8 :=
  match fragment.don with
  | some don => toBE 2 don.toNat
  | none => []

def indicator (header : UInt8) (fragment : Fragment) : UInt8 :=
  header &&& 0xE0 ||| if fragment.don.isSome then FU_B else FU_A

/-- The payload of a piece of the NAL unit with this header, with the S or the E bit or none. -/
def payload (header bits : UInt8) (fragment : Fragment) : List UInt8 :=
  fragment.indicator header :: (bits ||| header &&& 0x1F) :: (fragment.donBytes ++ fragment.piece)

/-- What the unpacker takes for the piece. -/
def taken (header : UInt8) (fragment : Fragment) : List UInt8 :=
  if header &&& 0xE0 = 0 then fragment.piece else fragment.donBytes ++ fragment.piece

theorem length_donBytes (fragment : Fragment) :
    fragment.donBytes.length = if fragment.don.isSome then 2 else 0 := by
  rw [donBytes]
  cases fragment.don with
  | none => rfl
  | some don => exact length_toBE 2 _

/-- The type of a fragment, what it says of the NAL header, and when its DON is skipped. -/
theorem indicator_bits (header : UInt8) (fragment : Fragment) :
    (fragment.indicator header &&& 0x1F = FU_A ∨ fragment.indicator header &&& 0x1F = FU_B) ∧
      fragment.indicator header &&& 0xE0 = header &&& 0xE0 ∧
      (fragment.indicator header = FU_B ↔ header &&& 0xE0 = 0 ∧ fragment.don.isSome = true) := by
  have hAll : ∀ b : UInt8, ∀ isSome : Bool,
      ((b &&& 0xE0 ||| if isSome then FU_B else FU_A) &&& 0x1F = FU_A ∨
        (b &&& 0xE0 ||| if isSome then FU_B else FU_A) &&& 0x1F = FU_B) ∧
      (b &&& 0xE0 ||| if isSome then FU_B else FU_A) &&& 0xE0 = b &&& 0xE0 ∧
      ((b &&& 0xE0 ||| if isSome then FU_B else FU_A) = FU_B ↔ b &&& 0xE0 = 0 ∧ isSome = true) :=
    forall_byte (by decide +kernel)
  exact hAll header fragment.don.isSome

/-- The S and E bits of the FU header, and the NAL header that is put together from both bytes. -/
theorem fuHeader_bits (header : UInt8) :
    (∀ bits, bits = FU_START ∨ bits = 0 ∨ bits = FU_END →
      header &&& 0xE0 ||| (bits ||| header &&& 0x1F) &&& 0x1F = header) ∧
    isFuStart (FU_START ||| header &&& 0x1F) = true ∧ isFuEnd (FU_START ||| header &&& 0x1F) = false ∧
    isFuStart (0 ||| header &&& 0x1F) = false ∧ isFuEnd (0 ||| header &&& 0x1F) = false ∧
    isFuStart (FU_END ||| header &&& 0x1F) = false ∧ isFuEnd (FU_END ||| header &&& 0x1F) = true := by
  have hAll : ∀ b : UInt8, (b &&& 0xE0 ||| (FU_START ||| b &&& 0x1F) &&& 0x1F = b ∧
      b &&& 0xE0 ||| (0 ||| b &&& 0x1F) &&& 0x1F = b ∧
      b &&& 0xE0 ||| (FU_END ||| b &&& 0x1F) &&& 0x1F = b) ∧
      isFuStart (FU_START ||| b &&& 0x1F) = true ∧ isFuEnd (FU_START ||| b &&& 0x1F) = false ∧
      isFuStart (0 ||| b &&& 0x1F) = false ∧ isFuEnd (0 ||| b &&& 0x1F) = false ∧
      isFuStart (FU_END ||| b &&& 0x1F) = false ∧ isFuEnd (FU_END ||| b &&& 0x1F) = true :=
    forall_byte (by decide +kernel)
  obtain ⟨⟨hStart, hMiddle, hEnd⟩, hMarks⟩ := hAll header
  refine ⟨?_, hMarks⟩
  rintro bits (rfl | rfl | rfl)
  · exact hStart
  · exact hMiddle
  · exact hEnd

/-- A fragment goes to the code for fragments, which takes a DON that it does not skip for a part of
the NAL unit. -/
theorem unpackPayload_eq (header : UInt8) {bits : UInt8}
    (hBits : bits = FU_START ∨ bits = 0 ∨ bits = FU_END) (fragment : Fragment) (it : VideoUnPacker) :
    RtpH264UnPacker.unpackPayload (fragment.payload header bits) it =
      .ok () (it.fragment [header] (bits ||| header &&& 0x1F) (fragment.taken header)) := by
  obtain ⟨hType, hHeader, hDon⟩ := fragment.indicator_bits header
  have hOthers : ∀ kind : UInt8, kind = FU_A ∨ kind = FU_B → ¬(1 ≤ kind ∧ kind ≤ 23) ∧
      ¬(kind = STAP_A ∨ kind = STAP_B) ∧ ¬(kind = MTAP_16 ∨ kind = MTAP_24) := by
    rintro kind (rfl | rfl)
    · decide
    · decide
  obtain ⟨hSingle, hStap, hMtap⟩ := hOthers _ hType
  have hSkip : readBytes (if fragment.indicator header = FU_B then 2 else 0)
      (⟨it, ⟨fragment.donBytes ++ fragment.piece⟩⟩ : Reading VideoUnPacker) =
      .ok (if header &&& 0xE0 = 0 then fragment.donBytes else [])
        ⟨it, ⟨fragment.taken header⟩⟩ := by
    have hLength := fragment.length_donBytes
    rw [taken]
    by_cases hClear : header &&& 0xE0 = 0
    · rw [if_pos hClear, if_pos hClear]
      apply readBytes_append
      rw [hLength]
      simp only [hDon, hClear, true_and]
    · rw [if_neg hClear, if_neg hClear, if_neg fun hFuB => hClear (hDon.mp hFuB).1]
      exact @readBytes_append _ it [] (fragment.donBytes ++ fragment.piece) 0 rfl
  rw [payload, RtpH264UnPacker.unpackPayload, if_neg hSingle, if_neg hStap, if_neg hMtap, if_pos hType,
    RtpH264UnPacker.unpackFu]
  apply readOver_ok (s := ⟨it.fragment [header] (bits ||| header &&& 0x1F) (fragment.taken header), ⟨[]⟩⟩)
  rw [bind_of_ok (readU8_cons _), bind_of_ok (readU8_cons _), bind_of_ok hSkip, hHeader,
    (fuHeader_bits header).1 bits hBits, appendFragment_apply]

/-- A packet that brings a fragment. -/
structure Brings (header bits : UInt8) (packet : RtpPacket) (fragment : Fragment) : Prop where
  readable : packet.Readable
  payload : packet.payload = fragment.payload header bits

theorem Brings.handlePacket_eq {header bits : UInt8} {packet : RtpPacket} {fragment : Fragment}
    (h : Brings header bits packet fragment) (hBits : bits = FU_START ∨ bits = 0 ∨ bits = FU_END)
    (it : VideoUnPacker) : handlePacket packet it =
      .ok () ((it.stamped packet.header).fragment [header] (bits ||| header &&& 0x1F)
        (fragment.taken header)) := by
  rw [Rtp.handlePacket_eq h.readable, h.payload, unpackPayload_eq header hBits]

/-- The fragments behind the first one add to the buffer, and the last of them hands it over. -/
theorem handleAll_rest {header : UInt8} {middle : List RtpPacket} {fragments : List Fragment}
    (hMiddle : List.Forall₂ (Brings header 0) middle fragments) {last : RtpPacket}
    {fragment : Fragment} (hLast : Brings header FU_END last fragment) (it : VideoUnPacker) :
    ∃ it', handleAll handlePacket (middle ++ [last]) it = .ok () it' ∧
      it'.onFrameHandler = it.onFrameHandler.map (· ++ [frameOf last.header.timestamp
        (it.fuBuffer ++ (fragments ++ [fragment]).flatMap (taken header))]) := by
  obtain ⟨-, -, -, hMiddleStart, hMiddleEnd, hLastStart, hLastEnd⟩ := fuHeader_bits header
  induction hMiddle generalizing it with
  | nil =>
    refine ⟨_, bind_of_ok (hLast.handlePacket_eq (.inr (.inr rfl)) it), ?_⟩
    rw [fragment_last hLastStart hLastEnd]
    simp [VideoUnPacker.take, VideoUnPacker.onFrame, VideoUnPacker.stamped, frameOf]
  | @cons packet piece packets pieces hFirst _ ih =>
    obtain ⟨it', hRun, hFrames⟩ := ih ((it.stamped packet.header).take (.more (piece.taken header)))
    refine ⟨it', ?_, ?_⟩
    · rw [List.cons_append, handleAll, bind_of_ok (hFirst.handlePacket_eq (.inr (.inl rfl)) it),
        fragment_middle hMiddleStart hMiddleEnd]
      exact hRun
    · rw [hFrames]
      simp [VideoUnPacker.take, VideoUnPacker.stamped]

/-- What a whole run of fragments hands over. -/
theorem handleAll_fragments {header : UInt8} {first last : RtpPacket} {middle : List RtpPacket}
    {start stop : Fragment} {fragments : List Fragment} (hFirst : Brings header FU_START first start)
    (hMiddle : List.Forall₂ (Brings header 0) middle fragments)
    (hLast : Brings header FU_END last stop) (it : VideoUnPacker) :
    ∃ it', handleAll handlePacket (first :: (middle ++ [last])) it = .ok () it' ∧
      it'.onFrameHandler = it.onFrameHandler.map (· ++ [frameOf last.header.timestamp
        (it.fuBuffer ++ header :: (start :: (fragments ++ [stop])).flatMap (taken header))]) := by
  obtain ⟨-, hStart, hEnd, -⟩ := fuHeader_bits header
  obtain ⟨it', hRun, hFrames⟩ := handleAll_rest hMiddle hLast
    ((it.stamped first.header).take (.more ([header] ++ start.taken header)))
  refine ⟨it', ?_, ?_⟩
  · rw [handleAll, bind_of_ok (hFirst.handlePacket_eq (.inl rfl) it), fragment_first hStart hEnd]
    exact hRun
  · rw [hFrames]
    simp [VideoUnPacker.take, VideoUnPacker.stamped]

/-- The bytes of DONs that are taken for parts of the NAL unit. -/
theorem length_flatMap_taken (header : UInt8) (fragments : List Fragment) :
    (fragments.flatMap (taken header)).length = (fragments.flatMap (·.piece)).length +
      if header &&& 0xE0 = 0 then 0 else 2 * fragments.countP (·.don.isSome) := by
  induction fragments with
  | nil => simp
  | cons fragment rest ih =>
    rw [List.flatMap_cons, List.flatMap_cons, List.length_append, List.length_append, ih, taken]
    by_cases hClear : header &&& 0xE0 = 0
    · simp only [if_pos hClear]
      omega
    · simp only [if_neg hClear, List.length_append, length_donBytes, List.countP_cons]
      split
      · omega
      · omega

/-- Nothing but the pieces is taken exactly when the F and NRI bits are clear or no DON is there. -/
theorem flatMap_taken_eq_iff {header : UInt8} {fragments : List Fragment} (buffer : List UInt8) :
    buffer ++ header :: fragments.flatMap (taken header) =
        header :: fragments.flatMap (·.piece) ↔
      buffer = [] ∧ (header &&& 0xE0 = 0 ∨ ∀ fragment ∈ fragments, fragment.don = none) := by
  constructor
  · intro hSame
    have hLength := congrArg List.length hSame
    rw [List.length_append, List.length_cons, List.length_cons, length_flatMap_taken] at hLength
    refine ⟨List.length_eq_zero_iff.mp (by omega), ?_⟩
    by_cases hClear : header &&& 0xE0 = 0
    · exact .inl hClear
    · right
      rw [if_neg hClear] at hLength
      have hNone : fragments.countP (·.don.isSome) = 0 := by omega
      intro fragment hMem
      have hFragment := List.countP_eq_zero.mp hNone fragment hMem
      simpa using hFragment
  · rintro ⟨rfl, hRight⟩
    have hTaken : ∀ fragment ∈ fragments, fragment.taken header = fragment.piece := by
      intro fragment hMem
      rw [taken]
      rcases hRight with hClear | hNone
      · rw [if_pos hClear]
      · split
        · rfl
        · rw [donBytes, hNone fragment hMem]
          rfl
    rw [List.nil_append, List.flatMap_congr hTaken]

/-- Fragments become their NAL unit exactly when the buffer was empty and no DON stays in it. -/
theorem delivers_fragments_iff {header : UInt8} {first last : RtpPacket} {middle : List RtpPacket}
    {start stop : Fragment} {fragments : List Fragment} (hFirst : Brings header FU_START first start)
    (hMiddle : List.Forall₂ (Brings header 0) middle fragments)
    (hLast : Brings header FU_END last stop) {unpacker : VideoUnPacker}
    (hHandler : unpacker.onFrameHandler ≠ none) :
    Delivers unpacker (first :: (middle ++ [last])) last.header.timestamp
        [header :: (start :: (fragments ++ [stop])).flatMap (·.piece)] ↔
      unpacker.fuBuffer = [] ∧ (header &&& 0xE0 = 0 ∨
        ∀ fragment ∈ start :: (fragments ++ [stop]), fragment.don = none) := by
  obtain ⟨it', hRun, hFrames⟩ := handleAll_fragments hFirst hMiddle hLast unpacker
  rw [← flatMap_taken_eq_iff]
  have hHanded : (∃ it, handleAll handlePacket (first :: (middle ++ [last])) unpacker = .ok () it ∧
      it.onFrameHandler = unpacker.onFrameHandler.map (· ++
        [header :: (start :: (fragments ++ [stop])).flatMap (·.piece)].map
          (frameOf last.header.timestamp))) ↔ it'.onFrameHandler = unpacker.onFrameHandler.map
      (· ++ [frameOf last.header.timestamp
        (header :: (start :: (fragments ++ [stop])).flatMap (·.piece))]) := by
    constructor
    · rintro ⟨it, hRun', hHanded⟩
      obtain ⟨-, rfl⟩ := EStateM.Result.ok.inj (hRun.symm.trans hRun')
      exact hHanded
    · exact fun hHanded => ⟨it', hRun, hHanded⟩
  rw [Delivers, hHanded, hFrames]
  cases hSome : unpacker.onFrameHandler with
  | none => exact absurd hSome hHandler
  | some handed =>
    rw [Option.map_some, Option.map_some, Option.some.injEq, List.append_cancel_left_eq,
      List.singleton_inj, (frameOf_injective last.header.timestamp).eq_iff]

end Fragment

/-! ### All layouts -/

/-- Which packets the unpacker takes apart into the NAL units that they were made of: all STAP-A; the
STAP-B whose F and NRI bits are clear; the MTAP without units, and those whose F and NRI bits are
clear, whose sizes count the bytes before a unit and whose timestamp offsets are not zero; fragments
that find the buffer empty and whose F and NRI bits are clear, or which have no DON. -/
theorem aggregation_iff {unpacker : VideoUnPacker} (hHandler : unpacker.onFrameHandler ≠ none) :
    (∀ (packet : RtpPacket) (header : UInt8) (nalus : List (List UInt8)), packet.Readable →
      header &&& 0x1F = STAP_A → packet.payload = stapPayload header [] nalus →
      (∀ nalu ∈ nalus, Sized nalu) → Delivers unpacker [packet] packet.header.timestamp nalus) ∧
    (∀ (packet : RtpPacket) (header : UInt8) (don : UInt16) (nalus : List (List UInt8)),
      packet.Readable → header &&& 0x1F = STAP_B →
      packet.payload = stapPayload header (toBE 2 don.toNat) nalus → (∀ nalu ∈ nalus, Sized nalu) →
      (Delivers unpacker [packet] packet.header.timestamp nalus ↔ header &&& 0xE0 = 0)) ∧
    (∀ (t : UInt8) (n : Nat), TsBytes t n → ∀ (packet : RtpPacket) (header : UInt8) (donb : UInt16)
      (counted : Nat) (units : List MtapUnit), packet.Readable → header &&& 0x1F = t →
      packet.payload = mtapPayload header donb n counted units →
      (∀ unit ∈ units, unit.Fits n counted) →
      (Delivers unpacker [packet] packet.header.timestamp (units.map (·.nalu)) ↔ units = [] ∨
        header &&& 0xE0 = 0 ∧ counted = n + 1 ∧ ∀ unit ∈ units, unit.tsOffset ≠ 0)) ∧
    ∀ (header : UInt8) (first last : RtpPacket) (middle : List RtpPacket) (start stop : Fragment)
      (fragments : List Fragment), Fragment.Brings header FU_START first start →
      List.Forall₂ (Fragment.Brings header 0) middle fragments →
      Fragment.Brings header FU_END last stop →
      (Delivers unpacker (first :: (middle ++ [last])) last.header.timestamp
          [header :: (start :: (fragments ++ [stop])).flatMap (·.piece)] ↔
        unpacker.fuBuffer = [] ∧ (header &&& 0xE0 = 0 ∨
          ∀ fragment ∈ start :: (fragments ++ [stop]), fragment.don = none)) := by
  refine ⟨?_, ?_, ?_, ?_⟩
  · intro packet header nalus hPacket hType hPayload hSized
    have hNot : ¬header = STAP_B := by
      rintro rfl
      exact absurd hType (by decide)
    exact delivers_stap hPacket (.inl hType) hPayload (if_neg hNot).symm hSized
  · intro packet header don nalus hPacket hType hPayload hSized
    exact delivers_stapB_iff hHandler hPacket hType hPayload (length_toBE 2 _) hSized
  · intro t n hTs packet header donb counted units hPacket hType hPayload hFits
    exact delivers_mtap_iff hTs hHandler hPacket hType hPayload hFits
  · intro header first last middle start stop fragments hFirst hMiddle hLast
    exact Fragment.delivers_fragments_iff hFirst hMiddle hLast hHandler

def arrivedHeader : RtpHeader where
  version := 2
  paddingFlag := 0
  extensionFlag := 0
  cc := 0
  marker := 1
  payloadType := 96
  seqNumber := 1
  timestamp := 3000
  ssrc := 1
  csrcs := []

/-- A packet with this payload, at 3000 ticks. -/
def arrived (payload : List UInt8) : RtpPacket := .carrying arrivedHeader payload

theorem wellFormed_arrivedHeader : arrivedHeader.WellFormed where
  version := by decide
  paddingFlag := by decide
  extensionFlag := by decide
  cc := by decide
  marker := by decide
  payloadType := by decide
  csrcs := rfl

theorem flags_arrivedHeader : arrivedHeader.extensionFlag ≠ 1 ∧ arrivedHeader.paddingFlag ≠ 1 := by
  decide

theorem readable_arrived (payload : List UInt8) : (arrived payload).Readable where
  header := wellFormed_arrivedHeader
  extension := ⟨fun hFlag => absurd hFlag flags_arrivedHeader.1, fun _ => ⟨rfl, rfl, rfl⟩⟩
  padding := ⟨fun hFlag => absurd hFlag flags_arrivedHeader.2, fun _ => rfl⟩

theorem sized_sets : ∀ nalu ∈ [[0x67, 0x64], [(0x68 : UInt8), 0xee]], Sized nalu := by
  intro nalu hMem
  simp only [List.mem_cons, List.not_mem_nil, or_false] at hMem
  rcases hMem with rfl | rfl
  · exact ⟨by decide, by decide⟩
  · exact ⟨by decide, by decide⟩

theorem stapA_taken_apart : Delivers .new
    [arrived (stapPayload 0x78 [] [[0x67, 0x64], [0x68, 0xee]])] 3000 [[0x67, 0x64], [0x68, 0xee]] :=
  (aggregation_iff (Option.some_ne_none [])).1 _ 0x78 _ (readable_arrived _) (by decide) rfl sized_sets

/-- The usual first byte of a STAP-B, with NRI bits set, leaves its DON in place. -/
theorem stapB_misread : ¬Delivers .new
    [arrived (stapPayload 0x79 [0x00, 0x05] [[0x67, 0x64], [0x68, 0xee]])] 3000
    [[0x67, 0x64], [0x68, 0xee]] := by
  intro hDelivers
  have hClear := (delivers_stapB_iff (Option.some_ne_none []) (readable_arrived _) (by decide) rfl
    rfl sized_sets).mp hDelivers
  exact absurd hClear (by decide)

end Xiu.Rtsp.Rtp
