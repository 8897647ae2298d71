import Xiu.Rtsp.Rtp.Hostile
import Xiu.Rtsp.Rtp.Marshal

/-! AAC over RTP, of `protocol/rtsp/src/rtp/rtp_aac.rs`: the packer, what the unpacker makes of its
packets, and of packets with several access units in the AAC-hbr mode. -/

namespace Xiu.Rtsp.Rtp

open Bytesio ProofKit Bytesio.Read StreamHub

/-- The fields of `RtpAacPacker`.  `packets` are those that the packet handler has been given; the
handler takes every packet. -/
structure RtpAacPacker where
  header : RtpHeader
  packets : List RtpPacket

namespace RtpAacPacker

def new (payloadType : UInt8) (ssrc : UInt32) (initSeq : UInt16) : RtpAacPacker where
  header :=
    { version := 2
      paddingFlag := 0
      extensionFlag := 0
      cc := 0
      marker := 1
      payloadType := payloadType
      seqNumber := initSeq
      timestamp := 0
      ssrc := ssrc
      csrcs := [] }
  packets := []

/-- The payload of an access unit: 16 bits of AU headers, one AU header, and the unit. -/
def payload (data : List UInt8) : List UInt8 :=
  toBE 2 16 ++ [UInt8.ofNat (data.length >>> 5), UInt8.ofNat ((data.length &&& 0x1F) <<< 3)] ++ data

/-- The packet that `pack` makes. -/
def packet (self : RtpAacPacker) (data : List UInt8) (timestamp : UInt32) : RtpPacket :=
  .carrying { self.header with timestamp } (payload data)

/-- `pack` hands one packet to the handler; it fails only where the handler does. -/
def pack (self : RtpAacPacker) (data : List UInt8) (timestamp : UInt32) : RtpAacPacker where
  header := { self.header with timestamp, seqNumber := self.header.seqNumber + 1 }
  packets := self.packets ++ [self.packet data timestamp]

/-- A packer after some access units with their timestamps. -/
def packAll (self : RtpAacPacker) (units : List (List UInt8 × UInt32)) : RtpAacPacker :=
  units.foldl (fun self unit => self.pack unit.1 unit.2) self

theorem plain_packAll {self : RtpAacPacker} (h : self.header.Plain)
    (units : List (List UInt8 × UInt32)) : (self.packAll units).header.Plain := by
  induction units generalizing self with
  | nil => exact h
  | cons unit rest ih =>
    rw [packAll, List.foldl_cons]
    exact ih ⟨h.version, h.paddingFlag, h.extensionFlag, h.cc, h.csrcs⟩

end RtpAacPacker

/-! ### Sizes -/

theorem and_f8 (lo : UInt8) : lo.toUInt16 &&& (0xF8 : UInt16) = (lo &&& 0xF8).toUInt16 := by
  revert lo
  exact forall_byte (by decide +kernel)

theorem toNat_and_f8 (lo : UInt8) : (lo &&& 0xF8).toNat = lo.toNat / 8 * 8 := by
  revert lo
  exact forall_byte (by decide +kernel)

theorem auLength_eq (hi lo : UInt8) : auLength hi lo = (256 * hi.toNat + lo.toNat) / 8 := by
  rw [auLength, and_f8, toNat_shift_or, toNat_and_f8]
  omega

/-- The size in the AU header that the packer writes. -/
theorem auLength_packed (n : Nat) :
    auLength (UInt8.ofNat (n >>> 5)) (UInt8.ofNat ((n &&& 0x1F) <<< 3)) = n % 2 ^ 13 := by
  have hLow : n &&& 0x1F = n % 2 ^ 5 := Nat.and_two_pow_sub_one_eq_mod n 5
  rw [auLength_eq, UInt8.toNat_ofNat', UInt8.toNat_ofNat', hLow, Nat.shiftRight_eq_div_pow,
    Nat.shiftLeft_eq]
  omega

/-- The size in an AU header of 13 bits for the size and 3 for the index. -/
theorem auLengths_toBE {size index n : Nat} (hSize : size < 2 ^ 13) (hIndex : index < 8)
    (rest : List UInt8) :
    auLengths (n + 1) (toBE 2 (8 * size + index) ++ rest) = size :: auLengths n rest := by
  simp only [toBE, toLE, List.reverse_cons, List.reverse_nil, List.nil_append, List.cons_append]
  rw [auLengths, auLength_eq, UInt8.toNat_ofNat', UInt8.toNat_ofNat']
  congr 1
  omega

/-! ### Unpacking -/

/-- The frames of access units from number `i` on, 1024 ticks apart. -/
def auFrames (timestamp : UInt32) : Nat → List (List UInt8) → List FrameData
  | _, [] => []
  | i, data :: rest =>
    .audio (timestamp + UInt32.ofNat (1024 * i)) data :: auFrames timestamp (i + 1) rest

/-- An unpacker with a frame handler takes the packet and hands over these frames. -/
def RtpAacUnPacker.Delivers (handed : List FrameData) (packet : List UInt8)
    (frames : List FrameData) : Prop :=
  ∃ s, RtpAacUnPacker.unpack ⟨⟨some handed⟩, ⟨packet⟩⟩ = .ok () s ∧
    s.owner = ⟨some (handed ++ frames)⟩

theorem auTimestamp_eq (timestamp : UInt32) (i : Nat) :
    UInt32.ofNat (timestamp.toNat + i * 1024) = timestamp + UInt32.ofNat (1024 * i) := by
  rw [UInt32.ofNat_add, UInt32.ofNat_toNat, Nat.mul_comm]

/-- The units are handed over when their timestamps fit. -/
theorem onAus_ok {timestamp : UInt32} {units : List (List UInt8)} {i : Nat} {handed : List FrameData}
    {rest : List UInt8} (hNumber : i + units.length < 2 ^ 22)
    (hTimes : ∀ k < units.length, timestamp.toNat + (i + k) * 1024 < 2 ^ 32) :
    RtpAacUnPacker.onAus timestamp i (units.map List.length)
        ⟨⟨some handed⟩, ⟨units.flatten ++ rest⟩⟩ =
      .ok () ⟨⟨some (handed ++ auFrames timestamp i units)⟩, ⟨rest⟩⟩ := by
  induction units generalizing i handed with
  | nil => rw [auFrames, List.append_nil]; rfl
  | cons data units ih =>
    rw [List.length_cons] at hNumber hTimes
    have hOffset : (UInt32.ofNat i).toNat = i := UInt32.toNat_ofNat_of_lt' (by
      rw [UInt32.size]
      omega)
    have hOffset' : (UInt32.ofNat (i * 1024)).toNat = i * 1024 := UInt32.toNat_ofNat_of_lt' (by
      rw [UInt32.size]
      omega)
    have hTime : timestamp.toNat + i * 1024 < 2 ^ 32 := hTimes 0 (Nat.succ_pos _)
    have hRest := @ih (i + 1) (handed ++ [.audio (timestamp + UInt32.ofNat (1024 * i)) data])
      (by omega) (fun k hk => by
        have hNext := hTimes (k + 1) (by omega)
        rwa [show i + (k + 1) = i + 1 + k by omega] at hNext)
    rw [List.map_cons, RtpAacUnPacker.onAus, List.flatten_cons, List.append_assoc,
      bind_of_ok (readBytes_append rfl), bind_owner]
    dsimp only
    rw [hOffset, checkedU32_ok (by omega), bind_of_ok pure_apply, hOffset', checkedU32_ok hTime,
      bind_of_ok pure_apply, bind_act, auTimestamp_eq, hRest, auFrames, List.append_assoc]
    rfl

/-- The headers are read, and the units are what follows. -/
theorem aac_unpackPayload_eq {timestamp : UInt32} {n : Nat} {headers rest : List UInt8}
    (hBits : 16 * n < 2 ^ 16) (hHeaders : headers.length = 2 * n) (it : RtpAacUnPacker) :
    RtpAacUnPacker.unpackPayload timestamp (toBE 2 (16 * n) ++ (headers ++ rest)) it =
      readOver rest (RtpAacUnPacker.onAus timestamp 0 (auLengths n (headers ++ rest))) it := by
  have hDecode : BytesReader.decodeU16 .bigEndian (toBE 2 (16 * n)) = UInt16.ofNat (16 * n) := by
    have hRead := BytesReader.decodeU16_encode .bigEndian (UInt16.ofNat (16 * n))
    rwa [UInt16.toNat_ofNat_of_lt' hBits] at hRead
  have hTwo : 2 ≤ (toBE 2 (16 * n) ++ (headers ++ rest)).length := by
    rw [List.length_append, length_toBE]
    omega
  have hNumber : ((UInt16.ofNat ((UInt16.ofNat (16 * n)).toNat + 7)) / 8 / 2).toNat = n := by
    rw [UInt16.toNat_ofNat_of_lt' hBits, UInt16.toNat_div, UInt16.toNat_div,
      UInt16.toNat_ofNat_of_lt' (by rw [UInt16.size]; omega)]
    simp only [UInt16.reduceToNat]
    omega
  apply readOver_congr
  rw [bind_of_ok (readU16_ok hTwo), List.take_left' (length_toBE 2 _),
    List.drop_left' (length_toBE 2 _), hDecode,
    checkedU16_ok (by rw [UInt16.toNat_ofNat_of_lt' hBits]; omega), bind_of_ok pure_apply, hNumber,
    bind_of_ok (readAuLengths_ok (by rw [List.length_append]; omega)), List.drop_left' hHeaders]

/-! ### The packer's packets -/

theorem payload_eq (data : List UInt8) : RtpAacPacker.payload data =
    toBE 2 (16 * 1) ++ ([UInt8.ofNat (data.length >>> 5),
      UInt8.ofNat ((data.length &&& 0x1F) <<< 3)] ++ data) := List.append_assoc ..

/-- Of a packed unit the unpacker hands over as much as 13 bits count. -/
theorem unpackPayload_packed (timestamp : UInt32) (data : List UInt8) (handed : List FrameData) :
    RtpAacUnPacker.unpackPayload timestamp (RtpAacPacker.payload data) ⟨some handed⟩ =
      .ok () ⟨some (handed ++ [.audio timestamp (data.take (data.length % 2 ^ 13))])⟩ := by
  have hLengths : auLengths 1 ([UInt8.ofNat (data.length >>> 5),
      UInt8.ofNat ((data.length &&& 0x1F) <<< 3)] ++ data) = [data.length % 2 ^ 13] := by
    rw [List.cons_append, List.cons_append, auLengths, auLength_packed, auLengths]
    rintro n hi lo rest h
    cases h
  have hTaken : (data.take (data.length % 2 ^ 13)).length = data.length % 2 ^ 13 :=
    List.length_take_of_le (Nat.mod_le ..)
  have hRun := @onAus_ok timestamp [data.take (data.length % 2 ^ 13)] 0 handed
    (data.drop (data.length % 2 ^ 13)) (by rw [List.length_singleton]; decide) (fun k hk => by
      have hTime := timestamp.toNat_lt
      simp only [List.length_singleton] at hk
      omega)
  rw [List.map_singleton, hTaken, List.flatten_singleton, List.take_append_drop] at hRun
  rw [payload_eq, aac_unpackPayload_eq (by decide) rfl, hLengths]
  rw [readOver_ok hRun, auFrames, auFrames]
  simp

theorem take_mod_eq_iff (data : List UInt8) :
    data.take (data.length % 2 ^ 13) = data ↔ data.length < 2 ^ 13 := by
  constructor
  · intro hAll
    have hLength := congrArg List.length hAll
    rw [List.length_take] at hLength
    have hMod := Nat.mod_lt data.length (show 0 < 2 ^ 13 by decide)
    omega
  · intro hLess
    rw [Nat.mod_eq_of_lt hLess, List.take_length]

/-- A packed unit comes back exactly when 13 bits count its bytes. -/
theorem delivers_packed_iff {packer : RtpAacPacker} (hPlain : packer.header.Plain)
    (data : List UInt8) (timestamp : UInt32) (handed : List FrameData) :
    RtpAacUnPacker.Delivers handed (packer.packet data timestamp).marshal
      [.audio timestamp data] ↔ data.length < 2 ^ 13 := by
  have hPlain' : RtpHeader.Plain { packer.header with timestamp } :=
    ⟨hPlain.version, hPlain.paddingFlag, hPlain.extensionFlag, hPlain.cc, hPlain.csrcs⟩
  obtain ⟨read, s, hRead, hOwner, hPayload, -, hTime⟩ :=
    unmarshal_marshal_carrying (⟨some handed⟩ : RtpAacUnPacker) hPlain' (RtpAacPacker.payload data)
  have hRun : RtpAacUnPacker.unpack ⟨⟨some handed⟩, ⟨(packer.packet data timestamp).marshal⟩⟩ =
      .ok () ⟨⟨some (handed ++ [.audio timestamp (data.take (data.length % 2 ^ 13))])⟩, s.reader⟩ := by
    rw [RtpAacPacker.packet, RtpAacUnPacker.unpack, bind_of_ok hRead, hPayload, hTime]
    have hUnpack := unpackPayload_packed timestamp data handed
    obtain ⟨it, reader⟩ := s
    dsimp only at hOwner
    subst hOwner
    exact onOwner_ok hUnpack
  rw [← take_mod_eq_iff]
  constructor
  · rintro ⟨s', hRun', hFrames⟩
    obtain ⟨-, rfl⟩ := EStateM.Result.ok.inj (hRun.symm.trans hRun')
    simpa using hFrames
  · intro hWhole
    refine ⟨_, hRun, ?_⟩
    rw [hWhole]

/-! ### Packets with several access units -/

/-- An access unit of the AAC-hbr mode: its size has 13 bits and its index 3. -/
structure HbrUnit where
  data : List UInt8
  index : Fin 8
  size : data.length < 2 ^ 13

/-- The AU header of a unit. -/
def HbrUnit.header (unit : HbrUnit) : List UInt8 := toBE 2 (8 * unit.data.length + unit.index)

/-- The payload of some units: the length of their headers in bits, the headers, and the units. -/
def hbrPayload (units : List HbrUnit) : List UInt8 :=
  toBE 2 (16 * units.length) ++ (units.flatMap (·.header) ++ (units.map (·.data)).flatten)

theorem length_hbrHeaders (units : List HbrUnit) :
    (units.flatMap (·.header)).length = 2 * units.length := by
  induction units with
  | nil => rfl
  | cons unit rest ih =>
    rw [List.flatMap_cons, List.length_append, ih, HbrUnit.header, length_toBE, List.length_cons]
    omega

theorem auLengths_hbr (units : List HbrUnit) (rest : List UInt8) :
    auLengths units.length (units.flatMap (·.header) ++ rest) =
      (units.map (·.data)).map List.length := by
  induction units with
  | nil => rfl
  | cons unit units ih =>
    rw [List.flatMap_cons, List.length_cons, List.append_assoc, HbrUnit.header,
      auLengths_toBE unit.size unit.index.isLt, ih, List.map_cons, List.map_cons]

theorem hbr_unpackPayload_iff {units : List HbrUnit} (hFits : 16 * units.length < 2 ^ 16)
    (timestamp : UInt32) (handed : List FrameData) :
    RtpAacUnPacker.unpackPayload timestamp (hbrPayload units) ⟨some handed⟩ =
        .ok () ⟨some (handed ++ auFrames timestamp 0 (units.map (·.data)))⟩ ↔
      timestamp.toNat + 1024 * (units.length - 1) < 2 ^ 32 := by
  rw [hbrPayload, aac_unpackPayload_eq hFits (length_hbrHeaders units), auLengths_hbr]
  have hLength : (units.map (·.data)).length = units.length := List.length_map ..
  have hNumber : 0 + (units.map (·.data)).length < 2 ^ 22 := by
    rw [hLength]
    omega
  constructor
  · intro hRun
    by_contra hLate
    have hPanics := (@onAus_panics_iff ⟨some handed⟩ (units.map (·.data)).flatten timestamp 0
      ((units.map (·.data)).map List.length) (by rwa [List.length_map])
      (Option.some_ne_none handed)).mpr ?_
    · obtain ⟨s, hPanic⟩ := hPanics
      cases (readOver_error hPanic).symm.trans hRun
    · intro hAll
      have hTime := timestamp.toNat_lt
      have hLast := hAll (units.length - 1) (by rw [List.length_map, hLength]; omega) (by
        rw [List.take_of_length_le (by rw [List.length_map, hLength]; omega), List.length_flatten])
      omega
  · intro hTimes
    have hRun := @onAus_ok timestamp (units.map (·.data)) 0 handed [] hNumber (fun k hk => by
      rw [hLength] at hk
      omega)
    rw [List.append_nil] at hRun
    exact readOver_ok hRun

/-- The units of a packet are handed over exactly when their timestamps need not wrap. -/
theorem delivers_hbr_iff {handed : List FrameData} {packet : List UInt8} {read : RtpPacket}
    {s : Reading RtpAacUnPacker} {units : List HbrUnit}
    (hRead : RtpPacket.unmarshal ⟨⟨some handed⟩, ⟨packet⟩⟩ = .ok read s)
    (hPayload : read.payload = hbrPayload units) (hFits : 16 * units.length < 2 ^ 16) :
    RtpAacUnPacker.Delivers handed packet
        (auFrames read.header.timestamp 0 (units.map (·.data))) ↔
      read.header.timestamp.toNat + 1024 * (units.length - 1) < 2 ^ 32 := by
  have hOwner : s.owner = ⟨some handed⟩ := (RtpPacket.codes_unmarshal.encodes _ _ _ hRead).2.2.1
  have hUnpack : RtpAacUnPacker.unpack ⟨⟨some handed⟩, ⟨packet⟩⟩ =
      onOwner (RtpAacUnPacker.unpackPayload read.header.timestamp (hbrPayload units)) s := by
    rw [RtpAacUnPacker.unpack, bind_of_ok hRead, hPayload]
  rw [← hbr_unpackPayload_iff hFits read.header.timestamp handed, RtpAacUnPacker.Delivers, hUnpack,
    ← hOwner]
  exact onOwner_ok_iff

theorem RtpAacPacker.plain_new (payloadType : UInt8) (ssrc : UInt32) (initSeq : UInt16) :
    (RtpAacPacker.new payloadType ssrc initSeq).header.Plain := ⟨rfl, rfl, rfl, rfl, rfl⟩

/-- What the packer sends comes back when 13 bits count it, and the units of a packet are handed over
when the timestamp of the last one is below `2 ^ 32`. -/
theorem aac_round_trip_iff (handed : List FrameData) :
    (∀ (payloadType : UInt8) (ssrc : UInt32) (initSeq : UInt16) (before : List (List UInt8 × UInt32))
      (data : List UInt8) (timestamp : UInt32),
      RtpAacUnPacker.Delivers handed
        (((RtpAacPacker.new payloadType ssrc initSeq).packAll before).packet data timestamp).marshal
        [.audio timestamp data] ↔ data.length < 2 ^ 13) ∧
    ∀ (packet : List UInt8) (read : RtpPacket) (s : Reading RtpAacUnPacker) (units : List HbrUnit),
      RtpPacket.unmarshal ⟨⟨some handed⟩, ⟨packet⟩⟩ = .ok read s →
      read.payload = hbrPayload units → 16 * units.length < 2 ^ 16 →
      (RtpAacUnPacker.Delivers handed packet
          (auFrames read.header.timestamp 0 (units.map (·.data))) ↔
        read.header.timestamp.toNat + 1024 * (units.length - 1) < 2 ^ 32) := by
  constructor
  · intro payloadType ssrc initSeq before data timestamp
    exact delivers_packed_iff
      (RtpAacPacker.plain_packAll (RtpAacPacker.plain_new payloadType ssrc initSeq) before) ..
  · intro packet read s units hRead hPayload hFits
    exact delivers_hbr_iff hRead hPayload hFits

theorem twoBytes_fit : [(0x21 : UInt8), 0x00].length < 2 ^ 13 := by decide

/-- A packet with two units of two bytes, at 1000 ticks. -/
def twoUnits : List UInt8 :=
  [0x80, 0xe1, 0x00, 0x07, 0x00, 0x00, 0x03, 0xe8, 0x00, 0x00, 0x00, 0x01,
    0x00, 0x20, 0x00, 0x10, 0x00, 0x10, 0x21, 0x00, 0x21, 0x00]

theorem twoUnits_delivered : RtpAacUnPacker.Delivers [] twoUnits
    [.audio 1000 [0x21, 0x00], .audio 2024 [0x21, 0x00]] :=
  ((aac_round_trip_iff []).2 twoUnits _ _
    [⟨[0x21, 0x00], 0, twoBytes_fit⟩, ⟨[0x21, 0x00], 0, twoBytes_fit⟩] rfl rfl (by decide)).mpr
    (by decide)

/-- A unit of 8192 bytes comes back empty. -/
theorem longUnit_lost : ¬RtpAacUnPacker.Delivers []
    ((RtpAacPacker.new 97 1 0).packet (List.replicate 8192 0) 0).marshal
    [.audio 0 (List.replicate 8192 0)] := by
  intro hDelivers
  have hLess := (delivers_packed_iff (RtpAacPacker.plain_new 97 1 0) (List.replicate 8192 0) 0 []).mp
    hDelivers
  rw [List.length_replicate] at hLess
  exact absurd hLess (by decide)

end Xiu.Rtsp.Rtp
