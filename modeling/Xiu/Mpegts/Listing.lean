import Xiu.Mpegts.Iso

/-! How the tables of an output and the packets that start an access unit are read by the rules of
ISO 13818-1, independently of how the muxer writes them. -/

namespace Xiu.Mpegts

open Bytesio ProofKit TsMuxer

/-! ### The rules -/

/-- A number of two bytes. -/
def wordOf (hi lo : UInt8) : UInt16 := (hi.toUInt16 <<< 8) ||| lo.toUInt16

/-- The section that starts in a payload, behind the pointer field: its table id, and what its length
counts without the checksum. -/
def sectionIn : List UInt8 → Option (UInt8 × List UInt8)
  | [] => none
  | pointer :: payload =>
    match payload.drop pointer.toNat with
    | tableId :: hi :: lo :: rest =>
      some (tableId, rest.take ((wordOf (hi &&& 0x0F) lo).toNat - 4))
    | _ => none

def sectionOf (packet : List UInt8) : Option (UInt8 × List UInt8) :=
  if startsUnit packet then sectionIn (splitField packet).2 else none

/-- The entries of a PAT: program numbers, and the pids of their tables. -/
def programsIn : List UInt8 → List (UInt16 × UInt16)
  | a :: b :: c :: d :: rest => (wordOf a b, wordOf (c &&& 0x1F) d) :: programsIn rest
  | _ => []

/-- The entries of a PMT: stream types, and the pids of the streams.  The number bounds how many. -/
def streamsIn : Nat → List UInt8 → List (UInt8 × UInt16)
  | n + 1, streamType :: a :: b :: c :: d :: rest =>
    (streamType, wordOf (a &&& 0x1F) b) :: streamsIn n (rest.drop (wordOf (c &&& 0x0F) d).toNat)
  | _, _ => []

/-- What a PAT tells. -/
def parsePat (table : UInt8 × List UInt8) : Option (List (UInt16 × UInt16)) :=
  if table.1 = 0x00 then some (programsIn (table.2.drop 5)) else none

/-- What a PMT tells: the pid of the clock reference, and the streams. -/
def parsePmt (table : UInt8 × List UInt8) : Option (UInt16 × List (UInt8 × UInt16)) :=
  match table.2.drop 5 with
  | a :: b :: c :: d :: rest =>
    if table.1 = 0x02 then
      some (wordOf (a &&& 0x1F) b,
        streamsIn rest.length (rest.drop (wordOf (c &&& 0x0F) d).toNat))
    else none
  | _ => none

/-- The programs, where the packet is a PAT. -/
def patOf (packet : List UInt8) : Option (List (UInt16 × UInt16)) :=
  if pidOf packet = 0 then (sectionOf packet).bind parsePat else none

/-- The clock reference and the streams, where the packet is a PMT on a pid. -/
def pmtOf (pid : UInt16) (packet : List UInt8) : Option (UInt16 × List (UInt8 × UInt16)) :=
  if pidOf packet = pid then (sectionOf packet).bind parsePmt else none

/-- A PES packet starts. -/
def startsPes (packet : List UInt8) : Bool :=
  startsUnit packet && (splitField packet).2.take 3 == [0x00, 0x00, 0x01]

def carriesPcr (packet : List UInt8) : Bool := (pcrBaseOf (splitField packet).1).isSome

def randomAccess (packet : List UInt8) : Bool := (splitField packet).1.headD 0 &&& 0x40 > 0

/-- The pid of the clock reference in the last PMT. -/
def lastClock (pmtPid : UInt16) (packets : List (List UInt8)) : Option UInt16 :=
  (packets.filterMap (pmtOf pmtPid)).getLast?.map (·.1)

/-! ### The packets of the muxer -/

theorem sectionOf_bytes (p : TsPacket) :
    sectionOf p.bytes = if p.start then sectionIn p.payload else none := by
  rw [sectionOf, startsUnit_bytes, splitField_bytes]

theorem pmtOf_ne {pmtPid : UInt16} {p : TsPacket} (hPid : p.pid.toNat < 0x2000)
    (h : p.pid ≠ pmtPid) : pmtOf pmtPid p.bytes = none := by
  rw [pmtOf, pidOf_bytes p hPid, if_neg h]

/-- The first packet of an access unit. -/
theorem startsPes_nextPacket (stream : Pes) (pcrPid : UInt16) (withAud : Bool)
    (data : List UInt8) : startsPes (nextPacket true stream pcrPid withAud data).bytes = true := by
  rw [startsPes, startsUnit_bytes, splitField_bytes]
  rfl

/-- Only a stream that carries the clock reference has it in its packets. -/
theorem carriesPcr_nextPacket {stream : Pes} {pcrPid : UInt16} {withAud : Bool} {data : List UInt8}
    (h : carriesPcr (nextPacket true stream pcrPid withAud data).bytes = true) :
    stream.pid = pcrPid := by
  rw [carriesPcr, splitField_bytes] at h
  by_contra hPid
  have hNone : ∀ n, pcrBaseOf ((stuffed (startField stream pcrPid) n).getD []) = none := by
    intro n
    unfold startField
    by_cases hRandom : RandomAccess stream
    · obtain ⟨rest, hRest⟩ := stuffed_some [fieldFlags stream pcrPid] n
      rw [if_pos (Or.inr hRandom), if_neg hPid, hRest]
      apply pcrBaseOf_none
      rw [fieldFlags, if_neg hPid, if_pos hRandom]
      decide
    · rw [if_neg (not_or.mpr ⟨hPid, hRandom⟩)]
      exact pcrBaseOf_stuffing n
  have hSome : (pcrBaseOf ((stuffed (startField stream pcrPid) _).getD [])).isSome = true := h
  rw [hNone] at hSome
  cases hSome

theorem randomAccess_nextPacket {stream : Pes} (h : RandomAccess stream) (pcrPid : UInt16)
    (withAud : Bool) (data : List UInt8) :
    randomAccess (nextPacket true stream pcrPid withAud data).bytes = true := by
  have hFlags : ∀ flags : UInt8, (flags ||| AF_FLAG_RANDOM_ACCESS_INDICATOR) &&& 0x40 > 0 :=
    forall_byte (by decide +kernel)
  have hField : ∀ n, (((stuffed (startField stream pcrPid) n).getD []).headD 0) =
      fieldFlags stream pcrPid := by
    intro n
    unfold startField
    rw [if_pos (Or.inr h)]
    obtain ⟨rest, hRest⟩ :=
      stuffed_some (fieldFlags stream pcrPid :: if stream.pid = pcrPid then stream.pcr else []) n
    rw [hRest]
    rfl
  rw [randomAccess, splitField_bytes]
  show decide (((stuffed (startField stream pcrPid) _).getD []).headD 0 &&& (0x40 : UInt8) > 0) = true
  rw [hField, fieldFlags, if_pos h]
  exact decide_eq_true (hFlags _)

/-- The other packets of an access unit carry no clock reference. -/
theorem restPackets_quiet {pid : UInt16} {c : UInt8} {data : List UInt8} {p : TsPacket}
    (h : p ∈ restPackets pid c data) : p.pid = pid ∧ carriesPcr p.bytes = false := by
  induction hn : data.length using Nat.strongRecOn generalizing c data with
  | ind n ih =>
    subst hn
    by_cases hData : data = []
    · subst hData
      rw [restPackets_nil] at h
      cases h
    · rw [restPackets_more _ _ hData] at h
      rcases List.mem_cons.mp h with rfl | h
      · refine ⟨rfl, ?_⟩
        rw [carriesPcr, splitField_bytes]
        exact congrArg Option.isSome (pcrBaseOf_stuffing _)
      · have hDrop : (data.drop 184).length < data.length := by
          have := List.length_pos_iff.mpr hData
          rw [List.length_drop]
          omega
        exact ih _ hDrop h rfl

/-- The packets of an access unit are of the pid of its stream, and carry the clock reference only where
the program says so. -/
theorem mem_accessUnit {stream : Pes} {pcrPid : UInt16} {withAud : Bool} {payload : List UInt8}
    {p : TsPacket} (h : p ∈ accessUnit stream pcrPid withAud payload) :
    p.pid = stream.pid ∧ (carriesPcr p.bytes = true → stream.pid = pcrPid) := by
  unfold accessUnit at h
  split at h
  · cases h
  · rcases List.mem_cons.mp h with rfl | h
    · exact ⟨rfl, carriesPcr_nextPacket⟩
    · obtain ⟨hPid, hQuiet⟩ := restPackets_quiet h
      refine ⟨hPid, ?_⟩
      intro hPcr
      rw [hQuiet] at hPcr
      cases hPcr

end Xiu.Mpegts
