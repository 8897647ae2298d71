import Mathlib.Logic.Function.Iterate
import Xiu.Mpegts.TsMuxer

/-! What the muxer writes, as packets that fill 188 bytes by construction: those of the tables, those of
an access unit, and what a call of `write` appends. -/

namespace Xiu.Mpegts

open Bytesio ProofKit

/-- A packet of 188 bytes. -/
structure TsPacket where
  start : Bool
  pid : UInt16
  continuityCounter : UInt8
  field : Option (List UInt8)
  payload : List UInt8
  whole : (fieldBytes field).length + payload.length = 184

namespace TsPacket

/-- The byte after the sync byte. -/
def startByte (start : Bool) (pid : UInt16) : UInt8 :=
  if start then (pid >>> 8).toUInt8 &&& 0x1F ||| TS_PAYLOAD_UNIT_START_INDICATOR
  else (pid >>> 8).toUInt8 &&& 0x1F

def bytes (p : TsPacket) : List UInt8 :=
  headerBytes 0x47 (startByte p.start p.pid) p.pid.toUInt8
    ((0x10 : UInt8) ||| p.continuityCounter &&& 0x0F) p.field ++ p.payload

theorem length_bytes (p : TsPacket) : p.bytes.length = 188 := by
  have := p.whole
  rw [bytes, List.length_append, length_headerBytes]
  omega

theorem head_bytes (p : TsPacket) : p.bytes.head? = some 0x47 := rfl

/-- How much of the payload fits a packet. -/
def room (field : Option (List UInt8)) (head : List UInt8) : Nat :=
  184 - (fieldBytes field).length - head.length

/-- The packet that takes as much of the data as fits, and stuffing where it is not full. -/
def filled (start : Bool) (pid : UInt16) (continuityCounter : UInt8) (field : Option (List UInt8))
    (head data : List UInt8) (hRoom : (fieldBytes field).length + head.length ≤ 184) : TsPacket where
  start
  pid
  continuityCounter
  field := stuffed field (room field head - data.length)
  payload := head ++ data.take (room field head)
  whole := by
    rw [length_fieldBytes_stuffed, List.length_append, List.length_take, room]
    omega

end TsPacket

/-- The counter of the next packet. -/
def nextCounter (continuityCounter : UInt8) : UInt8 := (continuityCounter + 1) % 16

/-! ### The tables -/

theorem tablePacket_whole (table : List UInt8) : (fieldBytes none).length +
    ((0x00 :: table ++ List.replicate 183 0xFF).take 184).length = 184 := by
  simp only [fieldBytes, List.length_take, List.length_append, List.length_cons, List.length_nil,
    List.length_replicate]
  omega

/-- The packet of a section. -/
def tablePacket (pid : UInt16) (table : List UInt8) (continuityCounter : UInt8) : TsPacket where
  start := true
  pid
  continuityCounter
  field := none
  payload := (0x00 :: table ++ List.replicate 183 0xFF).take 184
  whole := tablePacket_whole table

/-- The section of a program. -/
def Pmt.table (pmt : Pmt) : List UInt8 := pmt.write.toOption.getD []

/-- The packets of the programs, counted by one counter. -/
def pmtPackets : List Pmt → UInt8 → List TsPacket
  | [], _ => []
  | pmt :: rest, continuityCounter =>
    tablePacket pmt.pid pmt.table continuityCounter :: pmtPackets rest (nextCounter continuityCounter)

/-! ### An access unit -/

theorem startRoom (n : Nat) (stream : Pes) (pcrPid : UInt16) (withAud : Bool) :
    (fieldBytes (startField stream pcrPid)).length + (pesHeader n stream withAud).length ≤ 33 :=
  Nat.add_le_add (length_startField ..) (length_pesHeader ..)

/-- The adaptation field of a packet, before it is filled up. -/
def baseField (isStart : Bool) (stream : Pes) (pcrPid : UInt16) : Option (List UInt8) :=
  if isStart then startField stream pcrPid else none

/-- The PES header, on the first packet only. -/
def baseHead (isStart : Bool) (n : Nat) (stream : Pes) (withAud : Bool) : List UInt8 :=
  if isStart then pesHeader n stream withAud else []

theorem baseRoom (isStart : Bool) (n : Nat) (stream : Pes) (pcrPid : UInt16) (withAud : Bool) :
    (fieldBytes (baseField isStart stream pcrPid)).length +
      (baseHead isStart n stream withAud).length ≤ 33 := by
  cases isStart with
  | false => exact Nat.zero_le _
  | true => exact startRoom ..

/-- The next packet of an access unit. -/
def nextPacket (isStart : Bool) (stream : Pes) (pcrPid : UInt16) (withAud : Bool)
    (data : List UInt8) : TsPacket :=
  .filled isStart stream.pid stream.continuityCounter (baseField isStart stream pcrPid)
    (baseHead isStart data.length stream withAud) data (Nat.le_trans (baseRoom ..) (by decide))

/-- How much of the payload the next packet takes. -/
def nextLength (isStart : Bool) (stream : Pes) (pcrPid : UInt16) (withAud : Bool)
    (data : List UInt8) : Nat :=
  TsPacket.room (baseField isStart stream pcrPid) (baseHead isStart data.length stream withAud)

/-- The other packets of an access unit. -/
def restPackets (pid : UInt16) (continuityCounter : UInt8) (data : List UInt8) : List TsPacket :=
  if _h : data = [] then []
  else
    .filled false pid continuityCounter none [] data (Nat.zero_le _) ::
      restPackets pid (nextCounter continuityCounter) (data.drop 184)
termination_by data.length
decreasing_by
  have := List.length_pos_iff.mpr _h
  rw [List.length_drop]
  omega

/-- The packets of an access unit. -/
def accessUnit (stream : Pes) (pcrPid : UInt16) (withAud : Bool) (payload : List UInt8) :
    List TsPacket :=
  if payload = [] then []
  else
    nextPacket true stream pcrPid withAud payload ::
      restPackets stream.pid (nextCounter stream.continuityCounter)
        (payload.drop (nextLength true stream pcrPid withAud payload))

theorem restPackets_nil (pid : UInt16) (continuityCounter : UInt8) :
    restPackets pid continuityCounter [] = [] := by
  rw [restPackets, dif_pos rfl]

theorem restPackets_more (pid : UInt16) (continuityCounter : UInt8) {data : List UInt8}
    (h : data ≠ []) :
    restPackets pid continuityCounter data =
      .filled false pid continuityCounter none [] data (Nat.zero_le _) ::
        restPackets pid (nextCounter continuityCounter) (data.drop 184) := by
  rw [restPackets, dif_neg h]

namespace TsMuxer

/-! ### The state and the current stream -/

variable {m : TsMuxer} {pmt : Pmt} {stream : Pes}

@[simp] theorem append_append (m : TsMuxer) (bytes bytes' : List UInt8) :
    (m.append bytes).append bytes' = m.append (bytes ++ bytes') := by
  simp only [append, BytesWriter.write, List.append_assoc]

@[simp] theorem append_nil (m : TsMuxer) : m.append [] = m := by
  simp only [append, BytesWriter.write, List.append_nil]

theorem append_modifyStream (m : TsMuxer) (f : Pes → Pes) (bytes : List UInt8) :
    (m.modifyStream f).append bytes = (m.append bytes).modifyStream f := rfl

theorem modifyStream_modifyStream (m : TsMuxer) (f g : Pes → Pes) :
    (m.modifyStream f).modifyStream g = m.modifyStream fun stream => g (f stream) := by
  simp only [modifyStream, modifyPmt, List.modify_modify_eq, Function.comp_def]

theorem modifyStream_id (m : TsMuxer) : m.modifyStream (fun stream => stream) = m := by
  have hStreams : ∀ streams : List Pes,
      streams.modify m.curStreamIndex (fun stream => stream) = streams :=
    List.modify_id m.curStreamIndex
  have hPmts : m.pat.pmt.modify m.curPmtIndex (fun pmt => pmt) = m.pat.pmt :=
    List.modify_id m.curPmtIndex m.pat.pmt
  simp only [modifyStream, modifyPmt, hStreams, hPmts]

theorem curPmt?_modifyPmt (m : TsMuxer) (f : Pmt → Pmt) :
    (m.modifyPmt f).curPmt? = m.curPmt?.map f := List.getElem?_modify_eq ..

theorem curStream?_modifyStream (m : TsMuxer) (f : Pes → Pes) :
    (m.modifyStream f).curStream? = m.curStream?.map f := by
  show ((m.modifyPmt _).curPmt?.bind (·.streams[m.curStreamIndex]?)) = _
  rw [curPmt?_modifyPmt]
  cases hPmt : m.curPmt? with
  | none => simp [curStream?, hPmt]
  | some pmt => simp [curStream?, hPmt, List.getElem?_modify_eq]

theorem curPmt_of (h : m.curPmt? = some pmt) : curPmt m = .ok pmt m := by
  simp only [curPmt, h]

theorem curStream_of (h : m.curStream? = some stream) : curStream m = .ok stream m := by
  simp only [curStream, h]

/-! ### The loop of an access unit -/

/-- The stream has sent packets. -/
def counted (n : Nat) (stream : Pes) : Pes :=
  { stream with continuityCounter := nextCounter^[n] stream.continuityCounter }

/-- The current stream has sent packets. -/
def sent (m : TsMuxer) (packets : List TsPacket) : TsMuxer :=
  (m.append (packets.flatMap (·.bytes))).modifyStream (counted packets.length)

theorem sent_sent (m : TsMuxer) (packets packets' : List TsPacket) :
    (m.sent packets).sent packets' = m.sent (packets ++ packets') := by
  simp only [sent, append_modifyStream, append_append, modifyStream_modifyStream,
    List.flatMap_append, List.length_append]
  congr 1
  funext stream
  simp only [counted, Nat.add_comm packets.length, Function.iterate_add_apply]

theorem sent_nil (m : TsMuxer) : m.sent [] = m :=
  (congrArg (modifyStream · (counted 0)) (append_nil m)).trans (modifyStream_id m)

theorem pesHeaderFor_ok (hStream : m.curStream? = some stream) (isStart : Bool) (n : Nat) :
    pesHeaderFor isStart n m = .ok ⟨baseHead isStart n stream m.h264H265WithAud⟩ m := by
  cases isStart with
  | false => rfl
  | true =>
    refine (bind_of_ok (curStream_of hStream)).trans ?_
    rw [bind_get, writePesHeader_eq]
    rfl

theorem startHeader_ok {pcrPid : UInt16} (isStart : Bool) (a b c d : UInt8)
    (h : isStart = true → stream.pid = pcrPid → PcrFits stream) :
    (if isStart = true then writeStart stream pcrPid ⟨[a, b, c, d]⟩ else .ok ⟨[a, b, c, d]⟩) =
      .ok ⟨headerBytes a (if isStart then b ||| TS_PAYLOAD_UNIT_START_INDICATOR else b) c d
        (baseField isStart stream pcrPid)⟩ := by
  cases isStart with
  | false => rfl
  | true => exact writeStart_ok a b c d (h rfl)

theorem pesPacket_ok (hPmt : m.curPmt? = some pmt) (hStream : m.curStream? = some stream)
    (isStart : Bool) (data : List UInt8)
    (hPcr : isStart = true → stream.pid = pmt.pcrPid → PcrFits stream)
    (hFits : 4 + (fieldBytes (baseField isStart stream pmt.pcrPid)).length +
      (baseHead isStart data.length stream m.h264H265WithAud).length + data.length < 2 ^ 31) :
    ∃ headers, headers ++ data.take (nextLength isStart stream pmt.pcrPid m.h264H265WithAud data) =
        (nextPacket isStart stream pmt.pcrPid m.h264H265WithAud data).bytes ∧
      pesPacket isStart data.length m =
        .ok (headers, min (nextLength isStart stream pmt.pcrPid m.h264H265WithAud data) data.length)
          (m.modifyStream (counted 1)) := by
  have hControl : ∀ b : UInt8, ((0x10 : UInt8) ||| b &&& 0x0F) &&& 0x20 = 0 :=
    forall_byte (by decide +kernel)
  have hBase := baseRoom isStart data.length stream pmt.pcrPid m.h264H265WithAud
  have hSize : TS_PACKET_SIZE = 188 := rfl
  have hFill := fillUp_eq 0x47 (TsPacket.startByte isStart stream.pid) stream.pid.toUInt8
    (hControl stream.continuityCounter) (by omega) hFits
  have hRoom : TS_PACKET_SIZE - 4 - (fieldBytes (baseField isStart stream pmt.pcrPid)).length -
      (baseHead isStart data.length stream m.h264H265WithAud).length =
      nextLength isStart stream pmt.pcrPid m.h264H265WithAud data := rfl
  rw [hRoom] at hFill
  refine ⟨headerBytes 0x47 (TsPacket.startByte isStart stream.pid) stream.pid.toUInt8
    ((0x10 : UInt8) ||| stream.continuityCounter &&& 0x0F)
    (stuffed (baseField isStart stream pmt.pcrPid)
      (nextLength isStart stream pmt.pcrPid m.h264H265WithAud data - data.length)) ++
    baseHead isStart data.length stream m.h264H265WithAud, List.append_assoc .., ?_⟩
  refine (bind_of_ok (pesHeaderFor_ok hStream isStart data.length)).trans ?_
  refine (@bind_of_ok _ _ _ _ _ _ _ (m.modifyStream (counted 1)) (_, _) ?_).trans rfl
  refine (bind_of_ok (curPmt_of hPmt)).trans ((bind_of_ok (curStream_of hStream)).trans ?_)
  rw [bind_modify]
  refine (bind_ofExcept_ok (startHeader_ok isStart _ _ _ _ hPcr)).trans ?_
  exact (congrArg (ofExcept · (m.modifyStream (counted 1))) hFill).trans (ofExcept_ok _ _)

theorem curPmt?_sent (m : TsMuxer) (packets : List TsPacket) :
    (m.sent packets).curPmt? = m.curPmt?.map fun pmt =>
      { pmt with streams := pmt.streams.modify m.curStreamIndex (counted packets.length) } :=
  curPmt?_modifyPmt (m.append _) _

theorem curStream?_sent (m : TsMuxer) (packets : List TsPacket) :
    (m.sent packets).curStream? = m.curStream?.map (counted packets.length) :=
  curStream?_modifyStream (m.append _) _

theorem curPmt?_sent_of (h : m.curPmt? = some pmt) (packets : List TsPacket) :
    (m.sent packets).curPmt? = some
      { pmt with streams := pmt.streams.modify m.curStreamIndex (counted packets.length) } :=
  (curPmt?_sent m packets).trans (congrArg _ h)

theorem curStream?_sent_of (h : m.curStream? = some stream) (packets : List TsPacket) :
    (m.sent packets).curStream? = some (counted packets.length stream) :=
  (curStream?_sent m packets).trans (congrArg _ h)

theorem pesTurn_more (hPmt : m.curPmt? = some pmt) (hStream : m.curStream? = some stream)
    (isStart : Bool) {data : List UInt8} (hData : data ≠ [])
    (hPcr : isStart = true → stream.pid = pmt.pcrPid → PcrFits stream)
    (hFits : 4 + (fieldBytes (baseField isStart stream pmt.pcrPid)).length +
      (baseHead isStart data.length stream m.h264H265WithAud).length + data.length < 2 ^ 31) :
    pesTurn isStart ⟨m, ⟨data⟩⟩ =
      .ok (.again false) ⟨m.sent [nextPacket isStart stream pmt.pcrPid m.h264H265WithAud data],
        ⟨data.drop (nextLength isStart stream pmt.pcrPid m.h264H265WithAud data)⟩⟩ := by
  obtain ⟨headers, hBytes, hPacket⟩ := pesPacket_ok hPmt hStream isStart data hPcr hFits
  have hLen : ¬data.length = 0 := fun h => hData (List.length_eq_zero_iff.mp h)
  have hRead : (⟨data⟩ : BytesReader).readBytes
      (min (nextLength isStart stream pmt.pcrPid m.h264H265WithAud data) data.length) =
      .ok (data.take (nextLength isStart stream pmt.pcrPid m.h264H265WithAud data),
        ⟨data.drop (nextLength isStart stream pmt.pcrPid m.h264H265WithAud data)⟩) := by
    refine (if_neg (Nat.not_lt.mpr (Nat.min_le_right ..))).trans ?_
    rw [← List.take_eq_take_min]
    rcases Nat.le_total (nextLength isStart stream pmt.pcrPid m.h264H265WithAud data) data.length
      with h | h
    · rw [Nat.min_eq_left h]
    · rw [Nat.min_eq_right h, List.drop_length, List.drop_eq_nil_of_le h]
  rw [@pesTurn_ok isStart ⟨m, ⟨data⟩⟩ _ _ _ _ _ hLen hPacket hRead, hBytes]
  simp only [sent, append_modifyStream, List.flatMap_cons, List.flatMap_nil, List.append_nil,
    List.length_singleton]

/-- The loop, once the first packet is written. -/
theorem pesLoop_rest (hPmt : m.curPmt? = some pmt) (hStream : m.curStream? = some stream)
    {data : List UInt8} (hFits : 4 + data.length < 2 ^ 31) :
    loopM pesTurn (·.reader.len) pesTurn_decreases false ⟨m, ⟨data⟩⟩ =
      .ok () ⟨m.sent (restPackets stream.pid stream.continuityCounter data), ⟨[]⟩⟩ := by
  induction hn : data.length using Nat.strongRecOn generalizing m pmt stream data with
  | ind n ih =>
    subst hn
    by_cases hData : data = []
    · subst hData
      rw [restPackets_nil, sent_nil]
      exact loopM_done rfl
    · have hTurn := pesTurn_more hPmt hStream false hData (fun h => nomatch h) hFits
      have hDrop : (data.drop 184).length < data.length := by
        have := List.length_pos_iff.mpr hData
        rw [List.length_drop]
        omega
      rw [loopM_again hTurn, restPackets_more _ _ hData]
      refine (ih _ hDrop (curPmt?_sent_of hPmt _) (curStream?_sent_of hStream _) (by omega)
        rfl).trans ?_
      rw [sent_sent]
      rfl

/-- An access unit is written as the packets that carry it. -/
theorem writePes_ok (hPmt : m.curPmt? = some pmt) (hStream : m.curStream? = some stream)
    {payload : List UInt8}
    (hFits : payload ≠ [] → (stream.pid = pmt.pcrPid → PcrFits stream) ∧
      4 + (fieldBytes (startField stream pmt.pcrPid)).length +
        (pesHeader payload.length stream m.h264H265WithAud).length + payload.length < 2 ^ 31) :
    writePes payload m =
      .ok () (m.sent (accessUnit stream pmt.pcrPid m.h264H265WithAud payload)) := by
  have hLoop : loopM pesTurn (·.reader.len) pesTurn_decreases true ⟨m, ⟨payload⟩⟩ =
      .ok () ⟨m.sent (accessUnit stream pmt.pcrPid m.h264H265WithAud payload), ⟨[]⟩⟩ := by
    by_cases hPayload : payload = []
    · subst hPayload
      rw [accessUnit, if_pos rfl, sent_nil]
      exact loopM_done rfl
    · obtain ⟨hPcr, hLength⟩ := hFits hPayload
      have hTurn := pesTurn_more hPmt hStream true hPayload (fun _ => hPcr) hLength
      rw [loopM_again hTurn, accessUnit, if_neg hPayload]
      refine (pesLoop_rest (curPmt?_sent_of hPmt _) (curStream?_sent_of hStream _) ?_).trans ?_
      · rw [List.length_drop]
        omega
      · rw [sent_sent]
        rfl
  unfold writePes
  rw [hLoop]

end TsMuxer

end Xiu.Mpegts
