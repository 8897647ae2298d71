import Xiu.Bytesio.Reading
import Xiu.Mpegts.Packets
import Xiu.ProofKit.Loop

/-! The TS muxer of `ts.rs`: how an access unit is cut into packets, `write`, and the calls that set up
programs and streams. -/

namespace Xiu.Mpegts

open Bytesio ProofKit

/-- A program with one more stream. -/
def Pmt.withStream (pmt : Pmt) (stream : Pes) : Pmt :=
  { pmt with
    streams := pmt.streams ++ [stream]
    versionNumber := (pmt.versionNumber + 1) % 32 }

namespace TsMuxer

/-- The PES header, on the first packet only. -/
def pesHeaderFor (isStart : Bool) (payloadDataLength : Nat) : Mux BytesWriter :=
  if isStart then do
    let stream ← curStream
    let withAud := (← get).h264H265WithAud
    ofExcept (writePesHeader payloadDataLength stream withAud)
  else pure ⟨[]⟩

/-- The headers of the next packet, and how much of the payload it takes. -/
def pesPacket (isStart : Bool) (payloadDataLength : Nat) : Mux (List UInt8 × Nat) := do
  let pesMuxer ← pesHeaderFor isStart payloadDataLength
  let (tsHeader, payloadLength) ←
    writeTsHeaderForPes pesMuxer.len payloadDataLength isStart
  pure (tsHeader.bytes ++ pesMuxer.bytes, payloadLength)

/-- One turn of `write_pes`, whose loop variable is `is_start`. -/
def pesTurn (isStart : Bool) : EStateM MuxFault (Reading TsMuxer) (Turn Bool Unit) := fun s =>
  if s.reader.len = 0 then .ok (.done ()) s
  else
    match pesPacket isStart s.reader.len s.owner with
    | .error e m => .error e ⟨m, s.reader⟩
    | .ok (headers, payloadLength) m =>
      match s.reader.readBytes payloadLength with
      | .error _ => .error (.error .bytesReadError) ⟨m, s.reader⟩
      | .ok (data, reader) => .ok (.again false) ⟨m.append (headers ++ data), reader⟩

theorem pesTurn_ok {isStart : Bool} {s : Reading TsMuxer} {m : TsMuxer} {headers data : List UInt8}
    {payloadLength : Nat} {reader : BytesReader} (hLen : ¬s.reader.len = 0)
    (hPacket : pesPacket isStart s.reader.len s.owner = .ok (headers, payloadLength) m)
    (hRead : s.reader.readBytes payloadLength = .ok (data, reader)) :
    pesTurn isStart s = .ok (.again false) ⟨m.append (headers ++ data), reader⟩ := by
  simp only [pesTurn, if_neg hLen, hPacket, hRead]

theorem pesTurn_error {isStart : Bool} {s : Reading TsMuxer} {m : TsMuxer} {e : MuxFault}
    (hLen : ¬s.reader.len = 0) (hPacket : pesPacket isStart s.reader.len s.owner = .error e m) :
    pesTurn isStart s = .error e ⟨m, s.reader⟩ := by
  simp only [pesTurn, if_neg hLen, hPacket]

theorem pesHeaderFor_len {isStart : Bool} {n : Nat} {m m' : TsMuxer} {w : BytesWriter}
    (h : pesHeaderFor isStart n m = .ok w m') : w.len ≤ 25 := by
  cases isStart with
  | false =>
    obtain ⟨rfl, rfl⟩ := EStateM.Result.ok.inj h
    exact Nat.zero_le 25
  | true =>
    obtain ⟨stream, m1, hStream, h⟩ := bind_eq_ok h
    rw [bind_get, writePesHeader_eq] at h
    obtain ⟨rfl, rfl⟩ := EStateM.Result.ok.inj h
    exact length_pesHeader ..

/-- The header of a packet, before it is filled up, is short. -/
theorem startHeader_len {isStart : Bool} {m m' : TsMuxer} {w : BytesWriter} {stream : Pes}
    {pcrPid : UInt16} {a b c d : UInt8}
    (h : ofExcept (if isStart = true then writeStart stream pcrPid ⟨[a, b, c, d]⟩
      else .ok ⟨[a, b, c, d]⟩) m = .ok w m') : w.len ≤ 12 := by
  cases isStart with
  | false =>
    rw [if_neg Bool.false_ne_true] at h
    obtain ⟨rfl, -⟩ := EStateM.Result.ok.inj h
    simp only [BytesWriter.len, List.length_cons, List.length_nil]
    omega
  | true =>
    rw [if_pos rfl] at h
    exact len_writeStart _ _ _ _ (ofExcept_eq_ok h).1

theorem writeTsHeaderForPes_pos {isStart : Bool} {pesHeaderLength n k : Nat} {m m' : TsMuxer}
    {w : BytesWriter} (hHeader : pesHeaderLength ≤ 25) (hData : 0 < n)
    (h : writeTsHeaderForPes pesHeaderLength n isStart m = .ok (w, k) m') : 0 < k := by
  obtain ⟨pmt, m1, hPmt, h⟩ := bind_eq_ok h
  obtain ⟨stream, m2, hStream, h⟩ := bind_eq_ok h
  rw [bind_modify] at h
  obtain ⟨tsHeader, m3, hTsHeader, h⟩ := bind_eq_ok h
  have hRoom : tsHeader.len + pesHeaderLength < TS_PACKET_SIZE :=
    Nat.lt_of_le_of_lt (Nat.add_le_add (startHeader_len hTsHeader) hHeader) (by decide)
  exact fillUp_pos hRoom hData (ofExcept_eq_ok h).1

theorem pesTurn_decreases (isStart isStart' : Bool) (s s' : Reading TsMuxer)
    (h : pesTurn isStart s = .ok (.again isStart') s') : s'.reader.len < s.reader.len := by
  unfold pesTurn at h
  split at h
  · cases h
  · rename_i hLen
    split at h
    · cases h
    · rename_i hPacket
      split at h
      · cases h
      · rename_i data reader hData
        cases h
        obtain ⟨w, m1, hHeader, hPacket⟩ := bind_eq_ok hPacket
        obtain ⟨⟨tsHeader, payloadLength⟩, m2, hTsHeader, hPacket⟩ := bind_eq_ok hPacket
        cases hPacket
        have hPos := writeTsHeaderForPes_pos (pesHeaderFor_len hHeader) (Nat.pos_of_ne_zero hLen)
          hTsHeader
        obtain ⟨hBuffer, hTake⟩ := BytesReader.readBytes_ok hData
        simp only [BytesReader.len, hBuffer, List.length_append]
        omega

/-- `write_pes`. -/
def writePes (payload : List UInt8) : Mux Unit := fun m =>
  match loopM pesTurn (·.reader.len) pesTurn_decreases true ⟨m, ⟨payload⟩⟩ with
  | .ok _ s => .ok () s.owner
  | .error e s => .error e s.owner

/-- Where a stream is found.  The index of a stream counts the streams of the programs before. -/
def findIn (pid : UInt16) : List Pmt → (pmtIndex streamIndex : Nat) → Option (Nat × Nat)
  | [], _, _ => none
  | pmt :: rest, pmtIndex, streamIndex =>
    match pmt.streams.findIdx? (·.pid == pid) with
    | some i => some (pmtIndex, streamIndex + i)
    | none => findIn pid rest (pmtIndex + 1) (streamIndex + pmt.streams.length)

def findStream (pid : UInt16) : Mux Unit := fun m =>
  match findIn pid m.pat.pmt 0 0 with
  | some (pmtIndex, streamIndex) =>
    .ok () { m with curPmtIndex := pmtIndex, curStreamIndex := streamIndex }
  | none => .error (.error .streamNotFound) m

/-- Whether a stream takes over the clock reference of its program. -/
def TakesClock (pmt : Pmt) (stream : Pes) : Prop :=
  0x1FFF = pmt.pcrPid ∨
    (PES_SID_VIDEO = stream.streamId &&& PES_SID_VIDEO ∧ pmt.pcrPid ≠ stream.pid)

instance (pmt : Pmt) (stream : Pes) : Decidable (TakesClock pmt stream) :=
  inferInstanceAs (Decidable (_ ∨ _))

/-- The clock reference of the program, whose tables are due when it changes. -/
def takeClock (pmt : Pmt) (stream : Pes) (m : TsMuxer) : TsMuxer :=
  if TakesClock pmt stream then
    { m.modifyPmt fun pmt => { pmt with pcrPid := stream.pid } with patPeriod := 0 }
  else m

/-- What the call tells of the access unit. -/
def setStamps (pts dts : Int64) (flags : UInt16) (stream : Pes) : Pes :=
  { stream with
    pts, dts
    dataAlignmentIndicator := if flags &&& MPEG_FLAG_IDR_FRAME > 0 then 1 else 0 }

/-- Whether the tables are due. -/
def patPmtDue (dts : Int64) : Mux Bool := fun m =>
  if m.patPeriod = 0 then .ok true m
  else
    match checkedI64 (m.patPeriod.toInt + PAT_PERIOD) with
    | .ok next => .ok (next ≤ dts) m
    | .error e => .error e m

def writePatPmtIfDue (dts : Int64) : Mux Unit := do
  let due ← patPmtDue dts
  if due then do
    modify fun m => { m with patPeriod := dts }
    writePatPmt
  else pure ()

def write (pid : UInt16) (pts dts : Int64) (flags : UInt16) (payload : List UInt8) : Mux Unit := do
  modify fun m => { m with h264H265WithAud := flags &&& MPEG_FLAG_H264_H265_WITH_AUD > 0 }
  findStream pid
  let pmt ← curPmt
  let stream ← curStream
  modify (takeClock pmt stream)
  modify (·.modifyStream (setStamps pts dts flags))
  writePatPmtIfDue dts
  writePes payload

/-- A new stream, of the type that its codec tells. -/
def newStream (pid : UInt16) (codecid : UInt8) : Pes where
  pid
  streamId :=
    if isSteamTypeVideo codecid then PES_SID_VIDEO
    else if isSteamTypeAudio codecid then PES_SID_AUDIO
    else PES_SID_PRIVATE_1
  codecId := codecid
  continuityCounter := 0
  dataAlignmentIndicator := 0
  pts := 0
  dts := 0

/-- The state with a stream put into a program. -/
def withStream (m : TsMuxer) (pmtIndex : Nat) (pmt : Pmt) (codecid : UInt8) : TsMuxer :=
  reset
    { m with
      pid := m.pid + 1
      pat := { m.pat with
        pmt := m.pat.pmt.set pmtIndex (pmt.withStream (newStream m.pid codecid)) } }

/-- `pmt_add_stream`, without its `extra_data`, which is never read. -/
def pmtAddStream (pmtIndex : Nat) (codecid : UInt8) : Mux UInt16 := fun m =>
  match m.pat.pmt[pmtIndex]? with
  | none => .error .panic m
  | some pmt =>
    if pmt.streams.length = 4 then .error (.error .streamCountExeceed) m
    else .ok m.pid (m.withStream pmtIndex pmt codecid)

/-- The state with a program more. -/
def withProgram (m : TsMuxer) (programNumber : UInt16) (info : List UInt8) : TsMuxer :=
  { m with
    pid := m.pid + 1
    pat := { m.pat with
      pmt := m.pat.pmt ++ [⟨m.pid, programNumber, 0x00, 0x1FFF, info, []⟩] } }

def addProgram (programNumber : UInt16) (info : List UInt8) : Mux Unit := fun m =>
  if m.pat.pmt.any (·.programNumber == programNumber) then
    .error (.error .programNumberExists) m
  else if m.pat.pmt.length = 4 then .error (.error .pmtCountExeceed) m
  else .ok () (m.withProgram programNumber info)

/-- The first program, where there is none. -/
def firstProgram : Mux Unit := fun m =>
  if m.pat.pmt.isEmpty then addProgram 1 [] m else .ok () m

def addStream (codecid : UInt8) : Mux UInt16 := do
  firstProgram
  pmtAddStream 0 codecid

end TsMuxer

end Xiu.Mpegts
