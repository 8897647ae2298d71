import Xiu.Mpegts.Pes
import Xiu.Mpegts.Psi
import Xiu.ProofKit.Action

/-! The state of the TS muxer, of `ts.rs`, and the headers that it puts on its packets: on those of the
tables, and on those of an access unit. -/

namespace Xiu.Mpegts

open Bytesio ProofKit

/-- The fields of `TsMuxer` that it reads: `pcr_period`, `pcr_clock` and `packet_number` are only
written. -/
structure TsMuxer where
  bytesWriter : BytesWriter
  patContinuityCounter : UInt8
  pmtContinuityCounter : UInt8
  h264H265WithAud : Bool
  pid : UInt16
  patPeriod : Int64
  pat : Pat
  curPmtIndex : Nat
  curStreamIndex : Nat
  deriving DecidableEq

abbrev Mux := EStateM MuxFault TsMuxer

/-- What may fail without the muxer. -/
def ofExcept {σ α : Type} (x : Except MuxFault α) : EStateM MuxFault σ α := fun s =>
  match x with
  | .ok a => .ok a s
  | .error e => .error e s

theorem ofExcept_ok {σ α : Type} (a : α) (s : σ) :
    ofExcept (.ok a : Except MuxFault α) s = .ok a s := rfl

theorem bind_ofExcept_ok {σ α β : Type} {x : Except MuxFault α} {a : α}
    {f : α → EStateM MuxFault σ β} {s : σ} (h : x = .ok a) : (ofExcept x >>= f) s = f a s := by
  rw [h]
  rfl

theorem ofExcept_eq_ok {σ α : Type} {x : Except MuxFault α} {a : α} {s s' : σ}
    (h : ofExcept x s = .ok a s') : x = .ok a ∧ s' = s := by
  cases x with
  | ok b =>
    obtain ⟨rfl, rfl⟩ := EStateM.Result.ok.inj h
    exact ⟨rfl, rfl⟩
  | error e => cases h

namespace TsMuxer

def new : TsMuxer where
  bytesWriter := ⟨[]⟩
  patContinuityCounter := 0
  pmtContinuityCounter := 0
  h264H265WithAud := false
  pid := 0x0100
  patPeriod := 0
  pat := .new
  curPmtIndex := 0
  curStreamIndex := 0

def reset (m : TsMuxer) : TsMuxer := { m with patPeriod := 0 }

/-- The bytes so far, which are taken out. -/
def getData (m : TsMuxer) : List UInt8 × TsMuxer :=
  (m.bytesWriter.bytes, { m with bytesWriter := ⟨[]⟩ })

def append (m : TsMuxer) (bytes : List UInt8) : TsMuxer :=
  { m with bytesWriter := m.bytesWriter.write bytes }

/-- `self.pat.pmt.get_mut(self.cur_pmt_index)`. -/
def curPmt? (m : TsMuxer) : Option Pmt := m.pat.pmt[m.curPmtIndex]?

/-- `cur_pmt.streams.get_mut(self.cur_stream_index)`. -/
def curStream? (m : TsMuxer) : Option Pes := m.curPmt?.bind (·.streams[m.curStreamIndex]?)

def modifyPmt (m : TsMuxer) (f : Pmt → Pmt) : TsMuxer :=
  { m with pat := { m.pat with pmt := m.pat.pmt.modify m.curPmtIndex f } }

def modifyStream (m : TsMuxer) (f : Pes → Pes) : TsMuxer :=
  m.modifyPmt fun pmt => { pmt with streams := pmt.streams.modify m.curStreamIndex f }

/-- `unwrap` of the current program. -/
def curPmt : Mux Pmt := fun m =>
  match m.curPmt? with
  | some pmt => .ok pmt m
  | none => .error .panic m

/-- `unwrap` of the current stream. -/
def curStream : Mux Pes := fun m =>
  match m.curStream? with
  | some stream => .ok stream m
  | none => .error .panic m

/-- The packet of a section, filled up with 0xFF. -/
def writeTsHeaderForPatPmt (pid : UInt16) (payload : List UInt8) (continuityCounter : UInt8) :
    Mux Unit := do
  modify (·.append [0x47, (0x40 : UInt8) ||| (pid >>> 8).toUInt8 &&& 0x1F, pid.toUInt8,
    (0x10 : UInt8) ||| continuityCounter, 0x00])
  modify (·.append payload)
  let leftSize ← ofExcept (checkedSub (UInt8.ofNat TS_PACKET_SIZE) (UInt8.ofNat payload.length))
  let leftSize ← ofExcept (checkedSub leftSize 5)
  modify (·.append (List.replicate leftSize.toNat 0xFF))

/-- The loop over the programs. -/
def writePmts : List Pmt → Mux Unit
  | [] => pure ()
  | pmtData :: rest => do
    let payloadData ← ofExcept pmtData.write
    writeTsHeaderForPatPmt pmtData.pid payloadData (← get).pmtContinuityCounter
    modify fun m => { m with pmtContinuityCounter := (m.pmtContinuityCounter + 1) % 16 }
    writePmts rest

/-- The PAT and the PMTs. -/
def writePatPmt : Mux Unit := do
  let patData := (← get).pat.write
  writeTsHeaderForPatPmt PAT_TID_PAS patData (← get).patContinuityCounter
  modify fun m => { m with patContinuityCounter := (m.patContinuityCounter + 1) % 16 }
  writePmts (← get).pat.pmt

/-- The clock reference in an adaptation field. -/
def writePcr (stream : Pes) (tsHeader : BytesWriter) : Except MuxFault BytesWriter := do
  let tsHeader ← position (tsHeader.orU8At 5 AF_FLAG_PCR)
  let pcr := if PTS_NO_VALUE = stream.dts then stream.pts else stream.dts
  let pcr ← checkedI64 (pcr.toInt * 300)
  position ((tsHeader.write (pcrWrite pcr)).addU8At 4 6)

/-- Whether a stream is at a point of random access. -/
def RandomAccess (stream : Pes) : Prop :=
  stream.dataAlignmentIndicator > 0 ∧ PTS_NO_VALUE ≠ stream.pts

instance (stream : Pes) : Decidable (RandomAccess stream) := inferInstanceAs (Decidable (_ ∧ _))

/-- The clock reference, on the pid that carries it. -/
def withPcr (stream : Pes) (pcrPid : UInt16) (tsHeader : BytesWriter) :
    Except MuxFault BytesWriter :=
  if stream.pid = pcrPid then writePcr stream tsHeader else .ok tsHeader

/-- The adaptation field of the first packet of an access unit. -/
def writeField (stream : Pes) (pcrPid : UInt16) (tsHeader : BytesWriter) :
    Except MuxFault BytesWriter := do
  let tsHeader ← position (tsHeader.orU8At 3 0x20)
  let tsHeader := (tsHeader.writeU8 0x01).writeU8 0x00
  let tsHeader ← withPcr stream pcrPid tsHeader
  if RandomAccess stream then position (tsHeader.orU8At 5 AF_FLAG_RANDOM_ACCESS_INDICATOR)
  else .ok tsHeader

/-- What the first packet of an access unit has beside the others. -/
def writeStart (stream : Pes) (pcrPid : UInt16) (tsHeader : BytesWriter) :
    Except MuxFault BytesWriter := do
  let tsHeader ← position (tsHeader.orU8At 1 TS_PAYLOAD_UNIT_START_INDICATOR)
  if stream.pid = pcrPid ∨ RandomAccess stream then writeField stream pcrPid tsHeader
  else .ok tsHeader

/-- `as i32`. -/
def asI32 (n : Nat) : Int := (n : Int).bmod (2 ^ 32)

/-- Stuffing bytes. -/
def fill (tsHeader : BytesWriter) (n : Int) : BytesWriter :=
  tsHeader.write (List.replicate n.toNat 0xFF)

/-- Stuffing in the adaptation field, or in a new one. -/
def stuff (tsHeader : BytesWriter) (stuffingLength : Int) : Except MuxFault BytesWriter :=
  match tsHeader.bytes[3]? with
  | none => .error .panic
  | some b =>
    if b &&& 0x20 > 0 then do
      let tsHeader ← position (tsHeader.addU8At 4 (asU8 stuffingLength))
      pure (fill tsHeader stuffingLength)
    else do
      let tsHeader ← position (tsHeader.orU8At 3 0x20)
      let stuffingLength := stuffingLength - 1
      let tsHeader := tsHeader.writeU8 (asU8 stuffingLength)
      pure (if stuffingLength ≥ 1 then fill (tsHeader.writeU8 0x00) (stuffingLength - 1)
        else fill tsHeader stuffingLength)

/-- Fills up a packet with stuffing, and tells how much of the payload goes into it.  The length is
computed as `i32`. -/
def fillUp (tsHeader : BytesWriter) (pesHeaderLength payloadDataLength : Nat) :
    Except MuxFault (BytesWriter × Nat) :=
  let tsHeaderLength := tsHeader.len
  let stuffingLength : Int :=
    TS_PACKET_SIZE - asI32 (tsHeaderLength + pesHeaderLength + payloadDataLength)
  if stuffingLength ≥ 2 ^ 31 then .error .panic
  else if stuffingLength > 0 then do
    let tsHeader ← stuff tsHeader stuffingLength
    pure (tsHeader, payloadDataLength)
  else if TS_PACKET_SIZE < tsHeaderLength + pesHeaderLength then .error .panic
  else .ok (tsHeader, TS_PACKET_SIZE - tsHeaderLength - pesHeaderLength)

def writeTsHeaderForPes (pesHeaderLength payloadDataLength : Nat) (isStart : Bool) :
    Mux (BytesWriter × Nat) := do
  let pmt ← curPmt
  let stream ← curStream
  let tsHeader : BytesWriter := ⟨[0x47, (stream.pid >>> 8).toUInt8 &&& 0x1F, stream.pid.toUInt8,
    (0x10 : UInt8) ||| stream.continuityCounter &&& 0x0F]⟩
  modify (·.modifyStream fun stream =>
    { stream with continuityCounter := (stream.continuityCounter + 1) % 16 })
  let tsHeader ← ofExcept (if isStart then writeStart stream pmt.pcrPid tsHeader else .ok tsHeader)
  ofExcept (fillUp tsHeader pesHeaderLength payloadDataLength)

end TsMuxer

end Xiu.Mpegts
