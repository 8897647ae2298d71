import Xiu.ProofKit.Action
import Xiu.Rtmp.Handshake.Digest

/-! The handshakers of RTMP, of `protocol/rtmp/src/handshake`: the server's, which begins with the complex
handshake and falls back to the simple one, and the client's. -/

namespace Xiu.Rtmp.Handshake

open Bytesio ProofKit

inductive HandshakeErrorValue where
  | bytesReadError (value : BytesReadErrorValue)
  | digestError (value : DigestErrorValue)
  deriving DecidableEq

inductive ServerHandshakeState where
  | readC0C1
  | writeS0S1S2
  | readC2
  | finish
  deriving DecidableEq

inductive ClientHandshakeState where
  | writeC0C1
  | readS0S1S2
  | writeC2
  | finish
  deriving DecidableEq

/-- What a handshaker does not make itself: the codes of messages, the time where it writes it, and random
bytes. -/
structure Surroundings where
  hmac : Hmac
  firstTime : UInt32
  secondTime : UInt32
  firstRandom : List UInt8
  secondRandom : List UInt8
  firstRandom_length : firstRandom.length = RTMP_HANDSHAKE_SIZE - 8
  secondRandom_length : secondRandom.length = RTMP_HANDSHAKE_SIZE - 8

/-! ### The server's handshakers -/

/-- A `SimpleHandshakeServer` or a `ComplexHandshakeServer`: of C1 the former keeps the bytes and the
latter the digest. -/
structure Handshaker where
  reader : BytesReader
  writer : AsyncBytesWriter
  state : ServerHandshakeState
  c1 : List UInt8
  c1Timestamp : UInt32

/-- Actions of a handshaker.  Writing to the connection succeeds. -/
abbrev Shake := EStateM HandshakeErrorValue Handshaker

namespace Handshaker

def new : Handshaker := ⟨⟨[]⟩, .new, .readC0C1, [], 0⟩

def extendData (self : Handshaker) (data : List UInt8) : Handshaker :=
  { self with reader := self.reader.extendFromSlice data }

/-- A read, whose errors are passed on. -/
def read {α : Type} (f : BytesReader → Except BytesReadErrorValue (α × BytesReader)) : Shake α :=
  fun self =>
    match f self.reader with
    | .ok (a, reader) => .ok a { self with reader }
    | .error value => .error (.bytesReadError value) self

/-- The timestamp that a message begins with. -/
def timestampOf (bytes : List UInt8) : Shake UInt32 :=
  match (⟨bytes⟩ : BytesReader).readU32 .bigEndian with
  | .ok (timestamp, _) => pure timestamp
  | .error value => throw (.bytesReadError value)

/-- An error of a digest is passed on. -/
def orDigestError {α : Type} : Except DigestErrorValue α → Shake α
  | .ok a => pure a
  | .error value => throw (.digestError value)

def write (bytes : List UInt8) : Shake Unit :=
  modify fun self => { self with writer := self.writer.write bytes }

def flush : Shake Unit := modify fun self => { self with writer := self.writer.flush }

def setState (state : ServerHandshakeState) : Shake Unit := modify fun self => { self with state }

def readC0 : Shake Unit := do
  let _ ← read (·.readU8)

def readC2 : Shake Unit := do
  let _ ← read (·.readBytes RTMP_HANDSHAKE_SIZE)

def writeS0 : Shake Unit :=
  modify fun self => { self with writer := self.writer.writeU8 RTMP_VERSION }

/-- What is written between the first message and the second one, behind which the loop breaks. -/
def writeS0S1S2 (writeS1 writeS2 : Shake Unit) : Shake Unit := do
  writeS0
  writeS1
  writeS2
  flush
  setState .readC2

/-- The loop of `handshake`, whose turns go on from one state to the next. -/
def handshake (readC1 writeS1 writeS2 : Shake Unit) : Shake Unit := do
  match (← get).state with
  | .readC0C1 =>
    readC0
    readC1
    setState .writeS0S1S2
    writeS0S1S2 writeS1 writeS2
  | .writeS0S1S2 => writeS0S1S2 writeS1 writeS2
  | .readC2 =>
    readC2
    setState .finish
  | .finish => pure ()

end Handshaker

open Handshaker

namespace SimpleHandshakeServer

def readC1 : Shake Unit := do
  let c1Bytes ← read (·.readBytes RTMP_HANDSHAKE_SIZE)
  modify fun self => { self with c1 := c1Bytes }
  let c1Timestamp ← timestampOf c1Bytes
  modify fun self => { self with c1Timestamp }

def writeS1 (around : Surroundings) : Shake Unit := do
  modify fun self => { self with
    writer := (self.writer.writeU32 .bigEndian around.firstTime).writeU32 .bigEndian self.c1Timestamp }
  write around.firstRandom

def writeS2 : Shake Unit := do write (← get).c1

def handshake (around : Surroundings) : Shake Unit :=
  Handshaker.handshake readC1 (writeS1 around) writeS2

end SimpleHandshakeServer

namespace ComplexHandshakeServer

def readC1 (around : Surroundings) : Shake Unit := do
  let c1Bytes ← read (·.readBytes RTMP_HANDSHAKE_SIZE)
  let c1Timestamp ← timestampOf c1Bytes
  modify fun self => { self with c1Timestamp }
  let digestProcessor := DigestProcessor.new c1Bytes RTMP_CLIENT_KEY_FIRST_HALF
  let (digestContent, _) ← orDigestError (digestProcessor.readDigest around.hmac)
  modify fun self => { self with c1 := digestContent }

def writeS1 (around : Surroundings) : Shake Unit := do
  let writer : BytesWriter := ⟨[]⟩
  let writer := writer.writeU32 .bigEndian around.firstTime
  let writer := writer.write RTMP_SERVER_VERSION
  let writer := writer.write around.firstRandom
  let digestProcessor := DigestProcessor.new writer.bytes RTMP_SERVER_KEY_FIRST_HALF
  let content ← orDigestError (digestProcessor.generateAndFillDigest around.hmac)
  write content

def writeS2 (around : Surroundings) : Shake Unit := do
  let writer : BytesWriter := ⟨[]⟩
  let writer := writer.writeU32 .bigEndian around.secondTime
  let writer := writer.writeU32 .bigEndian (← get).c1Timestamp
  let writer := writer.write around.secondRandom
  let digestProcessor := DigestProcessor.new [] RTMP_SERVER_KEY
  let tmpKey ← orDigestError (digestProcessor.makeDigest around.hmac (← get).c1)
  -- the writer has 1536 bytes, so that the first 1504 are there
  let data := writer.bytes.take 1504
  let digestProcessor2 := DigestProcessor.new [] tmpKey
  let digest ← orDigestError (digestProcessor2.makeDigest around.hmac data)
  write (data ++ digest)

def handshake (around : Surroundings) : Shake Unit :=
  Handshaker.handshake (readC1 around) (writeS1 around) (writeS2 around)

end ComplexHandshakeServer

structure HandshakeServer where
  simpleHandshaker : Handshaker
  complexHandshaker : Handshaker
  isComplex : Bool
  savedData : List UInt8

namespace HandshakeServer

def new : HandshakeServer := ⟨.new, .new, true, []⟩

def extendData (self : HandshakeServer) (data : List UInt8) : HandshakeServer :=
  if self.isComplex then
    { self with
      complexHandshaker := self.complexHandshaker.extendData data
      savedData := self.savedData ++ data }
  else { self with simpleHandshaker := self.simpleHandshaker.extendData data }

/-- The handshaker in use. -/
def current (self : HandshakeServer) : Handshaker :=
  if self.isComplex then self.complexHandshaker else self.simpleHandshaker

def state (self : HandshakeServer) : ServerHandshakeState := self.current.state

def getRemainingBytes (self : HandshakeServer) : List UInt8 := self.current.reader.getRemainingBytes

def handshakeSimple (around : Surroundings) : EStateM HandshakeErrorValue HandshakeServer Unit :=
  fun self =>
    match SimpleHandshakeServer.handshake around self.simpleHandshaker with
    | .ok _ simpleHandshaker => .ok () { self with simpleHandshaker }
    | .error e simpleHandshaker => .error e { self with simpleHandshaker }

/-- An error of the complex handshaker makes the simple one begin, with all data so far. -/
def handshake (around : Surroundings) : EStateM HandshakeErrorValue HandshakeServer Unit := fun self =>
  if self.isComplex then
    match ComplexHandshakeServer.handshake around self.complexHandshaker with
    | .ok _ complexHandshaker => .ok () { self with complexHandshaker }
    | .error _ complexHandshaker =>
      let self := { self with complexHandshaker, isComplex := false }
      handshakeSimple around (self.extendData self.savedData)
  else handshakeSimple around self

end HandshakeServer

/-! ### The client's handshaker -/

structure SimpleHandshakeClient where
  reader : BytesReader
  writer : AsyncBytesWriter
  s1Bytes : List UInt8
  state : ClientHandshakeState

namespace SimpleHandshakeClient

abbrev ClientShake := EStateM HandshakeErrorValue SimpleHandshakeClient

def new : SimpleHandshakeClient := ⟨⟨[]⟩, .new, [], .writeC0C1⟩

def extendData (self : SimpleHandshakeClient) (data : List UInt8) : SimpleHandshakeClient :=
  { self with reader := self.reader.extendFromSlice data }

def read {α : Type} (f : BytesReader → Except BytesReadErrorValue (α × BytesReader)) : ClientShake α :=
  fun self =>
    match f self.reader with
    | .ok (a, reader) => .ok a { self with reader }
    | .error value => .error (.bytesReadError value) self

def flush : ClientShake Unit := modify fun self => { self with writer := self.writer.flush }

def setState (state : ClientHandshakeState) : ClientShake Unit := modify fun self => { self with state }

def writeC0 : ClientShake Unit :=
  modify fun self => { self with writer := self.writer.writeU8 RTMP_VERSION }

def writeC1 (around : Surroundings) : ClientShake Unit :=
  modify fun self => { self with
    writer := ((self.writer.writeU32 .bigEndian around.firstTime).writeU32 .bigEndian 0).write
      around.firstRandom }

def writeC2 : ClientShake Unit :=
  modify fun self => { self with writer := self.writer.write self.s1Bytes }

def readS0 : ClientShake Unit := do
  let _ ← read (·.readU8)

def readS1 : ClientShake Unit := do
  let s1Bytes ← read (·.readBytes RTMP_HANDSHAKE_SIZE)
  modify fun self => { self with s1Bytes }

def readS2 : ClientShake Unit := do
  let _ ← read (·.readBytes RTMP_HANDSHAKE_SIZE)

/-- C2, and the end of the loop. -/
def finish : ClientShake Unit := do
  writeC2
  flush
  setState .finish

/-- The loop of `handshake`, whose turns go on from one state to the next, and break behind C1. -/
def handshake (around : Surroundings) : ClientShake Unit := do
  match (← get).state with
  | .writeC0C1 =>
    writeC0
    writeC1 around
    flush
    setState .readS0S1S2
  | .readS0S1S2 =>
    readS0
    readS1
    readS2
    setState .writeC2
    finish
  | .writeC2 => finish
  | .finish => pure ()

end SimpleHandshakeClient

/-! ### What the server's handshakers take -/

namespace Handshaker

variable {self : Handshaker} {around : Surroundings} {c0 : UInt8} {c1 rest : List UInt8}
  {readC1 writeS1 writeS2 : Shake Unit}

theorem read_ok {α : Type} {f : BytesReader → Except BytesReadErrorValue (α × BytesReader)} {a : α}
    {reader : BytesReader} (h : f self.reader = .ok (a, reader)) :
    read f self = .ok a { self with reader } := by
  simp only [read, h]

theorem read_error {α : Type} {f : BytesReader → Except BytesReadErrorValue (α × BytesReader)}
    {value : BytesReadErrorValue} (h : f self.reader = .error value) :
    read f self = .error (.bytesReadError value) self := by
  simp only [read, h]

theorem readC0_ok (h : self.reader = ⟨c0 :: rest⟩) :
    readC0 self = .ok () { self with reader := ⟨rest⟩ } := by
  have hRead : self.reader.readU8 = .ok (c0, ⟨rest⟩) := by
    rw [h]
    exact BytesReader.readU8_cons c0 rest
  rw [readC0, bind_of_ok (read_ok hRead)]
  rfl

/-- C1 or C2 is read when it is there. -/
theorem readMessage_ok (h : self.reader = ⟨c1 ++ rest⟩) (hLength : c1.length = RTMP_HANDSHAKE_SIZE) :
    read (·.readBytes RTMP_HANDSHAKE_SIZE) self = .ok c1 { self with reader := ⟨rest⟩ } := by
  have hRead : self.reader.readBytes RTMP_HANDSHAKE_SIZE = .ok (c1, ⟨rest⟩) := by
    rw [h]
    exact BytesReader.readBytes_append hLength
  exact read_ok hRead

theorem readMessage_short (h : self.reader.buffer.length < RTMP_HANDSHAKE_SIZE) :
    read (·.readBytes RTMP_HANDSHAKE_SIZE) self = .error (.bytesReadError .notEnoughBytes) self :=
  read_error (BytesReader.readBytes_short h)

theorem timestampOf_message (h : c1.length = RTMP_HANDSHAKE_SIZE) :
    ∃ timestamp, timestampOf c1 = pure timestamp := by
  have hRoom : 4 ≤ c1.length := by
    rw [h]
    decide
  have hRead : (⟨c1⟩ : BytesReader).readBytes 4 = .ok (c1.take 4, ⟨c1.drop 4⟩) :=
    if_neg (Nat.not_lt.mpr hRoom)
  refine ⟨BytesReader.decodeU32 .bigEndian (c1.take 4), ?_⟩
  simp only [timestampOf, BytesReader.readU32, BytesReader.readBytesCursor, hRead]

theorem handshake_readC0C1 (h : self.state = .readC0C1) :
    handshake readC1 writeS1 writeS2 self =
      (readC0 >>= fun _ => readC1 >>= fun _ => setState .writeS0S1S2 >>= fun _ =>
        writeS0S1S2 writeS1 writeS2) self := by
  rw [handshake, bind_get, h]

/-- The second message ends the handshake of either kind. -/
theorem handshake_readC2 (h : self.state = .readC2) (hReader : self.reader = ⟨c1 ++ rest⟩)
    (hLength : c1.length = RTMP_HANDSHAKE_SIZE) :
    handshake readC1 writeS1 writeS2 self = .ok () { self with reader := ⟨rest⟩, state := .finish } := by
  have hC2 : readC2 self = .ok () { self with reader := ⟨rest⟩ } := by
    rw [readC2, bind_of_ok (readMessage_ok hReader hLength)]
    rfl
  rw [handshake, bind_get, h]
  dsimp only
  rw [bind_of_ok hC2]
  rfl

/-- A handshaker has answered the first message, and these bytes stand behind it. -/
def Answered (rest : List UInt8) (self : Handshaker) : Prop := self.state = .readC2 ∧ self.reader = ⟨rest⟩

/-- Without all of C1, nothing is answered. -/
theorem handshake_short (h : self.state = .readC0C1)
    (hShort : self.reader.buffer.length ≤ RTMP_HANDSHAKE_SIZE)
    (hC1 : ∀ self : Handshaker, self.reader.buffer.length < RTMP_HANDSHAKE_SIZE →
      ∃ e self', readC1 self = .error e self') :
    ∃ e self', handshake readC1 writeS1 writeS2 self = .error e self' := by
  rw [handshake_readC0C1 h]
  cases hBuffer : self.reader.buffer with
  | nil =>
    have hRead : self.reader.readU8 = .error .notEnoughBytes := by
      rw [show self.reader = ⟨[]⟩ from congrArg BytesReader.mk hBuffer]
      rfl
    have hC0 : readC0 self = .error (.bytesReadError .notEnoughBytes) self := by
      rw [readC0, bind_of_error (read_error hRead)]
    exact ⟨_, _, bind_of_error hC0⟩
  | cons c0 bytes =>
    rw [hBuffer, List.length_cons] at hShort
    obtain ⟨e, self', hError⟩ := hC1 { self with reader := ⟨bytes⟩ } hShort
    refine ⟨e, self', ?_⟩
    rw [bind_of_ok (readC0_ok (congrArg BytesReader.mk hBuffer)), bind_of_error hError]

/-- C0 and C1 are read, and then the answer is written. -/
theorem handshake_first {read : Handshaker} (h : self.state = .readC0C1)
    (hReader : self.reader = ⟨c0 :: (c1 ++ rest)⟩)
    (hC1 : readC1 { self with reader := ⟨c1 ++ rest⟩ } = .ok () read) :
    handshake readC1 writeS1 writeS2 self =
      writeS0S1S2 writeS1 writeS2 { read with state := .writeS0S1S2 } := by
  rw [handshake_readC0C1 h, bind_of_ok (readC0_ok hReader), bind_of_ok hC1]
  rfl

/-- What is written leaves the reader, or fails. -/
def Writes (x : Shake Unit) : Prop :=
  ∀ self, (∃ e self', x self = .error e self') ∨ ∃ self', x self = .ok () self' ∧ self'.reader = self.reader

theorem answered_of_writes (hS1 : Writes writeS1) (hS2 : Writes writeS2)
    (hReader : self.reader = ⟨rest⟩) :
    (∃ e self', writeS0S1S2 writeS1 writeS2 self = .error e self') ∨
      ∃ self', writeS0S1S2 writeS1 writeS2 self = .ok () self' ∧ Answered rest self' := by
  have hRun : writeS0S1S2 writeS1 writeS2 self =
      (writeS1 >>= fun _ => writeS2 >>= fun _ => flush >>= fun _ => setState .readC2)
        { self with writer := self.writer.writeU8 RTMP_VERSION } := rfl
  rw [hRun]
  rcases hS1 { self with writer := self.writer.writeU8 RTMP_VERSION } with
    ⟨e, self1, hError⟩ | ⟨self1, hOk1, hReader1⟩
  · exact .inl ⟨e, self1, bind_of_error hError⟩
  rw [bind_of_ok hOk1]
  rcases hS2 self1 with ⟨e, self2, hError⟩ | ⟨self2, hOk2, hReader2⟩
  · exact .inl ⟨e, self2, bind_of_error hError⟩
  rw [bind_of_ok hOk2]
  exact .inr ⟨_, rfl, rfl, (hReader2.trans hReader1).trans hReader⟩

end Handshaker

variable {self : Handshaker} {around : Surroundings} {c0 : UInt8} {c1 rest : List UInt8}

namespace SimpleHandshakeServer

theorem readC1_short (self : Handshaker) (h : self.reader.buffer.length < RTMP_HANDSHAKE_SIZE) :
    ∃ e self', readC1 self = .error e self' :=
  ⟨_, _, by rw [readC1, bind_of_error (readMessage_short h)]⟩

/-- The simple handshake answers every first message. -/
theorem handshake_answers (h : self.state = .readC0C1) (hReader : self.reader = ⟨c0 :: (c1 ++ rest)⟩)
    (hLength : c1.length = RTMP_HANDSHAKE_SIZE) :
    ∃ self', handshake around self = .ok () self' ∧ Answered rest self' := by
  obtain ⟨timestamp, hTimestamp⟩ := timestampOf_message hLength
  have hC1 : readC1 { self with reader := ⟨c1 ++ rest⟩ } =
      .ok () { self with reader := ⟨rest⟩, c1, c1Timestamp := timestamp } := by
    rw [readC1, bind_of_ok (readMessage_ok rfl hLength), bind_modify, hTimestamp]
    rfl
  rw [handshake, handshake_first h hReader hC1]
  exact ⟨_, rfl, rfl, rfl⟩

end SimpleHandshakeServer

namespace ComplexHandshakeServer

theorem readC1_short (self : Handshaker) (h : self.reader.buffer.length < RTMP_HANDSHAKE_SIZE) :
    ∃ e self', readC1 around self = .error e self' :=
  ⟨_, _, by rw [readC1, bind_of_error (readMessage_short h)]⟩

theorem writes_digest {α : Type} (r : Except DigestErrorValue α) {k : α → Shake Unit}
    (h : ∀ a, Writes (k a)) : Writes (orDigestError r >>= k) := by
  intro self
  cases r with
  | ok a => exact h a self
  | error value => exact .inl ⟨_, _, rfl⟩

theorem writes_write (bytes : List UInt8) : Writes (write bytes) := fun _ => .inr ⟨_, rfl, rfl⟩

theorem writes_writeS1 : Writes (writeS1 around) := writes_digest _ writes_write

theorem writes_writeS2 : Writes (writeS2 around) := by
  intro self
  have hWrites : Writes (do
      let tmpKey ← orDigestError ((DigestProcessor.new [] RTMP_SERVER_KEY).makeDigest around.hmac self.c1)
      let data := ((((⟨[]⟩ : BytesWriter).writeU32 .bigEndian around.secondTime).writeU32 .bigEndian
        self.c1Timestamp).write around.secondRandom).bytes.take 1504
      let digest ← orDigestError ((DigestProcessor.new [] tmpKey).makeDigest around.hmac data)
      write (data ++ digest)) :=
    writes_digest _ fun tmpKey => writes_digest _ fun digest => writes_write _
  exact hWrites self

/-- C1 is read with its digest, or refused. -/
theorem readC1_cases (hReader : self.reader = ⟨c1 ++ rest⟩) (hLength : c1.length = RTMP_HANDSHAKE_SIZE) :
    (∃ e self', readC1 around self = .error e self') ∨
      ∃ self', readC1 around self = .ok () self' ∧ self'.reader = ⟨rest⟩ := by
  obtain ⟨timestamp, hTimestamp⟩ := timestampOf_message hLength
  rw [readC1, bind_of_ok (readMessage_ok hReader hLength), hTimestamp, pure_bind, bind_modify]
  cases (DigestProcessor.new c1 RTMP_CLIENT_KEY_FIRST_HALF).readDigest around.hmac with
  | ok digest => exact .inr ⟨_, rfl, rfl⟩
  | error value => exact .inl ⟨_, _, rfl⟩

/-- The complex handshake answers a first message, or fails. -/
theorem handshake_answers (h : self.state = .readC0C1) (hReader : self.reader = ⟨c0 :: (c1 ++ rest)⟩)
    (hLength : c1.length = RTMP_HANDSHAKE_SIZE) :
    (∃ e self', handshake around self = .error e self') ∨
      ∃ self', handshake around self = .ok () self' ∧ Answered rest self' := by
  rcases @readC1_cases { self with reader := ⟨c1 ++ rest⟩ } around c1 rest rfl hLength with
    ⟨e, self1, hError⟩ | ⟨self1, hOk, hReader1⟩
  · refine .inl ⟨e, self1, ?_⟩
    rw [handshake, handshake_readC0C1 h, bind_of_ok (readC0_ok hReader), bind_of_error hError]
  · rw [handshake, handshake_first h hReader hOk]
    exact answered_of_writes writes_writeS1 writes_writeS2 hReader1

end ComplexHandshakeServer

/-! ### What the server's handshake takes -/

namespace HandshakeServer

section Runs

variable {self : HandshakeServer} {handshaker : Handshaker} {e : HandshakeErrorValue}

theorem handshakeSimple_ok
    (h : SimpleHandshakeServer.handshake around self.simpleHandshaker = .ok () handshaker) :
    handshakeSimple around self = .ok () { self with simpleHandshaker := handshaker } := by
  simp only [handshakeSimple, h]

theorem handshakeSimple_error
    (h : SimpleHandshakeServer.handshake around self.simpleHandshaker = .error e handshaker) :
    handshakeSimple around self = .error e { self with simpleHandshaker := handshaker } := by
  simp only [handshakeSimple, h]

theorem handshake_simple (h : self.isComplex = false) :
    handshake around self = handshakeSimple around self := by
  rw [handshake, h]
  rfl

theorem handshake_complex (hComplex : self.isComplex = true)
    (h : ComplexHandshakeServer.handshake around self.complexHandshaker = .ok () handshaker) :
    handshake around self = .ok () { self with complexHandshaker := handshaker } := by
  simp only [handshake, hComplex, h, if_true]

/-- The simple handshaker begins with all data. -/
theorem handshake_fallback (hComplex : self.isComplex = true)
    (h : ComplexHandshakeServer.handshake around self.complexHandshaker = .error e handshaker) :
    handshake around self = handshakeSimple around
      { self with
        simpleHandshaker := self.simpleHandshaker.extendData self.savedData
        complexHandshaker := handshaker
        isComplex := false } := by
  simp only [handshake, hComplex, h, if_true]
  rfl

end Runs

/-- A handshaker that has these bytes and has done nothing. -/
def fresh (bytes : List UInt8) : Handshaker := { Handshaker.new with reader := ⟨bytes⟩ }

/-- The state before the first message has been answered: the bytes that have come so far. -/
def collected (bytes : List UInt8) : HandshakeServer := ⟨.new, fresh bytes, true, bytes⟩

theorem foldl_collected (pieces : List (List UInt8)) (bytes : List UInt8) :
    pieces.foldl extendData (collected bytes) = collected (bytes ++ pieces.flatten) := by
  induction pieces generalizing bytes with
  | nil => rw [List.foldl_nil, List.flatten_nil, List.append_nil]
  | cons piece pieces ih =>
    have hExtend : (collected bytes).extendData piece = collected (bytes ++ piece) := rfl
    rw [List.foldl_cons, hExtend, ih, List.flatten_cons, List.append_assoc]

/-- The first message has been answered, and these bytes stand behind it. -/
def AnsweredFirst (rest : List UInt8) (self : HandshakeServer) : Prop := Answered rest self.current

theorem answered_extendData {self : Handshaker} (h : Answered rest self) (data : List UInt8) :
    Answered (rest ++ data) (self.extendData data) := by
  refine ⟨h.1, ?_⟩
  rw [Handshaker.extendData, h.2]
  rfl

theorem AnsweredFirst.extendData {self : HandshakeServer} (h : AnsweredFirst rest self)
    (data : List UInt8) : AnsweredFirst (rest ++ data) (self.extendData data) := by
  obtain ⟨simple, complex, isComplex, savedData⟩ := self
  cases isComplex with
  | true => exact answered_extendData h data
  | false => exact answered_extendData h data

theorem AnsweredFirst.foldl {self : HandshakeServer} (h : AnsweredFirst rest self)
    (pieces : List (List UInt8)) :
    AnsweredFirst (rest ++ pieces.flatten) (pieces.foldl HandshakeServer.extendData self) := by
  induction pieces generalizing self rest with
  | nil => rwa [List.flatten_nil, List.append_nil]
  | cons piece pieces ih =>
    rw [List.flatten_cons, ← List.append_assoc]
    exact ih (h.extendData piece)

/-- The first message is answered, in one way or the other. -/
theorem handshake_answers (hLength : c1.length = RTMP_HANDSHAKE_SIZE) :
    ∃ self', handshake around (collected (c0 :: (c1 ++ rest))) = .ok () self' ∧
      AnsweredFirst rest self' := by
  rcases @ComplexHandshakeServer.handshake_answers (fresh (c0 :: (c1 ++ rest))) around c0 c1 rest rfl rfl
    hLength with ⟨e, complex, hError⟩ | ⟨complex, hOk, hAnswered⟩
  · obtain ⟨simple, hSimple, hAnswered⟩ := @SimpleHandshakeServer.handshake_answers
      (fresh (c0 :: (c1 ++ rest))) around c0 c1 rest rfl rfl hLength
    rw [@handshake_fallback _ (collected _) _ _ rfl hError]
    exact ⟨_, handshakeSimple_ok hSimple, hAnswered⟩
  · exact ⟨_, @handshake_complex _ (collected _) _ rfl hOk, hAnswered⟩

/-- Without all of C1, both handshakes fail. -/
theorem handshake_short {bytes : List UInt8} (h : bytes.length ≤ RTMP_HANDSHAKE_SIZE) :
    ∃ e self', handshake around (collected bytes) = .error e self' := by
  obtain ⟨e, complex, hError⟩ := @Handshaker.handshake_short (fresh bytes) _
    (ComplexHandshakeServer.writeS1 around) (ComplexHandshakeServer.writeS2 around) rfl h
    ComplexHandshakeServer.readC1_short
  obtain ⟨e', simple, hSimple⟩ := @Handshaker.handshake_short (fresh bytes) _
    (SimpleHandshakeServer.writeS1 around) SimpleHandshakeServer.writeS2 rfl h
    SimpleHandshakeServer.readC1_short
  rw [@handshake_fallback _ (collected bytes) _ _ rfl hError]
  exact ⟨e', _, handshakeSimple_error hSimple⟩

/-- The second message is taken, and what stands behind it is left. -/
theorem handshake_finishes {self : HandshakeServer} {c2 : List UInt8}
    (h : AnsweredFirst (c2 ++ rest) self) (hLength : c2.length = RTMP_HANDSHAKE_SIZE) :
    ∃ self', handshake around self = .ok () self' ∧ self'.state = .finish ∧
      self'.getRemainingBytes = rest := by
  obtain ⟨simple, complex, isComplex, savedData⟩ := self
  cases isComplex with
  | true =>
    exact ⟨_, handshake_complex rfl (handshake_readC2 h.1 h.2 hLength), rfl, rfl⟩
  | false =>
    rw [handshake_simple rfl]
    exact ⟨_, handshakeSimple_ok (handshake_readC2 h.1 h.2 hLength), rfl, rfl⟩

end HandshakeServer

/-! ### What the client's handshake takes -/

namespace SimpleHandshakeClient

variable {self : SimpleHandshakeClient} {s0 : UInt8} {s1 s2 : List UInt8}

theorem read_ok {α : Type} {f : BytesReader → Except BytesReadErrorValue (α × BytesReader)} {a : α}
    {reader : BytesReader} (h : f self.reader = .ok (a, reader)) :
    read f self = .ok a { self with reader } := by
  simp only [read, h]

theorem read_error {α : Type} {f : BytesReader → Except BytesReadErrorValue (α × BytesReader)}
    {value : BytesReadErrorValue} (h : f self.reader = .error value) :
    read f self = .error (.bytesReadError value) self := by
  simp only [read, h]

/-- The state before the answer has been read: the bytes that have come so far. -/
def Awaits (bytes : List UInt8) (self : SimpleHandshakeClient) : Prop :=
  self.state = .readS0S1S2 ∧ self.reader = ⟨bytes⟩

theorem awaits_begun (around : Surroundings) :
    ∃ self, handshake around new = .ok () self ∧ Awaits [] self := ⟨_, rfl, rfl, rfl⟩

theorem Awaits.foldl {bytes : List UInt8} (h : Awaits bytes self) (pieces : List (List UInt8)) :
    Awaits (bytes ++ pieces.flatten) (pieces.foldl extendData self) := by
  induction pieces generalizing self bytes with
  | nil => rwa [List.flatten_nil, List.append_nil]
  | cons piece pieces ih =>
    have hNext : Awaits (bytes ++ piece) (self.extendData piece) := by
      refine ⟨h.1, ?_⟩
      rw [extendData, h.2]
      rfl
    rw [List.flatten_cons, ← List.append_assoc]
    exact ih hNext

/-- S0 and S1 are read when they are there. -/
theorem handshake_readS (h : Awaits (s0 :: (s1 ++ rest)) self) (hLength : s1.length = RTMP_HANDSHAKE_SIZE) :
    handshake around self = (readS2 >>= fun _ => setState .writeC2 >>= fun _ => finish)
      { self with reader := ⟨rest⟩, s1Bytes := s1 } := by
  have hU8 : self.reader.readU8 = .ok (s0, ⟨s1 ++ rest⟩) := by
    rw [h.2]
    exact BytesReader.readU8_cons s0 (s1 ++ rest)
  have hS0 : readS0 self = .ok () { self with reader := ⟨s1 ++ rest⟩ } := by
    rw [readS0, bind_of_ok (read_ok hU8)]
    rfl
  have hS1 : readS1 { self with reader := ⟨s1 ++ rest⟩ } =
      .ok () { self with reader := ⟨rest⟩, s1Bytes := s1 } := by
    rw [readS1, bind_of_ok (read_ok (BytesReader.readBytes_append hLength))]
    rfl
  have hRun : handshake around self = (readS0 >>= fun _ => readS1 >>= fun _ => readS2 >>= fun _ =>
      setState .writeC2 >>= fun _ => finish) self := by
    rw [handshake, bind_get, h.1]
  rw [hRun, bind_of_ok hS0, bind_of_ok hS1]

/-- With all of S2, the handshake ends. -/
theorem handshake_finishes (h : Awaits (s0 :: (s1 ++ (s2 ++ rest))) self)
    (hS1 : s1.length = RTMP_HANDSHAKE_SIZE) (hS2 : s2.length = RTMP_HANDSHAKE_SIZE) :
    ∃ self', handshake around self = .ok () self' ∧ self'.state = .finish := by
  have hRead : readS2 { self with reader := ⟨s2 ++ rest⟩, s1Bytes := s1 } =
      .ok () { self with reader := ⟨rest⟩, s1Bytes := s1 } := by
    rw [readS2, bind_of_ok (read_ok (BytesReader.readBytes_append hS2))]
    rfl
  rw [handshake_readS h hS1, bind_of_ok hRead]
  exact ⟨_, rfl, rfl⟩

/-- Without it, the handshake fails. -/
theorem handshake_short (h : Awaits (s0 :: (s1 ++ rest)) self) (hLength : s1.length = RTMP_HANDSHAKE_SIZE)
    (hShort : rest.length < RTMP_HANDSHAKE_SIZE) :
    ∃ e self', handshake around self = .error e self' := by
  have hRead : readS2 { self with reader := ⟨rest⟩, s1Bytes := s1 } =
      .error (.bytesReadError .notEnoughBytes) { self with reader := ⟨rest⟩, s1Bytes := s1 } := by
    rw [readS2, bind_of_error (read_error (BytesReader.readBytes_short hShort))]
  rw [handshake_readS h hLength, bind_of_error hRead]
  exact ⟨_, _, rfl⟩

end SimpleHandshakeClient

end Xiu.Rtmp.Handshake
