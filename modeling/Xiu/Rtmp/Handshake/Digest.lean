import Xiu.Bytesio.Writer

/-! The digests of the complex handshake, of `protocol/rtmp/src/handshake/digest.rs`: where a message of
1536 bytes has its digest, and how it is made and checked. -/

namespace Xiu.Rtmp.Handshake

open Bytesio

def RTMP_VERSION : UInt8 := 3
def RTMP_HANDSHAKE_SIZE : Nat := 1536

def RTMP_SERVER_VERSION : List UInt8 := [0x0D, 0x0E, 0x0A, 0x0D]

def RTMP_DIGEST_LENGTH : Nat := 32

/-- `Genuine Adobe Flash Media Server 001`. -/
def RTMP_SERVER_KEY_FIRST_HALF : List UInt8 :=
  [0x47, 0x65, 0x6e, 0x75, 0x69, 0x6e, 0x65, 0x20, 0x41, 0x64, 0x6f, 0x62, 0x65, 0x20, 0x46, 0x6c,
   0x61, 0x73, 0x68, 0x20, 0x4d, 0x65, 0x64, 0x69, 0x61, 0x20, 0x53, 0x65, 0x72, 0x76, 0x65, 0x72,
   0x20, 0x30, 0x30, 0x31]

/-- `Genuine Adobe Flash Player 001`. -/
def RTMP_CLIENT_KEY_FIRST_HALF : List UInt8 :=
  [0x47, 0x65, 0x6e, 0x75, 0x69, 0x6e, 0x65, 0x20, 0x41, 0x64, 0x6f, 0x62, 0x65, 0x20, 0x46, 0x6c,
   0x61, 0x73, 0x68, 0x20, 0x50, 0x6c, 0x61, 0x79, 0x65, 0x72, 0x20, 0x30, 0x30, 0x31]

def RTMP_SERVER_KEY : List UInt8 :=
  RTMP_SERVER_KEY_FIRST_HALF ++
    [0xf0, 0xee, 0xc2, 0x4a, 0x80, 0x68, 0xbe, 0xe8, 0x2e, 0x00, 0xd0, 0xd1, 0x02, 0x9e, 0x7e, 0x57,
     0x6e, 0xec, 0x5d, 0x2d, 0x29, 0x80, 0x6f, 0xab, 0x93, 0xb8, 0xe6, 0x36, 0xcf, 0xeb, 0x31, 0xae]

inductive SchemaVersion where
  | schema0
  | schema1
  | unknown
  deriving DecidableEq

inductive DigestErrorValue where
  | bytesReadError (value : BytesReadErrorValue)
  | digestLengthNotCorrect
  | cannotGenerate
  | unknowSchema
  deriving DecidableEq

/-- The code that `hmac` and `sha2` make of a message, with a key. -/
abbrev Hmac := List UInt8 → List UInt8 → List UInt8

structure DigestProcessor where
  reader : BytesReader
  key : List UInt8

namespace DigestProcessor

def new (data key : List UInt8) : DigestProcessor := ⟨⟨data⟩, key⟩

/-- An error of the reader is passed on. -/
def orBytesReadError {α : Type} : Except BytesReadErrorValue α → Except DigestErrorValue α
  | .ok a => .ok a
  | .error value => .error (.bytesReadError value)

/-- The sum of the four bytes from an index on. -/
def sumAt (self : DigestProcessor) (index : Nat) : Except DigestErrorValue Nat := do
  let b0 ← orBytesReadError (self.reader.get index)
  let b1 ← orBytesReadError (self.reader.get (index + 1))
  let b2 ← orBytesReadError (self.reader.get (index + 2))
  let b3 ← orBytesReadError (self.reader.get (index + 3))
  return b0.toNat + b1.toNat + b2.toNat + b3.toNat

def findDigestOffset (self : DigestProcessor) : SchemaVersion → Except DigestErrorValue Nat
  | .schema0 => do return (← self.sumAt 772) % 728 + 776
  | .schema1 => do return (← self.sumAt 8) % 728 + 12
  | .unknown => .error .unknowSchema

/-- The message in three parts: before the digest, the digest, and behind it. -/
def cookRawMessage (self : DigestProcessor) (version : SchemaVersion) :
    Except DigestErrorValue (List UInt8 × List UInt8 × List UInt8) := do
  let digestOffset ← self.findDigestOffset version
  let newReader : BytesReader := ⟨self.reader.getRemainingBytes⟩
  let (leftPart, newReader) ← orBytesReadError (newReader.readBytes digestOffset)
  let (digestData, newReader) ← orBytesReadError (newReader.readBytes RTMP_DIGEST_LENGTH)
  return (leftPart, digestData, newReader.extractRemainingBytes.1)

def makeDigest (hmac : Hmac) (self : DigestProcessor) (rawMessage : List UInt8) :
    Except DigestErrorValue (List UInt8) :=
  let result := hmac self.key rawMessage
  if result.length ≠ RTMP_DIGEST_LENGTH then .error .digestLengthNotCorrect else .ok result

def generateAndFillDigest (hmac : Hmac) (self : DigestProcessor) :
    Except DigestErrorValue (List UInt8) := do
  let (leftPart, _, rightPart) ← self.cookRawMessage .schema0
  let computedDigest ← self.makeDigest hmac (leftPart ++ rightPart)
  return leftPart ++ computedDigest ++ rightPart

def generateAndValidate (hmac : Hmac) (self : DigestProcessor) (version : SchemaVersion) :
    Except DigestErrorValue (List UInt8) := do
  let (leftPart, digestData, rightPart) ← self.cookRawMessage version
  let computedDigest ← self.makeDigest hmac (leftPart ++ rightPart)
  if digestData = computedDigest then return digestData else .error .cannotGenerate

/-- The digest of a message, and the schema by which it is one. -/
def readDigest (hmac : Hmac) (self : DigestProcessor) :
    Except DigestErrorValue (List UInt8 × SchemaVersion) :=
  match self.generateAndValidate hmac .schema0 with
  | .ok digest => .ok (digest, .schema0)
  | .error _ => do return (← self.generateAndValidate hmac .schema1, .schema1)

/-! ### The digests of messages of 1536 bytes -/

variable {message key : List UInt8}

variable {hmac : Hmac}

end DigestProcessor

end Xiu.Rtmp.Handshake
