import Xiu.Common.Text
import Xiu.ProofKit.Utf8

/-! Session descriptions, of `protocol/rtsp/src/sdp`.  Reading one panics where it unwraps a field
that cannot be decoded; `none` stands for a panic.  The codings of the crates `base64` and `hex` are
parameters. -/

namespace Xiu.Rtsp

open Common ProofKit

/-- `base64::engine::general_purpose::STANDARD` and `hex`. -/
structure Codings where
  decodeBase64 : List Char → Option (List UInt8)
  encodeBase64 : List UInt8 → List Char
  decodeHex : List Char → Option (List UInt8)
  encodeHex : List UInt8 → List Char

variable (codings : Codings)

namespace Sdp

structure RtpMap where
  payloadType : Nat
  encodingName : String
  clockRate : Nat
  encodingParam : String
  deriving DecidableEq

def RtpMap.default : RtpMap := ⟨0, "", 0, ""⟩

/-- `RtpMap::unmarshal`: `96 H264/90000` or `97 MPEG4-GENERIC/48000/2`. -/
def RtpMap.unmarshal (rawData : List Char) : RtpMap :=
  let parts := rawData.splitOn ' '
  let rtpmap : RtpMap :=
    { RtpMap.default with payloadType := (parts[0]?.bind parseU16).getD 0 }
  match parts[1]? with
  | none => rtpmap
  | some part1 =>
    let parameters := part1.splitOn '/'
    { rtpmap with
      encodingName := (parameters[0]?.map String.ofList).getD ""
      clockRate := (parameters[1]?.bind parseU32).getD 0
      encodingParam := (parameters[2]?.map String.ofList).getD "" }

def RtpMap.marshal (rtpmap : RtpMap) : String :=
  s!"{rtpmap.payloadType} {rtpmap.encodingName}/{rtpmap.clockRate}" ++
    (if rtpmap.encodingParam ≠ "" then s!"/{rtpmap.encodingParam}" else "") ++ "\r\n"

structure Bandwidth where
  bType : String
  bandwidth : Nat
  deriving DecidableEq

/-- `Bandwidth::unmarshal`: `AS:284`. -/
def Bandwidth.unmarshal (rawData : List Char) : Bandwidth :=
  let parameters := rawData.splitOn ':'
  ⟨(parameters[0]?.map String.ofList).getD "", (parameters[1]?.bind parseU16).getD 0⟩

def Bandwidth.marshal (bandwidth : Bandwidth) : String :=
  s!"{bandwidth.bType}:{bandwidth.bandwidth}\r\n"

/-! ### Format parameters -/

/-- The bytes of a profile are those of a text, and so are the parameter sets of H265. -/
structure H264Fmtp where
  payloadType : Nat
  packetizationMode : Nat
  profileLevelId : String
  sps : List UInt8
  pps : List UInt8
  deriving DecidableEq

structure H265Fmtp where
  payloadType : Nat
  vps : String
  sps : String
  pps : String
  deriving DecidableEq

structure Mpeg4Fmtp where
  payloadType : Nat
  asc : List UInt8
  profileLevelId : String
  mode : String
  sizeLength : Nat
  indexLength : Nat
  indexDeltaLength : Nat
  deriving DecidableEq

inductive Fmtp where
  | h264 (fmtp : H264Fmtp)
  | h265 (fmtp : H265Fmtp)
  | mpeg4 (fmtp : Mpeg4Fmtp)
  deriving DecidableEq

/-- One parameter, if it has an equals sign. -/
def keyValue (parameter : List Char) : Option (List Char × List Char) :=
  match splitn2 '=' (trim parameter) with
  | (key, some value) => some (key, value)
  | (_, none) => none

/-- Two parameter sets, both in base64, with a comma between them. -/
def parameterSets (value : List Char) : Option (List UInt8 × List UInt8) :=
  match value.splitOn ',' with
  | sps :: pps :: _ => do
    let sps ← codings.decodeBase64 sps
    let pps ← codings.decodeBase64 pps
    return (sps, pps)
  | _ => none

def H264Fmtp.setParameter (fmtp : H264Fmtp) (parameter : List Char) : Option H264Fmtp :=
  match keyValue parameter with
  | none => some fmtp
  | some (key, value) =>
    if key = "packetization-mode".toList then
      some { fmtp with packetizationMode := (parseU8 value).getD fmtp.packetizationMode }
    else if key = "sprop-parameter-sets".toList then
      (parameterSets codings value).map fun (sps, pps) =>
        { fmtp with sps := fmtp.sps ++ sps, pps := fmtp.pps ++ pps }
    else if key = "profile-level-id".toList then
      some { fmtp with profileLevelId := String.ofList value }
    else
      some fmtp

def H265Fmtp.setParameter (fmtp : H265Fmtp) (parameter : List Char) : Option H265Fmtp :=
  match keyValue parameter with
  | none => some fmtp
  | some (key, value) =>
    if key = "sprop-vps".toList then
      some { fmtp with vps := String.ofList value }
    else if key = "sprop-sps".toList then
      some { fmtp with sps := String.ofList value }
    else if key = "sprop-pps".toList then
      some { fmtp with pps := String.ofList value }
    else
      some fmtp

def Mpeg4Fmtp.setParameter (fmtp : Mpeg4Fmtp) (parameter : List Char) : Option Mpeg4Fmtp :=
  match keyValue parameter with
  | none => some fmtp
  | some (key, value) =>
    let key := toLowercase key
    if key = "mode".toList then
      some { fmtp with mode := String.ofList value }
    else if key = "config".toList then
      (codings.decodeHex value).map fun asc => { fmtp with asc := fmtp.asc ++ asc }
    else if key = "profile-level-id".toList then
      some { fmtp with profileLevelId := String.ofList value }
    else if key = "sizelength".toList then
      some { fmtp with sizeLength := (parseU16 value).getD fmtp.sizeLength }
    else if key = "indexlength".toList then
      some { fmtp with indexLength := (parseU16 value).getD fmtp.indexLength }
    else if key = "indexdeltalength".toList then
      some { fmtp with indexDeltaLength := (parseU16 value).getD fmtp.indexDeltaLength }
    else
      some fmtp

/-- What the three `unmarshal` have in common: a payload type, and behind a blank the parameters,
between semicolons. -/
def unmarshalFmtp {φ : Type} (start : Nat → φ) (setParameter : φ → List Char → Option φ)
    (rawData : List Char) : Option (Option φ) :=
  match splitn2 ' ' rawData with
  | (_, none) => some none
  | (payloadType, some parameters) =>
    ((parameters.splitOn ';').foldlM setParameter (start ((parseU16 payloadType).getD 0))).map some

def H264Fmtp.unmarshal : List Char → Option (Option H264Fmtp) :=
  unmarshalFmtp (fun payloadType => ⟨payloadType, 0, "", [], []⟩) (H264Fmtp.setParameter codings)

def H265Fmtp.unmarshal : List Char → Option (Option H265Fmtp) :=
  unmarshalFmtp (fun payloadType => ⟨payloadType, "", "", ""⟩) H265Fmtp.setParameter

def Mpeg4Fmtp.unmarshal : List Char → Option (Option Mpeg4Fmtp) :=
  unmarshalFmtp (fun payloadType => ⟨payloadType, [], "", "", 0, 0, 0⟩)
    (Mpeg4Fmtp.setParameter codings)

/-- `Fmtp::new`: a panic, nothing, or the parameters of a codec. -/
def Fmtp.new (codec : String) (rawData : List Char) : Option (Option Fmtp) :=
  let codec := toLowercase codec.toList
  if codec = "h264".toList then
    (H264Fmtp.unmarshal codings rawData).map (·.map .h264)
  else if codec = "h265".toList then
    (H265Fmtp.unmarshal rawData).map (·.map .h265)
  else if codec = "mpeg4-generic".toList then
    (Mpeg4Fmtp.unmarshal codings rawData).map (·.map .mpeg4)
  else
    some none

def Fmtp.marshal : Fmtp → String
  | .h264 fmtp =>
    s!"{fmtp.payloadType} packetization-mode={fmtp.packetizationMode}; sprop-parameter-sets=" ++
      String.ofList (codings.encodeBase64 fmtp.sps) ++ "," ++
      String.ofList (codings.encodeBase64 fmtp.pps) ++
      s!"; profile-level-id={fmtp.profileLevelId}\r\n"
  | .h265 fmtp =>
    s!"{fmtp.payloadType} sprop-vps={fmtp.vps}; sprop-sps={fmtp.sps}; sprop-pps={fmtp.pps}\r\n"
  | .mpeg4 fmtp =>
    s!"{fmtp.payloadType} profile-level-id={fmtp.profileLevelId};mode={fmtp.mode}" ++
      s!";sizelength={fmtp.sizeLength};indexlength={fmtp.indexLength}" ++
      s!";indexdeltalength={fmtp.indexDeltaLength}; config=" ++
      String.ofList (codings.encodeHex fmtp.asc) ++ "\r\n"

/-! ### Media and sessions -/

structure SdpMediaInfo where
  mediaType : String
  port : Nat
  protocol : String
  fmts : List Nat
  bandwidth : Option Bandwidth
  rtpmap : RtpMap
  fmtp : Option Fmtp
  attributes : IndexMap String
  deriving DecidableEq

/-- `SdpMediaInfo::unmarshal`: `video 20003 RTP/AVP 97`. -/
def SdpMediaInfo.unmarshal (rawData : List Char) : SdpMediaInfo :=
  let parameters := rawData.splitOn ' '
  { mediaType := (parameters[0]?.map String.ofList).getD ""
    port := (parameters[1]?.bind parseUsize).getD 0
    protocol := (parameters[2]?.map String.ofList).getD ""
    fmts := (parameters.drop 3).filterMap parseU8
    bandwidth := none
    rtpmap := .default
    fmtp := none
    attributes := [] }

def marshalAttributes (attributes : IndexMap String) : String :=
  String.join (attributes.map fun (k, v) => s!"a={k}:{v}\r\n")

def SdpMediaInfo.marshal (media : SdpMediaInfo) : String :=
  s!"m={media.mediaType} {media.port} {media.protocol} " ++
    String.intercalate " " (media.fmts.map toString) ++ "\r\n" ++
    ((media.bandwidth.map fun bandwidth => "b=" ++ bandwidth.marshal).getD "") ++
    "a=rtpmap:" ++ media.rtpmap.marshal ++
    ((media.fmtp.map fun fmtp => "a=fmtp:" ++ fmtp.marshal codings).getD "") ++
    marshalAttributes media.attributes

end Sdp

structure Sdp where
  rawString : String
  version : Nat
  origin : String
  session : String
  connection : String
  timing : String
  medias : List Sdp.SdpMediaInfo
  attributes : IndexMap String
  deriving DecidableEq

namespace Sdp

def default : Sdp := ⟨"", 0, "", "", "", "", [], []⟩

/-- `sdp.medias.last_mut()`, replaced. -/
def setLastMedia (sdp : Sdp) (media : SdpMediaInfo) : Sdp :=
  { sdp with medias := sdp.medias.dropLast ++ [media] }

/-- An attribute, of the last medium if there is one. -/
def setAttribute (sdp : Sdp) (value : List Char) : Option Sdp :=
  let (name, attrValue) := splitn2 ':' value
  match sdp.medias.getLast? with
  | none =>
    some { sdp with
      attributes := IndexMap.insert sdp.attributes (String.ofList name)
        (String.ofList (attrValue.getD [])) }
  | some media =>
    if name = "rtpmap".toList ∧ attrValue.isSome then
      some (sdp.setLastMedia { media with rtpmap := .unmarshal (attrValue.getD []) })
    else if name = "fmtp".toList ∧ attrValue.isSome then
      (Fmtp.new codings media.rtpmap.encodingName (attrValue.getD [])).map fun fmtp =>
        sdp.setLastMedia { media with fmtp }
    else
      some (sdp.setLastMedia { media with
        attributes := IndexMap.insert media.attributes (String.ofList name)
          (String.ofList (attrValue.getD [])) })

/-- One line. -/
def setLine (sdp : Sdp) (line : List Char) : Option Sdp :=
  match keyValue line with
  | none => some sdp
  | some (key, value) =>
    if key = ['v'] then
      some { sdp with version := (parseU16 value).getD sdp.version }
    else if key = ['o'] then
      some { sdp with origin := String.ofList value }
    else if key = ['s'] then
      some { sdp with session := String.ofList value }
    else if key = ['c'] then
      some { sdp with connection := String.ofList value }
    else if key = ['t'] then
      some { sdp with timing := String.ofList value }
    else if key = ['m'] then
      some { sdp with medias := sdp.medias ++ [.unmarshal value] }
    else if key = ['b'] then
      match sdp.medias.getLast? with
      | none => some sdp
      | some media => some (sdp.setLastMedia { media with bandwidth := some (.unmarshal value) })
    else if key = ['a'] then
      sdp.setAttribute codings value
    else
      some sdp

/-- The lines of a description; an empty one has no equals sign. -/
def lines (rawData : List Char) : List (List Char) :=
  rawData.splitOnP fun c => c == '\r' || c == '\n'

/-- `Sdp::unmarshal`, which finds a description in every text unless it panics. -/
def unmarshal (rawData : String) : Option Sdp :=
  (lines rawData.toList).foldlM (setLine codings) { default with rawString := rawData }

/-- `Sdp::marshal`, with the attributes in the order of the maps. -/
def marshal (sdp : Sdp) : String :=
  s!"v={sdp.version}\r\no={sdp.origin}\r\ns={sdp.session}\r\nc={sdp.connection}\r\n" ++
    s!"t={sdp.timing}\r\n" ++ marshalAttributes sdp.attributes ++
    String.join (sdp.medias.map (SdpMediaInfo.marshal codings))

end Sdp

end Xiu.Rtsp
