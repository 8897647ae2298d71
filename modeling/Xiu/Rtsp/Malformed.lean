import Mathlib.Data.List.Basic
import Xiu.ProofKit.Folds
import Xiu.Rtsp.Sdp
import Xiu.Rtsp.Transport

/-! The session descriptions and headers that make their parsers panic, by their text: parameter sets
that are not two texts in base64 with a comma between them, a configuration that is not hexadecimal,
a part of a header `Transport` that lacks its equals sign, and times of a header `Range` that are out
of range. -/

namespace Xiu.Rtsp

open Common ProofKit

variable (codings : Codings)

/-! ### Format parameters -/

namespace Sdp

/-- The parameter can be decoded, if a format of the codec has it and it must be. -/
def ParameterSound (codec : List Char) (parameter : List Char) : Prop :=
  ∀ key value, keyValue parameter = some (key, value) →
    (codec = "h264".toList → key = "sprop-parameter-sets".toList →
      ∃ sps pps rest, value.splitOn ',' = sps :: pps :: rest ∧
        (codings.decodeBase64 sps).isSome ∧ (codings.decodeBase64 pps).isSome) ∧
    (codec = "mpeg4-generic".toList → toLowercase key = "config".toList →
      (codings.decodeHex value).isSome)

/-- Every parameter behind the payload type can be decoded. -/
def FmtpSound (codec : String) (rawData : List Char) : Prop :=
  ∀ payloadType parameters, splitn2 ' ' rawData = (payloadType, some parameters) →
    ∀ parameter ∈ parameters.splitOn ';',
      ParameterSound codings (toLowercase codec.toList) parameter

/-- What the lines of a description say of a medium, as far as it matters for its codec. -/
structure Medium where
  mediaType : String
  encodingName : String
  encodingParam : String

def SdpMediaInfo.medium (media : SdpMediaInfo) : Medium :=
  ⟨media.mediaType, media.rtpmap.encodingName, media.rtpmap.encodingParam⟩

/-- The attribute of a line, if it has a value. -/
def attributeOf (line : List Char) : Option (List Char × List Char) :=
  match keyValue line with
  | none => none
  | some (key, value) =>
    let (name, attrValue) := splitn2 ':' value
    if key = ['a'] then attrValue.map fun attrValue => (name, attrValue) else none

/-- A line `m=` begins a medium, and an attribute `rtpmap` says how it is encoded. -/
def mediumLine (media : List Medium) (line : List Char) : List Medium :=
  match keyValue line with
  | none => media
  | some (key, value) =>
    if key = ['m'] then
      media ++ [⟨((value.splitOn ' ')[0]?.map String.ofList).getD "", "", ""⟩]
    else
      match media.getLast?, attributeOf line with
      | some medium, some (name, attrValue) =>
        if name = "rtpmap".toList then
          let rtpmap := RtpMap.unmarshal attrValue
          media.dropLast ++ [⟨medium.mediaType, rtpmap.encodingName, rtpmap.encodingParam⟩]
        else
          media
      | _, _ => media

/-- The media of a description. -/
def mediaOf (text : String) : List Medium := (lines text.toList).foldl mediumLine []

/-- An attribute `fmtp` of a medium can be decoded. -/
def LineSound (media : List Medium) (line : List Char) : Prop :=
  ∀ medium attrValue, media.getLast? = some medium →
    attributeOf line = some ("fmtp".toList, attrValue) → FmtpSound codings medium.encodingName attrValue

/-- Every attribute `fmtp` can be decoded, for the codec that the lines before it name. -/
def TextSound (text : String) : Prop :=
  ∀ before line after, lines text.toList = before ++ line :: after →
    LineSound codings (before.foldl mediumLine []) line

def media (sdp : Sdp) : List Medium := sdp.medias.map SdpMediaInfo.medium

end Sdp

/-! ### Transports -/

namespace RtspTransport

/-- The parts that want a value. -/
def valueKeys : List (List Char) :=
  ["mode".toList, "client_port".toList, "server_port".toList, "interleaved".toList, "ssrc".toList]

/-- No part that wants a value is without one. -/
def TextSound (text : String) : Prop := ∀ part ∈ text.toList.splitOn ';', part ∉ valueKeys

/-- The protocol that a part names. -/
def protocolNamed (part : List Char) : Option ProtocolType :=
  let key := (scanf part '=').1
  if key = some "RTP/AVP/TCP".toList then some .tcp
  else if key = some "RTP/AVP/UDP".toList ∨ key = some "RTP/AVP".toList then some .udp
  else none

/-- The protocol that a header names last, or TCP. -/
def protocolOf (text : String) : ProtocolType :=
  (text.toList.splitOn ';').foldl (fun p part => (protocolNamed part).getD p) .tcp

/-- What becomes of a header has its protocol. -/
def Keeps (transport : RtspTransport) (result : Option RtspTransport) : Prop :=
  ∀ transport', result = some transport' → transport'.protocolType = transport.protocolType

end RtspTransport

/-! ### Ranges -/

namespace RtspRange

def InI64 (n : Int) : Prop := -2 ^ 63 ≤ n ∧ n < 2 ^ 63

/-- No part of the sum of a time is out of range. -/
def TimeSound (rangeTime : List Char) : Prop :=
  let pieces := rangeTime.splitOnP fun c => c == ':' || c == '.'
  ∀ hour minute second, pieces[0]?.bind parseI64 = some hour →
    pieces[1]?.bind parseI64 = some minute → pieces[2]?.bind parseI64 = some second →
      InI64 (hour * 3600) ∧ InI64 (minute * 60) ∧ InI64 (hour * 3600 + minute * 60) ∧
        InI64 (hour * 3600 + minute * 60 + second) ∧
        InI64 ((hour * 3600 + minute * 60 + second) * 1000) ∧
        ∀ mill, pieces[3]?.bind parseI64 = some mill →
          InI64 ((hour * 3600 + minute * 60 + second) * 1000 + mill)

/-- The times of a range in normal play time are in range: the beginning, unless it is `now`, and
the end, if it has one. -/
def TextSound (text : String) : Prop :=
  ∀ value, splitn2 '=' text.toList = ("npt".toList, some value) →
    ((value.splitOn '-')[0]?.getD [] = "now".toList ∨
      TimeSound ((value.splitOn '-')[0]?.getD [])) ∧
    ∀ first second, value.splitOn '-' = [first, second] → second.isEmpty ∨ TimeSound second

end RtspRange

end Xiu.Rtsp
