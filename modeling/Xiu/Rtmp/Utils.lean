import Xiu.Common.Text

/-! URLs of RTMP, of `protocol/rtmp/src/utils/mod.rs`. -/

namespace Xiu.Rtmp

open Common

structure RtmpUrlParser where
  url : String
  hostWithPort : String
  host : String
  port : Option String
  appName : String
  streamNameWithQuery : String
  streamName : String
  query : Option String
  deriving DecidableEq

namespace RtmpUrlParser

def new (url : String) : RtmpUrlParser := ⟨url, "", "", none, "", "", "", none⟩

/-- The name and the query, if there is one; of several question marks the second ends the query. -/
def parseStreamNameWithQuery (streamNameWithQuery : String) : String × Option String :=
  let (name, query) := scanf streamNameWithQuery.toList '?'
  (String.ofList (name.getD []), query.map String.ofList)

def parseHostWithPort (self : RtmpUrlParser) : RtmpUrlParser :=
  let (host, port) := scanf self.hostWithPort.toList ':'
  { self with host := String.ofList (host.getD []), port := port.map String.ofList <|> self.port }

/-- `parse_url`: three parts behind the scheme, or nothing. -/
def parseUrl (self : RtmpUrlParser) : Option RtmpUrlParser :=
  match find "rtmp://".toList self.url.toList with
  | none => none
  | some idx =>
    match (self.url.toList.drop (idx + 7)).splitOn '/' with
    | [hostWithPort, appName, streamNameWithQuery] =>
      let self := parseHostWithPort { self with
        hostWithPort := String.ofList hostWithPort
        appName := String.ofList appName
        streamNameWithQuery := String.ofList streamNameWithQuery }
      let (streamName, query) := parseStreamNameWithQuery self.streamNameWithQuery
      some { self with streamName, query }
    | _ => none

end RtmpUrlParser

end Xiu.Rtmp
