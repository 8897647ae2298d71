import Mathlib.Algebra.Group.Int.Defs
import Mathlib.Algebra.Group.Nat.Defs
import Xiu.Mpegts.Define
import Xiu.ProofKit.Action

/-! The files of an HLS stream, of `m3u8.rs` and `ts.rs`: its segments, the live playlist and the
recorded one.  Files can be created and written; a file that is not there cannot be removed. -/

namespace Xiu.Hls

open ProofKit

/-! ### Files and lines -/

/-- The characters of a text. -/
abbrev Text := List Char

/-- A segment, of `library/streamhub/src/define.rs`. -/
structure Segment where
  duration : Int
  discontinuity : Bool
  name : Text
  path : Text
  isEof : Bool
  deriving DecidableEq

/-- What is written to a playlist at a time. -/
inductive Line where
  | extm3u
  | version (n : Nat)
  | targetDuration (seconds : Int)
  | mediaSequence (n : Nat)
  | playlistTypeVod
  | allowCache
  | discontinuity
  | extinf (duration : Int) (name : Text)
  | endlist
  deriving DecidableEq

/-- A decimal number. -/
def decimal (n : Int) : Text := (if n < 0 then ['-'] else []) ++ Nat.toDigits 10 n.natAbs

/-- Milliseconds as seconds with three decimals, which is what the quotient of the floating point numbers
is printed as below 2⁵² milliseconds. -/
def seconds (duration : Int) : Text :=
  (if duration < 0 then ['-'] else []) ++ Nat.toDigits 10 (duration.natAbs / 1000) ++ ['.'] ++
    [(duration.natAbs / 100 % 10).digitChar, (duration.natAbs / 10 % 10).digitChar,
      (duration.natAbs % 10).digitChar]

def Line.text : Line → Text
  | extm3u => "#EXTM3U\n".toList
  | version n => "#EXT-X-VERSION:".toList ++ decimal n ++ ['\n']
  | targetDuration n => "#EXT-X-TARGETDURATION:".toList ++ decimal n ++ ['\n']
  | mediaSequence n => "#EXT-X-MEDIA-SEQUENCE:".toList ++ decimal n ++ ['\n']
  | playlistTypeVod => "#EXT-X-PLAYLIST-TYPE:VOD\n".toList
  | allowCache => "#EXT-X-ALLOW-CACHE:YES\n".toList
  | discontinuity => "#EXT-X-DISCONTINUITY\n".toList
  | extinf duration name => "#EXTINF:".toList ++ seconds duration ++ ['\n'] ++ name ++ ['\n']
  | endlist => "#EXT-X-ENDLIST\n".toList

/-- What a file holds: a transport stream, or the text of some lines. -/
inductive Contents where
  | stream (data : List UInt8)
  | playlist (lines : List Line)

/-- What is done to the world: to its files and folders, and to the hub, which is told of a segment of a
stream. -/
inductive Effect where
  | createDirAll (path : Text)
  | create (path : Text) (contents : Contents)
  | removeFile (path : Text)
  | onHls (appName streamName : Text) (segment : Segment)

/-- The file has been created and not been removed since. -/
def Present (path : Text) (effects : List Effect) : Bool :=
  effects.foldl (fun present effect =>
    match effect with
    | .create p _ => present || p == path
    | .removeFile p => present && p != path
    | _ => present) false

/-- Why the segmenter stops. -/
inductive MediaFault where
  | ioError
  | mpegTsError (value : Mpegts.MpegTsErrorValue)
  | panic
  deriving DecidableEq

/-- A party, and what has been done to the world. -/
structure Acting (τ : Type) where
  owner : τ
  effects : List Effect

abbrev Acts (τ : Type) := EStateM MediaFault (Acting τ)

variable {τ α : Type}

/-- Does something to the world. -/
def perform (effect : Effect) : Acts τ Unit :=
  modify fun s => { s with effects := s.effects ++ [effect] }

/-- Removes a file, or panics. -/
def removeFile (path : Text) : Acts τ Unit := do
  if Present path (← get).effects then perform (.removeFile path) else throw .panic

/-- The result of an operation on `i64`, which panics when it does not fit. -/
def checkedI64 (n : Int) : Except MediaFault Int :=
  if -2 ^ 63 ≤ n ∧ n < 2 ^ 63 then .ok n else .error .panic

/-- The result of an operation on unsigned numbers of some bits, which panics when it does not fit. -/
def checkedUnsigned (bits n : Nat) : Except MediaFault Nat :=
  if n < 2 ^ bits then .ok n else .error .panic

def orFail (x : Except MediaFault α) : Acts τ α := fun s =>
  match x with
  | .ok a => .ok a s
  | .error e => .error e s

/-! ### The segments -/

structure Ts where
  tsNumber : Nat
  livePath : Text

namespace Ts

/-- The name of a segment. -/
def tsFileName (tsNumber : Nat) : Text := decimal tsNumber ++ ".ts".toList

def tsFilePath (self : Ts) (tsFileName : Text) : Text := self.livePath ++ ['/'] ++ tsFileName

def write (data : List UInt8) : Acts Ts (Text × Text) := do
  let self := (← get).owner
  let tsFileName := tsFileName self.tsNumber
  let tsFilePath := self.tsFilePath tsFileName
  let tsNumber ← orFail (checkedUnsigned 32 (self.tsNumber + 1))
  modify fun s => { s with owner := { s.owner with tsNumber } }
  perform (.create tsFilePath (.stream data))
  return (tsFileName, tsFilePath)

def delete (tsFileName : Text) : Acts Ts Unit := removeFile tsFileName

end Ts

/-! ### The playlists -/

/-- What the segmenter reads of the configuration. -/
structure HlsConfig where
  needRecord : Bool
  path : Option Text
  fragment : Option Int
  aofRatio : Option Int
  liveTsCount : Option Nat

structure M3u8 where
  version : Nat
  sequenceNo : Nat
  duration : Int
  liveTsCount : Nat
  segments : List Segment
  m3u8Folder : Text
  liveM3u8Name : Text
  tsHandler : Ts
  needRecord : Bool
  vodM3u8Content : List Line
  vodM3u8Name : Text

namespace M3u8

def generateM3u8Header (self : M3u8) (isVod : Bool) : Except MediaFault (List Line) := do
  let duration ← checkedI64 (self.duration + 999)
  return [.extm3u, .version self.version, .targetDuration (duration.tdiv 1000)] ++
    if isVod then [.mediaSequence 0, .playlistTypeVod, .allowCache] else [.mediaSequence self.sequenceNo]

/-- The playlists before their first segment, and the folder that is made for them. -/
def new (duration : Int) (appName streamName : Text) (hlsConfig : Option HlsConfig) :
    Except MediaFault (Acting M3u8) := do
  let path := (hlsConfig.bind (·.path)).getD "./".toList
  let m3u8Folder := path ++ appName ++ ['/'] ++ streamName
  let needRecord := (hlsConfig.map (·.needRecord)).getD false
  let m3u8 : M3u8 :=
    { version := 3
      sequenceNo := 0
      duration
      liveTsCount := (hlsConfig.bind (·.liveTsCount)).getD 6
      segments := []
      m3u8Folder
      liveM3u8Name := streamName ++ ".m3u8".toList
      tsHandler := ⟨0, m3u8Folder⟩
      needRecord
      vodM3u8Content := []
      vodM3u8Name := if needRecord then "vod_".toList ++ streamName ++ ".m3u8".toList else [] }
  let vodM3u8Content ← if needRecord then m3u8.generateM3u8Header true else .ok []
  return ⟨{ m3u8 with vodM3u8Content }, [.createDirAll m3u8Folder, .createDirAll m3u8Folder]⟩

def onTs (x : Acts Ts α) : Acts M3u8 α :=
  onPart (fun s => ⟨s.owner.tsHandler, s.effects⟩)
    (fun s t => ⟨{ s.owner with tsHandler := t.owner }, t.effects⟩) x

/-- The lines that a segment adds to a playlist. -/
def entry (segment : Segment) : List Line :=
  (if segment.discontinuity then [.discontinuity] else []) ++ [.extinf segment.duration segment.name]

def updateVodM3u8 (segment : Segment) : Acts M3u8 Unit :=
  modify fun s =>
    { s with owner := { s.owner with vodM3u8Content := s.owner.vodM3u8Content ++ entry segment } }

/-- Makes room for a segment in the window. -/
def popFront : Acts M3u8 Unit := do
  let self := (← get).owner
  if self.segments.length ≥ self.liveTsCount then
    match self.segments with
    | [] => throw .panic
    | segment :: segments =>
      modify fun s => { s with owner := { s.owner with segments } }
      if !self.needRecord then onTs (Ts.delete segment.path)
      let sequenceNo ← orFail (checkedUnsigned 64 (self.sequenceNo + 1))
      modify fun s => { s with owner := { s.owner with sequenceNo } }

def addSegment (duration : Int) (discontinuity isEof : Bool) (tsData : List UInt8) : Acts M3u8 Unit := do
  popFront
  modify fun s => { s with owner := { s.owner with duration := max duration s.owner.duration } }
  let (tsName, tsPath) ← onTs (Ts.write tsData)
  let segment : Segment := ⟨duration, discontinuity, tsName, tsPath, isEof⟩
  if (← get).owner.needRecord then updateVodM3u8 segment
  modify fun s => { s with owner := { s.owner with segments := s.owner.segments ++ [segment] } }

/-- The entries of the live playlist, as far as the end of the stream. -/
def entries : List Segment → List Line
  | [] => []
  | segment :: rest => entry segment ++ if segment.isEof then [.endlist] else entries rest

def filePath (self : M3u8) (name : Text) : Text := self.m3u8Folder ++ ['/'] ++ name

def refreshPlaylist : Acts M3u8 (List Line) := do
  let self := (← get).owner
  let m3u8Header ← orFail (self.generateM3u8Header false)
  let m3u8Content := m3u8Header ++ entries self.segments
  perform (.create (self.filePath self.liveM3u8Name) (.playlist m3u8Content))
  return m3u8Content

def deleteSegments : List Segment → Acts M3u8 Unit
  | [] => pure ()
  | segment :: rest => do
    onTs (Ts.delete segment.path)
    deleteSegments rest

def clear : Acts M3u8 Unit := do
  let self := (← get).owner
  if self.needRecord then
    let vodM3u8Content := self.vodM3u8Content ++ [.endlist]
    modify fun s => { s with owner := { s.owner with vodM3u8Content } }
    perform (.create (self.filePath self.vodM3u8Name) (.playlist vodM3u8Content))
  else deleteSegments self.segments
  let liveM3u8Path := self.filePath self.liveM3u8Name
  if Present liveM3u8Path (← get).effects then perform (.removeFile liveM3u8Path) else throw .ioError

end M3u8

end Xiu.Hls
