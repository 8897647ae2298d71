import Xiu.Hls.M3u8
import Xiu.ProofKit.Path

/-! The paths of the HLS server, of `server.rs`: what a request asks for, and the file that is opened for
it, from the working directory. -/

namespace Xiu.Hls

open ProofKit

inductive HlsFileType where
  | playlist
  | segment
  deriving DecidableEq

structure HlsPath where
  appName : Text
  streamName : Text
  fileName : Text
  fileType : HlsFileType
  deriving DecidableEq

/-- `rsplit_once`. -/
def rsplitOnce (delimiter : Char) (s : Text) : Option (Text × Text) :=
  if delimiter ∈ s then
    some ((s.rdropWhile (· ≠ delimiter)).dropLast, s.rtakeWhile (· ≠ delimiter))
  else none

/-- The text contains two dots in a row. -/
def HasDots (s : Text) : Prop := ['.', '.'] <:+: s

instance (s : Text) : Decidable (HasDots s) := inferInstanceAs (Decidable (_ <:+: _))

namespace HlsPath

def M3U8_EXT : Text := "m3u8".toList

def TS_EXT : Text := "ts".toList

/-- The type of a file, from its extension. -/
def typeOf (ext : Text) : Option HlsFileType :=
  if ext = M3U8_EXT then some .playlist
  else if ext = TS_EXT then some .segment
  else none

/-- `HlsPath::parse`, of a path that starts with a slash, as those of requests do. -/
def parse (path : Text) : Option HlsPath :=
  if path = [] ∨ HasDots path then none
  else
    match (path.drop 1).splitOn '/' with
    | [appName, streamName, filePart] => do
      let (fileName, ext) ← rsplitOnce '.' filePart
      if fileName = [] then none
      else do
        let fileType ← typeOf ext
        return ⟨appName, streamName, fileName, fileType⟩
    | _ => none

def toFilePath (self : HlsPath) : Text :=
  let ext :=
    match self.fileType with
    | .playlist => M3U8_EXT
    | .segment => TS_EXT
  "./".toList ++ self.appName ++ ['/'] ++ self.streamName ++ ['/'] ++ self.fileName ++ ['.'] ++ ext

end HlsPath

/-- The path of the request for a file of a stream. -/
def requestPath (appName streamName file : Text) : Text :=
  ['/'] ++ appName ++ ['/'] ++ streamName ++ ['/'] ++ file

/-! ### Two dots -/

theorem hasDots_cons {c : Char} {s : Text} :
    HasDots (c :: s) ↔ (c = '.' ∧ s.head? = some '.') ∨ HasDots s := by
  rw [HasDots, List.infix_cons_iff]
  apply or_congr_left
  rw [List.cons_prefix_cons]
  cases s with
  | nil => simp
  | cons d s => simp [List.cons_prefix_cons, eq_comm]

theorem not_hasDots_nil : ¬HasDots [] := by decide

/-- Two texts that are joined by a slash have no two dots in a row where neither has. -/
theorem hasDots_slash {s t : Text} (hs : ¬HasDots s) (ht : ¬HasDots t) : ¬HasDots (s ++ '/' :: t) := by
  induction s with
  | nil =>
    rw [List.nil_append, hasDots_cons]
    rintro (⟨hSlash, -⟩ | hDots)
    · cases hSlash
    · exact ht hDots
  | cons c s ih =>
    rw [hasDots_cons, not_or] at hs
    rw [List.cons_append, hasDots_cons]
    rintro (⟨hDot, hHead⟩ | hDots)
    · cases s with
      | nil => cases hHead
      | cons d s => exact hs.1 ⟨hDot, hHead⟩
    · exact ih hs.2 hDots

/-- A dot may follow a text that does not end with one. -/
theorem hasDots_dot {s ext : Text} (hs : ¬HasDots s) (hLast : s.getLast? ≠ some '.')
    (hExt : '.' ∉ ext) : ¬HasDots (s ++ '.' :: ext) := by
  induction s with
  | nil =>
    rw [List.nil_append, hasDots_cons]
    rintro (⟨-, hHead⟩ | hDots)
    · exact hExt (List.mem_of_mem_head? hHead)
    · exact hExt (hDots.mem List.mem_cons_self)
  | cons c s ih =>
    rw [hasDots_cons, not_or] at hs
    rw [List.cons_append, hasDots_cons]
    rintro (⟨hDot, hHead⟩ | hDots)
    · cases s with
      | nil =>
        rw [hDot] at hLast
        exact hLast rfl
      | cons d s => exact hs.1 ⟨hDot, hHead⟩
    · apply ih hs.2 _ hDots
      cases s with
      | nil => exact fun hNone => by cases hNone
      | cons d s =>
        rw [List.getLast?_cons_cons] at hLast
        exact hLast

theorem hasDots_of_getLast {s : Text} (h : s.getLast? = some '.') (before rest : Text) :
    HasDots (before ++ (s ++ '.' :: rest)) := by
  obtain ⟨s', rfl⟩ := List.getLast?_eq_some_iff.mp h
  exact ⟨before ++ s', rest, by simp⟩

/-! ### Requests -/

theorem split_last {c : Char} {ext : Text} (h : c ∉ ext) (s : Text) :
    (s ++ c :: ext).rdropWhile (· ≠ c) = s ++ [c] ∧ (s ++ c :: ext).rtakeWhile (· ≠ c) = ext := by
  induction ext using List.reverseRecOn with
  | nil =>
    have hStop : ¬decide (c ≠ c) = true := by simp
    exact ⟨List.rdropWhile_concat_neg _ _ _ hStop, List.rtakeWhile_concat_neg _ _ _ hStop⟩
  | append_singleton ext x ih =>
    obtain ⟨hDrop, hTake⟩ := ih fun hMem => h (List.mem_append_left _ hMem)
    have hOther : decide (x ≠ c) = true := by
      apply decide_eq_true
      rintro rfl
      exact h (List.mem_append_right _ List.mem_cons_self)
    have hSplit : s ++ c :: (ext ++ [x]) = (s ++ c :: ext) ++ [x] := by simp
    rw [hSplit, List.rdropWhile_concat_pos (fun y => decide (y ≠ c)) _ x hOther, hDrop,
      List.rtakeWhile_concat_pos (fun y => decide (y ≠ c)) _ x hOther, hTake]
    exact ⟨rfl, rfl⟩

theorem rsplitOnce_dot {s ext : Text} (hExt : '.' ∉ ext) :
    rsplitOnce '.' (s ++ '.' :: ext) = some (s, ext) := by
  obtain ⟨hDrop, hTake⟩ := split_last hExt s
  rw [rsplitOnce, if_pos (List.mem_append_right _ List.mem_cons_self), hDrop, hTake,
    List.dropLast_concat]

/-- A name that a stream can have in a path: without slashes, and without two dots in a row. -/
structure Clean (name : Text) : Prop where
  plain : Path.Plain name
  noDots : ¬HasDots name

/-- The extension of a type. -/
def HlsFileType.ext : HlsFileType → Text
  | .playlist => HlsPath.M3U8_EXT
  | .segment => HlsPath.TS_EXT

theorem noDot_ext (fileType : HlsFileType) : '.' ∉ fileType.ext ∧ '/' ∉ fileType.ext := by
  cases fileType <;> decide

theorem typeOf_ext (fileType : HlsFileType) : HlsPath.typeOf fileType.ext = some fileType := by
  cases fileType <;> decide

/-- A file that a clean request asks for is found, unless there are two dots before its extension. -/
theorem parse_request {appName streamName fileName : Text} {fileType : HlsFileType}
    (hApp : Clean appName) (hStream : Clean streamName) (hFile : Clean fileName)
    (hLast : fileName.getLast? ≠ some '.') :
    HlsPath.parse (requestPath appName streamName (fileName ++ '.' :: fileType.ext)) =
      some ⟨appName, streamName, fileName, fileType⟩ := by
  have hExt := noDot_ext fileType
  have hSlash : '/' ∉ fileName ++ '.' :: fileType.ext := by
    intro hMem
    rcases List.mem_append.mp hMem with hMem | hMem
    · exact hFile.plain.noSlash hMem
    · rcases List.mem_cons.mp hMem with hDot | hMem
      · cases hDot
      · exact hExt.2 hMem
  have hPath : requestPath appName streamName (fileName ++ '.' :: fileType.ext) =
      '/' :: (appName ++ '/' :: (streamName ++ '/' :: (fileName ++ '.' :: fileType.ext))) := by
    simp [requestPath]
  have hDots : ¬HasDots (requestPath appName streamName (fileName ++ '.' :: fileType.ext)) := by
    rw [hPath]
    apply hasDots_slash not_hasDots_nil
    apply hasDots_slash hApp.noDots
    exact hasDots_slash hStream.noDots (hasDots_dot hFile.noDots hLast hExt.1)
  have hSplit : ((requestPath appName streamName (fileName ++ '.' :: fileType.ext)).drop 1).splitOn '/' =
      [appName, streamName, fileName ++ '.' :: fileType.ext] := by
    rw [hPath, List.drop_succ_cons, List.drop_zero, List.splitOn_append_cons_self,
      List.splitOn_append_cons_self, List.splitOn_eq_singleton hApp.plain.noSlash,
      List.splitOn_eq_singleton hStream.plain.noSlash, List.splitOn_eq_singleton hSlash]
    rfl
  have hSome : ¬(requestPath appName streamName (fileName ++ '.' :: fileType.ext) = [] ∨
      HasDots (requestPath appName streamName (fileName ++ '.' :: fileType.ext))) := by
    rw [not_or]
    exact ⟨by rw [hPath]; exact List.cons_ne_nil _ _, hDots⟩
  rw [HlsPath.parse, if_neg hSome]
  simp only [hSplit, rsplitOnce_dot hExt.1, Option.bind_eq_bind, Option.bind_some,
    if_neg hFile.plain.ne_nil, typeOf_ext]
  rfl

/-- A request with two dots in a row is refused. -/
theorem parse_dots {path : Text} (h : HasDots path) : HlsPath.parse path = none := by
  rw [HlsPath.parse, if_pos (Or.inr h)]

/-- Where the file that is opened lies. -/
theorem resolve_toFilePath (cwd : Path.Folder) {path : HlsPath} (hApp : Clean path.appName)
    (hStream : Clean path.streamName)
    (hFile : Path.Plain (path.fileName ++ '.' :: path.fileType.ext)) :
    Path.resolve cwd path.toFilePath =
      cwd.parts ++ [path.appName, path.streamName, path.fileName ++ '.' :: path.fileType.ext] := by
  have hPath : path.toFilePath = (((['.'] ++ '/' :: path.appName) ++ '/' :: path.streamName) ++
      '/' :: (path.fileName ++ '.' :: path.fileType.ext)) := by
    have hHead : "./".toList = ['.', '/'] := by decide
    unfold HlsPath.toFilePath
    rw [hHead]
    cases path.fileType with
    | playlist => simp only [HlsFileType.ext, List.append_assoc, List.cons_append, List.nil_append]
    | segment => simp only [HlsFileType.ext, List.append_assoc, List.cons_append, List.nil_append]
  have hDot : Path.resolve cwd ['.'] = cwd.parts := by
    rw [Path.resolve, List.splitOn_eq_singleton (by decide)]
    rfl
  rw [hPath, Path.resolve_slash cwd (by simp) hFile, Path.resolve_slash cwd (by simp) hStream.plain,
    Path.resolve_slash cwd (by simp) hApp.plain, hDot]
  simp

end Xiu.Hls
