import Xiu.Hls.Playlist
import Xiu.Hls.Server
import Xiu.ProofKit.System
import Xiu.ProofKit.Triple

/-! Where the files of an HLS stream lie, and whether the server opens them, for any names of the stream
and any configured path. -/

namespace Xiu.Hls

open ProofKit

/-- A call to the playlists of a stream. -/
inductive FileCall where
  | addSegment (c : AddSegment)
  | refreshPlaylist
  | clear

def FileCall.run : FileCall → Acts M3u8 Unit
  | .addSegment c => c.run
  | .refreshPlaylist => do
    let _ ← M3u8.refreshPlaylist
  | .clear => M3u8.clear

/-- The calls that succeed, one after the other. -/
def writing (begun : Acting M3u8) : System (Acting M3u8) FileCall where
  init s := s = begun
  step s call s' := call.run s = .ok () s'

/-- The file that is created or overwritten. -/
def Effect.created : Effect → Option Text
  | .create path _ => some path
  | _ => none

/-- The file that is created, overwritten or deleted. -/
def Effect.touched : Effect → Option Text
  | .create path _ => some path
  | .removeFile path => some path
  | _ => none

/-- The configured path. -/
def configuredPath (hlsConfig : Option HlsConfig) : Text := (hlsConfig.bind (·.path)).getD "./".toList

/-- The folder of a stream, its names being parts of the path.  What stands behind the last slash of the
configured path belongs to the first of them. -/
def streamFolder (cwd : Path.Folder) (path appName streamName : Text) : List Text :=
  Path.resolve cwd (Path.folderPart path) ++ [Path.lastPart path ++ appName, streamName]

/-- The files of any call after any calls that succeed lie in the folder of the stream, and the server
opens them for the requests with their names where the names of the stream are clean. -/
structure FilesFound (cwd : Path.Folder) (path appName streamName : Text) (begun : Acting M3u8) :
    Prop where
  inside : ∀ calls s, (writing begun).Run begun calls s → ∀ call,
    ∀ effect ∈ (stateOf (FileCall.run call s)).effects, ∀ file ∈ effect.touched,
      Path.Inside (streamFolder cwd path appName streamName) (Path.resolve cwd file)
  found : Clean appName → Clean streamName → ∀ calls s, (writing begun).Run begun calls s →
    ∀ call, ∀ effect ∈ (stateOf (FileCall.run call s)).effects, ∀ file ∈ effect.created,
      ∃ hlsPath, HlsPath.parse (requestPath appName streamName (Path.lastPart file)) = some hlsPath ∧
        Path.resolve cwd hlsPath.toFilePath = Path.resolve cwd file

/-- The names are plain parts of the path, and where they are clean the configured path is the working
directory, and the name of the stream does not end with a dot where its playlist can be rendered. -/
structure Nameable (cwd : Path.Folder) (path appName streamName : Text) (renders : Prop) : Prop where
  app : Path.Plain (Path.lastPart path ++ appName)
  stream : Path.Plain streamName
  served : Clean appName → Clean streamName →
    Path.resolve cwd (Path.folderPart path) = cwd.parts ∧ Path.lastPart path = [] ∧
      (renders → streamName.getLast? ≠ some '.')

/-! ### The files that are touched -/

/-- The name of a file that the calls create: of a segment, or of a playlist. -/
def IsFile (m3u8 : M3u8) (name : Text) : Prop :=
  (m3u8.liveTsCount ≠ 0 ∧ ∃ n : Nat, name = Ts.tsFileName n) ∨
    m3u8.duration + 999 < 2 ^ 63 ∧
      (name = m3u8.liveM3u8Name ∨ m3u8.needRecord = true ∧ name = m3u8.vodM3u8Name)

/-- The folder and the names are the same. -/
structure SameNames (m3u8 owner : M3u8) : Prop where
  folder : owner.m3u8Folder = m3u8.m3u8Folder
  live : owner.liveM3u8Name = m3u8.liveM3u8Name
  vod : owner.vodM3u8Name = m3u8.vodM3u8Name
  record : owner.needRecord = m3u8.needRecord
  livePath : owner.tsHandler.livePath = m3u8.m3u8Folder
  duration : m3u8.duration ≤ owner.duration
  count : owner.liveTsCount = m3u8.liveTsCount
  room : m3u8.liveTsCount = 0 → owner.segments = []

/-- What calls keep: the folder and the names, and that they create no other files, and remove only
those. -/
structure Filed (m3u8 : M3u8) (s : Acting M3u8) : Prop where
  names : SameNames m3u8 s.owner
  created : ∀ effect ∈ s.effects, ∀ file ∈ effect.created,
    ∃ name, IsFile m3u8 name ∧ file = m3u8.filePath name
  removed : ∀ path, Effect.removeFile path ∈ s.effects →
    ∃ contents, Effect.create path contents ∈ s.effects

theorem exists_create_of_present {path : Text} {effects : List Effect}
    (h : Present path effects = true) : ∃ contents, Effect.create path contents ∈ effects := by
  induction effects using List.reverseRecOn with
  | nil => cases h
  | append_singleton effects effect ih =>
    rw [Present, List.foldl_append] at h
    have hBefore : Present path effects = true →
        ∃ contents, Effect.create path contents ∈ effects ++ [effect] := by
      intro hPresent
      obtain ⟨contents, hMem⟩ := ih hPresent
      exact ⟨contents, List.mem_append_left _ hMem⟩
    cases effect with
    | create p contents =>
      rcases Bool.or_eq_true_iff.mp h with hPresent | hSame
      · exact hBefore hPresent
      · obtain rfl := beq_iff_eq.mp hSame
        exact ⟨contents, List.mem_append_right _ List.mem_cons_self⟩
    | removeFile p => exact hBefore (Bool.and_eq_true_iff.mp h).1
    | createDirAll p => exact hBefore h
    | onHls appName streamName segment => exact hBefore h

/-- The action keeps the files. -/
def KeepsFiles {α : Type} (m3u8 : M3u8) (x : Acts M3u8 α) : Prop :=
  ∀ s, Filed m3u8 s → Leaves (Filed m3u8) (fun _ => Filed m3u8) x s

section Keeps

variable {α β : Type} {m3u8 : M3u8} {s : Acting M3u8}

theorem KeepsFiles.bind {x : Acts M3u8 α} {f : α → Acts M3u8 β} (h : KeepsFiles m3u8 x)
    (hf : ∀ a, KeepsFiles m3u8 (f a)) : KeepsFiles m3u8 (x >>= f) :=
  fun s hs => (h s hs).bind fun a s' hs' => hf a s' hs'

/-- The effects stay the same. -/
theorem Filed.owner (h : Filed m3u8 s) {owner : M3u8} (hNames : SameNames m3u8 owner) :
    Filed m3u8 ⟨owner, s.effects⟩ := ⟨hNames, h.created, h.removed⟩

theorem Filed.create (h : Filed m3u8 s) {owner : M3u8} (hNames : SameNames m3u8 owner)
    {name : Text} (hName : IsFile m3u8 name) (contents : Contents) :
    Filed m3u8 ⟨owner, s.effects ++ [.create (m3u8.filePath name) contents]⟩ := by
  refine ⟨hNames, ?_, ?_⟩
  · intro effect hMem file hFile
    rcases List.mem_append.mp hMem with hMem | hMem
    · exact h.created effect hMem file hFile
    · obtain rfl := List.mem_singleton.mp hMem
      obtain rfl := Option.some.inj hFile
      exact ⟨name, hName, rfl⟩
  · intro p hMem
    rcases List.mem_append.mp hMem with hMem | hMem
    · obtain ⟨contents', hCreate⟩ := h.removed p hMem
      exact ⟨contents', List.mem_append_left _ hCreate⟩
    · cases List.mem_singleton.mp hMem

theorem Filed.remove (h : Filed m3u8 s) {path : Text} (hPresent : Present path s.effects = true) :
    Filed m3u8 ⟨s.owner, s.effects ++ [.removeFile path]⟩ := by
  refine ⟨h.names, ?_, ?_⟩
  · intro effect hMem file hFile
    rcases List.mem_append.mp hMem with hMem | hMem
    · exact h.created effect hMem file hFile
    · obtain rfl := List.mem_singleton.mp hMem
      cases hFile
  · intro p hMem
    rcases List.mem_append.mp hMem with hMem | hMem
    · obtain ⟨contents, hCreate⟩ := h.removed p hMem
      exact ⟨contents, List.mem_append_left _ hCreate⟩
    · obtain rfl := Effect.removeFile.inj (List.mem_singleton.mp hMem)
      obtain ⟨contents, hCreate⟩ := exists_create_of_present hPresent
      exact ⟨contents, List.mem_append_left _ hCreate⟩

theorem keepsFiles_orFail (x : Except MediaFault α) : KeepsFiles m3u8 (orFail x) := by
  intro s hs
  cases x with
  | ok a => exact hs
  | error e => exact hs

theorem keepsFiles_modify {f : M3u8 → M3u8}
    (h : ∀ owner, SameNames m3u8 owner → SameNames m3u8 (f owner)) :
    KeepsFiles m3u8 (modify fun s => { s with owner := f s.owner }) :=
  fun _ hs => hs.owner (h _ hs.names)

theorem keepsFiles_delete (path : Text) : KeepsFiles m3u8 (M3u8.onTs (Ts.delete path)) := by
  intro s hs
  by_cases hPresent : Present path s.effects = true
  · have hDelete : Ts.delete path ⟨s.owner.tsHandler, s.effects⟩ =
        .ok () ⟨s.owner.tsHandler, s.effects ++ [.removeFile path]⟩ := by
      rw [Ts.delete, removeFile, bind_get, if_pos hPresent]
      rfl
    have hRun : M3u8.onTs (Ts.delete path) s = .ok () ⟨s.owner, s.effects ++ [.removeFile path]⟩ := by
      simp only [M3u8.onTs, onPart, hDelete]
    exact leaves_of_ok hRun (hs.remove hPresent)
  · have hDelete : Ts.delete path ⟨s.owner.tsHandler, s.effects⟩ =
        .error .panic ⟨s.owner.tsHandler, s.effects⟩ := by
      rw [Ts.delete, removeFile, bind_get, if_neg hPresent]
      rfl
    have hRun : M3u8.onTs (Ts.delete path) s = .error .panic s := by
      simp only [M3u8.onTs, onPart, hDelete]
    exact leaves_of_error hRun hs

theorem keepsFiles_write (hRoom : m3u8.liveTsCount ≠ 0) (data : List UInt8) :
    KeepsFiles m3u8 (M3u8.onTs (Ts.write data)) := by
  intro s hs
  have hNames : ∀ tsNumber, SameNames m3u8
      { s.owner with tsHandler := { s.owner.tsHandler with tsNumber } } := fun _ =>
    ⟨hs.names.folder, hs.names.live, hs.names.vod, hs.names.record, hs.names.livePath,
      hs.names.duration, hs.names.count, hs.names.room⟩
  cases hNext : checkedUnsigned 32 (s.owner.tsHandler.tsNumber + 1) with
  | ok tsNumber =>
    have hPath : s.owner.tsHandler.tsFilePath (Ts.tsFileName s.owner.tsHandler.tsNumber) =
        m3u8.filePath (Ts.tsFileName s.owner.tsHandler.tsNumber) := by
      rw [Ts.tsFilePath, hs.names.livePath]
      rfl
    have hWrite : ∃ names, Ts.write data ⟨s.owner.tsHandler, s.effects⟩ = .ok names
        ⟨{ s.owner.tsHandler with tsNumber }, s.effects ++
          [.create (m3u8.filePath (Ts.tsFileName s.owner.tsHandler.tsNumber)) (.stream data)]⟩ := by
      refine ⟨(Ts.tsFileName s.owner.tsHandler.tsNumber,
        m3u8.filePath (Ts.tsFileName s.owner.tsHandler.tsNumber)), ?_⟩
      rw [Ts.write, bind_get, hNext, ← hPath]
      rfl
    obtain ⟨names, hWrite⟩ := hWrite
    have hRun : M3u8.onTs (Ts.write data) s = .ok names
        ⟨{ s.owner with tsHandler := { s.owner.tsHandler with tsNumber } }, s.effects ++
          [.create (m3u8.filePath (Ts.tsFileName s.owner.tsHandler.tsNumber)) (.stream data)]⟩ := by
      simp only [M3u8.onTs, onPart, hWrite]
    exact leaves_of_ok hRun (hs.create (hNames tsNumber) (.inl ⟨hRoom, _, rfl⟩) _)
  | error e =>
    have hWrite : Ts.write data ⟨s.owner.tsHandler, s.effects⟩ =
        .error e ⟨s.owner.tsHandler, s.effects⟩ := by
      rw [Ts.write, bind_get, hNext]
      rfl
    have hRun : M3u8.onTs (Ts.write data) s = .error e s := by
      simp only [M3u8.onTs, onPart, hWrite]
    exact leaves_of_error hRun hs

theorem keepsFiles_popFront : KeepsFiles m3u8 M3u8.popFront := by
  intro s hs
  rw [M3u8.popFront, Leaves, bind_get]
  apply leaves_ite
  · intro _
    cases hSegments : s.owner.segments with
    | nil => exact hs
    | cons segment segments =>
      have hSome : m3u8.liveTsCount ≠ 0 := by
        intro hZero
        rw [hs.names.room hZero] at hSegments
        cases hSegments
      have hCount : KeepsFiles m3u8 (do
          let sequenceNo ← orFail (checkedUnsigned 64 (s.owner.sequenceNo + 1))
          modify fun s => { s with owner := { s.owner with sequenceNo } }) :=
        (keepsFiles_orFail _).bind fun sequenceNo =>
          keepsFiles_modify (f := fun owner => { owner with sequenceNo }) fun _ h =>
            ⟨h.folder, h.live, h.vod, h.record, h.livePath, h.duration, h.count, h.room⟩
      have hWindow : KeepsFiles m3u8
          (modify fun s => { s with owner := { s.owner with segments } } : Acts M3u8 Unit) :=
        keepsFiles_modify (f := fun owner => { owner with segments }) fun _ h =>
          ⟨h.folder, h.live, h.vod, h.record, h.livePath, h.duration, h.count,
            fun hZero => absurd hZero hSome⟩
      refine hWindow.bind (fun _ => ?_) s hs
      intro s' hs'
      apply leaves_ite
      · exact fun _ => (keepsFiles_delete segment.path).bind (fun _ => hCount) s' hs'
      · exact fun _ => hCount s' hs'
  · exact fun _ => hs

/-- Without room for a segment nothing is written. -/
theorem keepsFiles_addSegment (c : AddSegment) : KeepsFiles m3u8 c.run := by
  by_cases hRoom : m3u8.liveTsCount = 0
  · intro s hs
    have hPanic : c.run s = .error .panic s :=
      bind_of_error (M3u8.popFront_panics (hs.names.count.trans hRoom) (hs.names.room hRoom))
    exact leaves_of_error hPanic hs
  · refine keepsFiles_popFront.bind fun _ => ?_
    have hLongest : KeepsFiles m3u8
        (modify fun s => { s with owner := { s.owner with duration := max c.duration s.owner.duration } }
          : Acts M3u8 Unit) :=
      keepsFiles_modify (f := fun owner => { owner with duration := max c.duration owner.duration })
        fun _ h => ⟨h.folder, h.live, h.vod, h.record, h.livePath,
          Int.le_trans h.duration (Int.le_max_right _ _), h.count, h.room⟩
    refine hLongest.bind fun _ => ?_
    refine (keepsFiles_write hRoom c.tsData).bind fun names => ?_
    intro s hs
    have hPush : ∀ segment, KeepsFiles m3u8
        (modify fun s => { s with owner := { s.owner with segments := s.owner.segments ++ [segment] } }
          : Acts M3u8 Unit) := fun segment =>
      keepsFiles_modify (f := fun owner => { owner with segments := owner.segments ++ [segment] })
        fun _ h => ⟨h.folder, h.live, h.vod, h.record, h.livePath, h.duration, h.count,
          fun hZero => absurd hZero hRoom⟩
    have hVod : ∀ segment, KeepsFiles m3u8 (M3u8.updateVodM3u8 segment) := fun segment =>
      keepsFiles_modify
        (f := fun owner => { owner with vodM3u8Content := owner.vodM3u8Content ++ M3u8.entry segment })
        fun _ h => ⟨h.folder, h.live, h.vod, h.record, h.livePath, h.duration, h.count, h.room⟩
    obtain ⟨tsName, tsPath⟩ := names
    dsimp only
    rw [Leaves, bind_get]
    apply leaves_ite
    · exact fun _ => (hVod _).bind (fun _ => hPush _) s hs
    · exact fun _ => hPush _ s hs

theorem keepsFiles_refreshPlaylist : KeepsFiles m3u8 M3u8.refreshPlaylist := by
  intro s hs
  rw [M3u8.refreshPlaylist, Leaves, bind_get]
  cases hHeader : s.owner.generateM3u8Header false with
  | error e => exact hs
  | ok header =>
    rw [M3u8.generateM3u8Header] at hHeader
    obtain ⟨duration, hDuration, -⟩ := except_bind_eq_ok hHeader
    have hFits : m3u8.duration + 999 < 2 ^ 63 :=
      Int.lt_of_le_of_lt (Int.add_le_add_right hs.names.duration 999) (checkedI64_eq_ok hDuration).2.2
    have hPath : s.owner.filePath s.owner.liveM3u8Name = m3u8.filePath m3u8.liveM3u8Name := by
      rw [M3u8.filePath, hs.names.folder, hs.names.live]
      rfl
    rw [hPath]
    exact hs.create hs.names (.inr ⟨hFits, .inl rfl⟩) _

theorem keepsFiles_deleteSegments (segments : List Segment) :
    KeepsFiles m3u8 (M3u8.deleteSegments segments) := by
  induction segments with
  | nil => exact fun s hs => hs
  | cons segment rest ih => exact (keepsFiles_delete segment.path).bind fun _ => ih

theorem keepsFiles_clear (hRecord : m3u8.needRecord = true → m3u8.duration + 999 < 2 ^ 63) :
    KeepsFiles m3u8 M3u8.clear := by
  intro s hs
  have hLive : KeepsFiles m3u8 (do
      let effects := (← get).effects
      if Present (s.owner.filePath s.owner.liveM3u8Name) effects then
        perform (.removeFile (s.owner.filePath s.owner.liveM3u8Name))
      else throw .ioError) := by
    intro s' hs'
    rw [Leaves, bind_get]
    apply leaves_ite
    · exact fun hPresent => hs'.remove hPresent
    · exact fun _ => hs'
  rw [M3u8.clear, Leaves, bind_get]
  apply leaves_ite
  · intro hRecorded
    have hFits := hRecord (hs.names.record.symm.trans hRecorded)
    have hVod : KeepsFiles m3u8
        (modify fun s' => { s' with owner := { s'.owner with
          vodM3u8Content := s.owner.vodM3u8Content ++ [.endlist] } } : Acts M3u8 Unit) :=
      keepsFiles_modify
        (f := fun owner => { owner with vodM3u8Content := s.owner.vodM3u8Content ++ [.endlist] })
        fun _ h => ⟨h.folder, h.live, h.vod, h.record, h.livePath, h.duration, h.count, h.room⟩
    have hCreate : KeepsFiles m3u8 (perform (.create (s.owner.filePath s.owner.vodM3u8Name)
        (.playlist (s.owner.vodM3u8Content ++ [.endlist])))) := by
      intro s' hs'
      have hPath : s.owner.filePath s.owner.vodM3u8Name = m3u8.filePath m3u8.vodM3u8Name := by
        rw [M3u8.filePath, hs.names.folder, hs.names.vod]
        rfl
      rw [hPath]
      exact hs'.create hs'.names (.inr ⟨hFits, .inr ⟨hs.names.record.symm.trans hRecorded, rfl⟩⟩) _
    exact hVod.bind (fun _ => hCreate.bind fun _ => hLive) s hs
  · exact fun _ => ((keepsFiles_deleteSegments s.owner.segments).bind fun _ => hLive) s hs

end Keeps

/-! ### Runs -/

theorem keepsFiles_run {m3u8 : M3u8} (hRecord : m3u8.needRecord = true → m3u8.duration + 999 < 2 ^ 63)
    (call : FileCall) : KeepsFiles m3u8 call.run := by
  cases call with
  | addSegment c => exact keepsFiles_addSegment c
  | refreshPlaylist => exact keepsFiles_refreshPlaylist.bind fun _ s hs => hs
  | clear => exact keepsFiles_clear hRecord

section New

variable {duration : Int} {appName streamName : Text} {hlsConfig : Option HlsConfig}
  {s : Acting M3u8}

/-- The names of new playlists. -/
theorem names_new (h : M3u8.new duration appName streamName hlsConfig = .ok s) :
    s.owner.m3u8Folder = configuredPath hlsConfig ++ appName ++ ['/'] ++ streamName ∧
      s.owner.liveM3u8Name = streamName ++ ".m3u8".toList ∧
        (s.owner.needRecord = true → s.owner.vodM3u8Name = "vod_".toList ++ streamName ++ ".m3u8".toList) := by
  rw [M3u8.new] at h
  cases hRecord : (hlsConfig.map (·.needRecord)).getD false with
  | false =>
    simp only [hRecord] at h
    cases h
    refine ⟨rfl, rfl, ?_⟩
    intro hTrue
    cases hTrue
  | true =>
    simp only [hRecord, if_true] at h
    obtain ⟨header, -, h⟩ := except_bind_eq_ok h
    cases h
    exact ⟨rfl, rfl, fun _ => rfl⟩

theorem filed_new (h : M3u8.new duration appName streamName hlsConfig = .ok s) :
    Filed s.owner s := by
  have hBegun := begun_new h
  refine ⟨⟨rfl, rfl, rfl, rfl, ?_, Int.le_refl _, rfl, fun _ => hBegun.segments⟩, ?_, ?_⟩
  · rw [hBegun.tsHandler]
  · rw [effects_new h]
    intro effect hMem file hFile
    simp only [List.mem_cons, List.not_mem_nil, or_false, or_self] at hMem
    rw [hMem] at hFile
    cases hFile
  · rw [effects_new h]
    intro path hMem
    simp at hMem

/-- Any call after any calls that succeed touches only files that are created under their names. -/
theorem files_of_run (h : M3u8.new duration appName streamName hlsConfig = .ok s)
    {calls : List FileCall} {s' : Acting M3u8} (hRun : (writing s).Run s calls s')
    (call : FileCall) : Filed s.owner (stateOf (call.run s')) := by
  have hRecord : s.owner.needRecord = true → s.owner.duration + 999 < 2 ^ 63 := by
    intro hTrue
    have hHeader := (begun_new h).header
    rw [if_pos hTrue] at hHeader
    rw [(begun_new h).configured]
    exact hHeader.2.1
  have hKept : Filed s.owner s' := by
    refine hRun.preserves ?_ (filed_new h)
    intro s1 call s2 hs1 hStep
    exact (keepsFiles_run hRecord call s1 hs1).ok hStep
  exact (keepsFiles_run hRecord call s' hKept).stateOf

end New

/-! ### Names of files -/

theorem digit_of_decimal {n : Nat} {c : Char} (h : c ∈ decimal n) : c.isDigit = true := by
  have hSign : ¬(n : Int) < 0 := by omega
  rw [decimal, if_neg hSign] at h
  exact Nat.isDigit_of_mem_toDigits (by decide) (by decide) h

theorem noDots_of_not_mem {s : Text} (h : '.' ∉ s) : ¬HasDots s :=
  fun hDots => h (hDots.mem List.mem_cons_self)

theorem clean_decimal (n : Nat) : Clean (decimal n) ∧ (decimal n).getLast? ≠ some '.' := by
  have hDot : '.' ∉ decimal n := fun hMem => absurd (digit_of_decimal hMem) (by decide)
  have hSlash : '/' ∉ decimal n := fun hMem => absurd (digit_of_decimal hMem) (by decide)
  have hNil : decimal n ≠ [] := List.append_ne_nil_of_right_ne_nil _ Nat.toDigits_ne_nil
  refine ⟨⟨⟨hNil, hSlash, ?_, ?_⟩, noDots_of_not_mem hDot⟩, ?_⟩
  · intro hEq
    exact hDot (hEq ▸ List.mem_cons_self)
  · intro hEq
    exact hDot (hEq ▸ List.mem_cons_self)
  · exact fun hLast => hDot (List.mem_of_getLast? hLast)

/-- A file is named by a number or by the stream, and by its type. -/
theorem file_cases {duration : Int} {appName streamName : Text} {hlsConfig : Option HlsConfig}
    {s : Acting M3u8} (h : M3u8.new duration appName streamName hlsConfig = .ok s) {name : Text}
    (hName : IsFile s.owner name) : ∃ base fileType, name = base ++ '.' :: HlsFileType.ext fileType ∧
      ((s.owner.liveTsCount ≠ 0 ∧ ∃ n : Nat, base = decimal n) ∨
        duration + 999 < 2 ^ 63 ∧ (base = streamName ∨ base = "vod_".toList ++ streamName)) := by
  obtain ⟨-, hLive, hVod⟩ := names_new h
  rcases hName with ⟨hRoom, n, rfl⟩ | ⟨hFits, rfl | ⟨hRecord, rfl⟩⟩
  · exact ⟨decimal n, .segment, rfl, .inl ⟨hRoom, n, rfl⟩⟩
  · rw [(begun_new h).configured] at hFits
    exact ⟨streamName, .playlist, hLive, .inr ⟨hFits, .inl rfl⟩⟩
  · rw [(begun_new h).configured] at hFits
    exact ⟨"vod_".toList ++ streamName, .playlist, hVod hRecord, .inr ⟨hFits, .inr rfl⟩⟩

/-- A name with an extension is a plain part. -/
theorem plain_file {base : Text} (hBase : '/' ∉ base) (fileType : HlsFileType) :
    Path.Plain (base ++ '.' :: fileType.ext) := by
  have hLength : 3 ≤ (base ++ '.' :: fileType.ext).length := by
    cases fileType <;> simp [HlsFileType.ext, HlsPath.M3U8_EXT, HlsPath.TS_EXT]
  have hSlash : '/' ∉ base ++ '.' :: fileType.ext := by
    intro hMem
    rcases List.mem_append.mp hMem with hMem | hMem
    · exact hBase hMem
    · rcases List.mem_cons.mp hMem with hDot | hMem
      · cases hDot
      · exact (noDot_ext fileType).2 hMem
  refine ⟨?_, hSlash, ?_, ?_⟩
  · intro hEq
    rw [hEq] at hLength
    exact absurd hLength (by decide)
  · intro hEq
    rw [hEq] at hLength
    exact absurd hLength (by decide)
  · intro hEq
    rw [hEq] at hLength
    exact absurd hLength (by decide)

theorem noSlash_base {streamName base : Text} {room fits : Prop} (hStream : '/' ∉ streamName)
    (hBase : (room ∧ ∃ n : Nat, base = decimal n) ∨
      fits ∧ (base = streamName ∨ base = "vod_".toList ++ streamName)) : '/' ∉ base := by
  rcases hBase with ⟨-, n, rfl⟩ | ⟨-, rfl | rfl⟩
  · exact (clean_decimal n).1.plain.noSlash
  · exact hStream
  · intro hMem
    rcases List.mem_append.mp hMem with hMem | hMem
    · exact absurd hMem (by decide)
    · exact hStream hMem

/-- Where the stream has a clean name, its files have one, which ends as that does. -/
theorem clean_base {streamName base : Text} {room fits : Prop} (hStream : Clean streamName)
    (hBase : (room ∧ ∃ n : Nat, base = decimal n) ∨
      fits ∧ (base = streamName ∨ base = "vod_".toList ++ streamName)) :
    Clean base ∧ ((fits → streamName.getLast? ≠ some '.') → base.getLast? ≠ some '.') := by
  have hSlash := noSlash_base hStream.plain.noSlash hBase
  rcases hBase with ⟨-, n, rfl⟩ | ⟨hFits, rfl | rfl⟩
  · exact ⟨(clean_decimal n).1, fun _ => (clean_decimal n).2⟩
  · exact ⟨hStream, fun hLast => hLast hFits⟩
  · have hDots : ¬HasDots ("vod_".toList ++ streamName) := by
      show ¬HasDots ('v' :: 'o' :: 'd' :: '_' :: streamName)
      simpa [hasDots_cons] using hStream.noDots
    have hLast : ("vod_".toList ++ streamName).getLast? = streamName.getLast? :=
      List.getLast?_append_of_ne_nil _ hStream.plain.ne_nil
    refine ⟨⟨⟨by simp, hSlash, by simp, by simp⟩, hDots⟩, ?_⟩
    rw [hLast]
    exact fun hEnd => hEnd hFits

theorem lastPart_file (folder : Text) {name : Text} (h : '/' ∉ name) :
    Path.lastPart (folder ++ ['/'] ++ name) = name := by
  rw [List.append_assoc]
  exact (split_last h folder).2

/-- Where a file of a stream with plain names lies. -/
theorem resolve_file (cwd : Path.Folder) {path appName streamName name : Text}
    (hApp : Path.Plain (Path.lastPart path ++ appName)) (hStream : Path.Plain streamName)
    (hName : Path.Plain name) :
    Path.resolve cwd (path ++ appName ++ ['/'] ++ streamName ++ ['/'] ++ name) =
      streamFolder cwd path appName streamName ++ [name] := by
  have hPath : path ++ appName ++ ['/'] ++ streamName ++ ['/'] ++ name =
      ((path ++ appName) ++ '/' :: streamName) ++ '/' :: name := by simp
  have hSome : path ++ appName ≠ [] := by
    intro hEq
    obtain ⟨rfl, rfl⟩ := List.append_eq_nil_iff.mp hEq
    exact hApp.ne_nil rfl
  rw [hPath, Path.resolve_slash cwd (by simp) hName, Path.resolve_slash cwd hSome hStream,
    Path.resolve_append cwd hApp, streamFolder]
  simp

/-- Where the server finds a file of a stream with clean names. -/
theorem served_iff (cwd : Path.Folder) {path appName streamName base : Text}
    {fileType : HlsFileType} (hPlain : Path.Plain (Path.lastPart path ++ appName))
    (hApp : Clean appName) (hStream : Clean streamName) (hBase : Clean base) :
    (∃ hlsPath, HlsPath.parse (requestPath appName streamName (base ++ '.' :: fileType.ext)) =
        some hlsPath ∧
      Path.resolve cwd hlsPath.toFilePath = Path.resolve cwd
        (path ++ appName ++ ['/'] ++ streamName ++ ['/'] ++ (base ++ '.' :: fileType.ext))) ↔
    base.getLast? ≠ some '.' ∧ Path.resolve cwd (Path.folderPart path) = cwd.parts ∧
      Path.lastPart path = [] := by
  have hFile := plain_file hBase.plain.noSlash fileType
  rw [resolve_file cwd hPlain hStream.plain hFile]
  by_cases hLast : base.getLast? = some '.'
  · have hDots : HasDots (requestPath appName streamName (base ++ '.' :: fileType.ext)) := by
      have hJoin : requestPath appName streamName (base ++ '.' :: fileType.ext) =
          (['/'] ++ appName ++ ['/'] ++ streamName ++ ['/']) ++ (base ++ '.' :: fileType.ext) := rfl
      rw [hJoin]
      exact hasDots_of_getLast hLast _ _
    rw [parse_dots hDots]
    constructor
    · rintro ⟨hlsPath, hNone, -⟩
      cases hNone
    · rintro ⟨hNot, -⟩
      exact absurd hLast hNot
  · have hParse := @parse_request appName streamName base fileType hApp hStream hBase hLast
    have hServed := @resolve_toFilePath cwd ⟨appName, streamName, base, fileType⟩ hApp hStream hFile
    have hWritten : streamFolder cwd path appName streamName ++ [base ++ '.' :: fileType.ext] =
        Path.resolve cwd (Path.folderPart path) ++
          [Path.lastPart path ++ appName, streamName, base ++ '.' :: fileType.ext] := by
      simp [streamFolder]
    constructor
    · rintro ⟨hlsPath, hSome, hEq⟩
      obtain rfl := Option.some.inj (hParse.symm.trans hSome)
      rw [hServed, hWritten] at hEq
      obtain ⟨hFolder, hNames⟩ := List.append_inj' hEq rfl
      obtain ⟨hName, -⟩ := List.cons.inj hNames
      have hEmpty : Path.lastPart path = [] := by
        have hLength : appName.length = (Path.lastPart path ++ appName).length :=
          congrArg List.length hName
        rw [List.length_append] at hLength
        exact List.length_eq_zero_iff.mp (by omega)
      exact ⟨hLast, hFolder.symm, hEmpty⟩
    · rintro ⟨-, hFolder, hEmpty⟩
      refine ⟨_, hParse, ?_⟩
      rw [hServed, hWritten, hFolder, hEmpty]
      rfl

/-! ### Files that are created -/

section Created

variable {duration : Int} {appName streamName : Text} {hlsConfig : Option HlsConfig}
  {s : Acting M3u8}

theorem live_created (h : M3u8.new duration appName streamName hlsConfig = .ok s)
    (hDuration : -2 ^ 63 ≤ duration) (hFits : duration + 999 < 2 ^ 63) :
    ∃ contents, Effect.create (s.owner.filePath s.owner.liveM3u8Name) contents ∈
      (stateOf (FileCall.refreshPlaylist.run s)).effects := by
  have hConfigured := (begun_new h).configured
  have hHeader := @M3u8.generateM3u8Header_ok s.owner false (by omega) (by omega)
  have hRun : ∃ lines, M3u8.refreshPlaylist s = .ok lines
      ⟨s.owner, s.effects ++ [.create (s.owner.filePath s.owner.liveM3u8Name) (.playlist lines)]⟩ := by
    refine ⟨?_, ?_⟩
    · exact [.extm3u, .version s.owner.version, .targetDuration ((s.owner.duration + 999).tdiv 1000)] ++
        [.mediaSequence s.owner.sequenceNo] ++ M3u8.entries s.owner.segments
    · rw [M3u8.refreshPlaylist, bind_get, hHeader]
      rfl
  obtain ⟨lines, hRun⟩ := hRun
  have hCall : FileCall.refreshPlaylist.run s = .ok ()
      ⟨s.owner, s.effects ++ [.create (s.owner.filePath s.owner.liveM3u8Name) (.playlist lines)]⟩ :=
    bind_of_ok hRun
  rw [hCall]
  exact ⟨_, List.mem_append_right _ List.mem_cons_self⟩

theorem segment_created (h : M3u8.new duration appName streamName hlsConfig = .ok s)
    (hRoom : s.owner.liveTsCount ≠ 0) :
    ∃ contents, Effect.create (s.owner.filePath (Ts.tsFileName 0)) contents ∈
      (stateOf ((FileCall.addSegment ⟨0, false, false, []⟩).run s)).effects := by
  obtain ⟨s', hRun, hAfter, -⟩ :=
    (after_nil (begun_new h)).add ⟨0, false, false, []⟩ hRoom (by decide : 0 + 1 < 2 ^ 32)
  have hCall : (FileCall.addSegment ⟨0, false, false, []⟩).run s = .ok () s' := hRun
  rw [hCall]
  apply exists_create_of_present
  have hMem : AddSegment.segment s.owner.m3u8Folder ⟨0, false, false, []⟩ 0 ∈ s'.owner.segments := by
    rw [hAfter.owner]
    obtain ⟨k, hCount⟩ := Nat.exists_eq_succ_of_ne_zero hRoom
    rw [M3u8.afterAll, hCount]
    show _ ∈ List.rtake ([] ++ [_]) (k + 1)
    rw [List.rtake_concat_succ]
    exact List.mem_append_right _ List.mem_cons_self
  exact hAfter.present _ hMem

/-- Some call creates a file, when segments or playlists can be written at all. -/
theorem exists_created (h : M3u8.new duration appName streamName hlsConfig = .ok s)
    (hDuration : -2 ^ 63 ≤ duration)
    (hWrites : s.owner.liveTsCount ≠ 0 ∨ duration + 999 < 2 ^ 63) :
    ∃ call name contents, IsFile s.owner name ∧
      Effect.create (s.owner.filePath name) contents ∈ (stateOf (FileCall.run call s)).effects := by
  rcases hWrites with hRoom | hFits
  · obtain ⟨contents, hMem⟩ := segment_created h hRoom
    exact ⟨_, _, contents, .inl ⟨hRoom, 0, rfl⟩, hMem⟩
  · obtain ⟨contents, hMem⟩ := live_created h hDuration hFits
    have hOwn : s.owner.duration + 999 < 2 ^ 63 := (begun_new h).configured ▸ hFits
    exact ⟨_, _, contents, .inr ⟨hOwn, .inl rfl⟩, hMem⟩

end Created

/-- The files of a stream stay in its folder and are found exactly when its names are plain, and where
they are clean the configured path is the working directory, unless nothing can be written. -/
theorem files_found_iff (cwd : Path.Folder) {duration : Int} {appName streamName : Text}
    {hlsConfig : Option HlsConfig} {s : Acting M3u8} (hDuration : -2 ^ 63 ≤ duration)
    (h : M3u8.new duration appName streamName hlsConfig = .ok s) :
    FilesFound cwd (configuredPath hlsConfig) appName streamName s ↔
      (s.owner.liveTsCount ≠ 0 ∨ duration + 999 < 2 ^ 63 →
        Nameable cwd (configuredPath hlsConfig) appName streamName (duration + 999 < 2 ^ 63)) := by
  obtain ⟨hFolder, hLive, -⟩ := names_new h
  have hFile : ∀ name, s.owner.filePath name =
      configuredPath hlsConfig ++ appName ++ ['/'] ++ streamName ++ ['/'] ++ name := by
    intro name
    rw [M3u8.filePath, hFolder]
  constructor
  · rintro ⟨hInside, hFound⟩ hWrites
    obtain ⟨call, name, contents, hName, hMem⟩ := exists_created h hDuration hWrites
    have hParts := Path.plain_of_inside (hInside [] s (.nil s) call _ hMem _ rfl)
    have hApp : Path.Plain (Path.lastPart (configuredPath hlsConfig) ++ appName) :=
      hParts _ (List.mem_append_right _ List.mem_cons_self)
    have hStream : Path.Plain streamName :=
      hParts _ (List.mem_append_right _ (List.mem_cons_of_mem _ List.mem_cons_self))
    refine ⟨hApp, hStream, ?_⟩
    intro hCleanApp hCleanStream
    have hServed : ∀ call base fileType contents,
        Effect.create (s.owner.filePath (base ++ '.' :: HlsFileType.ext fileType)) contents ∈
          (stateOf (FileCall.run call s)).effects → Clean base →
        base.getLast? ≠ some '.' ∧
          Path.resolve cwd (Path.folderPart (configuredPath hlsConfig)) = cwd.parts ∧
            Path.lastPart (configuredPath hlsConfig) = [] := by
      intro call base fileType contents hMem hBase
      apply (@served_iff cwd _ _ _ _ fileType hApp hCleanApp hCleanStream hBase).mp
      have hServer := hFound hCleanApp hCleanStream [] s (.nil s) call _ hMem _ rfl
      rw [hFile, lastPart_file _ (plain_file hBase.plain.noSlash fileType).noSlash] at hServer
      exact hServer
    obtain ⟨base, fileType, rfl, hBase⟩ := file_cases h hName
    obtain ⟨-, hHere, hEmpty⟩ := hServed call base fileType contents hMem (clean_base hCleanStream hBase).1
    refine ⟨hHere, hEmpty, ?_⟩
    intro hFits
    obtain ⟨contents', hPlaylist⟩ := live_created h hDuration hFits
    rw [hLive] at hPlaylist
    exact (hServed .refreshPlaylist streamName .playlist contents' hPlaylist hCleanStream).1
  · intro hNameable
    have hWrites : ∀ name, IsFile s.owner name → s.owner.liveTsCount ≠ 0 ∨ duration + 999 < 2 ^ 63 := by
      rintro name (⟨hRoom, -⟩ | ⟨hFits, -⟩)
      · exact .inl hRoom
      · exact .inr ((begun_new h).configured ▸ hFits)
    constructor
    · intro calls s' hRun call effect hMem file hTouched
      have hFiled := files_of_run h hRun call
      obtain ⟨name, hName, rfl⟩ : ∃ name, IsFile s.owner name ∧ file = s.owner.filePath name := by
        cases effect with
        | create path contents => exact hFiled.created _ hMem file hTouched
        | removeFile path =>
          obtain ⟨contents, hCreate⟩ := hFiled.removed path hMem
          exact hFiled.created _ hCreate file hTouched
        | createDirAll path => cases hTouched
        | onHls appName streamName segment => cases hTouched
      obtain ⟨hApp, hStream, -⟩ := hNameable (hWrites name hName)
      obtain ⟨base, fileType, rfl, hBase⟩ := file_cases h hName
      have hPlain := plain_file (noSlash_base hStream.noSlash hBase) fileType
      rw [hFile, resolve_file cwd hApp hStream hPlain]
      exact ⟨_, List.cons_ne_nil _ _, rfl⟩
    · intro hCleanApp hCleanStream calls s' hRun call effect hMem file hCreated
      obtain ⟨name, hName, rfl⟩ := (files_of_run h hRun call).created effect hMem file hCreated
      obtain ⟨hApp, hStream, hClean⟩ := hNameable (hWrites name hName)
      obtain ⟨hHere, hEmpty, hLast⟩ := hClean hCleanApp hCleanStream
      obtain ⟨base, fileType, rfl, hBase⟩ := file_cases h hName
      obtain ⟨hCleanBase, hEnd⟩ := clean_base hCleanStream hBase
      have hPlain := plain_file hCleanBase.plain.noSlash fileType
      rw [hFile, lastPart_file _ hPlain.noSlash]
      exact (served_iff cwd hApp hCleanApp hCleanStream hCleanBase).mpr ⟨hEnd hLast, hHere, hEmpty⟩

/-- The root as the working directory. -/
def root : Path.Folder := ⟨[], fun _ hMem => absurd hMem List.not_mem_nil⟩

theorem plainNames_found : ∃ s, M3u8.new 5 ['a'] ['s'] none = .ok s ∧
    FilesFound root (configuredPath none) ['a'] ['s'] s := by
  refine ⟨_, rfl, (files_found_iff root (by decide) rfl).mpr fun _ => ?_⟩
  exact ⟨by decide, by decide, fun _ _ => ⟨by decide, by decide, fun _ => by decide⟩⟩

/-- A stream that is named by two dots writes into another folder. -/
theorem dots_escape : ¬∀ appName streamName s, M3u8.new 5 appName streamName none = .ok s →
    FilesFound root (configuredPath none) appName streamName s := by
  intro hAll
  have hFound := hAll ['a'] ['.', '.'] _ rfl
  obtain ⟨call, name, contents, -, hMem⟩ :=
    @exists_created 5 ['a'] ['.', '.'] none _ rfl (by decide) (.inr (by decide))
  have hParts := Path.plain_of_inside (hFound.inside [] _ (.nil _) call _ hMem _ rfl)
  have hDots : Path.Plain ['.', '.'] :=
    hParts _ (List.mem_append_right _ (List.mem_cons_of_mem _ List.mem_cons_self))
  exact hDots.ne_dots rfl

end Xiu.Hls
