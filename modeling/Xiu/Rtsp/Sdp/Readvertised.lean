import Xiu.Rtsp.Sdp.Reread

/-! A description that has been read, written again and read once more.  The session always comes back.  A
medium comes back if its lines say one thing of its format: white space does not end the words that are
written last on a line, the parameters of the format are those of the codec that the last `rtpmap` names, and
no attribute `rtpmap` or `fmtp` is without a value. -/

namespace Xiu.Rtsp.Sdp

open Common ProofKit

variable {codings : Codings}

/-! ### What two descriptions have in common -/

/-- The same medium, whatever the order of its attributes. -/
structure SdpMediaInfo.Agrees (media media' : SdpMediaInfo) : Prop where
  mediaType : media.mediaType = media'.mediaType
  port : media.port = media'.port
  protocol : media.protocol = media'.protocol
  fmts : media.fmts = media'.fmts
  bandwidth : media.bandwidth = media'.bandwidth
  rtpmap : media.rtpmap = media'.rtpmap
  fmtp : media.fmtp = media'.fmtp
  attributes : IndexMap.Same media.attributes media'.attributes

/-- The same description but for the text that it has been read from, whatever the order of attributes. -/
structure Agrees (sdp sdp' : Sdp) : Prop where
  version : sdp.version = sdp'.version
  origin : sdp.origin = sdp'.origin
  session : sdp.session = sdp'.session
  connection : sdp.connection = sdp'.connection
  timing : sdp.timing = sdp'.timing
  medias : List.Forall₂ SdpMediaInfo.Agrees sdp.medias sdp'.medias
  attributes : IndexMap.Same sdp.attributes sdp'.attributes

theorem SdpMediaInfo.Agrees.symm {media media' : SdpMediaInfo} (h : media.Agrees media') :
    media'.Agrees media :=
  ⟨h.mediaType.symm, h.port.symm, h.protocol.symm, h.fmts.symm, h.bandwidth.symm, h.rtpmap.symm, h.fmtp.symm,
    h.attributes.symm⟩

theorem SdpMediaInfo.Agrees.trans {media media' media'' : SdpMediaInfo} (h : media.Agrees media')
    (h' : media'.Agrees media'') : media.Agrees media'' :=
  ⟨h.mediaType.trans h'.mediaType, h.port.trans h'.port, h.protocol.trans h'.protocol, h.fmts.trans h'.fmts,
    h.bandwidth.trans h'.bandwidth, h.rtpmap.trans h'.rtpmap, h.fmtp.trans h'.fmtp,
    h.attributes.trans h'.attributes⟩

theorem Agrees.symm {sdp sdp' : Sdp} (h : sdp.Agrees sdp') : sdp'.Agrees sdp :=
  ⟨h.version.symm, h.origin.symm, h.session.symm, h.connection.symm, h.timing.symm,
    (h.medias.imp fun _ _ hAgrees => hAgrees.symm).flip, h.attributes.symm⟩

theorem Agrees.trans {sdp sdp' sdp'' : Sdp} (h : sdp.Agrees sdp') (h' : sdp'.Agrees sdp'') :
    sdp.Agrees sdp'' :=
  have hTrans (a b c : SdpMediaInfo) (h : a.Agrees b) (h' : b.Agrees c) : a.Agrees c := h.trans h'
  ⟨h.version.trans h'.version, h.origin.trans h'.origin, h.session.trans h'.session,
    h.connection.trans h'.connection, h.timing.trans h'.timing,
    forall₂_trans hTrans h.medias h'.medias, h.attributes.trans h'.attributes⟩

theorem SdpMediaInfo.Agrees.clean {media media' : SdpMediaInfo} (h : media.Agrees media') (hClean : media'.Clean) :
    media.Clean where
  mediaType := h.mediaType ▸ hClean.mediaType
  port := h.port ▸ hClean.port
  protocol := h.protocol ▸ hClean.protocol
  fmts := h.fmts ▸ hClean.fmts
  bandwidth := h.bandwidth ▸ hClean.bandwidth
  rtpmap := h.rtpmap ▸ hClean.rtpmap
  fmtp := h.fmtp ▸ hClean.fmtp
  attributes := hClean.attributes.same h.attributes.symm

theorem Agrees.clean {sdp sdp' : Sdp} (h : sdp.Agrees sdp') (hClean : sdp'.Clean) : sdp.Clean where
  version := h.version ▸ hClean.version
  origin := h.origin ▸ hClean.origin
  session := h.session ▸ hClean.session
  connection := h.connection ▸ hClean.connection
  timing := h.timing ▸ hClean.timing
  medias := by
    have hMedias := hClean.medias
    have hSame := h.medias
    generalize sdp.medias = medias at hSame
    generalize sdp'.medias = medias' at hMedias hSame
    induction hSame with
    | nil => exact List.forall_mem_nil _
    | cons hHead _ ih =>
      rw [List.forall_mem_cons] at hMedias ⊢
      exact ⟨hHead.clean hMedias.1, ih hMedias.2⟩
  attributes := hClean.attributes.same h.attributes.symm

/-! ### What the lines say of the media -/

/-- The lines of a medium, as far as it matters: the value of `m=`, the text of the last `rtpmap`, the codec
that the last `fmtp` was read for if it was understood, and whether one of the two is without a value. -/
structure Block where
  medium : List Char
  rtpmap : List Char
  codec : Option (List Char)
  bare : Bool
  deriving DecidableEq

/-- The word at a place between blanks, and in it the one between slashes. -/
def word (sep : Char) (i : Nat) (text : List Char) : List Char := (text.splitOn sep)[i]?.getD []

def codecOf (rtpmap : List Char) : List Char := toLowercase (word '/' 0 (word ' ' 1 rtpmap))

/-- The codecs whose parameters are understood. -/
def codecs : List (List Char) := ["h264".toList, "h265".toList, "mpeg4-generic".toList]

def Block.addAttribute (block : Block) (value : List Char) : Block :=
  match splitn2 ':' value with
  | (name, none) => { block with bare := block.bare || name == "rtpmap".toList || name == "fmtp".toList }
  | (name, some text) =>
    if name = "rtpmap".toList then
      { block with rtpmap := text }
    else if name = "fmtp".toList then
      { block with
        codec := if ' ' ∈ text ∧ codecOf block.rtpmap ∈ codecs then some (codecOf block.rtpmap) else none }
    else block

def addLine (blocks : List Block) (line : List Char) : List Block :=
  match keyValue line with
  | none => blocks
  | some (key, value) =>
    if key = ['m'] then
      blocks ++ [⟨value, [], none, false⟩]
    else if key = ['a'] then
      match blocks.getLast? with
      | none => blocks
      | some block => blocks.dropLast ++ [block.addAttribute value]
    else blocks

/-- The media of a text. -/
def blocks (text : String) : List Block := (lines text.toList).foldl addLine []

/-- What is written of the medium is what its lines have said. -/
structure Block.Survives (block : Block) : Prop where
  formats : (∃ format ∈ (block.medium.splitOn ' ').drop 3, (parseU8 format).isSome) ∨
    EndsSolid (word ' ' 2 block.medium)
  param : EndsSolid (word '/' 2 (word ' ' 1 block.rtpmap))
  codec : ∀ codec, block.codec = some codec → codec = codecOf block.rtpmap
  bare : block.bare = false

/-! ### The lines and the media that are read from them -/

structure Block.Describes (block : Block) (media : SdpMediaInfo) : Prop where
  protocol : media.protocol.toList = word ' ' 2 block.medium
  fmts : media.fmts = ((block.medium.splitOn ' ').drop 3).filterMap parseU8
  rtpmap : media.rtpmap = RtpMap.unmarshal block.rtpmap
  fmtp : media.fmtp.map Fmtp.codec = block.codec
  bare : block.bare = false ↔ media.Named

theorem toList_word (sep : Char) (i : Nat) (text : List Char) :
    (((text.splitOn sep)[i]?.map String.ofList).getD "").toList = word sep i text := by
  rw [word]
  cases (text.splitOn sep)[i]? with
  | none => rfl
  | some piece => exact String.toList_ofList

theorem Block.describes_unmarshal (value : List Char) :
    Block.Describes ⟨value, [], none, false⟩ (SdpMediaInfo.unmarshal value) where
  protocol := toList_word ' ' 2 value
  fmts := rfl
  rtpmap := (by decide : RtpMap.default = RtpMap.unmarshal [])
  fmtp := rfl
  bare := iff_of_true rfl (List.forall_mem_nil _)

theorem RtpMap.codec_unmarshal (text : List Char) :
    toLowercase (RtpMap.unmarshal text).encodingName.toList = codecOf text ∧
      (RtpMap.unmarshal text).encodingParam.toList = word '/' 2 (word ' ' 1 text) := by
  have hWord : word ' ' 1 text = (text.splitOn ' ')[1]?.getD [] := rfl
  rw [RtpMap.unmarshal, codecOf, hWord]
  cases (text.splitOn ' ')[1]? with
  | none => exact ⟨rfl, rfl⟩
  | some part => exact ⟨congrArg toLowercase (toList_word '/' 0 part), toList_word '/' 2 part⟩

theorem unmarshalFmtp_isSome_iff {φ : Type} {start : Nat → φ} {setParameter : φ → List Char → Option φ}
    {text : List Char} {fmtp : Option φ} (h : unmarshalFmtp start setParameter text = some fmtp) :
    fmtp.isSome ↔ ' ' ∈ text := by
  rw [unmarshalFmtp] at h
  rcases hSplit : splitn2 ' ' text with ⟨payloadType, _ | parameters⟩
  · rw [hSplit] at h
    cases h
    obtain ⟨rfl, hNot⟩ := splitn2_none hSplit
    exact iff_of_false Bool.false_ne_true hNot
  · rw [hSplit] at h
    obtain ⟨read, -, rfl⟩ := Option.map_eq_some_iff.mp h
    obtain ⟨rfl, -⟩ := splitn2_some hSplit
    exact iff_of_true rfl (List.mem_append_right _ List.mem_cons_self)

/-- Something is read if there are parameters and the codec is known. -/
theorem Fmtp.isSome_new {codec : String} {text : List Char} {fmtp : Option Fmtp}
    (h : Fmtp.new codings codec text = some fmtp) :
    fmtp.isSome ↔ ' ' ∈ text ∧ toLowercase codec.toList ∈ codecs := by
  simp only [new] at h
  split at h
  · rename_i hCodec
    obtain ⟨read, hRead, rfl⟩ := Option.map_eq_some_iff.mp h
    rw [Option.isSome_map, unmarshalFmtp_isSome_iff hRead, hCodec]
    exact (and_iff_left (by decide)).symm
  split at h
  · rename_i hCodec
    obtain ⟨read, hRead, rfl⟩ := Option.map_eq_some_iff.mp h
    rw [Option.isSome_map, unmarshalFmtp_isSome_iff hRead, hCodec]
    exact (and_iff_left (by decide)).symm
  split at h
  · rename_i hCodec
    obtain ⟨read, hRead, rfl⟩ := Option.map_eq_some_iff.mp h
    rw [Option.isSome_map, unmarshalFmtp_isSome_iff hRead, hCodec]
    exact (and_iff_left (by decide)).symm
  · rename_i hNot264 hNot265 hNotMpeg4
    cases h
    refine iff_of_false Bool.false_ne_true fun hBoth => ?_
    simp only [codecs, List.mem_cons, List.not_mem_nil, or_false] at hBoth
    rcases hBoth.2 with hEq | hEq | hEq
    · exact hNot264 hEq
    · exact hNot265 hEq
    · exact hNotMpeg4 hEq

theorem Fmtp.codec_of_new {codec : String} {text : List Char} {fmtp : Option Fmtp}
    (h : Fmtp.new codings codec text = some fmtp) :
    fmtp.map Fmtp.codec =
      if ' ' ∈ text ∧ toLowercase codec.toList ∈ codecs then some (toLowercase codec.toList) else none := by
  have hSome := isSome_new h
  cases fmtp with
  | some fmtp => rw [if_pos (hSome.mp rfl), Option.map_some, codec_new h]
  | none => exact (if_neg fun hBoth => Bool.false_ne_true (hSome.mpr hBoth)).symm

/-- The names of attributes are those that were there and the one that is set. -/
theorem mem_names_insert {attributes : IndexMap String} {name value other : String} :
    other ∈ (IndexMap.insert attributes name value).map (·.1) ↔ other ∈ attributes.map (·.1) ∨ other = name := by
  rw [IndexMap.insert]
  split
  · rename_i hMem
    have hNames : (attributes.map fun p => if p.1 = name then (name, value) else p).map (·.1) =
        attributes.map (·.1) := by
      rw [List.map_map]
      refine List.map_congr_left fun p _ => ?_
      simp only [Function.comp]
      split
      · rename_i hEq
        exact hEq.symm
      · rfl
    rw [hNames]
    refine ⟨.inl, ?_⟩
    rintro (hOld | rfl)
    · exact hOld
    · exact hMem
  · simp

theorem SdpMediaInfo.named_insert {media : SdpMediaInfo} {name : List Char} {value : String} :
    Named { media with attributes := IndexMap.insert media.attributes (String.ofList name) value } ↔
      media.Named ∧ name ≠ "rtpmap".toList ∧ name ≠ "fmtp".toList := by
  have hText (key : String) : String.ofList name ≠ key ↔ name ≠ key.toList := by
    rw [Ne, ← String.toList_inj, String.toList_ofList]
  simp only [Named, mem_names_insert, or_imp, forall_and, forall_eq]
  rw [hText, hText]
  exact and_and_and_comm

/-- An attribute is read as the lines of its medium say. -/
theorem Block.Describes.setAttribute {block : Block} {sdp sdp' : Sdp} {medias : List SdpMediaInfo}
    {media : SdpMediaInfo} (hMedias : sdp.medias = medias ++ [media]) (h : block.Describes media)
    {value : List Char} (hSet : sdp.setAttribute codings value = some sdp') :
    ∃ media', sdp'.medias = medias ++ [media'] ∧ (block.addAttribute value).Describes media' := by
  have hLast : sdp.medias.getLast? = some media := by rw [hMedias, List.getLast?_concat]
  have hPut (media' : SdpMediaInfo) : (sdp.setLastMedia media').medias = medias ++ [media'] := by
    rw [setLastMedia, hMedias, List.dropLast_concat]
  rw [Sdp.setAttribute] at hSet
  rw [addAttribute]
  rcases hSplit : splitn2 ':' value with ⟨name, _ | text⟩
  · simp only [hSplit, hLast, Option.isSome_none, Bool.false_eq_true, and_false, if_false] at hSet ⊢
    cases hSet
    refine ⟨_, hPut _, { h with bare := ?_ }⟩
    rw [SdpMediaInfo.named_insert, ← h.bare]
    simp only [Bool.or_eq_false_iff, beq_eq_false_iff_ne, and_assoc]
  · simp only [hSplit, hLast, Option.isSome_some, and_true, Option.getD_some] at hSet ⊢
    split at hSet
    · rename_i hName
      cases hSet
      rw [if_pos hName]
      exact ⟨_, hPut _, { h with rtpmap := rfl }⟩
    · rename_i hNotMap
      rw [if_neg hNotMap]
      split at hSet
      · rename_i hName
        obtain ⟨fmtp, hNew, rfl⟩ := Option.map_eq_some_iff.mp hSet
        rw [if_pos hName]
        refine ⟨_, hPut _, { h with fmtp := ?_ }⟩
        have hCodec := Fmtp.codec_of_new hNew
        rwa [h.rtpmap, (RtpMap.codec_unmarshal _).1] at hCodec
      · rename_i hNotFmtp
        cases hSet
        rw [if_neg hNotFmtp]
        refine ⟨_, hPut _, { h with bare := ?_ }⟩
        rw [SdpMediaInfo.named_insert, ← h.bare]
        exact (and_iff_left ⟨hNotMap, hNotFmtp⟩).symm

/-- The blocks of the lines describe the media, one by one. -/
def Tracks (blocks : List Block) (sdp : Sdp) : Prop := List.Forall₂ Block.Describes blocks sdp.medias

/-- What changes the last medium in nothing that its block says. -/
theorem Tracks.setLastMedia {blocks : List Block} {sdp : Sdp} (h : Tracks blocks sdp)
    {media media' : SdpMediaInfo} (hLast : sdp.medias.getLast? = some media)
    (hSame : ∀ block, Block.Describes block media → Block.Describes block media') :
    Tracks blocks (sdp.setLastMedia media') := by
  obtain ⟨medias, hMedias⟩ := List.getLast?_eq_some_iff.mp hLast
  rw [Tracks, hMedias] at h
  obtain ⟨init, block, rfl, hInit, hBlock⟩ := forall₂_concat h
  rw [Tracks, Sdp.setLastMedia, hMedias, List.dropLast_concat]
  exact forall₂_append_singleton hInit (hSame block hBlock)

theorem Tracks.setLine {blocks : List Block} {sdp sdp' : Sdp} (h : Tracks blocks sdp) {text : List Char}
    (hSet : sdp.setLine codings text = some sdp') : Tracks (addLine blocks text) sdp' := by
  rw [Sdp.setLine] at hSet
  rw [addLine]
  cases hKey : keyValue text with
  | none =>
    rw [hKey] at hSet
    cases hSet
    exact h
  | some p =>
    obtain ⟨key, value⟩ := p
    simp only [hKey] at hSet ⊢
    by_cases hMedium : key = ['m']
    · subst hMedium
      simp at hSet
      subst hSet
      exact forall₂_append_singleton h (Block.describes_unmarshal value)
    rw [if_neg hMedium] at hSet ⊢
    by_cases hAttribute : key = ['a']
    · subst hAttribute
      simp at hSet
      rw [if_pos rfl]
      rcases hLast : sdp.medias.getLast? with _ | media
      · have hNone : sdp.medias = [] := List.getLast?_eq_none_iff.mp hLast
        have hBlocks : blocks = [] := by
          have hTracks := h
          rw [Tracks, hNone] at hTracks
          exact List.forall₂_nil_right_iff.mp hTracks
        rw [setAttribute, hLast] at hSet
        cases hSet
        rw [hBlocks] at h ⊢
        exact h
      · obtain ⟨medias, hMedias⟩ := List.getLast?_eq_some_iff.mp hLast
        rw [Tracks, hMedias] at h
        obtain ⟨init, block, rfl, hInit, hBlock⟩ := forall₂_concat h
        obtain ⟨media', hNew, hDescribes⟩ := hBlock.setAttribute hMedias hSet
        rw [Tracks, hNew]
        simp only [List.getLast?_concat, List.dropLast_concat]
        exact forall₂_append_singleton hInit hDescribes
    · rw [if_neg hAttribute] at hSet ⊢
      repeat' split at hSet
      all_goals cases hSet
      all_goals first
        | exact h
        | (rename_i media hLast; exact h.setLastMedia hLast fun block hBlock => { hBlock with })

/-- The media that are read are those of the text. -/
theorem tracks_unmarshal {text : String} {sdp : Sdp} (h : unmarshal codings text = some sdp) :
    Tracks (blocks text) sdp := by
  have hStart : Tracks [] { default with rawString := text } := .nil
  exact foldlM_relates (fun _ _ _ _ _ hTracks => hTracks.setLine) hStart h

/-! ### A medium that is read again -/

theorem SdpMediaInfo.protocolAgain_eq_iff (media : SdpMediaInfo) :
    media.protocolAgain = media.protocol ↔ media.fmts ≠ [] ∨ EndsSolid media.protocol.toList := by
  rw [protocolAgain]
  split
  · rename_i hFmts
    rw [← String.toList_inj, String.toList_ofList, ← endsSolid_iff]
    exact (or_iff_right fun hNot => hNot hFmts).symm
  · rename_i hFmts
    exact iff_of_true rfl (.inl hFmts)

/-- The parameters come back if they are read for the codec that they are of. -/
theorem SdpMediaInfo.fmtpAgain_eq_iff (hLawful : Lawful codings) {media : SdpMediaInfo} (h : media.Clean) :
    media.fmtpAgain codings = some media.fmtp ↔
      ∀ fmtp, media.fmtp = some fmtp → fmtp.codec = toLowercase media.rtpmap.encodingName.toList := by
  rw [fmtpAgain]
  cases hFmtp : media.fmtp with
  | none =>
    refine iff_of_true rfl fun fmtp hSome => ?_
    cases hSome
  | some fmtp =>
    constructor
    · intro hNew other hSome
      cases hSome
      exact Fmtp.codec_new hNew
    · intro hCodec
      exact Fmtp.new_text hLawful (h.fmtp fmtp hFmtp) (hCodec fmtp rfl).symm

/-- A medium comes back if the words that end its lines do not end with white space, and the parameters of its
format are of the codec that is written before them. -/
theorem SdpMediaInfo.reread_agrees_iff (hLawful : Lawful codings) {media : SdpMediaInfo} (h : media.Clean) :
    (∃ media', media.reread codings = some media' ∧ media'.Agrees media) ↔
      (media.fmts ≠ [] ∨ EndsSolid media.protocol.toList) ∧ EndsSolid media.rtpmap.encodingParam.toList ∧
        ∀ fmtp, media.fmtp = some fmtp → fmtp.codec = toLowercase media.rtpmap.encodingName.toList := by
  rw [← protocolAgain_eq_iff, ← fmtpAgain_eq_iff hLawful h, endsSolid_iff]
  constructor
  · rintro ⟨media', hReread, hAgrees⟩
    obtain ⟨fmtp, hAgain, rfl⟩ := Option.map_eq_some_iff.mp hReread
    have hMap := congrArg (fun rtpmap => rtpmap.encodingParam.toList) hAgrees.rtpmap
    refine ⟨hAgrees.protocol, ?_, hAgain.trans (congrArg some hAgrees.fmtp)⟩
    simpa [again] using hMap
  · rintro ⟨hProtocol, hParam, hFmtp⟩
    refine ⟨media.again media.fmtp, by rw [reread, hFmtp]; rfl, ?_⟩
    have hMap : (media.again media.fmtp).rtpmap = media.rtpmap := by
      rw [again]
      simp only [hParam, String.ofList_toList]
    exact ⟨rfl, rfl, hProtocol, rfl, rfl, hMap, rfl, .refl _⟩

/-- It is for the lines of a medium to say whether it comes back. -/
theorem Block.Describes.survives_iff {block : Block} {media : SdpMediaInfo} (h : block.Describes media)
    (hNamed : media.Named) :
    block.Survives ↔ (media.fmts ≠ [] ∨ EndsSolid media.protocol.toList) ∧
      EndsSolid media.rtpmap.encodingParam.toList ∧
        ∀ fmtp, media.fmtp = some fmtp → fmtp.codec = toLowercase media.rtpmap.encodingName.toList := by
  obtain ⟨hName, hParam⟩ := RtpMap.codec_unmarshal block.rtpmap
  have hFormats : media.fmts ≠ [] ↔ ∃ format ∈ (block.medium.splitOn ' ').drop 3, (parseU8 format).isSome := by
    rw [h.fmts, Ne, List.filterMap_eq_nil_iff]
    simp only [not_forall, exists_prop, ← Option.isSome_iff_ne_none]
  have hCodec : (∀ codec, block.codec = some codec → codec = codecOf block.rtpmap) ↔
      ∀ fmtp, media.fmtp = some fmtp → fmtp.codec = codecOf block.rtpmap := by
    rw [← h.fmtp]
    simp only [Option.map_eq_some_iff, forall_exists_index, and_imp, forall_apply_eq_imp_iff₂]
  rw [hFormats, h.protocol, h.rtpmap, hName, hParam, ← hCodec]
  exact ⟨fun hSurvives => ⟨hSurvives.formats, hSurvives.param, hSurvives.codec⟩,
    fun ⟨hFirst, hSecond, hThird⟩ => ⟨hFirst, hSecond, hThird, h.bare.mpr hNamed⟩⟩

theorem SdpMediaInfo.Agrees.named {media media' : SdpMediaInfo} (h : media.Agrees media') (hNamed : media.Named) :
    media'.Named :=
  fun name hMem => hNamed name ((h.attributes.map _).mem_iff.mpr hMem)

theorem Block.Describes.of_agrees {block : Block} {media media' : SdpMediaInfo} (h : block.Describes media)
    (hAgrees : media.Agrees media') : block.Describes media' where
  protocol := hAgrees.protocol ▸ h.protocol
  fmts := hAgrees.fmts ▸ h.fmts
  rtpmap := hAgrees.rtpmap ▸ h.rtpmap
  fmtp := hAgrees.fmtp ▸ h.fmtp
  bare := h.bare.trans ⟨hAgrees.named, hAgrees.symm.named⟩

theorem Tracks.of_agrees {blocks : List Block} {sdp sdp' : Sdp} (h : Tracks blocks sdp)
    (hAgrees : sdp.Agrees sdp') : Tracks blocks sdp' :=
  forall₂_trans (T := Block.Describes) (fun _ _ _ hDescribes => hDescribes.of_agrees) h hAgrees.medias

/-! ### Attributes without a value are not written -/

/-- The line gives no attribute without a value. -/
def Colon (text : List Char) : Prop := ∀ value, keyValue text = some (['a'], value) → ':' ∈ value

theorem colon_line {key : Char} (hKey : isWhitespace key = false) (hNot : key ≠ '=') (hOther : key ≠ 'a')
    (value : List Char) : Colon (line key value) := by
  intro read hRead
  rw [keyValue_line hKey hNot] at hRead
  cases hRead
  exact absurd rfl hOther

theorem colon_attribute (name value : List Char) : Colon (line 'a' (name ++ ':' :: value)) := by
  intro read hRead
  have hColon : EndsSolid (name ++ [':']) := (endsSolid_nil.cons rfl).append (List.cons_ne_nil _ _)
  rw [keyValue_line rfl (by decide), List.append_cons, rdropWhile_append hColon] at hRead
  cases hRead
  simp

theorem colon_writtenLines (sdp : Sdp) : ∀ text ∈ writtenLines codings sdp, Colon text := by
  have hAttributes (attributes : IndexMap String) : ∀ text ∈ attributes.map attributeLine, Colon text := by
    rw [List.forall_mem_map]
    exact fun p _ => colon_attribute p.1.toList p.2.toList
  have hMedia (media : SdpMediaInfo) : ∀ text ∈ media.lines codings, Colon text := by
    simp only [SdpMediaInfo.lines, List.forall_mem_append, List.forall_mem_singleton]
    refine ⟨⟨⟨⟨colon_line rfl (by decide) (by decide) _, ?_⟩, colon_attribute "rtpmap".toList _⟩, ?_⟩,
      hAttributes media.attributes⟩
    · intro text hMem
      obtain ⟨bandwidth, -, rfl⟩ := Option.map_eq_some_iff.mp (Option.mem_toList.mp hMem)
      exact colon_line rfl (by decide) (by decide) _
    · intro text hMem
      obtain ⟨fmtp, -, rfl⟩ := Option.map_eq_some_iff.mp (Option.mem_toList.mp hMem)
      exact colon_attribute "fmtp".toList _
  simp only [writtenLines, List.forall_mem_append, List.forall_mem_cons]
  refine ⟨⟨⟨?_, ?_, ?_, ?_, ?_, List.forall_mem_nil _⟩, hAttributes sdp.attributes⟩, ?_⟩
  iterate 5 exact colon_line rfl (by decide) (by decide) _
  intro text hMem
  obtain ⟨media, -, hText⟩ := List.mem_flatMap.mp hMem
  exact hMedia media text hText

theorem Block.bare_addAttribute {block : Block} {value : List Char} (h : ':' ∈ value) :
    (block.addAttribute value).bare = block.bare := by
  rw [addAttribute]
  rcases hSplit : splitn2 ':' value with ⟨name, _ | text⟩
  · obtain ⟨rfl, hNot⟩ := splitn2_none hSplit
    exact absurd h hNot
  · simp only
    split
    · rfl
    split <;> rfl

theorem bare_addLine {blocks : List Block} {text : List Char} (hColon : Colon text)
    (h : ∀ block ∈ blocks, block.bare = false) : ∀ block ∈ addLine blocks text, block.bare = false := by
  rw [addLine]
  cases hKey : keyValue text with
  | none => exact h
  | some p =>
    obtain ⟨key, value⟩ := p
    simp only
    split
    · rw [List.forall_mem_append, List.forall_mem_singleton]
      exact ⟨h, rfl⟩
    split
    · rename_i hAttribute
      subst hAttribute
      rcases hLast : blocks.getLast? with _ | block
      · exact h
      · simp only
        rw [List.forall_mem_append, List.forall_mem_singleton, Block.bare_addAttribute (hColon value hKey)]
        exact ⟨fun other hMem => h other (List.dropLast_subset _ hMem), h block (List.mem_of_getLast? hLast)⟩
    · exact h

/-- What has been written is read without such attributes. -/
theorem named_unmarshal_marshal (hLawful : Lawful codings) {sdp again : Sdp} (h : sdp.Clean)
    (hAgain : unmarshal codings (marshal codings sdp) = some again) : ∀ media ∈ again.medias, media.Named := by
  rw [unmarshal, toList_marshal, foldlM_lines (free_writtenLines hLawful h)] at hAgain
  have hStart : Tracks [] { default with rawString := marshal codings sdp } := .nil
  obtain ⟨hTracks, hBare⟩ := foldlM_relates (R := fun blocks sdp => Tracks blocks sdp ∧
      ∀ block ∈ blocks, block.bare = false)
    (f := setLine codings)
    (fun blocks read text hMem read' hBoth hSet =>
      ⟨hBoth.1.setLine hSet, bare_addLine (colon_writtenLines sdp text hMem) hBoth.2⟩)
    ⟨hStart, List.forall_mem_nil _⟩ hAgain
  exact (forall₂_forall_iff hTracks fun block media _ hDescribes => hDescribes.bare).mp hBare

/-! ### The description that is read again -/

/-- A description comes back, however its attributes are put in a row, if and only if each of its media
survives.  The session and the lines without formats always come back. -/
theorem readvertised_iff (hLawful : Lawful codings) {text : String} {sdp written : Sdp}
    (h : unmarshal codings text = some sdp) (hWritten : written.Agrees sdp) :
    (∃ again, unmarshal codings (marshal codings written) = some again ∧ again.Agrees sdp) ↔
      ∀ block ∈ blocks text, block.Survives := by
  have hClean : written.Clean := hWritten.clean (clean_unmarshal h)
  have hTracks : Tracks (blocks text) written := (tracks_unmarshal h).of_agrees hWritten.symm
  by_cases hNamed : ∀ media ∈ written.medias, media.Named
  · rw [forall₂_forall_iff hTracks fun block media hMem hDescribes =>
      (hDescribes.survives_iff (hNamed media hMem)).trans
        (SdpMediaInfo.reread_agrees_iff hLawful (hClean.medias media hMem)).symm,
      ← mapM_related_iff, unmarshal_marshal hLawful hClean hNamed]
    constructor
    · rintro ⟨again, hAgain, hAgrees⟩
      obtain ⟨medias, hMedias, rfl⟩ := Option.map_eq_some_iff.mp hAgain
      exact ⟨medias, hMedias, (hAgrees.trans hWritten.symm).medias⟩
    · rintro ⟨medias, hMedias, hAgrees⟩
      refine ⟨_, Option.map_eq_some_iff.mpr ⟨medias, hMedias, rfl⟩, Agrees.trans ?_ hWritten⟩
      exact ⟨rfl, rfl, rfl, rfl, rfl, hAgrees, .refl _⟩
  · refine iff_of_false ?_ fun hSurvives => hNamed ?_
    · rintro ⟨again, hAgain, hAgrees⟩
      refine hNamed ?_
      have hAgainNamed := named_unmarshal_marshal hLawful hClean hAgain
      exact (forall₂_forall_iff (hAgrees.trans hWritten.symm).medias fun media media' _ hSame =>
        ⟨hSame.named, hSame.symm.named⟩).mp hAgainNamed
    · exact (forall₂_forall_iff hTracks fun block media _ hDescribes => hDescribes.bare).mp
        fun block hMem => (hSurvives block hMem).bare

/-- A medium of AAC with its configuration. -/
def aacText : String :=
  "v=0\r\no=- 0 0 IN IP4 127.0.0.1\r\nm=audio 0 RTP/AVP 97\r\na=rtpmap:97 MPEG4-GENERIC/48000/2\r\n" ++
    "a=fmtp:97 mode=AAC-hbr;sizelength=13;config=1190\r\na=control:streamid=1\r\n"

/-- The characters of the text, without decoding it: it is read, and this is its medium. -/
theorem aacText_characters : ∃ characters, aacText.toList = characters ∧
    ((lines characters).foldlM (setLine hexCodings) { default with rawString := aacText }).isSome ∧
    (lines characters).foldl addLine [] = [⟨"audio 0 RTP/AVP 97".toList, "97 MPEG4-GENERIC/48000/2".toList,
      some "mpeg4-generic".toList, false⟩] :=
  ⟨_, String.toList_append.trans (congrArg₂ (· ++ ·) String.toList_ofList String.toList_ofList),
    by decide +kernel, by decide +kernel⟩

theorem aacText_survives : ∃ sdp, unmarshal hexCodings aacText = some sdp ∧
    ∃ again, unmarshal hexCodings (marshal hexCodings sdp) = some again ∧ again.Agrees sdp := by
  obtain ⟨characters, hCharacters, hSome, hBlocks⟩ := aacText_characters
  obtain ⟨sdp, hRead⟩ := Option.isSome_iff_exists.mp hSome
  rw [← hCharacters] at hRead hBlocks
  have hSame : sdp.Agrees sdp :=
    ⟨rfl, rfl, rfl, rfl, rfl, List.forall₂_same.mpr fun _ _ => ⟨rfl, rfl, rfl, rfl, rfl, rfl, rfl, .refl _⟩, .refl _⟩
  refine ⟨sdp, hRead, (readvertised_iff lawful_hexCodings hRead hSame).mpr ?_⟩
  rw [blocks, hBlocks, List.forall_mem_singleton]
  refine ⟨.inl (by decide), (endsSolid_iff _).mpr (by decide), fun codec hCodec => ?_, rfl⟩
  cases hCodec
  decide

end Xiu.Rtsp.Sdp
