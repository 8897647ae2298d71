import Xiu.Rtsp.Sdp.Formats

/-! How a description that has been written is read.  What is written is a row of lines, each a key with a
value, and each line is read by itself: the session comes back as it was, and of a medium white space at the
end of a line is lost and the parameters of its format are read for the codec that is written. -/

namespace Xiu.Rtsp.Sdp

open Common ProofKit

variable {codings : Codings}

/-! ### Lines -/

/-- A line of a key of one letter. -/
def line (key : Char) (value : List Char) : List Char := key :: '=' :: value

def attributeLine (p : String × String) : List Char := line 'a' (p.1.toList ++ ':' :: p.2.toList)

theorem keyValue_line {key : Char} (hKey : isWhitespace key = false) (hNot : key ≠ '=')
    (value : List Char) : keyValue (line key value) = some ([key], value.rdropWhile isWhitespace) :=
  @keyValue_append [key] (by simpa using hKey) (by simpa using Ne.symm hNot) value

theorem Value.keyValue_line {seps value : List Char} (h : Value seps value) {key : Char}
    (hKey : isWhitespace key = false) (hNot : key ≠ '=') :
    keyValue (line key value) = some ([key], value) := by
  rw [Sdp.keyValue_line hKey hNot, (endsSolid_iff value).mp h.solid]

/-- The value of the line `m=`. -/
def SdpMediaInfo.text (media : SdpMediaInfo) : List Char :=
  media.mediaType.toList ++ ' ' :: (Nat.toDigits 10 media.port ++ ' ' ::
    (media.protocol.toList ++ ' ' :: [' '].intercalate (media.fmts.map (Nat.toDigits 10))))

def SdpMediaInfo.lines (codings : Codings) (media : SdpMediaInfo) : List (List Char) :=
  [line 'm' media.text] ++
    (media.bandwidth.map fun bandwidth =>
      line 'b' (bandwidth.bType.toList ++ ':' :: Nat.toDigits 10 bandwidth.bandwidth)).toList ++
    [line 'a' ("rtpmap:".toList ++ media.rtpmap.text media.rtpmap.param)] ++
    (media.fmtp.map fun fmtp => line 'a' ("fmtp:".toList ++ fmtp.text codings)).toList ++
    media.attributes.map attributeLine

def writtenLines (codings : Codings) (sdp : Sdp) : List (List Char) :=
  [line 'v' (Nat.toDigits 10 sdp.version), line 'o' sdp.origin.toList, line 's' sdp.session.toList,
    line 'c' sdp.connection.toList, line 't' sdp.timing.toList] ++
    sdp.attributes.map attributeLine ++ sdp.medias.flatMap (SdpMediaInfo.lines codings)

theorem toList_marshalAttributes (attributes : IndexMap String) :
    (marshalAttributes attributes).toList = withEnds (attributes.map attributeLine) := by
  have hLine (p : String × String) : s!"a={p.1}:{p.2}\r\n".toList = attributeLine p ++ ['\r', '\n'] := by
    simp [attributeLine, line]
  rw [marshalAttributes, String.toList_join, withEnds, List.flatMap_map, List.flatMap_map]
  exact congrArg (attributes.flatMap ·) (funext hLine)

theorem toList_marshalMedia (media : SdpMediaInfo) :
    (media.marshal codings).toList = withEnds (media.lines codings) := by
  have hBandwidth : ((media.bandwidth.map fun bandwidth => "b=" ++ bandwidth.marshal).getD "").toList =
      withEnds (media.bandwidth.map fun bandwidth =>
        line 'b' (bandwidth.bType.toList ++ ':' :: Nat.toDigits 10 bandwidth.bandwidth)).toList := by
    cases media.bandwidth <;> simp [withEnds, line, Bandwidth.marshal]
  have hFmtp : ((media.fmtp.map fun fmtp => "a=fmtp:" ++ fmtp.marshal codings).getD "").toList =
      withEnds (media.fmtp.map fun fmtp => line 'a' ("fmtp:".toList ++ fmtp.text codings)).toList := by
    cases media.fmtp <;> simp [withEnds, line, Fmtp.toList_marshal]
  have hFmts : (String.intercalate " " (media.fmts.map toString)).toList =
      [' '].intercalate (media.fmts.map (Nat.toDigits 10)) := by
    have hDigits (n : Nat) : (toString n).toList = Nat.toDigits 10 n := by
      rw [Nat.toString_eq_repr, Nat.toList_repr]
    rw [String.toList_intercalate, List.map_map]
    exact congrArg (fun f => [' '].intercalate (media.fmts.map f)) (funext hDigits)
  have hFirst : (s!"m={media.mediaType} {media.port} {media.protocol} " ++
      String.intercalate " " (media.fmts.map toString) ++ "\r\n").toList = withEnds [line 'm' media.text] := by
    rw [String.toList_append, String.toList_append, hFmts]
    simp [withEnds, line, SdpMediaInfo.text]
  have hMap : ("a=rtpmap:" ++ media.rtpmap.marshal).toList =
      withEnds [line 'a' ("rtpmap:".toList ++ media.rtpmap.text media.rtpmap.param)] := by
    rw [String.toList_append, RtpMap.toList_marshal]
    simp [withEnds, line]
  unfold SdpMediaInfo.marshal SdpMediaInfo.lines
  simp only [withEnds_append, ← hFirst, ← hBandwidth, ← hMap, ← hFmtp, ← toList_marshalAttributes,
    String.toList_append, List.append_assoc]

theorem toList_marshal (sdp : Sdp) :
    (marshal codings sdp).toList = withEnds (writtenLines codings sdp) := by
  have hMedias : (String.join (sdp.medias.map (SdpMediaInfo.marshal codings))).toList =
      withEnds (sdp.medias.flatMap (SdpMediaInfo.lines codings)) := by
    rw [String.toList_join, List.flatMap_map, withEnds, List.flatMap_assoc]
    exact congrArg (sdp.medias.flatMap ·) (funext toList_marshalMedia)
  have hFirst : (s!"v={sdp.version}\r\no={sdp.origin}\r\ns={sdp.session}\r\nc={sdp.connection}\r\n" ++
      s!"t={sdp.timing}\r\n").toList =
        withEnds [line 'v' (Nat.toDigits 10 sdp.version), line 'o' sdp.origin.toList,
          line 's' sdp.session.toList, line 'c' sdp.connection.toList, line 't' sdp.timing.toList] := by
    simp [withEnds, line]
  unfold marshal writtenLines
  simp only [withEnds_append, ← hFirst, ← toList_marshalAttributes, ← hMedias, String.toList_append]

/-- The lines are read one by one, and there is nothing between them. -/
theorem foldlM_lines {texts : List (List Char)} (h : ∀ text ∈ texts, Free ['\r', '\n'] text) (start : Sdp) :
    (lines (withEnds texts)).foldlM (setLine codings) start = texts.foldlM (setLine codings) start := by
  have hEmpty (sdp : Sdp) : sdp.setLine codings [] = some sdp := rfl
  induction texts generalizing start with
  | nil => rfl
  | cons text texts ih =>
    rw [List.forall_mem_cons] at h
    have hNot : ∀ c ∈ text, (c == '\r' || c == '\n') = false := by
      intro c hMem
      simpa using h.1 c hMem
    have hSplit : lines (withEnds (text :: texts)) = text :: [] :: lines (withEnds texts) := by
      have hBreak : (withEnds (text :: texts)).splitOnP (fun c => c == '\r' || c == '\n') =
          text :: ([] ++ '\n' :: withEnds texts).splitOnP fun c => c == '\r' || c == '\n' := by
        rw [withEnds, List.flatMap_cons, List.append_assoc]
        exact List.splitOnP_append_cons_of_forall_mem hNot '\r' rfl _
      rw [lines, hBreak, List.splitOnP_append_cons_of_forall_mem (List.forall_mem_nil _) '\n' rfl, lines]
    rw [hSplit, List.foldlM_cons, List.foldlM_cons]
    cases hStep : setLine codings start text with
    | none => rfl
    | some next => exact ih h.2 next

/-! ### Reading lines -/

theorem setLine_medium (sdp : Sdp) (value : List Char) :
    sdp.setLine codings (line 'm' value) =
      some { sdp with medias := sdp.medias ++ [.unmarshal (value.rdropWhile isWhitespace)] } := by
  rw [setLine, keyValue_line rfl (by decide)]
  rfl

theorem setLine_attribute (sdp : Sdp) (value : List Char) :
    sdp.setLine codings (line 'a' value) =
      sdp.setAttribute codings (value.rdropWhile isWhitespace) := by
  rw [setLine, keyValue_line rfl (by decide)]
  rfl

/-- An attribute with a value, which is read for the session or for the last medium. -/
theorem setLine_named (sdp : Sdp) {name value : List Char} (hName : ':' ∉ name) :
    sdp.setLine codings (line 'a' (name ++ ':' :: value)) =
      sdp.setAttribute codings (name ++ ':' :: value.rdropWhile isWhitespace) ∧
    splitn2 ':' (name ++ ':' :: value.rdropWhile isWhitespace) =
      (name, some (value.rdropWhile isWhitespace)) := by
  have hColon : EndsSolid (name ++ [':']) := (endsSolid_nil.cons rfl).append (List.cons_ne_nil _ _)
  have hTrim := rdropWhile_append hColon value
  rw [List.append_assoc, List.append_assoc] at hTrim
  rw [setLine_attribute]
  exact ⟨congrArg (sdp.setAttribute codings) hTrim, splitn2_append hName _⟩

variable {sdp : Sdp} {medias : List SdpMediaInfo} {media : SdpMediaInfo}

theorem setLine_bandwidth {bandwidth : Bandwidth} (h : bandwidth.Clean) :
    setLine codings { sdp with medias := medias ++ [media] }
        (line 'b' (bandwidth.bType.toList ++ ':' :: Nat.toDigits 10 bandwidth.bandwidth)) =
      some { sdp with medias := medias ++ [{ media with bandwidth := some bandwidth }] } := by
  have hSolid : EndsSolid (bandwidth.bType.toList ++ ':' :: Nat.toDigits 10 bandwidth.bandwidth) :=
    ((endsSolid_toDigits _).cons rfl).append (List.cons_ne_nil _ _)
  have hRead : Bandwidth.unmarshal (bandwidth.bType.toList ++ ':' :: Nat.toDigits 10 bandwidth.bandwidth) =
      bandwidth := by
    have hNumber : parseU16 (Nat.toDigits 10 bandwidth.bandwidth) = some bandwidth.bandwidth :=
      parseUnsigned_toDigits h.bandwidth
    rw [Bandwidth.unmarshal, List.splitOn_append_cons_self_of_not_mem (h.bType.not_mem (by decide)),
      List.splitOn_eq_singleton (not_mem_toDigits (by decide) _)]
    simp [hNumber]
  rw [setLine, keyValue_line rfl (by decide), (endsSolid_iff _).mp hSolid]
  simp [hRead, setLastMedia]

theorem setLine_rtpmap {rtpmap : RtpMap} (h : rtpmap.Clean) :
    setLine codings { sdp with medias := medias ++ [media] }
        (line 'a' ("rtpmap:".toList ++ rtpmap.text rtpmap.param)) =
      some { sdp with
        medias := medias ++ [{ media with
          rtpmap := { rtpmap with
            encodingParam := String.ofList (rtpmap.encodingParam.toList.rdropWhile isWhitespace) } }] } := by
  have hName : ':' ∉ "rtpmap".toList := by decide
  obtain ⟨hLine, hSplit⟩ := @setLine_named codings { sdp with medias := medias ++ [media] } _
    (rtpmap.text rtpmap.param) hName
  refine hLine.trans ?_
  rw [setAttribute, hSplit]
  simp [setLastMedia, RtpMap.unmarshal_trimmed h]

theorem setLine_fmtp (hLawful : Lawful codings) {fmtp : Fmtp} (h : fmtp.Clean) :
    setLine codings { sdp with medias := medias ++ [media] }
        (line 'a' ("fmtp:".toList ++ fmtp.text codings)) =
      (Fmtp.new codings media.rtpmap.encodingName (fmtp.text codings)).map fun fmtp =>
        { sdp with medias := medias ++ [{ media with fmtp }] } := by
  have hName : ':' ∉ "fmtp".toList := by decide
  have hNot : ¬"fmtp".toList = "rtpmap".toList := by decide
  obtain ⟨hLine, hSplit⟩ := @setLine_named codings { sdp with medias := medias ++ [media] } _
    (fmtp.text codings) hName
  refine hLine.trans ?_
  rw [(endsSolid_iff _).mp (h.endsSolid hLawful)] at hSplit ⊢
  rw [setAttribute, hSplit]
  simp [setLastMedia]

/-- The protocol that is read again: nothing stands behind it if there are no formats. -/
def SdpMediaInfo.protocolAgain (media : SdpMediaInfo) : String :=
  if media.fmts = [] then String.ofList (media.protocol.toList.rdropWhile isWhitespace) else media.protocol

/-- A medium as its first line tells it. -/
def SdpMediaInfo.start (media : SdpMediaInfo) : SdpMediaInfo :=
  { media with
    protocol := media.protocolAgain
    bandwidth := none
    rtpmap := .default
    fmtp := none
    attributes := [] }

theorem SdpMediaInfo.unmarshal_text (h : media.Clean) :
    SdpMediaInfo.unmarshal (media.text.rdropWhile isWhitespace) = media.start := by
  have hType : ' ' ∉ media.mediaType.toList := h.mediaType.not_mem (by decide)
  have hBlank (n : Nat) : ' ' ∉ Nat.toDigits 10 n := not_mem_toDigits (by decide) n
  have hProtocol : ' ' ∉ media.protocol.toList := h.protocol.not_mem (by decide)
  have hPort : parseUsize (Nat.toDigits 10 media.port) = some media.port := parseUnsigned_toDigits h.port
  rw [start, protocolAgain, text]
  split
  · rename_i hFmts
    have hFirst : EndsSolid (media.mediaType.toList ++ ' ' :: Nat.toDigits 10 media.port) :=
      ((endsSolid_toDigits _).cons_of_ne_nil Nat.toDigits_ne_nil).append (List.cons_ne_nil _ _)
    have hTrim := rdropWhile_append hFirst (' ' :: (media.protocol.toList ++ [' ']))
    have hSpace : isWhitespace ' ' = true := rfl
    rw [rdropWhile_space hSpace, List.rdropWhile_concat_pos _ _ _ hSpace, List.append_assoc,
      List.cons_append] at hTrim
    rw [hFmts, List.map_nil, List.intercalate_nil, hTrim, SdpMediaInfo.unmarshal]
    have hKept : ' ' ∉ media.protocol.toList.rdropWhile isWhitespace := fun hMem =>
      hProtocol ((List.rdropWhile_prefix _ _).subset hMem)
    split
    · rename_i hEmpty
      rw [List.append_nil, List.splitOn_append_cons_self_of_not_mem hType, List.splitOn_eq_singleton (hBlank _)]
      simp [hPort, hEmpty]
    · rw [List.append_assoc, List.cons_append, List.splitOn_append_cons_self_of_not_mem hType,
        List.splitOn_append_cons_self_of_not_mem (hBlank _), List.splitOn_eq_singleton hKept]
      simp [hPort]
  · rename_i hFmts
    have hSome : media.fmts.map (Nat.toDigits 10) ≠ [] := by simpa using hFmts
    have hJoin : EndsSolid ([' '].intercalate (media.fmts.map (Nat.toDigits 10))) ∧
        [' '].intercalate (media.fmts.map (Nat.toDigits 10)) ≠ [] := by
      obtain ⟨init, last, hInit⟩ : ∃ init last, media.fmts = init ++ [last] :=
        ⟨_, _, (List.dropLast_append_getLast hFmts).symm⟩
      obtain ⟨first, hFirst⟩ := intercalate_concat ' ' (init.map (Nat.toDigits 10)) (Nat.toDigits 10 last)
      rw [hInit, List.map_append, List.map_singleton, hFirst]
      exact ⟨(endsSolid_toDigits last).append Nat.toDigits_ne_nil,
        List.append_ne_nil_of_right_ne_nil _ Nat.toDigits_ne_nil⟩
    have hAll : EndsSolid (media.mediaType.toList ++ ' ' :: (Nat.toDigits 10 media.port ++ ' ' ::
        (media.protocol.toList ++ ' ' :: [' '].intercalate (media.fmts.map (Nat.toDigits 10))))) := by
      refine EndsSolid.append (.cons_of_ne_nil ?_ (by simp)) (List.cons_ne_nil _ _)
      refine EndsSolid.append (.cons_of_ne_nil ?_ (by simp)) (List.cons_ne_nil _ _)
      exact (hJoin.1.cons_of_ne_nil hJoin.2).append (List.cons_ne_nil _ _)
    have hFormats : (media.fmts.map (Nat.toDigits 10)).filterMap parseU8 = media.fmts := by
      have hFits := h.fmts
      generalize media.fmts = fmts at hFits
      induction fmts with
      | nil => rfl
      | cons fmt fmts ih =>
        rw [List.forall_mem_cons] at hFits
        have hRead : parseU8 (Nat.toDigits 10 fmt) = some fmt := parseUnsigned_toDigits hFits.1
        rw [List.map_cons, List.filterMap_cons_some hRead, ih hFits.2]
    rw [(endsSolid_iff _).mp hAll, SdpMediaInfo.unmarshal, List.splitOn_append_cons_self_of_not_mem hType,
      List.splitOn_append_cons_self_of_not_mem (hBlank _),
      List.splitOn_append_cons_self_of_not_mem hProtocol, List.splitOn_intercalate _ ?_ hSome]
    · simp [hPort, hFormats]
    · rw [List.forall_mem_map]
      exact fun fmt _ => hBlank fmt

/-- Attributes of different names are put one behind another. -/
theorem foldlM_attributes {put : IndexMap String → Sdp} {old added : IndexMap String}
    (hSet : ∀ attributes, ∀ p ∈ added,
      (put attributes).setAttribute codings (p.1.toList ++ ':' :: p.2.toList) =
        some (put (IndexMap.insert attributes p.1 p.2)))
    (hClean : AttributesClean added) (hDistinct : ((old ++ added).map (·.1)).Nodup) :
    (added.map attributeLine).foldlM (setLine codings) (put old) = some (put (old ++ added)) := by
  induction added generalizing old with
  | nil =>
    rw [List.append_nil]
    rfl
  | cons p added ih =>
    have hName : ':' ∉ p.1.toList := (hClean.name p List.mem_cons_self).not_mem (by decide)
    have hValue := (hClean.value p List.mem_cons_self).solid
    have hNew : p.1 ∉ old.map (·.1) := by
      intro hMem
      rw [List.map_append, List.nodup_append] at hDistinct
      exact hDistinct.2.2 _ hMem _ List.mem_cons_self rfl
    have hLine : setLine codings (put old) (attributeLine p) = some (put (old ++ [p])) := by
      rw [attributeLine, (setLine_named (put old) hName).1, (endsSolid_iff _).mp hValue,
        hSet old p List.mem_cons_self, insert_of_not_mem p.2 hNew]
    have hRest : AttributesClean added :=
      ⟨(List.nodup_cons.mp hClean.distinct).2, fun q hMem => hClean.name q (List.mem_cons_of_mem p hMem),
        fun q hMem => hClean.value q (List.mem_cons_of_mem p hMem)⟩
    rw [List.map_cons, List.foldlM_cons, hLine]
    refine (ih (fun attributes q hMem => hSet attributes q (List.mem_cons_of_mem p hMem)) hRest ?_).trans ?_
    · simpa using hDistinct
    · rw [List.append_assoc, List.singleton_append]

/-! ### Media and sessions -/

/-- No attribute has a name that is read as something else when it is written with a value. -/
def SdpMediaInfo.Named (media : SdpMediaInfo) : Prop :=
  ∀ name ∈ media.attributes.map (·.1), name ≠ "rtpmap" ∧ name ≠ "fmtp"

/-- The parameters of the format, read for the codec that is written. -/
def SdpMediaInfo.fmtpAgain (codings : Codings) (media : SdpMediaInfo) : Option (Option Fmtp) :=
  match media.fmtp with
  | some fmtp => Fmtp.new codings media.rtpmap.encodingName (fmtp.text codings)
  | none => some none

/-- The medium that is read again. -/
def SdpMediaInfo.again (media : SdpMediaInfo) (fmtp : Option Fmtp) : SdpMediaInfo :=
  { media with
    protocol := media.protocolAgain
    rtpmap := { media.rtpmap with
      encodingParam := String.ofList (media.rtpmap.encodingParam.toList.rdropWhile isWhitespace) }
    fmtp }

theorem foldlM_media (hLawful : Lawful codings) (h : media.Clean) (hNamed : media.Named) (sdp : Sdp) :
    (media.lines codings).foldlM (setLine codings) sdp =
      (media.fmtpAgain codings).map fun fmtp =>
        { sdp with medias := sdp.medias ++ [media.again fmtp] } := by
  have hFirst : [line 'm' media.text].foldlM (setLine codings) sdp =
      some { sdp with medias := sdp.medias ++ [media.start] } := by
    rw [List.foldlM_cons, setLine_medium, SdpMediaInfo.unmarshal_text h]
    rfl
  have hBandwidth : (media.bandwidth.map fun bandwidth => line 'b' (bandwidth.bType.toList ++ ':' ::
      Nat.toDigits 10 bandwidth.bandwidth)).toList.foldlM (setLine codings)
        { sdp with medias := sdp.medias ++ [media.start] } =
      some { sdp with
        medias := sdp.medias ++ [{ media.start with bandwidth := media.bandwidth }] } := by
    cases hSome : media.bandwidth with
    | none => rfl
    | some bandwidth => exact Option.bind_eq_some_iff.mpr ⟨_, setLine_bandwidth (h.bandwidth _ hSome), rfl⟩
  have hMap : [line 'a' ("rtpmap:".toList ++ media.rtpmap.text media.rtpmap.param)].foldlM (setLine codings)
        { sdp with medias := sdp.medias ++ [{ media.start with bandwidth := media.bandwidth }] } =
      some { sdp with
        medias := sdp.medias ++ [{ media.again none with attributes := [] }] } :=
    Option.bind_eq_some_iff.mpr ⟨_, setLine_rtpmap h.rtpmap, rfl⟩
  have hFmtp : (media.fmtp.map fun fmtp => line 'a' ("fmtp:".toList ++ fmtp.text codings)).toList.foldlM
        (setLine codings)
        { sdp with medias := sdp.medias ++ [{ media.again none with attributes := [] }] } =
      (media.fmtpAgain codings).map fun fmtp =>
        { sdp with medias := sdp.medias ++ [{ media.again fmtp with attributes := [] }] } := by
    rw [SdpMediaInfo.fmtpAgain]
    cases hSome : media.fmtp with
    | none => rfl
    | some fmtp =>
      simp only [Option.map_some, Option.toList_some, List.foldlM_cons, List.foldlM_nil]
      rw [setLine_fmtp hLawful (h.fmtp _ hSome)]
      simp
      rfl
  have hAttributes (fmtp : Option Fmtp) : (media.attributes.map attributeLine).foldlM (setLine codings)
        { sdp with medias := sdp.medias ++ [{ media.again fmtp with attributes := [] }] } =
      some { sdp with medias := sdp.medias ++ [media.again fmtp] } := by
    have hRun := @foldlM_attributes codings
      (fun attributes => { sdp with medias := sdp.medias ++ [{ media.again fmtp with attributes }] })
      [] media.attributes
    refine hRun ?_ h.attributes h.attributes.distinct
    intro attributes p hMem
    have hName : ':' ∉ p.1.toList := (h.attributes.name p hMem).not_mem (by decide)
    obtain ⟨hMap, hFmtp⟩ := hNamed p.1 (List.mem_map_of_mem hMem)
    rw [setAttribute, splitn2_append hName]
    simp only [List.getLast?_concat]
    rw [if_neg fun hBoth => hMap (String.toList_inj.mp hBoth.1),
      if_neg fun hBoth => hFmtp (String.toList_inj.mp hBoth.1)]
    simp [setLastMedia]
  rw [SdpMediaInfo.lines, List.foldlM_append, List.foldlM_append, List.foldlM_append, List.foldlM_append,
    hFirst]
  simp only [Option.bind_eq_bind, Option.bind_some, hBandwidth, hMap, hFmtp]
  cases media.fmtpAgain codings with
  | none => rfl
  | some fmtp => exact hAttributes fmtp

theorem free_line {key : Char} (hKey : key ∉ ['\r', '\n']) {value : List Char}
    (h : Free ['\r', '\n'] value) : Free ['\r', '\n'] (line key value) :=
  (h.cons (by decide)).cons hKey

theorem free_digits (n : Nat) : Free ['\r', '\n'] (Nat.toDigits 10 n) := free_toDigits (by decide) n

theorem AttributesClean.free {attributes : IndexMap String} (h : AttributesClean attributes) :
    ∀ text ∈ attributes.map attributeLine, Free ['\r', '\n'] text := by
  rw [List.forall_mem_map]
  intro p hMem
  exact free_line (by decide) (((h.name p hMem).weaken (by decide)).append ((h.value p hMem).free.cons (by decide)))

theorem RtpMap.Clean.free {rtpmap : RtpMap} (h : rtpmap.Clean) :
    Free ['\r', '\n'] (rtpmap.text rtpmap.param) := by
  have hSecond : ∀ piece ∈ rtpmap.encodingName.toList :: Nat.toDigits 10 rtpmap.clockRate ::
      rtpmap.param.toList, Free ['\r', '\n'] piece := by
    rw [List.forall_mem_cons, List.forall_mem_cons, param]
    refine ⟨h.encodingName.weaken (by decide), free_digits _, ?_⟩
    split
    · exact List.forall_mem_nil _
    · rw [Option.toList_some, List.forall_mem_singleton]
      exact h.encodingParam.weaken (by decide)
  refine Free.intercalate (by decide) ?_
  rw [List.forall_mem_cons, List.forall_mem_singleton]
  exact ⟨free_digits _, Free.intercalate (by decide) hSecond⟩

theorem Fmtp.Clean.free (hLawful : Lawful codings) {fmtp : Fmtp} (h : fmtp.Clean) :
    Free ['\r', '\n'] (fmtp.text codings) := by
  refine (free_digits _).append (Free.cons (by decide) (Free.intercalate (by decide) ?_))
  exact fun parameter hMem => (h.parameters hLawful parameter hMem).weaken (by decide)

theorem SdpMediaInfo.Clean.free (hLawful : Lawful codings) (h : media.Clean) :
    ∀ text ∈ media.lines codings, Free ['\r', '\n'] text := by
  have hText : Free ['\r', '\n'] media.text := by
    have hFmts : Free ['\r', '\n'] ([' '].intercalate (media.fmts.map (Nat.toDigits 10))) := by
      refine Free.intercalate (by decide) ?_
      rw [List.forall_mem_map]
      exact fun fmt _ => free_digits fmt
    exact (h.mediaType.weaken (by decide)).append (((free_digits _).append
      (((h.protocol.weaken (by decide)).append (hFmts.cons (by decide))).cons (by decide))).cons (by decide))
  have hName (name : String) (hName : Free ['\r', '\n'] name.toList) {value : List Char}
      (hValue : Free ['\r', '\n'] value) : Free ['\r', '\n'] (line 'a' (name.toList ++ value)) :=
    free_line (by decide) (hName.append hValue)
  simp only [SdpMediaInfo.lines, List.forall_mem_append, List.forall_mem_singleton]
  refine ⟨⟨⟨⟨free_line (by decide) hText, ?_⟩, hName _ (by decide) h.rtpmap.free⟩, ?_⟩, h.attributes.free⟩
  · intro text hMem
    obtain ⟨bandwidth, hSome, rfl⟩ := Option.map_eq_some_iff.mp (Option.mem_toList.mp hMem)
    exact free_line (by decide) (((h.bandwidth _ hSome).bType.weaken (by decide)).append
      ((free_digits _).cons (by decide)))
  · intro text hMem
    obtain ⟨fmtp, hSome, rfl⟩ := Option.map_eq_some_iff.mp (Option.mem_toList.mp hMem)
    exact hName _ (by decide) ((h.fmtp _ hSome).free hLawful)

/-- What is written is in lines. -/
theorem free_writtenLines (hLawful : Lawful codings) {sdp : Sdp} (h : sdp.Clean) :
    ∀ text ∈ writtenLines codings sdp, Free ['\r', '\n'] text := by
  simp only [writtenLines, List.forall_mem_append, List.forall_mem_cons]
  refine ⟨⟨⟨free_line (by decide) (free_digits _), free_line (by decide) h.origin.free,
    free_line (by decide) h.session.free, free_line (by decide) h.connection.free,
    free_line (by decide) h.timing.free, List.forall_mem_nil _⟩, h.attributes.free⟩, ?_⟩
  intro text hMem
  obtain ⟨media, hMedia, hText⟩ := List.mem_flatMap.mp hMem
  exact (h.medias media hMedia).free hLawful text hText

def SdpMediaInfo.reread (codings : Codings) (media : SdpMediaInfo) : Option SdpMediaInfo :=
  (media.fmtpAgain codings).map media.again

theorem foldlM_medias (hLawful : Lawful codings) {medias : List SdpMediaInfo}
    (h : ∀ media ∈ medias, media.Clean ∧ media.Named) (sdp : Sdp) :
    (medias.flatMap (SdpMediaInfo.lines codings)).foldlM (setLine codings) sdp =
      (medias.mapM (SdpMediaInfo.reread codings)).map fun medias =>
        { sdp with medias := sdp.medias ++ medias } := by
  induction medias generalizing sdp with
  | nil =>
    rw [List.flatMap_nil, List.foldlM_nil, List.mapM_nil]
    simp
  | cons media medias ih =>
    rw [List.forall_mem_cons] at h
    rw [List.flatMap_cons, List.foldlM_append, foldlM_media hLawful h.1.1 h.1.2, List.mapM_cons,
      SdpMediaInfo.reread]
    cases media.fmtpAgain codings with
    | none => rfl
    | some fmtp =>
      simp only [Option.map_some, Option.bind_eq_bind, Option.bind_some, ih h.2]
      cases medias.mapM (SdpMediaInfo.reread codings) with
      | none => rfl
      | some medias => simp

/-- The lines of the session are read as they were written. -/
theorem foldlM_session {sdp : Sdp} (h : sdp.Clean) (rawString : String) :
    [line 'v' (Nat.toDigits 10 sdp.version), line 'o' sdp.origin.toList, line 's' sdp.session.toList,
        line 'c' sdp.connection.toList, line 't' sdp.timing.toList].foldlM (setLine codings)
          { default with rawString } =
      some { sdp with rawString, medias := [], attributes := [] } := by
  have hVersion : parseU16 (Nat.toDigits 10 sdp.version) = some sdp.version :=
    parseUnsigned_toDigits h.version
  have hDigits : Value ['\r', '\n'] (Nat.toDigits 10 sdp.version) := value_toDigits (by decide) _
  have hV (sdp' : Sdp) : sdp'.setLine codings (line 'v' (Nat.toDigits 10 sdp.version)) =
      some { sdp' with version := sdp.version } := by
    rw [setLine, hDigits.keyValue_line rfl (by decide)]
    simp [hVersion]
  have hO (sdp' : Sdp) : sdp'.setLine codings (line 'o' sdp.origin.toList) =
      some { sdp' with origin := sdp.origin } := by
    rw [setLine, h.origin.keyValue_line rfl (by decide)]
    simp
  have hS (sdp' : Sdp) : sdp'.setLine codings (line 's' sdp.session.toList) =
      some { sdp' with session := sdp.session } := by
    rw [setLine, h.session.keyValue_line rfl (by decide)]
    simp
  have hC (sdp' : Sdp) : sdp'.setLine codings (line 'c' sdp.connection.toList) =
      some { sdp' with connection := sdp.connection } := by
    rw [setLine, h.connection.keyValue_line rfl (by decide)]
    simp
  have hT (sdp' : Sdp) : sdp'.setLine codings (line 't' sdp.timing.toList) =
      some { sdp' with timing := sdp.timing } := by
    rw [setLine, h.timing.keyValue_line rfl (by decide)]
    simp
  rw [List.foldlM_cons, hV]
  simp only [Option.bind_eq_bind, Option.bind_some, List.foldlM_cons, List.foldlM_nil, hO, hS, hC, hT]
  rfl

/-- A description is read again medium by medium. -/
theorem unmarshal_marshal (hLawful : Lawful codings) {sdp : Sdp} (h : sdp.Clean)
    (hNamed : ∀ media ∈ sdp.medias, media.Named) :
    unmarshal codings (marshal codings sdp) =
      (sdp.medias.mapM (SdpMediaInfo.reread codings)).map fun medias =>
        { sdp with rawString := marshal codings sdp, medias } := by
  rw [unmarshal, toList_marshal, foldlM_lines (free_writtenLines hLawful h), writtenLines, List.foldlM_append,
    List.foldlM_append, foldlM_session h]
  have hAttributes : (sdp.attributes.map attributeLine).foldlM (setLine codings)
      { sdp with rawString := marshal codings sdp, medias := [], attributes := [] } =
        some { sdp with rawString := marshal codings sdp, medias := [] } := by
    have hRun := @foldlM_attributes codings
      (fun attributes => { sdp with rawString := marshal codings sdp, medias := [], attributes })
      [] sdp.attributes
    refine hRun ?_ h.attributes h.attributes.distinct
    intro attributes p hMem
    have hName : ':' ∉ p.1.toList := (h.attributes.name p hMem).not_mem (by decide)
    rw [setAttribute, splitn2_append hName]
    simp
  simp only [Option.bind_eq_bind, Option.bind_some, hAttributes]
  exact foldlM_medias hLawful (fun media hMem => ⟨h.medias media hMem, hNamed media hMem⟩) _

end Xiu.Rtsp.Sdp
