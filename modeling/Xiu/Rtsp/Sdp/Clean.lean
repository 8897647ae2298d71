import Xiu.Common.Written
import Xiu.ProofKit.Folds
import Xiu.Rtsp.Sdp

/-! What holds of a description that has been read: its numbers are in range, and its texts are free of the
separators that they stood between and do not end with white space. -/

namespace Xiu.Rtsp.Sdp

open Common ProofKit

variable {codings : Codings}

/-- A text between separators that does not end with white space. -/
structure Value (seps text : List Char) : Prop where
  free : Free seps text
  solid : EndsSolid text

theorem value_nil (seps : List Char) : Value seps [] := ⟨free_nil seps, endsSolid_nil⟩

theorem Value.right {seps first second : List Char} (h : Value seps (first ++ second)) :
    Value seps second :=
  ⟨h.free.subset (List.subset_append_right first second), h.solid.right⟩

/-- The value of a key ends where the text ends. -/
theorem Value.of_keyValue {seps text key value : List Char} (h : keyValue text = some (key, value))
    (hFree : Free seps text) : Value seps value := by
  rw [keyValue] at h
  split at h
  · rename_i key' value' hSplit
    cases h
    obtain ⟨hText, -⟩ := splitn2_some hSplit
    have hTrimmed : Value seps (trim text) := ⟨hFree.subset (trim_subset text), endsSolid_trim text⟩
    rw [hText, List.append_cons] at hTrimmed
    exact hTrimmed.right
  · cases h

/-- A word between separators, or an empty one. -/
theorem free_word {seps text : List Char} (h : Free seps text) (sep : Char) (i : Nat) :
    Free (sep :: seps) (((text.splitOn sep)[i]?.map String.ofList).getD "").toList := by
  cases hWord : (text.splitOn sep)[i]? with
  | none => exact free_nil _
  | some word =>
    rw [Option.map_some, Option.getD_some, String.toList_ofList]
    exact h.piece (List.mem_of_getElem? hWord)

theorem getD_bind_lt {size : Nat} (hSize : 0 < size) (word : Option (List Char)) :
    (word.bind (parseUnsigned size)).getD 0 < size := by
  cases word with
  | none => exact hSize
  | some text => exact getD_parseUnsigned_lt hSize text

/-- A number that is kept unless another one is read. -/
theorem getD_parseUnsigned_keep {size n : Nat} (h : n < size) (text : List Char) :
    (parseUnsigned size text).getD n < size := by
  cases hParse : parseUnsigned size text with
  | none => exact h
  | some m => exact lt_of_parseUnsigned hParse

/-! ### Formats -/

structure RtpMap.Clean (rtpmap : RtpMap) : Prop where
  payloadType : rtpmap.payloadType < 2 ^ 16
  encodingName : Free ['/', ' ', '\r', '\n'] rtpmap.encodingName.toList
  clockRate : rtpmap.clockRate < 2 ^ 32
  encodingParam : Free ['/', ' ', '\r', '\n'] rtpmap.encodingParam.toList

theorem RtpMap.clean_unmarshal {rawData : List Char} (h : Free ['\r', '\n'] rawData) :
    (RtpMap.unmarshal rawData).Clean := by
  have hNumber := getD_bind_lt (Nat.two_pow_pos 16) (rawData.splitOn ' ')[0]?
  rw [unmarshal]
  split
  · exact ⟨hNumber, free_nil _, Nat.two_pow_pos 32, free_nil _⟩
  · rename_i part1 hPart
    have hFree := h.piece (List.mem_of_getElem? hPart)
    exact ⟨hNumber, free_word hFree '/' 0, getD_bind_lt (Nat.two_pow_pos 32) _, free_word hFree '/' 2⟩

structure Bandwidth.Clean (bandwidth : Bandwidth) : Prop where
  bType : Free [':', '\r', '\n'] bandwidth.bType.toList
  bandwidth : bandwidth.bandwidth < 2 ^ 16

theorem Bandwidth.clean_unmarshal {rawData : List Char} (h : Free ['\r', '\n'] rawData) :
    (Bandwidth.unmarshal rawData).Clean :=
  ⟨free_word h ':' 0, getD_bind_lt (Nat.two_pow_pos 16) _⟩

/-- The parameters of a format are values between semicolons. -/
def Fmtp.Clean : Fmtp → Prop
  | .h264 fmtp =>
    fmtp.payloadType < 2 ^ 16 ∧ fmtp.packetizationMode < 2 ^ 8 ∧
      Value [';', '\r', '\n'] fmtp.profileLevelId.toList
  | .h265 fmtp =>
    fmtp.payloadType < 2 ^ 16 ∧ Value [';', '\r', '\n'] fmtp.vps.toList ∧
      Value [';', '\r', '\n'] fmtp.sps.toList ∧ Value [';', '\r', '\n'] fmtp.pps.toList
  | .mpeg4 fmtp =>
    fmtp.payloadType < 2 ^ 16 ∧ Value [';', '\r', '\n'] fmtp.profileLevelId.toList ∧
      Value [';', '\r', '\n'] fmtp.mode.toList ∧ fmtp.sizeLength < 2 ^ 16 ∧
      fmtp.indexLength < 2 ^ 16 ∧ fmtp.indexDeltaLength < 2 ^ 16

theorem H264Fmtp.clean_setParameter {fmtp fmtp' : H264Fmtp} {parameter : List Char}
    (hFree : Free [';', '\r', '\n'] parameter) (h : Fmtp.Clean (.h264 fmtp))
    (hSet : fmtp.setParameter codings parameter = some fmtp') : Fmtp.Clean (.h264 fmtp') := by
  obtain ⟨hType, hMode, hProfile⟩ := h
  rw [setParameter] at hSet
  cases hKey : keyValue parameter with
  | none =>
    rw [hKey] at hSet
    cases hSet
    exact ⟨hType, hMode, hProfile⟩
  | some p =>
    obtain ⟨key, value⟩ := p
    have hValue := Value.of_keyValue hKey hFree
    simp only [hKey] at hSet
    split at hSet
    · cases hSet
      exact ⟨hType, getD_parseUnsigned_keep hMode value, hProfile⟩
    · split at hSet
      · obtain ⟨sets, -, rfl⟩ := Option.map_eq_some_iff.mp hSet
        exact ⟨hType, hMode, hProfile⟩
      · split at hSet
        · cases hSet
          refine ⟨hType, hMode, ?_⟩
          rwa [String.toList_ofList]
        · cases hSet
          exact ⟨hType, hMode, hProfile⟩

theorem H265Fmtp.clean_setParameter {fmtp fmtp' : H265Fmtp} {parameter : List Char}
    (hFree : Free [';', '\r', '\n'] parameter) (h : Fmtp.Clean (.h265 fmtp))
    (hSet : fmtp.setParameter parameter = some fmtp') : Fmtp.Clean (.h265 fmtp') := by
  obtain ⟨hType, hVps, hSps, hPps⟩ := h
  rw [setParameter] at hSet
  cases hKey : keyValue parameter with
  | none =>
    rw [hKey] at hSet
    cases hSet
    exact ⟨hType, hVps, hSps, hPps⟩
  | some p =>
    obtain ⟨key, value⟩ := p
    have hValue := Value.of_keyValue hKey hFree
    rw [← String.toList_ofList (l := value)] at hValue
    simp only [hKey] at hSet
    repeat' split at hSet
    all_goals cases hSet
    · exact ⟨hType, hValue, hSps, hPps⟩
    · exact ⟨hType, hVps, hValue, hPps⟩
    · exact ⟨hType, hVps, hSps, hValue⟩
    · exact ⟨hType, hVps, hSps, hPps⟩

theorem Mpeg4Fmtp.clean_setParameter {fmtp fmtp' : Mpeg4Fmtp} {parameter : List Char}
    (hFree : Free [';', '\r', '\n'] parameter) (h : Fmtp.Clean (.mpeg4 fmtp))
    (hSet : fmtp.setParameter codings parameter = some fmtp') : Fmtp.Clean (.mpeg4 fmtp') := by
  obtain ⟨hType, hProfile, hMode, hSize, hIndex, hDelta⟩ := h
  rw [setParameter] at hSet
  cases hKey : keyValue parameter with
  | none =>
    rw [hKey] at hSet
    cases hSet
    exact ⟨hType, hProfile, hMode, hSize, hIndex, hDelta⟩
  | some p =>
    obtain ⟨key, value⟩ := p
    have hValue := Value.of_keyValue hKey hFree
    rw [← String.toList_ofList (l := value)] at hValue
    simp only [hKey] at hSet
    split at hSet
    · cases hSet
      exact ⟨hType, hProfile, hValue, hSize, hIndex, hDelta⟩
    · split at hSet
      · obtain ⟨asc, -, rfl⟩ := Option.map_eq_some_iff.mp hSet
        exact ⟨hType, hProfile, hMode, hSize, hIndex, hDelta⟩
      · repeat' split at hSet
        all_goals cases hSet
        · exact ⟨hType, hValue, hMode, hSize, hIndex, hDelta⟩
        · exact ⟨hType, hProfile, hMode, getD_parseUnsigned_keep hSize _, hIndex, hDelta⟩
        · exact ⟨hType, hProfile, hMode, hSize, getD_parseUnsigned_keep hIndex _, hDelta⟩
        · exact ⟨hType, hProfile, hMode, hSize, hIndex, getD_parseUnsigned_keep hDelta _⟩
        · exact ⟨hType, hProfile, hMode, hSize, hIndex, hDelta⟩

/-- What holds at the start and is kept by each parameter holds of what is read. -/
theorem unmarshalFmtp_keeps {φ : Type} {start : Nat → φ} {setParameter : φ → List Char → Option φ}
    {Keeps : φ → Prop} (hStart : ∀ n, n < 2 ^ 16 → Keeps (start n))
    (hSet : ∀ {fmtp parameter fmtp'}, Free [';', '\r', '\n'] parameter → Keeps fmtp →
      setParameter fmtp parameter = some fmtp' → Keeps fmtp')
    {rawData : List Char} (hFree : Free ['\r', '\n'] rawData) {fmtp : φ}
    (h : unmarshalFmtp start setParameter rawData = some (some fmtp)) : Keeps fmtp := by
  rw [unmarshalFmtp] at h
  split at h
  · cases h
  · rename_i payloadType parameters hSplit
    obtain ⟨fmtp', hRun, hSame⟩ := Option.map_eq_some_iff.mp h
    cases hSame
    obtain ⟨hText, -⟩ := splitn2_some hSplit
    have hParameters : Free ['\r', '\n'] parameters := hFree.subset fun c hMem => by
      rw [hText]
      exact List.mem_append_right _ (List.mem_cons_of_mem _ hMem)
    have hPieces : ∀ parameter ∈ parameters.splitOn ';', Free [';', '\r', '\n'] parameter :=
      fun parameter hMem => hParameters.piece hMem
    exact foldlM_keeps (fun parameter hMem _ _ hKeeps => hSet (hPieces parameter hMem) hKeeps)
      (hStart _ (getD_parseUnsigned_lt (Nat.two_pow_pos 16) payloadType)) hRun

theorem Fmtp.clean_new {codec : String} {rawData : List Char} (hFree : Free ['\r', '\n'] rawData)
    {fmtp : Fmtp} (h : Fmtp.new codings codec rawData = some (some fmtp)) : fmtp.Clean := by
  have hNil := value_nil [';', '\r', '\n']
  simp only [new] at h
  split at h
  · obtain ⟨read, hRead, hSome⟩ := Option.map_eq_some_iff.mp h
    obtain ⟨fmtp, rfl, rfl⟩ := Option.map_eq_some_iff.mp hSome
    exact unmarshalFmtp_keeps (fun n hn => ⟨hn, Nat.two_pow_pos 8, hNil⟩)
      H264Fmtp.clean_setParameter hFree hRead
  · split at h
    · obtain ⟨read, hRead, hSome⟩ := Option.map_eq_some_iff.mp h
      obtain ⟨fmtp, rfl, rfl⟩ := Option.map_eq_some_iff.mp hSome
      exact unmarshalFmtp_keeps (fun n hn => ⟨hn, hNil, hNil, hNil⟩)
        H265Fmtp.clean_setParameter hFree hRead
    · split at h
      · obtain ⟨read, hRead, hSome⟩ := Option.map_eq_some_iff.mp h
        obtain ⟨fmtp, rfl, rfl⟩ := Option.map_eq_some_iff.mp hSome
        have hZero := Nat.two_pow_pos 16
        exact unmarshalFmtp_keeps (fun n hn => ⟨hn, hNil, hNil, hZero, hZero, hZero⟩)
          Mpeg4Fmtp.clean_setParameter hFree hRead
      · cases h

/-! ### Media and sessions -/

/-- The names of attributes are different, and each attribute is read as it is written. -/
structure AttributesClean (attributes : IndexMap String) : Prop where
  distinct : (attributes.map (·.1)).Nodup
  name : ∀ p ∈ attributes, Free [':', '\r', '\n'] p.1.toList
  value : ∀ p ∈ attributes, Value ['\r', '\n'] p.2.toList

theorem AttributesClean.nil : AttributesClean [] := ⟨List.nodup_nil, List.forall_mem_nil _, List.forall_mem_nil _⟩

theorem AttributesClean.same {attributes attributes' : IndexMap String} (h : AttributesClean attributes)
    (hSame : attributes.Perm attributes') : AttributesClean attributes' :=
  ⟨(hSame.map _).nodup_iff.mp h.distinct, fun p hMem => h.name p (hSame.mem_iff.mpr hMem),
    fun p hMem => h.value p (hSame.mem_iff.mpr hMem)⟩

theorem AttributesClean.insert {attributes : IndexMap String} (h : AttributesClean attributes)
    {name value : String} (hName : Free [':', '\r', '\n'] name.toList)
    (hValue : Value ['\r', '\n'] value.toList) :
    AttributesClean (IndexMap.insert attributes name value) := by
  refine AttributesClean.same ⟨?_, ?_, ?_⟩ (same_insert h.distinct name value)
  · rw [List.map_append, List.nodup_append]
    refine ⟨h.distinct.sublist (List.filter_sublist.map _), List.pairwise_singleton _ _, ?_⟩
    rintro other hOther _ (_ | ⟨_, ⟨⟩⟩) rfl
    obtain ⟨p, hMem, hSame⟩ := List.mem_map.mp hOther
    simpa [hSame] using (List.mem_filter.mp hMem).2
  · rw [List.forall_mem_append, List.forall_mem_singleton]
    exact ⟨fun p hMem => h.name p (List.mem_filter.mp hMem).1, hName⟩
  · rw [List.forall_mem_append, List.forall_mem_singleton]
    exact ⟨fun p hMem => h.value p (List.mem_filter.mp hMem).1, hValue⟩

structure SdpMediaInfo.Clean (media : SdpMediaInfo) : Prop where
  mediaType : Free [' ', '\r', '\n'] media.mediaType.toList
  port : media.port < 2 ^ 64
  protocol : Free [' ', '\r', '\n'] media.protocol.toList
  fmts : ∀ fmt ∈ media.fmts, fmt < 2 ^ 8
  bandwidth : ∀ bandwidth, media.bandwidth = some bandwidth → bandwidth.Clean
  rtpmap : media.rtpmap.Clean
  fmtp : ∀ fmtp, media.fmtp = some fmtp → fmtp.Clean
  attributes : AttributesClean media.attributes

theorem SdpMediaInfo.clean_unmarshal {rawData : List Char} (h : Free ['\r', '\n'] rawData) :
    (SdpMediaInfo.unmarshal rawData).Clean where
  mediaType := free_word h ' ' 0
  port := getD_bind_lt (Nat.two_pow_pos 64) _
  protocol := free_word h ' ' 2
  fmts := by
    intro fmt hMem
    obtain ⟨word, -, hWord⟩ := List.mem_filterMap.mp hMem
    exact lt_of_parseUnsigned hWord
  bandwidth := by
    intro bandwidth hSome
    cases hSome
  rtpmap := ⟨Nat.two_pow_pos 16, free_nil _, Nat.two_pow_pos 32, free_nil _⟩
  fmtp := by
    intro fmtp hSome
    cases hSome
  attributes := .nil

structure Clean (sdp : Sdp) : Prop where
  version : sdp.version < 2 ^ 16
  origin : Value ['\r', '\n'] sdp.origin.toList
  session : Value ['\r', '\n'] sdp.session.toList
  connection : Value ['\r', '\n'] sdp.connection.toList
  timing : Value ['\r', '\n'] sdp.timing.toList
  medias : ∀ media ∈ sdp.medias, media.Clean
  attributes : AttributesClean sdp.attributes

theorem Clean.setLastMedia {sdp : Sdp} (h : sdp.Clean) {media : SdpMediaInfo} (hMedia : media.Clean) :
    (sdp.setLastMedia media).Clean := by
  refine ⟨h.version, h.origin, h.session, h.connection, h.timing, ?_, h.attributes⟩
  intro other hMem
  rcases List.mem_append.mp hMem with hOld | hLast
  · exact h.medias other (List.dropLast_subset _ hOld)
  · rwa [List.mem_singleton.mp hLast]

theorem Clean.setAttribute {sdp sdp' : Sdp} (h : sdp.Clean) {value : List Char}
    (hValue : Value ['\r', '\n'] value) (hSet : sdp.setAttribute codings value = some sdp') :
    sdp'.Clean := by
  obtain ⟨name, attrValue, hSplit, hName, hAttr⟩ : ∃ name attrValue, splitn2 ':' value = (name, attrValue) ∧
      Free [':', '\r', '\n'] name ∧ Value ['\r', '\n'] (attrValue.getD []) := by
    rcases hSplit : splitn2 ':' value with ⟨name, _ | attrValue⟩
    · obtain ⟨rfl, hNot⟩ := splitn2_none hSplit
      exact ⟨_, _, rfl, hValue.free.with hNot, value_nil _⟩
    · obtain ⟨rfl, hNot⟩ := splitn2_some hSplit
      have hName := hValue.free.subset (List.subset_append_left name _)
      rw [List.append_cons] at hValue
      exact ⟨_, _, rfl, hName.with hNot, hValue.right⟩
  rw [Sdp.setAttribute] at hSet
  simp only [hSplit] at hSet
  rw [← String.toList_ofList (l := name)] at hName
  have hText : Value ['\r', '\n'] (String.ofList (attrValue.getD [])).toList := by rwa [String.toList_ofList]
  split at hSet
  · cases hSet
    exact ⟨h.version, h.origin, h.session, h.connection, h.timing, h.medias, h.attributes.insert hName hText⟩
  · rename_i media hLast
    have hMedia := h.medias media (List.mem_of_getLast? hLast)
    split at hSet
    · cases hSet
      exact h.setLastMedia { hMedia with rtpmap := RtpMap.clean_unmarshal hAttr.free }
    · split at hSet
      · obtain ⟨fmtp, hNew, rfl⟩ := Option.map_eq_some_iff.mp hSet
        refine h.setLastMedia { hMedia with fmtp := ?_ }
        rintro fmtp' rfl
        exact Fmtp.clean_new hAttr.free hNew
      · cases hSet
        exact h.setLastMedia { hMedia with attributes := hMedia.attributes.insert hName hText }

theorem Clean.setLine {sdp sdp' : Sdp} (h : sdp.Clean) {line : List Char} (hFree : Free ['\r', '\n'] line)
    (hSet : sdp.setLine codings line = some sdp') : sdp'.Clean := by
  rw [Sdp.setLine] at hSet
  cases hKey : keyValue line with
  | none =>
    rw [hKey] at hSet
    cases hSet
    exact h
  | some p =>
    obtain ⟨key, value⟩ := p
    have hValue := Value.of_keyValue hKey hFree
    have hText : Value ['\r', '\n'] (String.ofList value).toList := by rwa [String.toList_ofList]
    simp only [hKey] at hSet
    split at hSet
    · cases hSet
      exact { h with version := getD_parseUnsigned_keep h.version value }
    split at hSet
    · cases hSet
      exact { h with origin := hText }
    split at hSet
    · cases hSet
      exact { h with session := hText }
    split at hSet
    · cases hSet
      exact { h with connection := hText }
    split at hSet
    · cases hSet
      exact { h with timing := hText }
    split at hSet
    · cases hSet
      refine { h with medias := ?_ }
      rw [List.forall_mem_append, List.forall_mem_singleton]
      exact ⟨h.medias, SdpMediaInfo.clean_unmarshal hValue.free⟩
    split at hSet
    · split at hSet
      · cases hSet
        exact h
      · rename_i media hLast
        cases hSet
        have hMedia := h.medias media (List.mem_of_getLast? hLast)
        refine h.setLastMedia { hMedia with bandwidth := ?_ }
        rintro bandwidth ⟨⟩
        exact Bandwidth.clean_unmarshal hValue.free
    split at hSet
    · exact h.setAttribute hValue hSet
    · cases hSet
      exact h

theorem clean_default (rawString : String) : Clean { default with rawString } :=
  ⟨Nat.two_pow_pos 16, value_nil _, value_nil _, value_nil _, value_nil _, List.forall_mem_nil _, .nil⟩

/-- What has been read is clean. -/
theorem clean_unmarshal {text : String} {sdp : Sdp} (h : unmarshal codings text = some sdp) :
    sdp.Clean := by
  have hLines : ∀ line ∈ lines text.toList, Free ['\r', '\n'] line := by
    intro line hMem c hc hBreak
    have hNot := (of_mem_splitOnP hMem c hc).1
    simp only [Bool.or_eq_false_iff, beq_eq_false_iff_ne] at hNot
    simp [hNot.1, hNot.2] at hBreak
  exact foldlM_keeps (fun line hMem _ _ hClean => hClean.setLine (hLines line hMem)) (clean_default text) h

end Xiu.Rtsp.Sdp
