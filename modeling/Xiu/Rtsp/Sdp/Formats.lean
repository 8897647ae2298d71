import Xiu.Rtsp.Sdp.Clean

/-! How formats and their parameters are read as they have been written: the words and the parameters are
told apart by their separators, which they are free of, and white space at the end is lost. -/

namespace Xiu.Rtsp.Sdp

open Common ProofKit

variable {codings : Codings}

/-! ### Keys with values -/

/-- A key with a value is taken apart, and the value is trimmed at its end. -/
theorem keyValue_append {key : List Char} (hHead : key.head?.any isWhitespace = false) (hKey : '=' ∉ key)
    (value : List Char) :
    keyValue (key ++ '=' :: value) = some (key, value.rdropWhile isWhitespace) := by
  have hEnds : EndsSolid (key ++ ['=']) := (endsSolid_nil.cons rfl).append (List.cons_ne_nil _ _)
  have hTrim : trim (key ++ '=' :: value) = key ++ '=' :: value.rdropWhile isWhitespace := by
    have hAll := rdropWhile_append hEnds value
    rw [List.append_assoc, List.append_assoc] at hAll
    cases key with
    | nil => exact (trim_cons rfl value).trans hAll
    | cons c key => exact (trim_cons (by simpa using hHead) _).trans hAll
  rw [keyValue, hTrim, splitn2_append hKey]

/-- White space in front of a key is left out. -/
theorem keyValue_space {c : Char} (h : isWhitespace c = true) (text : List Char) :
    keyValue (c :: text) = keyValue text := by
  rw [keyValue, keyValue, trim, List.dropWhile_cons_of_pos h, ← trim]

theorem Value.keyValue_append {seps key value : List Char} (h : Value seps value)
    (hHead : key.head?.any isWhitespace = false) (hKey : '=' ∉ key) :
    keyValue (key ++ '=' :: value) = some (key, value) := by
  rw [Sdp.keyValue_append hHead hKey, (endsSolid_iff value).mp h.solid]

theorem value_toDigits {seps : List Char} (h : seps.all fun c => !c.isDigit) (n : Nat) :
    Value seps (Nat.toDigits 10 n) := ⟨free_toDigits h n, endsSolid_toDigits n⟩

/-! ### Formats -/

namespace RtpMap

/-- What is written of a format: its number, and between slashes its name, its rate and its parameter. -/
def text (rtpmap : RtpMap) (param : Option (List Char)) : List Char :=
  [' '].intercalate [Nat.toDigits 10 rtpmap.payloadType,
    ['/'].intercalate (rtpmap.encodingName.toList :: Nat.toDigits 10 rtpmap.clockRate :: param.toList)]

/-- The parameter that is written. -/
def param (rtpmap : RtpMap) : Option (List Char) :=
  if rtpmap.encodingParam = "" then none else some rtpmap.encodingParam.toList

theorem toList_marshal (rtpmap : RtpMap) :
    rtpmap.marshal.toList = rtpmap.text rtpmap.param ++ ['\r', '\n'] := by
  rw [marshal, text, param]
  by_cases hParam : rtpmap.encodingParam = "" <;> simp [hParam, List.intercalate]

theorem unmarshal_text {rtpmap : RtpMap} (h : rtpmap.Clean) {param : Option (List Char)}
    (hParam : ∀ text, param = some text → Free ['/', ' '] text) :
    unmarshal (rtpmap.text param) =
      { rtpmap with encodingParam := (param.map String.ofList).getD "" } := by
  have hName := h.encodingName
  have hWords : (rtpmap.text param).splitOn ' ' = [Nat.toDigits 10 rtpmap.payloadType,
      ['/'].intercalate (rtpmap.encodingName.toList :: Nat.toDigits 10 rtpmap.clockRate :: param.toList)] := by
    refine List.splitOn_intercalate _ ?_ (List.cons_ne_nil _ _)
    have hSecond : Free [' '] (['/'].intercalate (rtpmap.encodingName.toList ::
        Nat.toDigits 10 rtpmap.clockRate :: param.toList)) := by
      refine Free.intercalate (by decide) ?_
      rw [List.forall_mem_cons, List.forall_mem_cons]
      refine ⟨hName.weaken (by decide), free_toDigits (by decide) _, fun text hMem => ?_⟩
      exact (hParam text (Option.mem_toList.mp hMem)).weaken (by decide)
    rw [List.forall_mem_cons, List.forall_mem_singleton]
    exact ⟨not_mem_toDigits (by decide) _, hSecond.not_mem (by decide)⟩
  have hParts : (['/'].intercalate (rtpmap.encodingName.toList :: Nat.toDigits 10 rtpmap.clockRate ::
      param.toList)).splitOn '/' =
        rtpmap.encodingName.toList :: Nat.toDigits 10 rtpmap.clockRate :: param.toList := by
    refine List.splitOn_intercalate _ ?_ (List.cons_ne_nil _ _)
    rw [List.forall_mem_cons, List.forall_mem_cons]
    refine ⟨hName.not_mem (by decide), not_mem_toDigits (by decide) _, fun text hMem => ?_⟩
    exact (hParam text (Option.mem_toList.mp hMem)).not_mem (by decide)
  have hType : parseU16 (Nat.toDigits 10 rtpmap.payloadType) = some rtpmap.payloadType :=
    parseUnsigned_toDigits h.payloadType
  have hRate : parseU32 (Nat.toDigits 10 rtpmap.clockRate) = some rtpmap.clockRate :=
    parseUnsigned_toDigits h.clockRate
  rw [unmarshal]
  simp only [hWords, List.getElem?_cons_zero, List.getElem?_cons_succ, hParts, Option.bind_some, hType, hRate,
    Option.map_some, Option.getD_some, String.ofList_toList]
  cases param <;> rfl

theorem text_some (rtpmap : RtpMap) (param : List Char) :
    rtpmap.text (some param) = rtpmap.text none ++ '/' :: param := by
  simp [text, List.intercalate]

/-- A format is read as it was written, but for white space behind its parameter. -/
theorem unmarshal_trimmed {rtpmap : RtpMap} (h : rtpmap.Clean) :
    unmarshal ((rtpmap.text rtpmap.param).rdropWhile isWhitespace) =
      { rtpmap with
        encodingParam := String.ofList (rtpmap.encodingParam.toList.rdropWhile isWhitespace) } := by
  rw [param]
  split
  · rename_i hEmpty
    have hSolid : EndsSolid (rtpmap.text none) := by
      rw [text, List.intercalate_cons_cons]
      refine EndsSolid.append ?_ (by simp [List.intercalate])
      simp only [Option.toList_none, List.intercalate_cons_cons, List.intercalate_singleton]
      exact (endsSolid_toDigits _).append Nat.toDigits_ne_nil
    have hNone : ∀ text, (none : Option (List Char)) = some text → Free ['/', ' '] text := by
      intro text hSome
      cases hSome
    rw [(endsSolid_iff _).mp hSolid, unmarshal_text h hNone, hEmpty]
    rfl
  · have hSlash : EndsSolid (rtpmap.text none ++ ['/']) :=
      (endsSolid_nil.cons rfl).append (List.cons_ne_nil _ _)
    have hTrim := rdropWhile_append hSlash rtpmap.encodingParam.toList
    rw [List.append_assoc, List.append_assoc, List.singleton_append, List.singleton_append, ← text_some,
      ← text_some] at hTrim
    rw [hTrim, unmarshal_text h]
    · rfl
    · rintro text ⟨⟩
      have hSub : rtpmap.encodingParam.toList.rdropWhile isWhitespace ⊆ rtpmap.encodingParam.toList :=
        (List.rdropWhile_prefix _ _).subset
      exact (h.encodingParam.subset hSub).weaken (by decide)

end RtpMap

/-- What `base64` and `hex` promise: what is encoded is decoded, and it is written in their alphabets. -/
structure Lawful (codings : Codings) : Prop where
  base64 : ∀ bytes, codings.decodeBase64 (codings.encodeBase64 bytes) = some bytes
  hex : ∀ bytes, codings.decodeHex (codings.encodeHex bytes) = some bytes
  base64Alphabet : ∀ bytes, ∀ c ∈ codings.encodeBase64 bytes,
    c.isAlphanum = true ∨ c = '+' ∨ c = '/' ∨ c = '='
  hexAlphabet : ∀ bytes, ∀ c ∈ codings.encodeHex bytes, c.isAlphanum = true

theorem not_mem_of_isAlphanum {seps : List Char} (h : seps.all fun c => !c.isAlphanum) {c : Char}
    (hLetter : c.isAlphanum = true) : c ∉ seps := by
  intro hSep
  have hNot := List.all_eq_true.mp h c hSep
  rw [hLetter] at hNot
  cases hNot

theorem Lawful.value_base64 (h : Lawful codings) (bytes : List UInt8) :
    Value [',', ';', '\r', '\n'] (codings.encodeBase64 bytes) := by
  constructor
  · intro c hMem hSep
    rcases h.base64Alphabet bytes c hMem with hLetter | rfl | rfl | rfl
    · exact not_mem_of_isAlphanum (by decide) hLetter hSep
    all_goals exact absurd hSep (by decide)
  · intro c hLast
    rcases h.base64Alphabet bytes c (List.mem_of_getLast? hLast) with hLetter | rfl | rfl | rfl
    · exact isWhitespace_of_isAlphanum hLetter
    all_goals rfl

theorem Lawful.value_hex (h : Lawful codings) (bytes : List UInt8) :
    Value [';', '\r', '\n'] (codings.encodeHex bytes) := by
  constructor
  · intro c hMem hSep
    exact not_mem_of_isAlphanum (by decide) (h.hexAlphabet bytes c hMem) hSep
  · intro c hLast
    exact isWhitespace_of_isAlphanum (h.hexAlphabet bytes c (List.mem_of_getLast? hLast))

/-! ### Hexadecimal digits -/

def hexValue (c : Char) : Option Nat :=
  if c.isDigit then some (c.toNat - '0'.toNat)
  else if 'a' ≤ c ∧ c ≤ 'f' then some (c.toNat - 'a'.toNat + 10)
  else if 'A' ≤ c ∧ c ≤ 'F' then some (c.toNat - 'A'.toNat + 10)
  else none

def encodeHex (bytes : List UInt8) : List Char :=
  bytes.flatMap fun byte => [Nat.digitChar (byte.toNat / 16), Nat.digitChar (byte.toNat % 16)]

def decodeHex : List Char → Option (List UInt8)
  | [] => some []
  | [_] => none
  | high :: low :: rest => do
    let high ← hexValue high
    let low ← hexValue low
    let rest ← decodeHex rest
    return UInt8.ofNat (16 * high + low) :: rest

theorem hexValue_digitChar {n : Nat} (h : n < 16) :
    hexValue (Nat.digitChar n) = some n ∧ (Nat.digitChar n).isAlphanum = true := by
  have hAll : ∀ n < 16, hexValue (Nat.digitChar n) = some n ∧ (Nat.digitChar n).isAlphanum = true := by decide
  exact hAll n h

theorem decodeHex_encodeHex (bytes : List UInt8) : decodeHex (encodeHex bytes) = some bytes := by
  induction bytes with
  | nil => rfl
  | cons byte bytes ih =>
    have hHigh : byte.toNat / 16 < 16 := by
      have := byte.toNat_lt
      omega
    have hWhole : UInt8.ofNat (16 * (byte.toNat / 16) + byte.toNat % 16) = byte := by
      rw [Nat.div_add_mod, UInt8.ofNat_toNat]
    have hRead := ih
    rw [encodeHex] at hRead
    rw [encodeHex, List.flatMap_cons, List.cons_append, List.cons_append, List.nil_append, decodeHex,
      (hexValue_digitChar hHigh).1, (hexValue_digitChar (Nat.mod_lt _ (by decide))).1, hRead]
    simp only [Option.bind_eq_bind, Option.bind_some, hWhole]
    rfl

/-- The digits for both codings: `base64` is needed for a description only where it has parameter sets. -/
def hexCodings : Codings := ⟨decodeHex, encodeHex, decodeHex, encodeHex⟩

theorem lawful_hexCodings : Lawful hexCodings := by
  have hAlphabet (bytes : List UInt8) : ∀ c ∈ encodeHex bytes, c.isAlphanum = true := by
    intro c hMem
    obtain ⟨byte, -, hDigit⟩ := List.mem_flatMap.mp hMem
    have hHigh : byte.toNat / 16 < 16 := by
      have := byte.toNat_lt
      omega
    rcases List.mem_pair.mp hDigit with rfl | rfl
    · exact (hexValue_digitChar hHigh).2
    · exact (hexValue_digitChar (Nat.mod_lt _ (by decide))).2
  exact ⟨decodeHex_encodeHex, decodeHex_encodeHex, fun bytes c hMem => .inl (hAlphabet bytes c hMem), hAlphabet⟩

namespace Fmtp

def payloadType : Fmtp → Nat
  | .h264 fmtp => fmtp.payloadType
  | .h265 fmtp => fmtp.payloadType
  | .mpeg4 fmtp => fmtp.payloadType

/-- The codec that parameters are read for. -/
def codec : Fmtp → List Char
  | .h264 _ => "h264".toList
  | .h265 _ => "h265".toList
  | .mpeg4 _ => "mpeg4-generic".toList

def parameter (key : String) (value : List Char) : List Char := key.toList ++ '=' :: value

/-- The parameters as they are written, some of them behind a blank. -/
def parameters (codings : Codings) : Fmtp → List (List Char)
  | .h264 fmtp =>
    [parameter "packetization-mode" (Nat.toDigits 10 fmtp.packetizationMode),
      ' ' :: parameter "sprop-parameter-sets"
        (codings.encodeBase64 fmtp.sps ++ ',' :: codings.encodeBase64 fmtp.pps),
      ' ' :: parameter "profile-level-id" fmtp.profileLevelId.toList]
  | .h265 fmtp =>
    [parameter "sprop-vps" fmtp.vps.toList, ' ' :: parameter "sprop-sps" fmtp.sps.toList,
      ' ' :: parameter "sprop-pps" fmtp.pps.toList]
  | .mpeg4 fmtp =>
    [parameter "profile-level-id" fmtp.profileLevelId.toList, parameter "mode" fmtp.mode.toList,
      parameter "sizelength" (Nat.toDigits 10 fmtp.sizeLength),
      parameter "indexlength" (Nat.toDigits 10 fmtp.indexLength),
      parameter "indexdeltalength" (Nat.toDigits 10 fmtp.indexDeltaLength),
      ' ' :: parameter "config" (codings.encodeHex fmtp.asc)]

def text (codings : Codings) (fmtp : Fmtp) : List Char :=
  Nat.toDigits 10 fmtp.payloadType ++ ' ' :: [';'].intercalate (fmtp.parameters codings)

theorem toList_marshal (fmtp : Fmtp) :
    (fmtp.marshal codings).toList = fmtp.text codings ++ ['\r', '\n'] := by
  cases fmtp <;> simp [marshal, text, payloadType, parameters, parameter, List.intercalate]

/-- A parameter is taken apart, behind a blank or not. -/
theorem keyValue_parameter {key : String} (hHead : key.toList.head?.any isWhitespace = false)
    (hKey : '=' ∉ key.toList) {value : List Char} (h : EndsSolid value) :
    keyValue (parameter key value) = some (key.toList, value) ∧
      keyValue (' ' :: parameter key value) = some (key.toList, value) := by
  have hValue : keyValue (parameter key value) = some (key.toList, value) :=
    Value.keyValue_append ⟨fun c _ => List.not_mem_nil, h⟩ hHead hKey
  exact ⟨hValue, (keyValue_space rfl _).trans hValue⟩

end Fmtp

/-- Parameters between semicolons are read one by one. -/
theorem unmarshalFmtp_text {φ : Type} {start : Nat → φ} {setParameter : φ → List Char → Option φ}
    {payloadType : Nat} (hType : payloadType < 2 ^ 16) {parameters : List (List Char)}
    (hSome : parameters ≠ []) (h : ∀ parameter ∈ parameters, ';' ∉ parameter) :
    unmarshalFmtp start setParameter
        (Nat.toDigits 10 payloadType ++ ' ' :: [';'].intercalate parameters) =
      (parameters.foldlM setParameter (start payloadType)).map some := by
  have hNumber : parseU16 (Nat.toDigits 10 payloadType) = some payloadType := parseUnsigned_toDigits hType
  rw [unmarshalFmtp, splitn2_append (not_mem_toDigits (by decide) _)]
  simp only [hNumber, List.splitOn_intercalate _ h hSome, Option.getD_some]

namespace Fmtp

theorem free_parameter {key : String} {value : List Char} (hKey : Free [';', '\r', '\n'] key.toList)
    (h : Free [';', '\r', '\n'] value) :
    Free [';', '\r', '\n'] (parameter key value) ∧ Free [';', '\r', '\n'] (' ' :: parameter key value) := by
  have hFree : Free [';', '\r', '\n'] (parameter key value) := hKey.append (h.cons (by decide))
  exact ⟨hFree, hFree.cons (by decide)⟩

/-- The parameter sets are written with a comma between them. -/
theorem Lawful.value_sets (h : Lawful codings) (sps pps : List UInt8) :
    Value [';', '\r', '\n'] (codings.encodeBase64 sps ++ ',' :: codings.encodeBase64 pps) := by
  have hSps := h.value_base64 sps
  have hPps := h.value_base64 pps
  refine ⟨(hSps.free.weaken (by decide)).append ((hPps.free.weaken (by decide)).cons (by decide)), ?_⟩
  exact (hPps.solid.cons rfl).append (List.cons_ne_nil _ _)

/-- No parameter has a semicolon or a line break. -/
theorem Clean.parameters (hLawful : Lawful codings) {fmtp : Fmtp} (h : fmtp.Clean) :
    ∀ parameter ∈ fmtp.parameters codings, Free [';', '\r', '\n'] parameter := by
  have hDigits (n : Nat) : Free [';', '\r', '\n'] (Nat.toDigits 10 n) := free_toDigits (by decide) n
  cases fmtp with
  | h264 fmtp =>
    obtain ⟨-, -, hProfile⟩ := h
    have hSets := (Lawful.value_sets hLawful fmtp.sps fmtp.pps).free
    simp only [Fmtp.parameters, List.forall_mem_cons]
    exact ⟨(free_parameter (by decide) (hDigits _)).1, (free_parameter (by decide) hSets).2,
      (free_parameter (by decide) hProfile.free).2, List.forall_mem_nil _⟩
  | h265 fmtp =>
    obtain ⟨-, hVps, hSps, hPps⟩ := h
    simp only [Fmtp.parameters, List.forall_mem_cons]
    exact ⟨(free_parameter (by decide) hVps.free).1, (free_parameter (by decide) hSps.free).2,
      (free_parameter (by decide) hPps.free).2, List.forall_mem_nil _⟩
  | mpeg4 fmtp =>
    obtain ⟨-, hProfile, hMode, -, -, -⟩ := h
    simp only [Fmtp.parameters, List.forall_mem_cons]
    exact ⟨(free_parameter (by decide) hProfile.free).1, (free_parameter (by decide) hMode.free).1,
      (free_parameter (by decide) (hDigits _)).1, (free_parameter (by decide) (hDigits _)).1,
      (free_parameter (by decide) (hDigits _)).1,
      (free_parameter (by decide) (hLawful.value_hex fmtp.asc).free).2, List.forall_mem_nil _⟩

theorem unmarshalFmtp_clean {φ : Type} {start : Nat → φ} {setParameter : φ → List Char → Option φ}
    (hLawful : Lawful codings) {fmtp : Fmtp} (h : fmtp.Clean) :
    unmarshalFmtp start setParameter (fmtp.text codings) =
      ((fmtp.parameters codings).foldlM setParameter (start fmtp.payloadType)).map some := by
  have hType : fmtp.payloadType < 2 ^ 16 := by
    cases fmtp <;> exact h.1
  have hSome : fmtp.parameters codings ≠ [] := by
    cases fmtp <;> exact List.cons_ne_nil _ _
  exact unmarshalFmtp_text hType hSome fun parameter hMem =>
    (h.parameters hLawful parameter hMem).not_mem (by decide)

/-- The parameters end with a value. -/
theorem Clean.endsSolid (hLawful : Lawful codings) {fmtp : Fmtp} (h : fmtp.Clean) :
    EndsSolid (fmtp.text codings) := by
  have hParameter {key : String} {value : List Char} (hValue : EndsSolid value) :
      EndsSolid (parameter key value) ∧ parameter key value ≠ [] :=
    ⟨(hValue.cons rfl).append (List.cons_ne_nil _ _), List.append_ne_nil_of_right_ne_nil _ (List.cons_ne_nil _ _)⟩
  have hLast : ∃ pieces last, fmtp.parameters codings = pieces ++ [last] ∧ EndsSolid last ∧ last ≠ [] := by
    cases fmtp with
    | h264 fmtp =>
      obtain ⟨-, -, hProfile⟩ := h
      obtain ⟨hSolid, hSome⟩ := @hParameter "profile-level-id" _ hProfile.solid
      exact ⟨[_, _], _, rfl, hSolid.cons_of_ne_nil hSome, List.cons_ne_nil _ _⟩
    | h265 fmtp =>
      obtain ⟨-, -, -, hPps⟩ := h
      obtain ⟨hSolid, hSome⟩ := @hParameter "sprop-pps" _ hPps.solid
      exact ⟨[_, _], _, rfl, hSolid.cons_of_ne_nil hSome, List.cons_ne_nil _ _⟩
    | mpeg4 fmtp =>
      obtain ⟨hSolid, hSome⟩ := @hParameter "config" _ (hLawful.value_hex fmtp.asc).solid
      exact ⟨[_, _, _, _, _], _, rfl, hSolid.cons_of_ne_nil hSome, List.cons_ne_nil _ _⟩
  obtain ⟨pieces, last, hPieces, hSolid, hSome⟩ := hLast
  obtain ⟨first, hFirst⟩ := intercalate_concat ';' pieces last
  rw [text, hPieces, hFirst, ← List.cons_append, ← List.append_assoc]
  exact hSolid.append hSome

theorem h264_text (hLawful : Lawful codings) {fmtp : H264Fmtp} (h : Clean (.h264 fmtp)) :
    H264Fmtp.unmarshal codings (text codings (.h264 fmtp)) = some (some fmtp) := by
  rw [H264Fmtp.unmarshal, unmarshalFmtp_clean hLawful h]
  obtain ⟨-, hMode, hProfile⟩ := h
  have hSets := Lawful.value_sets hLawful fmtp.sps fmtp.pps
  have hModeRead : parseU8 (Nat.toDigits 10 fmtp.packetizationMode) = some fmtp.packetizationMode :=
    parseUnsigned_toDigits hMode
  have hSetsRead : parameterSets codings
      (codings.encodeBase64 fmtp.sps ++ ',' :: codings.encodeBase64 fmtp.pps) = some (fmtp.sps, fmtp.pps) := by
    have hSps : ',' ∉ codings.encodeBase64 fmtp.sps := (hLawful.value_base64 _).free.not_mem (by decide)
    have hPps : ',' ∉ codings.encodeBase64 fmtp.pps := (hLawful.value_base64 _).free.not_mem (by decide)
    rw [parameterSets, List.splitOn_append_cons_self_of_not_mem hSps, List.splitOn_eq_singleton hPps]
    simp [hLawful.base64]
  have hFirst := (@keyValue_parameter "packetization-mode" (by decide) (by decide) _
    (endsSolid_toDigits fmtp.packetizationMode)).1
  have hSecond := (@keyValue_parameter "sprop-parameter-sets" (by decide) (by decide) _ hSets.solid).2
  have hThird := (@keyValue_parameter "profile-level-id" (by decide) (by decide) _ hProfile.solid).2
  have hSpropKey : ¬"sprop-parameter-sets".toList = "packetization-mode".toList := by decide
  have hProfileKey : ¬"profile-level-id".toList = "packetization-mode".toList ∧
    ¬"profile-level-id".toList = "sprop-parameter-sets".toList := by decide
  simp only [parameters, List.foldlM_cons, List.foldlM_nil, H264Fmtp.setParameter, hFirst, hSecond, hThird,
    if_true, if_neg hSpropKey, if_neg hProfileKey.1, if_neg hProfileKey.2, hModeRead, hSetsRead]
  simp
  rfl

theorem h265_text (hLawful : Lawful codings) {fmtp : H265Fmtp} (h : Clean (.h265 fmtp)) :
    H265Fmtp.unmarshal (text codings (.h265 fmtp)) = some (some fmtp) := by
  rw [H265Fmtp.unmarshal, unmarshalFmtp_clean hLawful h]
  obtain ⟨-, hVps, hSps, hPps⟩ := h
  have hFirst := (@keyValue_parameter "sprop-vps" (by decide) (by decide) _ hVps.solid).1
  have hSecond := (@keyValue_parameter "sprop-sps" (by decide) (by decide) _ hSps.solid).2
  have hThird := (@keyValue_parameter "sprop-pps" (by decide) (by decide) _ hPps.solid).2
  have hSpsKey : ¬"sprop-sps".toList = "sprop-vps".toList := by decide
  have hPpsKey : ¬"sprop-pps".toList = "sprop-vps".toList ∧ ¬"sprop-pps".toList = "sprop-sps".toList := by
    decide
  simp only [parameters, List.foldlM_cons, List.foldlM_nil, H265Fmtp.setParameter, hFirst, hSecond, hThird,
    if_true, if_neg hSpsKey, if_neg hPpsKey.1, if_neg hPpsKey.2, String.ofList_toList]
  rfl

theorem mpeg4_text (hLawful : Lawful codings) {fmtp : Mpeg4Fmtp} (h : Clean (.mpeg4 fmtp)) :
    Mpeg4Fmtp.unmarshal codings (text codings (.mpeg4 fmtp)) = some (some fmtp) := by
  rw [Mpeg4Fmtp.unmarshal, unmarshalFmtp_clean hLawful h]
  obtain ⟨-, hProfile, hMode, hSize, hIndex, hDelta⟩ := h
  have hNumber {n : Nat} (hLess : n < 2 ^ 16) : parseU16 (Nat.toDigits 10 n) = some n :=
    parseUnsigned_toDigits hLess
  have hConfig := (hLawful.value_hex fmtp.asc).solid
  have hFirst := (@keyValue_parameter "profile-level-id" (by decide) (by decide) _ hProfile.solid).1
  have hSecond := (@keyValue_parameter "mode" (by decide) (by decide) _ hMode.solid).1
  have hThird := (@keyValue_parameter "sizelength" (by decide) (by decide) _
    (endsSolid_toDigits fmtp.sizeLength)).1
  have hFourth := (@keyValue_parameter "indexlength" (by decide) (by decide) _
    (endsSolid_toDigits fmtp.indexLength)).1
  have hFifth := (@keyValue_parameter "indexdeltalength" (by decide) (by decide) _
    (endsSolid_toDigits fmtp.indexDeltaLength)).1
  have hSixth := (@keyValue_parameter "config" (by decide) (by decide) _ hConfig).2
  simp only [parameters, List.foldlM_cons, List.foldlM_nil, Mpeg4Fmtp.setParameter, hFirst, hSecond, hThird,
    hFourth, hFifth, hSixth, hNumber hSize, hNumber hIndex, hNumber hDelta, hLawful.hex, String.ofList_toList]
  rfl

/-- Parameters are read as they were written for the codec that they were read for. -/
theorem new_text (hLawful : Lawful codings) {fmtp : Fmtp} (h : fmtp.Clean) {codec : String}
    (hCodec : toLowercase codec.toList = fmtp.codec) :
    Fmtp.new codings codec (fmtp.text codings) = some (some fmtp) := by
  rw [new]
  simp only [hCodec]
  cases fmtp with
  | h264 fmtp =>
    rw [if_pos (by rfl), h264_text hLawful h]
    rfl
  | h265 fmtp =>
    have hNot : ¬Fmtp.codec (.h265 fmtp) = "h264".toList := (by decide : ¬"h265".toList = "h264".toList)
    rw [if_neg hNot, if_pos (by rfl), h265_text hLawful h]
    rfl
  | mpeg4 fmtp =>
    have hNot : ¬Fmtp.codec (.mpeg4 fmtp) = "h264".toList := (by decide : ¬"mpeg4-generic".toList = "h264".toList)
    have hNot' : ¬Fmtp.codec (.mpeg4 fmtp) = "h265".toList := (by decide : ¬"mpeg4-generic".toList = "h265".toList)
    rw [if_neg hNot, if_neg hNot', if_pos (by rfl), mpeg4_text hLawful h]
    rfl

/-- What is read is of the codec that it is read for. -/
theorem codec_new {codec : String} {rawData : List Char} {fmtp : Fmtp}
    (h : Fmtp.new codings codec rawData = some (some fmtp)) : fmtp.codec = toLowercase codec.toList := by
  simp only [new] at h
  split at h
  · rename_i hCodec
    obtain ⟨read, -, hSome⟩ := Option.map_eq_some_iff.mp h
    obtain ⟨fmtp, -, rfl⟩ := Option.map_eq_some_iff.mp hSome
    exact hCodec.symm
  split at h
  · rename_i hCodec
    obtain ⟨read, -, hSome⟩ := Option.map_eq_some_iff.mp h
    obtain ⟨fmtp, -, rfl⟩ := Option.map_eq_some_iff.mp hSome
    exact hCodec.symm
  split at h
  · rename_i hCodec
    obtain ⟨read, -, hSome⟩ := Option.map_eq_some_iff.mp h
    obtain ⟨fmtp, -, rfl⟩ := Option.map_eq_some_iff.mp hSome
    exact hCodec.symm
  · cases h

end Fmtp

end Xiu.Rtsp.Sdp
