import Mathlib.Tactic.Common

/-! Texts and their bytes: decoding undoes encoding, also in front of further bytes, and a beginning
of an encoded text that can be decoded is the encoding of a beginning of the text. -/

namespace Xiu.ProofKit

def encodeUtf8 (text : List Char) : List UInt8 := (String.ofList text).toByteArray.data.toList

/-- The text that bytes encode, if they encode one. -/
def decodeUtf8 (bytes : List UInt8) : Option (List Char) :=
  (String.fromUTF8? ⟨bytes.toArray⟩).map String.toList

theorem toArray_encodeUtf8 (text : List Char) :
    (⟨(encodeUtf8 text).toArray⟩ : ByteArray) = text.utf8Encode := String.toByteArray_ofList

theorem encodeUtf8_append (text text' : List Char) :
    encodeUtf8 (text ++ text') = encodeUtf8 text ++ encodeUtf8 text' := by
  simp only [encodeUtf8, String.toByteArray_ofList, List.utf8Encode_append, ByteArray.data_append,
    Array.toList_append]

@[simp] theorem encodeUtf8_nil : encodeUtf8 [] = [] := rfl

theorem length_encodeUtf8 (text : List Char) :
    (encodeUtf8 text).length = (String.ofList text).utf8ByteSize := rfl

theorem encodeUtf8_cons_ne_nil (c : Char) (text : List Char) : encodeUtf8 (c :: text) ≠ [] := by
  intro h
  have hLength := congrArg List.length h
  rw [← List.singleton_append, encodeUtf8_append, List.length_append, length_encodeUtf8] at hLength
  have hPos := c.utf8Size_pos
  simp at hLength
  omega

/-- A character takes a byte at least. -/
theorem length_le_length_encodeUtf8 (text : List Char) : text.length ≤ (encodeUtf8 text).length := by
  induction text with
  | nil => exact Nat.le_refl _
  | cons c text ih =>
    have hPos : 0 < (encodeUtf8 [c]).length := List.length_pos_iff.mpr (encodeUtf8_cons_ne_nil c [])
    rw [← List.singleton_append, encodeUtf8_append, List.length_append, List.length_append,
      List.length_singleton]
    omega

theorem decodeUtf8_eq_some {bytes : List UInt8} {text : List Char} :
    decodeUtf8 bytes = some text ↔ bytes = encodeUtf8 text := by
  constructor
  · intro h
    obtain ⟨s, hs, rfl⟩ := Option.map_eq_some_iff.mp h
    by_cases hValid : (ByteArray.mk bytes.toArray).IsValidUTF8
    · obtain rfl := Option.some.inj ((dif_pos hValid).symm.trans hs)
      simp only [encodeUtf8, String.ofList_toList]
      rfl
    · exact nomatch (dif_neg hValid).symm.trans hs
  · rintro rfl
    have hValid : (ByteArray.mk (encodeUtf8 text).toArray).IsValidUTF8 := by
      rw [toArray_encodeUtf8]
      exact ByteArray.isValidUTF8_utf8Encode
    have hSome : String.fromUTF8? ⟨(encodeUtf8 text).toArray⟩ =
        some (String.fromUTF8 ⟨(encodeUtf8 text).toArray⟩ hValid) := dif_pos hValid
    have hText : String.fromUTF8 ⟨(encodeUtf8 text).toArray⟩ hValid = String.ofList text := by
      apply String.toByteArray_inj.mp
      rw [String.toByteArray_ofList]
      rfl
    rw [decodeUtf8, hSome, hText, Option.map_some, String.toList_ofList]

@[simp] theorem decodeUtf8_encodeUtf8 (text : List Char) :
    decodeUtf8 (encodeUtf8 text) = some text :=
  decodeUtf8_eq_some.mpr rfl

theorem isValidUTF8_append_iff (text : List Char) (bytes : ByteArray) :
    (text.utf8Encode ++ bytes).IsValidUTF8 ↔ bytes.IsValidUTF8 := by
  induction text with
  | nil => simp
  | cons c text ih =>
    rw [List.utf8Encode_cons, ByteArray.append_assoc,
      ByteArray.isValidUTF8_utf8Encode_singleton_append_iff, ih]

theorem decodeUtf8_isSome {bytes : List UInt8} :
    (decodeUtf8 bytes).isSome ↔ (ByteArray.mk bytes.toArray).IsValidUTF8 := by
  by_cases hValid : (ByteArray.mk bytes.toArray).IsValidUTF8
  · have hSome : String.fromUTF8? ⟨bytes.toArray⟩ = some _ := dif_pos hValid
    simp [decodeUtf8, hSome, hValid]
  · have hNone : String.fromUTF8? ⟨bytes.toArray⟩ = none := dif_neg hValid
    simp [decodeUtf8, hNone, hValid]

/-- What follows an encoded text is decoded on its own. -/
theorem decodeUtf8_append (text : List Char) (bytes : List UInt8) :
    decodeUtf8 (encodeUtf8 text ++ bytes) = (decodeUtf8 bytes).map (text ++ ·) := by
  cases hRest : decodeUtf8 bytes with
  | some rest =>
    rw [decodeUtf8_eq_some.mp hRest, ← encodeUtf8_append, decodeUtf8_encodeUtf8]
    rfl
  | none =>
    cases hAll : decodeUtf8 (encodeUtf8 text ++ bytes) with
    | none => rfl
    | some all =>
      have hValid : (text.utf8Encode ++ ⟨bytes.toArray⟩).IsValidUTF8 := by
        have h := decodeUtf8_isSome.mp (Option.isSome_of_eq_some hAll)
        have hBytes : text.utf8Encode ++ ⟨bytes.toArray⟩ =
            ByteArray.mk (encodeUtf8 text ++ bytes).toArray := by
          apply ByteArray.ext
          apply Array.toList_inj.mp
          simp [encodeUtf8]
        rw [hBytes]
        exact h
      have hSome := decodeUtf8_isSome.mpr ((isValidUTF8_append_iff text _).mp hValid)
      rw [hRest] at hSome
      cases hSome

/-- The text of a beginning is a beginning of the text. -/
theorem isPrefix_of_decodeUtf8 {bytes more : List UInt8} {text all : List Char}
    (h : decodeUtf8 bytes = some text) (hAll : bytes ++ more = encodeUtf8 all) : text <+: all := by
  rw [decodeUtf8_eq_some.mp h] at hAll
  apply List.isPrefix_of_utf8Encode_append_eq_utf8Encode ⟨more.toArray⟩
  apply ByteArray.ext
  apply Array.toList_inj.mp
  rw [ByteArray.data_append, Array.toList_append]
  simpa [encodeUtf8] using hAll

end Xiu.ProofKit
