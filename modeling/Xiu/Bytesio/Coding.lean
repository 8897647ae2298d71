import Xiu.Bytesio.Reading

/-! Readers that are the two-sided inverse of a writer: what is written is read back, with nothing of
what follows, and what is read is what the writer makes of the result. -/

namespace Xiu.Bytesio

open ProofKit Read

variable {τ α β : Type}

/-- The reader `x` reads the values of `valid`, each from its bytes, when what follows is of `rest`. -/
structure Codes (rest : List UInt8 → Prop) (x : Read τ α) (encode : α → List UInt8)
    (valid : α → Prop) : Prop where
  decodes : ∀ a, valid a → ∀ it tail, rest tail →
    x ⟨it, ⟨encode a ++ tail⟩⟩ = .ok a ⟨it, ⟨tail⟩⟩
  encodes : ∀ s a s', x s = .ok a s' → valid a ∧ rest s'.reader.buffer ∧ s'.owner = s.owner ∧
    s.reader.buffer = encode a ++ s'.reader.buffer

/-- Whatever follows. -/
def Anything (_ : List UInt8) : Prop := True

variable {rest : List UInt8 → Prop} {x : Read τ α} {encode encode' : α → List UInt8}
  {valid valid' : α → Prop}

theorem Codes.of_valid (h : Codes rest x encode valid) (hValid : ∀ a, valid' a ↔ valid a) :
    Codes rest x encode valid' where
  decodes a ha := h.decodes a ((hValid a).mp ha)
  encodes s a s' hRead := by
    obtain ⟨hA, hBuffer⟩ := h.encodes s a s' hRead
    exact ⟨(hValid a).mpr hA, hBuffer⟩

theorem Codes.of_encode (h : Codes rest x encode valid)
    (hEncode : ∀ a, valid a → encode' a = encode a) : Codes rest x encode' valid where
  decodes a ha := by
    rw [hEncode a ha]
    exact h.decodes a ha
  encodes s a s' hRead := by
    obtain ⟨hA, hBuffer⟩ := h.encodes s a s' hRead
    rw [hEncode a hA]
    exact ⟨hA, hBuffer⟩

/-- A part of the result is read first, and then the rest of a result that has this part. -/
theorem Codes.bind {f : α → Read τ β} (part : β → α) {encodeRest : β → List UInt8}
    {whole : β → Prop} (hFirst : Codes Anything x encode valid) (hPart : ∀ b, whole b → valid (part b))
    (hRest : ∀ a, valid a → Codes rest (f a) encodeRest fun b => whole b ∧ part b = a) :
    Codes rest (x >>= f) (fun b => encode (part b) ++ encodeRest b) whole where
  decodes b hb it tail hTail := by
    have hValid := hPart b hb
    have hRead := hFirst.decodes (part b) hValid it (encodeRest b ++ tail) trivial
    rw [List.append_assoc, bind_of_ok hRead]
    exact (hRest (part b) hValid).decodes b ⟨hb, rfl⟩ it tail hTail
  encodes s b s' hRead := by
    obtain ⟨a, s1, hA, hB⟩ := bind_eq_ok hRead
    obtain ⟨hValid, -, hOwner, hBuffer⟩ := hFirst.encodes s a s1 hA
    obtain ⟨⟨hWhole, rfl⟩, hTail, hOwner', hBuffer'⟩ := (hRest a hValid).encodes s1 b s' hB
    exact ⟨hWhole, hTail, hOwner'.trans hOwner, by rw [hBuffer, hBuffer', List.append_assoc]⟩

theorem codes_pure (a : α) : Codes Anything (pure a : Read τ α) (fun _ => []) (· = a) where
  decodes a' ha it tail _ := by
    rw [ha]
    rfl
  encodes s a' s' hRead := by
    cases hRead
    exact ⟨rfl, trivial, rfl, rfl⟩

theorem codes_readBytes (n : Nat) :
    Codes Anything (readBytes n : Read τ (List UInt8)) id (·.length = n) where
  decodes bytes hLength it tail _ := readBytes_append hLength
  encodes s bytes s' hRead := by
    obtain ⟨it, ⟨buffer⟩⟩ := s
    by_cases hLength : n ≤ buffer.length
    · obtain ⟨rfl, rfl⟩ := EStateM.Result.ok.inj ((readBytes_ok hLength).symm.trans hRead)
      exact ⟨List.length_take_of_le hLength, trivial, rfl, (List.take_append_drop n buffer).symm⟩
    · cases (readBytes_short (Nat.not_le.mp hLength)).symm.trans hRead

/-- A number of `n` bytes, whose reader and writer are inverse to each other. -/
theorem codes_cursor {n : Nat} {decode : List UInt8 → α} (hLength : ∀ a, (encode a).length = n)
    (hDecode : ∀ a, decode (encode a) = a)
    (hEncode : ∀ bytes : List UInt8, bytes.length = n → encode (decode bytes) = bytes) :
    Codes Anything (read (·.readBytesCursor n decode) : Read τ α) encode fun _ => True where
  decodes a _ it tail _ := by
    rw [read_cursor_ok (by rw [List.length_append, hLength]; omega), List.take_left' (hLength a),
      List.drop_left' (hLength a), hDecode]
  encodes s a s' hRead := by
    obtain ⟨it, ⟨buffer⟩⟩ := s
    by_cases hBuffer : n ≤ buffer.length
    · obtain ⟨rfl, rfl⟩ := EStateM.Result.ok.inj ((read_cursor_ok hBuffer).symm.trans hRead)
      refine ⟨trivial, trivial, rfl, ?_⟩
      rw [hEncode _ (List.length_take_of_le hBuffer)]
      exact (List.take_append_drop n buffer).symm
    · cases (read_cursor_short (Nat.not_le.mp hBuffer)).symm.trans hRead

theorem codes_readU8 : Codes Anything (readU8 : Read τ UInt8) (fun b => [b]) fun _ => True := by
  apply codes_cursor
  · exact fun _ => rfl
  · exact fun _ => rfl
  · intro bytes hLength
    obtain ⟨b, rfl⟩ := List.length_eq_one_iff.mp hLength
    rfl

theorem codes_readU16 : Codes Anything (readU16 .bigEndian : Read τ UInt16)
    (fun n => toBE 2 n.toNat) fun _ => True := by
  apply codes_cursor
  · exact fun n => length_toBE 2 n.toNat
  · exact fun n => BytesReader.decodeU16_encode .bigEndian n
  · intro bytes hLength
    have hLess : ofBE bytes < 2 ^ 16 := by
      have hLess := ofBE_lt bytes
      rwa [hLength] at hLess
    rw [BytesReader.decodeU16, ByteOrder.decode, UInt16.toNat_ofNat', Nat.mod_eq_of_lt hLess,
      ← hLength, toBE_ofBE]

/-- A number that fits in three bytes. -/
theorem codes_readU24 : Codes Anything (readU24 .bigEndian : Read τ UInt32)
    (fun n => toBE 3 n.toNat) fun n => n.toNat < 2 ^ 24 where
  decodes n hFits it tail _ := by
    have hDecode : BytesReader.decodeU32 .bigEndian (toBE 3 n.toNat) = n :=
      BytesReader.decodeU32_encode3 .bigEndian hFits
    rw [readU24_ok (by simp), List.take_left' (length_toBE 3 n.toNat),
      List.drop_left' (length_toBE 3 n.toNat), hDecode]
  encodes s n s' hRead := by
    obtain ⟨it, ⟨buffer⟩⟩ := s
    by_cases hBuffer : 3 ≤ buffer.length
    · obtain ⟨rfl, rfl⟩ := EStateM.Result.ok.inj ((readU24_ok hBuffer).symm.trans hRead)
      have hLength : (buffer.take 3).length = 3 := List.length_take_of_le hBuffer
      have hLess := ofBE_lt (buffer.take 3)
      rw [hLength] at hLess
      have hValue : (BytesReader.decodeU32 .bigEndian (buffer.take 3)).toNat =
          ofBE (buffer.take 3) := by
        rw [BytesReader.decodeU32, ByteOrder.decode, UInt32.toNat_ofNat']
        omega
      refine ⟨?_, trivial, rfl, ?_⟩
      · rw [hValue]
        exact hLess
      · have hBytes := toBE_ofBE (buffer.take 3)
        rw [hLength] at hBytes
        rw [hValue, hBytes]
        exact (List.take_append_drop 3 buffer).symm
    · cases (readU24_short (Nat.not_le.mp hBuffer)).symm.trans hRead

theorem codes_readU32 : Codes Anything (readU32 .bigEndian : Read τ UInt32)
    (fun n => toBE 4 n.toNat) fun _ => True := by
  apply codes_cursor
  · exact fun n => length_toBE 4 n.toNat
  · exact fun n => BytesReader.decodeU32_encode4 .bigEndian n
  · intro bytes hLength
    have hLess : ofBE bytes < 2 ^ 32 := by
      have hLess := ofBE_lt bytes
      rwa [hLength] at hLess
    rw [BytesReader.decodeU32, ByteOrder.decode, UInt32.toNat_ofNat', Nat.mod_eq_of_lt hLess,
      ← hLength, toBE_ofBE]

end Xiu.Bytesio
