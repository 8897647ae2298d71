import Xiu.Mpegts.TsHeader

/-! The packets that the muxer writes for an access unit, as values: what the code makes of the bytes
of a header is the header of such a packet. -/

namespace Xiu.Mpegts

open Bytesio ProofKit TsMuxer

/-- The bytes of an adaptation field, its length in front. -/
def fieldBytes : Option (List UInt8) → List UInt8
  | none => []
  | some field => UInt8.ofNat field.length :: field

/-- The header of a packet: two bytes, the low byte of the pid, the control byte, and the adaptation
field. -/
def headerBytes (a b c d : UInt8) (field : Option (List UInt8)) : List UInt8 :=
  a :: b :: c :: (if field.isSome then d ||| 0x20 else d) :: fieldBytes field

/-- The time that the clock reference of an access unit is taken from. -/
def Pes.clock (stream : Pes) : Int64 := if PTS_NO_VALUE = stream.dts then stream.pts else stream.dts

/-- The clock reference fits `i64`. -/
def PcrFits (stream : Pes) : Prop :=
  -2 ^ 63 ≤ stream.clock.toInt * 300 ∧ stream.clock.toInt * 300 < 2 ^ 63

instance (stream : Pes) : Decidable (PcrFits stream) := inferInstanceAs (Decidable (_ ∧ _))

/-- The clock reference. -/
def Pes.pcr (stream : Pes) : List UInt8 := pcrWrite (Int64.ofInt (stream.clock.toInt * 300))

/-- The flags of an adaptation field. -/
def fieldFlags (stream : Pes) (pcrPid : UInt16) : UInt8 :=
  (if stream.pid = pcrPid then AF_FLAG_PCR else 0) |||
    (if RandomAccess stream then AF_FLAG_RANDOM_ACCESS_INDICATOR else 0)

/-- The adaptation field that starts an access unit. -/
def startField (stream : Pes) (pcrPid : UInt16) : Option (List UInt8) :=
  if stream.pid = pcrPid ∨ RandomAccess stream then
    some (fieldFlags stream pcrPid :: if stream.pid = pcrPid then stream.pcr else [])
  else none

@[simp] theorem length_pcr (stream : Pes) : stream.pcr.length = 6 := rfl

theorem length_startField (stream : Pes) (pcrPid : UInt16) :
    (fieldBytes (startField stream pcrPid)).length ≤ 8 := by
  unfold startField
  split
  · split
    · exact Nat.le_refl 8
    · show 2 ≤ 8
      omega
  · show 0 ≤ 8
    omega

theorem length_headerBytes (a b c d : UInt8) (field : Option (List UInt8)) :
    (headerBytes a b c d field).length = 4 + (fieldBytes field).length := by
  simp only [headerBytes, List.length_cons]
  omega

theorem checkedI64_ok {n : Int} (h : -2 ^ 63 ≤ n ∧ n < 2 ^ 63) :
    checkedI64 n = .ok (Int64.ofInt n) := if_pos h

theorem checkedI64_panic {n : Int} (h : ¬(-2 ^ 63 ≤ n ∧ n < 2 ^ 63)) :
    checkedI64 n = .error .panic := if_neg h

section

variable {stream : Pes} {pcrPid : UInt16} (a b c d : UInt8)

theorem writePcr_ok (h : PcrFits stream) :
    writePcr stream ⟨[a, b, c, d, 1, 0]⟩ = .ok ⟨[a, b, c, d, 7, AF_FLAG_PCR] ++ stream.pcr⟩ := by
  have hOr : (⟨[a, b, c, d, 1, 0]⟩ : BytesWriter).orU8At 5 AF_FLAG_PCR =
      .ok ⟨[a, b, c, d, 1, AF_FLAG_PCR]⟩ := BytesWriter.updateAt_ok rfl rfl
  have hAdd : (⟨[a, b, c, d, 1, AF_FLAG_PCR] ++ stream.pcr⟩ : BytesWriter).addU8At 4 6 =
      .ok ⟨[a, b, c, d, 7, AF_FLAG_PCR] ++ stream.pcr⟩ := BytesWriter.updateAt_ok rfl rfl
  unfold writePcr
  rw [hOr]
  show (checkedI64 (stream.clock.toInt * 300) >>= fun pcr => position
    ((BytesWriter.write ⟨[a, b, c, d, 1, AF_FLAG_PCR]⟩ (pcrWrite pcr)).addU8At 4 6)) = _
  rw [checkedI64_ok h]
  show position (BytesWriter.addU8At ⟨[a, b, c, d, 1, AF_FLAG_PCR] ++ stream.pcr⟩ 4 6) = _
  rw [hAdd]
  rfl

theorem writePcr_panic (h : ¬PcrFits stream) :
    writePcr stream ⟨[a, b, c, d, 1, 0]⟩ = .error .panic := by
  have hOr : (⟨[a, b, c, d, 1, 0]⟩ : BytesWriter).orU8At 5 AF_FLAG_PCR =
      .ok ⟨[a, b, c, d, 1, AF_FLAG_PCR]⟩ := BytesWriter.updateAt_ok rfl rfl
  unfold writePcr
  rw [hOr]
  show (checkedI64 (stream.clock.toInt * 300) >>= fun pcr => position
    ((BytesWriter.write ⟨[a, b, c, d, 1, AF_FLAG_PCR]⟩ (pcrWrite pcr)).addU8At 4 6)) = _
  rw [checkedI64_panic h]
  rfl

theorem writeField_ok (hField : stream.pid = pcrPid ∨ RandomAccess stream)
    (h : stream.pid = pcrPid → PcrFits stream) :
    writeField stream pcrPid ⟨[a, b, c, d]⟩ =
      .ok ⟨headerBytes a b c d (startField stream pcrPid)⟩ := by
  have hOr : (⟨[a, b, c, d]⟩ : BytesWriter).orU8At 3 0x20 = .ok ⟨[a, b, c, d ||| 0x20]⟩ :=
    BytesWriter.updateAt_ok rfl rfl
  have hFlag : ∀ (n : UInt8) (f : UInt8) (rest : List UInt8),
      (⟨[a, b, c, d ||| 0x20, n, f] ++ rest⟩ : BytesWriter).orU8At 5
        AF_FLAG_RANDOM_ACCESS_INDICATOR =
        .ok ⟨[a, b, c, d ||| 0x20, n, f ||| AF_FLAG_RANDOM_ACCESS_INDICATOR] ++ rest⟩ :=
    fun _ _ _ => BytesWriter.updateAt_ok rfl rfl
  unfold writeField startField headerBytes
  rw [if_pos hField, hOr]
  show (withPcr stream pcrPid ⟨[a, b, c, d ||| 0x20, 1, 0]⟩ >>= fun tsHeader =>
    if RandomAccess stream then position (tsHeader.orU8At 5 AF_FLAG_RANDOM_ACCESS_INDICATOR)
    else .ok tsHeader) = _
  unfold withPcr
  by_cases hPid : stream.pid = pcrPid
  · rw [if_pos hPid, writePcr_ok a b c _ (h hPid)]
    simp only [bind, Except.bind, fieldFlags, if_pos hPid]
    split
    · rw [hFlag]
      rfl
    · rfl
  · have hRandom : RandomAccess stream := hField.resolve_left hPid
    rw [if_neg hPid]
    simp only [bind, Except.bind, fieldFlags, if_neg hPid, if_pos hRandom]
    exact congrArg position (hFlag 1 0 [])

theorem writeStart_ok (h : stream.pid = pcrPid → PcrFits stream) :
    writeStart stream pcrPid ⟨[a, b, c, d]⟩ =
      .ok ⟨headerBytes a (b ||| TS_PAYLOAD_UNIT_START_INDICATOR) c d (startField stream pcrPid)⟩ := by
  have hOr : (⟨[a, b, c, d]⟩ : BytesWriter).orU8At 1 TS_PAYLOAD_UNIT_START_INDICATOR =
      .ok ⟨[a, b ||| TS_PAYLOAD_UNIT_START_INDICATOR, c, d]⟩ := BytesWriter.updateAt_ok rfl rfl
  unfold writeStart
  rw [hOr]
  simp only [bind, Except.bind, position]
  split
  · rename_i hField
    exact writeField_ok a _ c d hField h
  · rename_i hField
    unfold startField headerBytes
    rw [if_neg hField]
    rfl

theorem writeStart_panic (hPid : stream.pid = pcrPid) (h : ¬PcrFits stream) :
    writeStart stream pcrPid ⟨[a, b, c, d]⟩ = .error .panic := by
  have hOr : (⟨[a, b, c, d]⟩ : BytesWriter).orU8At 1 TS_PAYLOAD_UNIT_START_INDICATOR =
      .ok ⟨[a, b ||| TS_PAYLOAD_UNIT_START_INDICATOR, c, d]⟩ := BytesWriter.updateAt_ok rfl rfl
  have hOr' : (⟨[a, b ||| TS_PAYLOAD_UNIT_START_INDICATOR, c, d]⟩ : BytesWriter).orU8At 3 0x20 =
      .ok ⟨[a, b ||| TS_PAYLOAD_UNIT_START_INDICATOR, c, d ||| 0x20]⟩ :=
    BytesWriter.updateAt_ok rfl rfl
  unfold writeStart
  rw [hOr]
  simp only [bind, Except.bind, position, if_pos (Or.inl hPid : stream.pid = pcrPid ∨ _)]
  unfold writeField
  rw [hOr']
  show (withPcr stream pcrPid ⟨[a, b ||| TS_PAYLOAD_UNIT_START_INDICATOR, c, d ||| 0x20, 1, 0]⟩ >>=
    fun tsHeader =>
      if RandomAccess stream then position (tsHeader.orU8At 5 AF_FLAG_RANDOM_ACCESS_INDICATOR)
      else .ok tsHeader) = _
  unfold withPcr
  rw [if_pos hPid, writePcr_panic _ _ _ _ h]
  rfl

theorem len_writeStart {w : BytesWriter} (h : writeStart stream pcrPid ⟨[a, b, c, d]⟩ = .ok w) :
    w.len ≤ 12 := by
  by_cases hPcr : stream.pid = pcrPid → PcrFits stream
  · obtain rfl := Except.ok.inj ((writeStart_ok a b c d hPcr).symm.trans h)
    rw [BytesWriter.len, length_headerBytes]
    have := length_startField stream pcrPid
    omega
  · obtain ⟨hPid, hFits⟩ := Classical.not_imp.mp hPcr
    rw [writeStart_panic a b c d hPid hFits] at h
    cases h

end

/-! ### Stuffing -/

/-- An adaptation field with `n` bytes more of a packet filled up. -/
def stuffed (field : Option (List UInt8)) (n : Nat) : Option (List UInt8) :=
  if n = 0 then field
  else
    match field with
    | some field => some (field ++ List.replicate n 0xFF)
    | none => some (if n = 1 then [] else 0x00 :: List.replicate (n - 2) 0xFF)

theorem length_fieldBytes_stuffed (field : Option (List UInt8)) (n : Nat) :
    (fieldBytes (stuffed field n)).length = (fieldBytes field).length + n := by
  unfold stuffed
  split
  · omega
  · cases field with
    | some field => simp [fieldBytes]; omega
    | none =>
      simp only [fieldBytes]
      split
      · simp_all
      · simp; omega

theorem asU8_natCast (n : Nat) : asU8 n = UInt8.ofNat n := by
  unfold asU8
  rw [show ((n : Int) % 256).toNat = n % 256 by omega]
  exact UInt8.toNat_inj.mp (by simp [UInt8.toNat_ofNat'])

/-- Stuffing makes the adaptation field longer, or makes one. -/
theorem stuff_eq (a b c : UInt8) {d : UInt8} (hd : d &&& 0x20 = 0) {field : Option (List UInt8)}
    {n : Nat} (hn : 0 < n) (hRoom : (fieldBytes field).length + n ≤ 184) :
    stuff ⟨headerBytes a b c d field⟩ n = .ok ⟨headerBytes a b c d (stuffed field n)⟩ := by
  have hStuffed : n ≠ 0 := Nat.pos_iff_ne_zero.mp hn
  have hFlag : ∀ d : UInt8, (d ||| 0x20) &&& 0x20 > 0 := forall_byte (by decide +kernel)
  cases field with
  | some field =>
    simp only [fieldBytes, List.length_cons] at hRoom
    have hAdd : (⟨a :: b :: c :: (d ||| 0x20) :: UInt8.ofNat field.length :: field⟩ :
        BytesWriter).addU8At 4 (asU8 n) =
        .ok ⟨a :: b :: c :: (d ||| 0x20) :: UInt8.ofNat (field.length + n) :: field⟩ := by
      refine BytesWriter.updateAt_ok rfl ?_
      rw [asU8_natCast, if_pos, UInt8.ofNat_add]
      rw [UInt8.toNat_ofNat', UInt8.toNat_ofNat']
      omega
    simp only [stuff, headerBytes, Option.isSome_some, if_true, List.getElem?_cons_succ,
      List.getElem?_cons_zero, fieldBytes]
    rw [if_pos (hFlag d), hAdd]
    simp [bind, Except.bind, pure, Except.pure, position, fill, BytesWriter.write, stuffed, hStuffed]
  | none =>
    have hOr : (⟨[a, b, c, d]⟩ : BytesWriter).orU8At 3 0x20 = .ok ⟨[a, b, c, d ||| 0x20]⟩ :=
      BytesWriter.updateAt_ok rfl rfl
    have hNot : ¬d &&& 0x20 > 0 := by rw [hd]; decide
    have hSub : (n : Int) - 1 = ((n - 1 : Nat) : Int) := by omega
    simp only [stuff, headerBytes, Option.isSome_none, Bool.false_eq_true, if_false,
      List.getElem?_cons_succ, List.getElem?_cons_zero, fieldBytes]
    rw [if_neg hNot, hOr, hSub, asU8_natCast]
    simp only [bind, Except.bind, pure, Except.pure, position, stuffed, hStuffed, if_false,
      Option.isSome_some, if_true, BytesWriter.writeU8, List.cons_append, List.nil_append]
    by_cases hOne : n = 1
    · subst hOne
      rfl
    · have hMore : ((n - 1 : Nat) : Int) ≥ 1 := by omega
      have hLength : ((n - 1 : Nat) : Int) - 1 = ((n - 2 : Nat) : Int) := by omega
      have hCount : n - 2 + 1 = n - 1 := by omega
      simp only [if_pos hMore, if_neg hOne, hLength, fill, BytesWriter.write, Int.toNat_natCast,
        List.cons_append, List.nil_append, List.length_cons, List.length_replicate, hCount]

theorem asI32_eq {n : Nat} (h : n < 2 ^ 31) : asI32 n = n := by
  unfold asI32
  rw [Int.bmod_def]
  omega

/-- A packet is filled up, with payload or with stuffing. -/
theorem fillUp_eq (a b c : UInt8) {d : UInt8} (hd : d &&& 0x20 = 0) {field : Option (List UInt8)}
    {pesHeaderLength payloadDataLength : Nat}
    (hRoom : 4 + (fieldBytes field).length + pesHeaderLength ≤ TS_PACKET_SIZE)
    (hFits : 4 + (fieldBytes field).length + pesHeaderLength + payloadDataLength < 2 ^ 31) :
    let room := TS_PACKET_SIZE - 4 - (fieldBytes field).length - pesHeaderLength
    fillUp ⟨headerBytes a b c d field⟩ pesHeaderLength payloadDataLength =
      .ok (⟨headerBytes a b c d (stuffed field (room - payloadDataLength))⟩,
        min room payloadDataLength) := by
  have hLen : (⟨headerBytes a b c d field⟩ : BytesWriter).len = 4 + (fieldBytes field).length :=
    length_headerBytes ..
  have hSize : TS_PACKET_SIZE = 188 := rfl
  unfold fillUp
  simp only [hLen, asI32_eq hFits]
  refine (if_neg (by omega)).trans ?_
  by_cases hMore : 4 + (fieldBytes field).length + pesHeaderLength + payloadDataLength < 188
  · have hSub : (TS_PACKET_SIZE : Int) -
        ((4 + (fieldBytes field).length + pesHeaderLength + payloadDataLength : Nat) : Int) =
        ((TS_PACKET_SIZE - 4 - (fieldBytes field).length - pesHeaderLength - payloadDataLength :
          Nat) : Int) := by
      omega
    refine (if_pos (by omega)).trans ?_
    rw [hSub, stuff_eq a b c hd (by omega) (by omega)]
    simp only [bind, Except.bind, pure, Except.pure]
    rw [Nat.min_eq_right (by omega)]
  · refine (if_neg (by omega)).trans ((if_neg (by omega)).trans ?_)
    rw [Nat.min_eq_left (by omega), show TS_PACKET_SIZE - 4 - (fieldBytes field).length -
      pesHeaderLength - payloadDataLength = 0 by omega]
    simp only [stuffed, if_true]
    congr 2
    omega

/-- Part of the payload goes into every packet. -/
theorem fillUp_pos {w w' : BytesWriter} {pesHeaderLength payloadDataLength n : Nat}
    (hRoom : w.len + pesHeaderLength < TS_PACKET_SIZE) (hData : 0 < payloadDataLength)
    (h : fillUp w pesHeaderLength payloadDataLength = .ok (w', n)) : 0 < n := by
  unfold fillUp at h
  dsimp only at h
  split at h
  · cases h
  · split at h
    · cases hStuff : stuff w (TS_PACKET_SIZE -
          asI32 (w.len + pesHeaderLength + payloadDataLength)) with
      | error e =>
        rw [hStuff] at h
        cases h
      | ok w1 =>
        rw [hStuff] at h
        cases h
        exact hData
    · split at h
      · cases h
      · cases h
        omega

end Xiu.Mpegts
