import Xiu.Bytesio.BitsReader
import Xiu.ProofKit.Action
import Xiu.ProofKit.BitSyntax

/-! The Exp-Golomb codes of `library/codec/h264/src/utils.rs`, and how code that reads bits and codes
follows a syntax table. -/

namespace Xiu.H264

open Bytesio ProofKit

/-- Why parsing stops: an error of the bit reader, or a panic. -/
inductive H264Fault where
  | bitError (value : BitErrorValue)
  | panic
  deriving DecidableEq

abbrev Parse := EStateM H264Fault BitsReader

variable {α β : Type}

def reading (f : BitsReader → Except BitErrorValue (α × BitsReader)) : Parse α := fun s =>
  match f s with
  | .ok (a, s) => .ok a s
  | .error value => .error (.bitError value) s

def readByte : Parse UInt8 := reading (·.readByte)

def readBit : Parse UInt8 := reading (·.readBit)

def readNBits (n : Nat) : Parse UInt64 := reading (·.readNBits n)

/-- The loop of `read_uev`, which reads a bit in each turn: it ends within the bits that are left. -/
def countZeros : Nat → Nat → Parse Nat
  | 0, _ => throw (.bitError (.bytesReadError .notEnoughBytes))
  | left + 1, leadingZerosBits => do
    if (← readBit) ≠ 0 then return leadingZerosBits
    else countZeros left (leadingZerosBits + 1)

/-- A shift by 64 or more panics, before the bits behind the one are read. -/
def readUev : Parse UInt32 := do
  let leadingZerosBits ← countZeros (← get).len 0
  if leadingZerosBits ≥ 64 then throw .panic
  else
    let rest ← readNBits leadingZerosBits
    return ((1 <<< UInt64.ofNat leadingZerosBits) - 1 + rest).toUInt32

def readSev : Parse Int32 := do
  let codeNum ← readUev
  let negative : Int := if codeNum % 2 = 0 then -1 else 1
  return Int32.ofInt ((codeNum.toNat + 1) / 2 * negative)

/-- What is read when a condition holds, and a default otherwise. -/
def readWhen {M : Type → Type} [Monad M] (c : Prop) [Decidable c] (x : M α) (otherwise : α) : M α :=
  if c then x else pure otherwise

/-! ### What a code reads -/

variable {s : BitsReader} {rest suffix : List Bool} {zeros : Nat}

theorem readBit_cons {b : Bool} (h : s.bits = b :: rest) :
    ∃ s', s'.bits = rest ∧ readBit s = .ok (if b then 1 else 0) s' := by
  obtain ⟨s', hBits, hRead⟩ := BitsReader.readBit_cons h
  exact ⟨s', hBits, by rw [readBit, reading, hRead]⟩

theorem readBit_nil (h : s.bits = []) : ∃ e, readBit s = .error (.bitError e) s :=
  ⟨_, by rw [readBit, reading, BitsReader.readBit_nil h]⟩

theorem countZeros_ok {left count : Nat} (h : s.bits = List.replicate zeros false ++ true :: rest)
    (hLeft : zeros < left) :
    ∃ s', s'.bits = rest ∧ countZeros left count s = .ok (count + zeros) s' := by
  induction zeros generalizing s left count with
  | zero =>
    obtain ⟨s', hBits, hRead⟩ := readBit_cons h
    obtain ⟨left, rfl⟩ := Nat.exists_eq_succ_of_ne_zero (Nat.ne_of_gt hLeft)
    refine ⟨s', hBits, ?_⟩
    rw [countZeros, bind_of_ok hRead]
    rfl
  | succ zeros ih =>
    obtain ⟨s', hBits, hRead⟩ := readBit_cons h
    obtain ⟨left, rfl⟩ := Nat.exists_eq_succ_of_ne_zero (Nat.ne_zero_of_lt hLeft)
    obtain ⟨s2, hBits2, hRest⟩ := @ih s' left (count + 1) hBits (Nat.lt_of_succ_lt_succ hLeft)
    refine ⟨s2, hBits2, ?_⟩
    rw [countZeros, bind_of_ok hRead]
    exact hRest.trans (by rw [Nat.add_assoc, Nat.add_comm 1])

theorem countZeros_error {n count : Nat} (h : s.bits = List.replicate n false) (left : Nat) :
    ∃ e s', countZeros left count s = .error (.bitError e) s' := by
  induction left generalizing s n count with
  | zero => exact ⟨_, _, rfl⟩
  | succ left ih =>
    cases n with
    | zero =>
      obtain ⟨e, hRead⟩ := readBit_nil h
      exact ⟨e, s, by rw [countZeros, bind_of_error hRead]⟩
    | succ n =>
      obtain ⟨s', hBits, hRead⟩ := readBit_cons h
      rw [countZeros, bind_of_ok hRead]
      exact ih hBits

/-- The loop finds the one behind the zeros. -/
theorem countZeros_len (h : s.bits = List.replicate zeros false ++ true :: rest) :
    ∃ s', s'.bits = rest ∧ countZeros s.len 0 s = .ok zeros s' := by
  have hLeft : zeros < s.len := by
    rw [← s.length_bits, h, List.length_append, List.length_replicate, List.length_cons]
    omega
  obtain ⟨s', hBits, hRun⟩ := @countZeros_ok s rest zeros s.len 0 h hLeft
  rw [Nat.zero_add] at hRun
  exact ⟨s', hBits, hRun⟩

/-- The number of a code with fewer than 64 zeros, in 64 bits. -/
theorem codeNum_toUInt64 (h : suffix.length < 64) :
    (1 <<< UInt64.ofNat suffix.length) - 1 + UInt64.ofNat (appendBits 0 suffix) =
      UInt64.ofNat (codeNum suffix) := by
  have hPos : 0 < 2 ^ suffix.length := Nat.two_pow_pos _
  have hShift : (1 <<< UInt64.ofNat suffix.length : UInt64) = UInt64.ofNat (2 ^ suffix.length) := by
    rw [← UInt64.toNat_inj, UInt64.toNat_shiftLeft, UInt64.toNat_ofNat_of_lt' (Nat.lt_trans h (by decide)),
      Nat.mod_eq_of_lt h, UInt64.toNat_one, Nat.shiftLeft_eq, Nat.one_mul, UInt64.toNat_ofNat']
  rw [hShift, appendBits, Nat.zero_mul, Nat.zero_add, codeNum, UInt64.ofNat_add,
    UInt64.ofNat_sub hPos]
  rfl

theorem readUev_code (h : s.bits = codeword suffix ++ rest) (hSuffix : suffix.length < 64) :
    ∃ s', s'.bits = rest ∧ readUev s = .ok (UInt32.ofNat (codeNum suffix)) s' := by
  rw [codeword, List.append_assoc, List.cons_append] at h
  obtain ⟨s1, hBits1, hZeros⟩ := countZeros_len h
  have hRoom : appendBits (0 : UInt64).toNat suffix < 2 ^ 64 := by
    have hLt := ofBits_lt suffix
    have hPow : 2 ^ suffix.length ≤ 2 ^ 64 := Nat.pow_le_pow_right Nat.two_pos (Nat.le_of_lt hSuffix)
    rw [UInt64.toNat_zero, appendBits, Nat.zero_mul, Nat.zero_add]
    exact Nat.lt_of_lt_of_le hLt hPow
  obtain ⟨s2, hBits2, hRest⟩ := BitsReader.readNBitsFrom_append hBits1 hRoom
  refine ⟨s2, hBits2, ?_⟩
  have hRead : readNBits suffix.length s1 = .ok (UInt64.ofNat (appendBits 0 suffix)) s2 := by
    rw [readNBits, reading, BitsReader.readNBits, hRest]
    rfl
  rw [readUev, bind_get, bind_of_ok hZeros, if_neg (Nat.not_le.mpr hSuffix), bind_of_ok hRead,
    codeNum_toUInt64 hSuffix, UInt64.toUInt32_ofNat']
  rfl

/-- Too many zeros panic at the one that ends them. -/
theorem readUev_overlong (h : s.bits = List.replicate zeros false ++ true :: rest) (hZeros : 64 ≤ zeros) :
    ∃ s', readUev s = .error .panic s' := by
  obtain ⟨s1, -, hCount⟩ := countZeros_len h
  exact ⟨s1, by rw [readUev, bind_get, bind_of_ok hCount, if_pos hZeros]; rfl⟩

theorem readUev_cases (s : BitsReader) :
    (∃ suffix rest, suffix.length < 64 ∧ s.bits = codeword suffix ++ rest) ∨
      (∃ zeros rest, 64 ≤ zeros ∧ s.bits = List.replicate zeros false ++ true :: rest) ∨
        ∃ e s', readUev s = .error (.bitError e) s' := by
  rcases zeros_cases s.bits with ⟨n, hBits⟩ | ⟨zeros, rest, hBits⟩
  · obtain ⟨e, s', hCount⟩ := @countZeros_error s n 0 hBits s.len
    exact .inr (.inr ⟨e, s', by rw [readUev, bind_get, bind_of_error hCount]⟩)
  · by_cases hZeros : 64 ≤ zeros
    · exact .inr (.inl ⟨zeros, rest, hZeros, hBits⟩)
    · by_cases hRest : rest.length < zeros
      · obtain ⟨s1, hBits1, hCount⟩ := countZeros_len hBits
        rw [← hBits1] at hRest
        obtain ⟨e, hError⟩ := BitsReader.readNBitsFrom_short hRest 0
        have hRead : readNBits zeros s1 = .error (.bitError e) s1 := by
          rw [readNBits, reading, BitsReader.readNBits, hError]
        refine .inr (.inr ⟨e, s1, ?_⟩)
        rw [readUev, bind_get, bind_of_ok hCount, if_neg hZeros, bind_of_error hRead]
      · have hTake : (rest.take zeros).length = zeros := by
          rw [List.length_take, Nat.min_eq_left (Nat.not_lt.mp hRest)]
        refine .inl ⟨rest.take zeros, rest.drop zeros, ?_, ?_⟩
        · rw [hTake]
          exact Nat.not_le.mp hZeros
        · rw [codeword, hTake, List.append_assoc, List.cons_append, List.take_append_drop, hBits]

theorem signed_eq (n : UInt32) :
    Int32.ofInt ((n.toNat + 1) / 2 * if n % 2 = 0 then -1 else 1) = Int32.ofInt (signed n.toNat) := by
  have hEven : n % 2 = 0 ↔ n.toNat % 2 = 0 := by
    rw [← UInt32.toNat_inj, UInt32.toNat_mod]
    rfl
  rw [signed]
  by_cases h : n.toNat % 2 = 0
  · rw [if_pos (hEven.mpr h), if_pos h, Int.mul_neg_one]
    rfl
  · rw [if_neg (mt hEven.mp h), if_neg h, Int.mul_one]
    rfl

/-- A code is read exactly, wherever the reader stands and whatever follows. -/
theorem golomb_read_exactly (s : BitsReader) (rest : List Bool) :
    (∀ n < 2 ^ 32, s.bits = golomb n ++ rest →
      ∃ s', readUev s = .ok (UInt32.ofNat n) s' ∧ s'.bits = rest ∧
        s.len = s'.len + (2 * Nat.log 2 (n + 1) + 1)) ∧
    ∀ k : Int, |k| < 2 ^ 31 → s.bits = golomb (unsigned k) ++ rest →
      ∃ r s', readSev s = .ok r s' ∧ r.toInt = k ∧ s'.bits = rest := by
  have hRead (n : Nat) (hn : n < 2 ^ 32) (hBits : s.bits = golomb n ++ rest) :
      ∃ s', s'.bits = rest ∧ readUev s = .ok (UInt32.ofNat n) s' := by
    have hRun := readUev_code hBits (length_suffixOf_lt (by omega))
    rwa [codeNum_suffixOf] at hRun
  constructor
  · intro n hn hBits
    obtain ⟨s', hRest, hRun⟩ := hRead n hn hBits
    refine ⟨s', hRun, hRest, ?_⟩
    rw [← s.length_bits, ← s'.length_bits, hBits, hRest, List.length_append, golomb, codeword,
      List.length_append, List.length_replicate, List.length_cons, suffixOf, length_toBits,
      Nat.log2_eq_log_two]
    omega
  · intro k hk hBits
    obtain ⟨hLow, hHigh⟩ := abs_lt.mp hk
    have hSmall : unsigned k < 2 ^ 32 := by
      rw [unsigned]
      split <;> omega
    obtain ⟨s', hRest, hRun⟩ := hRead _ hSmall hBits
    have hValue : (UInt32.ofNat (unsigned k)).toNat = unsigned k := UInt32.toNat_ofNat_of_lt' hSmall
    refine ⟨Int32.ofInt k, s', ?_, Int32.toInt_ofInt_of_le (by omega) (by omega), hRest⟩
    rw [readSev, bind_of_ok hRun, signed_eq, hValue, signed_unsigned]
    rfl

/-- The reader stands behind the fifth bit of a byte. -/
theorem four_read_exactly :
    (∃ s', readUev ⟨⟨[0x40]⟩, 0x01, 3, by decide⟩ = .ok 4 s' ∧ s'.bits = List.replicate 6 false) ∧
      ∃ r s', readSev ⟨⟨[0x40]⟩, 0x01, 3, by decide⟩ = .ok r s' ∧ r.toInt = -2 ∧
        s'.bits = List.replicate 6 false := by
  obtain ⟨hUev, hSev⟩ := golomb_read_exactly ⟨⟨[0x40]⟩, 0x01, 3, by decide⟩ (List.replicate 6 false)
  obtain ⟨s', hRun, hRest, -⟩ := hUev 4 (by decide) (by decide)
  exact ⟨⟨s', hRun, hRest⟩, hSev (-2) (by decide) (by decide)⟩

/-! ### Code that follows a table -/

/-- The code reads what a table has, and panics where the table does not go on. -/
inductive Implements : Parse α → BitSyntax α → Prop
  | done (a : α) : Implements (pure a) (.done a)
  | stop : Implements (throw .panic) .stop
  | bit {k : UInt8 → Parse α} {next : Bool → BitSyntax α} :
    (∀ b, Implements (k (if b then 1 else 0)) (next b)) → Implements (readBit >>= k) (.bit next)
  | code {k : UInt32 → Parse α} {next : Nat → BitSyntax α} :
    (∀ n, Implements (k (UInt32.ofNat n)) (next n)) → Implements (readUev >>= k) (.code next)

variable {m : Parse α} {t t' : BitSyntax α}

theorem Implements.bind {k : α → Parse β} {f : α → BitSyntax β} (h : Implements m t)
    (hNext : ∀ a, Implements (k a) (f a)) : Implements (m >>= k) (t >>= f) := by
  induction h with
  | done a =>
    rw [pure_bind]
    exact hNext a
  | stop => exact .stop
  | bit _ ih =>
    rw [bind_assoc]
    exact .bit ih
  | code _ ih =>
    rw [bind_assoc]
    exact .code ih

theorem Implements.ite {c : Prop} [Decidable c] {m' : Parse α} (h : c → Implements m t)
    (h' : ¬c → Implements m' t') : Implements (if c then m else m') (if c then t else t') := by
  split
  · exact h ‹_›
  · exact h' ‹_›

theorem Implements.readWhen {c : Prop} [Decidable c] (h : Implements m t) (otherwise : α) :
    Implements (readWhen c m otherwise) (readWhen c t otherwise) :=
  .ite (fun _ => h) fun _ => .done otherwise

theorem implements_readBit :
    Implements readBit ((fun b => if b then 1 else 0) <$> BitSyntax.readBit) := by
  rw [← bind_pure readBit]
  exact .bit fun b => .done _

theorem implements_readUev : Implements readUev (UInt32.ofNat <$> BitSyntax.readCode) := by
  rw [← bind_pure readUev]
  exact .code fun n => .done _

/-- A run on bits comes to the end of the table, to a place where it stops or a code that is too long, or
to an error of the reader. -/
def ComesTo (t : BitSyntax α) (bits : List Bool) (r : EStateM.Result H264Fault BitsReader α) : Prop :=
  (∃ a read s', r = .ok a s' ∧ bits = read ++ s'.bits ∧ t.Leads 64 read (.done a)) ∨
    ((∃ s', r = .error .panic s') ∧ (t.Stops 64 bits ∨ t.Overlong 64 bits)) ∨
      ∃ e s', r = .error (.bitError e) s'

theorem ComesTo.after {read bits : List Bool} {r : EStateM.Result H264Fault BitsReader α}
    (h : ComesTo t' bits r) (hRead : t.Leads 64 read t') : ComesTo t (read ++ bits) r := by
  rcases h with ⟨a, read', s', hRun, rfl, hLeads⟩ | ⟨hRun, hStops | hOverlong⟩ | hRun
  · exact .inl ⟨a, read ++ read', s', hRun, (List.append_assoc _ _ _).symm, hRead.trans hLeads⟩
  · exact .inr (.inl ⟨hRun, .inl (hStops.after hRead)⟩)
  · exact .inr (.inl ⟨hRun, .inr (hOverlong.after hRead)⟩)
  · exact .inr (.inr hRun)

theorem Implements.comesTo (h : Implements m t) (s : BitsReader) : ComesTo t s.bits (m s) := by
  induction h generalizing s with
  | done a => exact .inl ⟨a, [], s, rfl, rfl, .refl _⟩
  | stop => exact .inr (.inl ⟨⟨s, rfl⟩, .inl ⟨[], s.bits, rfl, .refl _⟩⟩)
  | @bit k next _ ih =>
    cases hBits : s.bits with
    | nil =>
      obtain ⟨e, hRead⟩ := readBit_nil hBits
      exact .inr (.inr ⟨e, s, bind_of_error hRead⟩)
    | cons b rest =>
      obtain ⟨s1, rfl, hRead⟩ := readBit_cons hBits
      rw [bind_of_ok hRead]
      exact (ih b s1).after (BitSyntax.leads_bit next b)
  | @code k next _ ih =>
    rcases readUev_cases s with ⟨suffix, rest, hSuffix, hBits⟩ | ⟨zeros, rest, hZeros, hBits⟩ |
      ⟨e, s', hRead⟩
    · obtain ⟨s1, rfl, hRead⟩ := readUev_code hBits hSuffix
      rw [bind_of_ok hRead, hBits]
      exact (ih (codeNum suffix) s1).after (BitSyntax.leads_code next hSuffix)
    · obtain ⟨s', hRead⟩ := readUev_overlong hBits hZeros
      exact .inr (.inl ⟨⟨s', bind_of_error hRead⟩,
        .inr ⟨[], zeros, rest, next, hBits, .refl _, hZeros⟩⟩)
    · exact .inr (.inr ⟨e, s', bind_of_error hRead⟩)

/-- What is led along the table, the code reads. -/
theorem Implements.follows {read : List Bool} (hLeads : t.Leads 64 read t') (h : Implements m t) :
    ∃ m', Implements m' t' ∧ ∀ s rest, s.bits = read ++ rest → ∃ s', s'.bits = rest ∧ m s = m' s' := by
  induction hLeads generalizing m with
  | refl t => exact ⟨m, h, fun s rest hBits => ⟨s, hBits, rfl⟩⟩
  | @bit next b read t _ ih =>
    cases h with
    | @bit k _ hNext =>
      obtain ⟨m', hm', hRun⟩ := ih (hNext b)
      refine ⟨m', hm', ?_⟩
      intro s rest hBits
      obtain ⟨s1, hBits1, hRead⟩ := readBit_cons hBits
      rw [bind_of_ok hRead]
      exact hRun s1 rest hBits1
  | @code next suffix read t hSuffix _ ih =>
    cases h with
    | @code k _ hNext =>
      obtain ⟨m', hm', hRun⟩ := ih (hNext (codeNum suffix))
      refine ⟨m', hm', ?_⟩
      intro s rest hBits
      rw [List.append_assoc] at hBits
      obtain ⟨s1, hBits1, hRead⟩ := readUev_code hBits hSuffix
      rw [bind_of_ok hRead]
      exact hRun s1 rest hBits1

theorem implements_done {a : α} (h : Implements m (.done a)) : m = pure a := by
  cases h with
  | done _ => rfl

/-- A table that is led to its end is read. -/
theorem Implements.reads {read rest : List Bool} {a : α} (h : Implements m t)
    (hLeads : t.Leads 64 read (.done a)) {s : BitsReader} (hBits : s.bits = read ++ rest) :
    ∃ s', s'.bits = rest ∧ m s = .ok a s' := by
  obtain ⟨m', hm', hRun⟩ := h.follows hLeads
  rw [implements_done hm'] at hRun
  exact hRun s rest hBits

theorem Implements.stops (h : Implements m t) {s : BitsReader} (hStops : t.Stops 64 s.bits) :
    ∃ s', m s = .error .panic s' := by
  obtain ⟨read, rest, hBits, hLeads⟩ := hStops
  obtain ⟨m', hm', hRun⟩ := h.follows hLeads
  obtain ⟨s', -, hs'⟩ := hRun s rest hBits
  cases hm' with
  | stop => exact ⟨s', hs'⟩

theorem Implements.overlong (h : Implements m t) {s : BitsReader} (hOverlong : t.Overlong 64 s.bits) :
    ∃ s', m s = .error .panic s' := by
  obtain ⟨read, zeros, rest, next, hBits, hLeads, hZeros⟩ := hOverlong
  obtain ⟨m', hm', hRun⟩ := h.follows hLeads
  obtain ⟨s', hBits', hs'⟩ := hRun s _ hBits
  cases hm' with
  | code _ =>
    obtain ⟨s2, hRead⟩ := readUev_overlong hBits' hZeros
    exact ⟨s2, hs'.trans (bind_of_error hRead)⟩

end Xiu.H264
