import Mathlib.Tactic.Common
import Xiu.ProofKit.Bits

/-! Cyclic redundancy checks, most significant bit first: a register is shifted once for each bit, and
the polynomial is taken away from it when the bit that leaves it differs from the one that comes. -/

namespace Xiu.ProofKit.Crc

variable {w : Nat} (poly : BitVec w)

/-- The register after a bit. -/
def feed (r : BitVec w) (bit : Bool) : BitVec w :=
  (r <<< 1) ^^^ (if (r.msb ^^ bit) = true then poly else 0)

/-- The register after some bits. -/
def crc (r : BitVec w) (bits : List Bool) : BitVec w := bits.foldl (feed poly) r

/-- The register after so many zeros. -/
def shifts : Nat → BitVec w → BitVec w
  | 0, r => r
  | n + 1, r => shifts n (feed poly r false)

theorem crc_append (r : BitVec w) (bits more : List Bool) :
    crc poly r (bits ++ more) = crc poly (crc poly r bits) more := List.foldl_append

theorem feed_xor (x y : BitVec w) (b c : Bool) :
    feed poly (x ^^^ y) (b ^^ c) = feed poly x b ^^^ feed poly y c := by
  have hBit : ((x ^^^ y).msb ^^ (b ^^ c)) = ((x.msb ^^ b) ^^ (y.msb ^^ c)) := by
    rw [BitVec.msb_xor]
    cases x.msb <;> cases y.msb <;> cases b <;> cases c <;> rfl
  rw [feed, feed, feed, BitVec.shiftLeft_xor_distrib, hBit]
  have hSwap (s t u v : BitVec w) : (s ^^^ t) ^^^ (u ^^^ v) = (s ^^^ u) ^^^ (t ^^^ v) := by ac_rfl
  rw [hSwap]
  congr 1
  cases x.msb ^^ b <;> cases y.msb ^^ c <;> simp

theorem shifts_xor (n : Nat) (x y : BitVec w) :
    shifts poly n (x ^^^ y) = shifts poly n x ^^^ shifts poly n y := by
  induction n generalizing x y with
  | zero => rfl
  | succ n ih =>
    have hFeed := feed_xor poly x y false false
    rw [Bool.xor_false] at hFeed
    rw [shifts, hFeed, ih, shifts, shifts]

theorem shifts_zero (n : Nat) : shifts poly n 0 = 0 := by
  have hSelf := shifts_xor poly n 0 0
  rwa [BitVec.xor_self, BitVec.xor_self] at hSelf

/-- Bits that do not come to the top are shifted. -/
theorem shifts_small {n m : Nat} (h : m * 2 ^ n < 2 ^ w) :
    shifts poly n (BitVec.ofNat w m) = BitVec.ofNat w (m * 2 ^ n) := by
  induction n generalizing m with
  | zero => rw [shifts, pow_zero, Nat.mul_one]
  | succ n ih =>
    rw [pow_succ'] at h
    have hm : m * 2 * 2 ^ n < 2 ^ w := by rwa [Nat.mul_assoc]
    have hTwice : 2 * m < 2 ^ w := by
      have hLe := Nat.le_mul_of_pos_right (m * 2) (Nat.two_pow_pos n)
      omega
    have hMsb : (BitVec.ofNat w m).msb = false := by
      rw [BitVec.msb_eq_false_iff_two_mul_lt, BitVec.toNat_ofNat, Nat.mod_eq_of_lt (by omega)]
      exact hTwice
    have hFeed : feed poly (BitVec.ofNat w m) false = BitVec.ofNat w (m * 2) := by
      apply BitVec.eq_of_toNat_eq
      rw [feed, hMsb]
      simp [Nat.shiftLeft_eq]
    rw [shifts, hFeed, ih hm, pow_succ', Nat.mul_assoc]

theorem mul_two_pow_xor {a y i : Nat} (h : y < 2 ^ i) : (a * 2 ^ i) ^^^ y = a * 2 ^ i + y := by
  have hPos : 0 < 2 ^ i := Nat.two_pow_pos i
  have hDiv : ((a * 2 ^ i) ^^^ y) / 2 ^ i = a := by
    rw [Nat.xor_div_two_pow, Nat.mul_div_cancel a hPos, Nat.div_eq_of_lt h, Nat.xor_zero]
  have hMod : ((a * 2 ^ i) ^^^ y) % 2 ^ i = y := by
    rw [Nat.xor_mod_two_pow, Nat.mul_mod_left, Nat.zero_xor, Nat.mod_eq_of_lt h]
  have hBoth := Nat.div_add_mod' ((a * 2 ^ i) ^^^ y) (2 ^ i)
  rw [hDiv, hMod] at hBoth
  exact hBoth.symm

/-- A bit at the top. -/
def top (w : Nat) (b : Bool) : BitVec w := BitVec.ofNat w (b.toNat * 2 ^ (w - 1))

/-- A bit comes in as if it stood at the top. -/
theorem feed_eq (hw : 0 < w) (r : BitVec w) (b : Bool) : feed poly r b = feed poly (r ^^^ top w b) false := by
  cases b with
  | false =>
    have hTop : top w false = 0 := by rw [top, Bool.toNat_false, Nat.zero_mul]; rfl
    have hZero : r ^^^ (0 : BitVec w) = r := BitVec.xor_zero
    rw [hTop, hZero]
  | true =>
    have hNat : (top w true).toNat = 2 ^ (w - 1) := by
      rw [top, Bool.toNat_true, Nat.one_mul, BitVec.toNat_ofNat]
      exact Nat.mod_eq_of_lt (Nat.pow_lt_pow_right (by decide) (Nat.sub_lt hw Nat.one_pos))
    have hMsb : (top w true).msb = true := by
      rw [BitVec.msb_eq_true_iff_two_mul_ge, hNat, ← pow_succ', Nat.sub_add_cancel hw]
    have hShift : top w true <<< 1 = 0 := by
      apply BitVec.eq_of_toNat_eq
      rw [BitVec.toNat_shiftLeft, hNat, Nat.shiftLeft_eq, ← pow_add, Nat.sub_add_cancel hw,
        Nat.mod_self]
      rfl
    have hTop : feed poly (top w true) true = 0 := by
      rw [feed, hMsb, hShift]
      simp
    have hXor := feed_xor poly r (top w true) true true
    have hZero : feed poly r true ^^^ (0 : BitVec w) = feed poly r true := BitVec.xor_zero
    rw [hTop, hZero] at hXor
    exact hXor.symm

/-- Bits come in as if they stood at the top, all at once. -/
theorem crc_toBits {k : Nat} (hk : k ≤ w) (n : Nat) (r : BitVec w) :
    crc poly r (toBits k n) = shifts poly k (r ^^^ BitVec.ofNat w (n % 2 ^ k * 2 ^ (w - k))) := by
  induction k generalizing r with
  | zero =>
    have hZero : r ^^^ (0 : BitVec w) = r := BitVec.xor_zero
    rw [pow_zero, Nat.mod_one, Nat.zero_mul]
    exact hZero.symm
  | succ k ih =>
    have hLow : n % 2 ^ k * 2 ^ (w - (k + 1)) < 2 ^ (w - 1) := by
      calc n % 2 ^ k * 2 ^ (w - (k + 1)) < 2 ^ k * 2 ^ (w - (k + 1)) :=
            Nat.mul_lt_mul_of_pos_right (Nat.mod_lt n (Nat.two_pow_pos k)) (Nat.two_pow_pos _)
        _ = 2 ^ (w - 1) := by rw [← pow_add]; congr 1; omega
    have hTwice : 2 ^ (w - 1) * 2 ^ 1 = 2 ^ w := by rw [← pow_add]; congr 1; omega
    -- the other bits move up by one while the first one comes in
    have hRest : BitVec.ofNat w (n % 2 ^ k * 2 ^ (w - k)) =
        feed poly (BitVec.ofNat w (n % 2 ^ k * 2 ^ (w - (k + 1)))) false := by
      have hSmall := @shifts_small w poly 1 (n % 2 ^ k * 2 ^ (w - (k + 1))) (by omega)
      rw [shifts, shifts, Nat.mul_assoc, ← pow_add] at hSmall
      rw [hSmall]
      congr 3
      omega
    have hAll : top w (n.testBit k) ^^^ BitVec.ofNat w (n % 2 ^ k * 2 ^ (w - (k + 1))) =
        BitVec.ofNat w (n % 2 ^ (k + 1) * 2 ^ (w - (k + 1))) := by
      have hSplit : n % 2 ^ (k + 1) = (n.testBit k).toNat * 2 ^ k + n % 2 ^ k := by
        rw [Nat.toNat_testBit, pow_succ, Nat.mod_mul]
        ring
      have hHigh : 2 ^ k * 2 ^ (w - (k + 1)) = 2 ^ (w - 1) := by rw [← pow_add]; congr 1; omega
      rw [top, ← BitVec.ofNat_xor, mul_two_pow_xor hLow, hSplit, Nat.add_mul, Nat.mul_assoc, hHigh]
    have hFeed := feed_xor poly (r ^^^ top w (n.testBit k))
      (BitVec.ofNat w (n % 2 ^ k * 2 ^ (w - (k + 1)))) false false
    rw [BitVec.xor_assoc, hAll, ← hRest, ← feed_eq poly (by omega)] at hFeed
    rw [toBits, crc, List.foldl_cons, ← crc, ih (by omega), shifts]
    exact congrArg (shifts poly k) hFeed.symm

/-- The register behind the bits takes the register to zero. -/
theorem crc_self (r : BitVec w) : crc poly r (toBits w r.toNat) = 0 := by
  rw [crc_toBits poly (Nat.le_refl w), Nat.mod_eq_of_lt r.isLt, Nat.sub_self, pow_zero, Nat.mul_one,
    BitVec.ofNat_toNat, BitVec.setWidth_eq, BitVec.xor_self]
  exact shifts_zero poly w

end Xiu.ProofKit.Crc
