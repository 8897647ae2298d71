import Mathlib.Algebra.Group.Nat.Defs

/-! Fields of a byte: shifts, masks and fields put side by side, as arithmetic. -/

namespace Xiu.ProofKit

theorem toNat_shiftLeft_or {a b : UInt8} {k : Nat} (hk : k < 8) (ha : a.toNat * 2 ^ k < 256)
    (hb : b.toNat < 2 ^ k) : (a <<< UInt8.ofNat k ||| b).toNat = 2 ^ k * a.toNat + b.toNat := by
  have hShift : (UInt8.ofNat k).toNat % 8 = k := by
    rw [UInt8.toNat_ofNat']
    omega
  rw [UInt8.toNat_or, UInt8.toNat_shiftLeft, hShift, Nat.shiftLeft_eq, Nat.mod_eq_of_lt ha,
    Nat.mul_comm, Nat.two_pow_add_eq_or_of_lt hb]

theorem toNat_shiftRight {a : UInt8} {k : Nat} (hk : k < 8) :
    (a >>> UInt8.ofNat k).toNat = a.toNat / 2 ^ k := by
  have hShift : (UInt8.ofNat k).toNat % 8 = k := by
    rw [UInt8.toNat_ofNat']
    omega
  rw [UInt8.toNat_shiftRight, hShift, Nat.shiftRight_eq_div_pow]

theorem toNat_and_mask {a : UInt8} {k : Nat} (hk : k < 8) :
    (a &&& UInt8.ofNat (2 ^ k - 1)).toNat = a.toNat % 2 ^ k := by
  have hPow : 2 ^ k ≤ 2 ^ 7 := Nat.pow_le_pow_right (by decide) (by omega)
  have hMask : (UInt8.ofNat (2 ^ k - 1)).toNat = 2 ^ k - 1 := by
    rw [UInt8.toNat_ofNat']
    omega
  rw [UInt8.toNat_and, hMask, Nat.and_two_pow_sub_one_eq_mod]

end Xiu.ProofKit
