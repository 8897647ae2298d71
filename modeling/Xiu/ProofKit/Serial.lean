import Mathlib.Tactic.Common

/-! Numbers counted modulo 2¹⁶: a number without a bound, and the 16 bits of it that are sent. -/

namespace Xiu.ProofKit

/-- The last 16 bits of a number. -/
def serial (t : Int) : UInt16 := UInt16.ofNat (t % 65536).toNat

theorem toNat_serial (t : Int) : ((serial t).toNat : Int) = t % 65536 := by
  rw [serial, UInt16.toNat_ofNat']
  omega

theorem toNat_serial_sub (t u : Int) :
    ((serial t - serial u).toNat : Int) = (t - u) % 65536 := by
  have ht := toNat_serial t
  have hu := toNat_serial u
  have hLt := (serial t).toNat_lt
  have hLt' := (serial u).toNat_lt
  rw [UInt16.toNat_sub]
  omega

theorem serial_of_lt {n : Nat} (h : n < 65536) : (serial n).toNat = n := by
  have := toNat_serial n
  omega

theorem serial_lt_iff (t u : Int) : serial t < serial u ↔ t % 65536 < u % 65536 := by
  have ht := toNat_serial t
  have hu := toNat_serial u
  rw [UInt16.lt_iff_toNat_lt]
  omega

end Xiu.ProofKit
