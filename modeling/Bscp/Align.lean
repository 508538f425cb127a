import Mathlib.Algebra.Order.Floor.Div
import Mathlib.Data.Nat.Bitwise

/-!
Rounding to multiples of a unit: down, which a mask does where the unit is a power of two, and up.
-/

namespace Bscp.Align

def down (unit n : Nat) : Nat := n / unit * unit

def up (unit n : Nat) : Nat := n ⌈/⌉ unit * unit

variable {unit n multiple : Nat}

theorem dvd_down : unit ∣ down unit n := Nat.dvd_mul_left unit (n / unit)

theorem down_le : down unit n ≤ n := Nat.div_mul_le_self n unit

/-- What is rounded down is the highest of the multiples below. -/
theorem le_down (whole : unit ∣ multiple) (below : multiple ≤ n) : multiple ≤ down unit n := by
  obtain ⟨count, rfl⟩ := whole
  cases unit with
  | zero => simp
  | succ unit =>
      have counted : count ≤ n / (unit + 1) :=
        (Nat.le_div_iff_mul_le (Nat.succ_pos unit)).2 (by rwa [Nat.mul_comm])
      rw [down, Nat.mul_comm]
      exact Nat.mul_le_mul_right (unit + 1) counted

theorem le_up (positive : 0 < unit) : n ≤ up unit n := by
  have reached := (ceilDiv_le_iff_le_smul positive).1 (le_refl (n ⌈/⌉ unit))
  rwa [smul_eq_mul, Nat.mul_comm] at reached

/-- How many units are begun by `n` and `more`: none beyond those that `n` begins, if and only
if nothing is added or the last unit has room for it. -/
theorem ceilDiv_add_le_iff (positive : 0 < unit) (more : Nat) :
    (n + more) ⌈/⌉ unit ≤ n ⌈/⌉ unit ↔
      more = 0 ∨ n % unit ≠ 0 ∧ n % unit + more ≤ unit := by
  have split := Nat.div_add_mod n unit
  have small := Nat.mod_lt n positive
  rw [ceilDiv_le_iff_le_smul positive, smul_eq_mul]
  by_cases even : n % unit = 0
  · have begun : n ⌈/⌉ unit = n / unit := by
      rw [Nat.ceilDiv_eq_add_pred_div]
      apply Nat.div_eq_of_lt_le
      · rw [Nat.mul_comm]
        omega
      · rw [Nat.mul_comm, Nat.mul_add]
        omega
    rw [begun]
    omega
  · have begun : n ⌈/⌉ unit = n / unit + 1 := by
      rw [Nat.ceilDiv_eq_add_pred_div]
      apply Nat.div_eq_of_lt_le
      · rw [Nat.mul_comm, Nat.mul_add]
        omega
      · rw [Nat.mul_comm, Nat.mul_add, Nat.mul_add]
        omega
    rw [begun, Nat.mul_add]
    omega

theorem mul_ceilDiv_mul {factor : Nat} (positive : 0 < factor) (some_unit : 0 < unit) :
    (factor * n) ⌈/⌉ (factor * unit) = n ⌈/⌉ unit := by
  apply eq_of_forall_ge_iff
  intro bound
  rw [ceilDiv_le_iff_le_smul (Nat.mul_pos positive some_unit), ceilDiv_le_iff_le_smul some_unit,
    smul_eq_mul, smul_eq_mul, Nat.mul_assoc]
  exact Nat.mul_le_mul_left_iff positive

theorem add_mul_ceilDiv (positive : 0 < unit) (count : Nat) :
    (n + unit * count) ⌈/⌉ unit = n ⌈/⌉ unit + count := by
  rw [Nat.ceilDiv_eq_add_pred_div, Nat.ceilDiv_eq_add_pred_div, Nat.add_right_comm,
    Nat.sub_add_comm (by omega), Nat.add_mul_div_left _ _ positive]

/-! The mask. -/

/-- `& !(unit - 1)` rounds a word down to the unit, a power of two. -/
theorem toNat_mask {word unit : UInt64} {bits : Nat} (power : unit.toNat = 2 ^ bits) :
    (word &&& ~~~(unit - 1)).toNat = down unit.toNat word.toNat := by
  have one : (1 : UInt64) ≤ unit := by
    rw [UInt64.le_iff_toNat_le, power]
    exact Nat.one_le_two_pow
  have low : (unit - 1).toNat = 2 ^ bits - 1 := by
    rw [UInt64.toNat_sub_of_le _ _ one, power]
    rfl
  have fits : 2 ^ bits - 1 < 2 ^ 64 := low ▸ (unit - 1).toNat_lt
  have mask : (~~~(unit - 1)).toNat = 2 ^ 64 - (2 ^ bits - 1 + 1) := by
    rw [UInt64.toNat_not, low, Nat.sub_sub, Nat.add_comm 1]
    rfl
  apply Nat.eq_of_testBit_eq
  intro i
  rw [UInt64.toNat_and, Nat.testBit_and, mask, Nat.testBit_two_pow_sub_succ fits,
    Nat.testBit_two_pow_sub_one, down, power, Nat.testBit_mul_two_pow, Nat.testBit_div_two_pow]
  by_cases high : bits ≤ i
  · rw [Nat.sub_add_cancel high]
    by_cases inside : i < 64
    · simp [high, inside]
    · have outside : word.toNat.testBit i = false :=
        Nat.testBit_lt_two_pow
          (word.toNat_lt.trans_le (Nat.pow_le_pow_right (by decide) (by omega)))
      simp [outside]
  · simp [high, Nat.lt_of_not_le high]

end Bscp.Align
