import Bscp.Json
import Mathlib.Data.List.Induction
import Mathlib.Algebra.Ring.Nat

/-!
Decimal texts without leading zeros: they are the texts that the numbers are written as.
-/

namespace Bscp.Decimal

variable {text : List Char}

def digits (n : Nat) : List Char := Nat.toDigits 10 n

def value (text : List Char) : Nat := Nat.ofDigitChars 10 text 0

/-- Digits, and a zero in front of no others. -/
def Canonical (text : List Char) : Prop :=
  text ≠ [] ∧ (∀ char ∈ text, char.isDigit = true) ∧ (text.head? = some '0' → text = ['0'])

theorem value_digits (n : Nat) : value (digits n) = n := Nat.ofDigitChars_ten_toDigits

theorem digits_injective {n m : Nat} (same : digits n = digits m) : n = m := by
  rw [← value_digits n, same, value_digits]

theorem digits_ne_nil (n : Nat) : digits n ≠ [] := Nat.toDigits_ne_nil

theorem isDigit_of_mem_digits {n : Nat} {char : Char} (member : char ∈ digits n) :
    char.isDigit = true := Json.digit_toDigits member

theorem not_mem_digits {n : Nat} {char : Char} (other : char.isDigit = false) :
    char ∉ digits n := fun member => by
  rw [isDigit_of_mem_digits member] at other
  cases other

theorem canonical_digits (n : Nat) : Canonical (digits n) := by
  refine ⟨digits_ne_nil n, fun _ member => isDigit_of_mem_digits member, fun zero => ?_⟩
  rcases Nat.eq_zero_or_pos n with rfl | positive
  · rfl
  · cases shape : digits n with
    | nil => exact absurd shape (digits_ne_nil n)
    | cons first rest =>
        rw [shape] at zero
        exact absurd (Option.some.inj zero) (Json.head_toDigits positive shape)

theorem digitChar_value {char : Char} (digit : char.isDigit = true) :
    Nat.digitChar (char.toNat - '0'.toNat) = char := by
  have range : 48 ≤ char.toNat ∧ char.toNat ≤ 57 := by
    simpa [Char.isDigit, UInt32.le_iff_toNat_le] using digit
  have all : ∀ code < 10, Nat.digitChar code = Char.ofNat (48 + code) := by decide
  have whole : 48 + (char.toNat - '0'.toNat) = char.toNat := by
    have zero : '0'.toNat = 48 := rfl
    omega
  rw [all _ (by have zero : '0'.toNat = 48 := rfl; omega), whole, Char.ofNat_toNat]

theorem value_concat (char : Char) :
    value (text ++ [char]) = 10 * value text + (char.toNat - '0'.toNat) := by
  simp only [value, Nat.ofDigitChars_append, Nat.ofDigitChars_cons, Nat.ofDigitChars_nil]

theorem Canonical.init {char : Char} (canonical : Canonical (text ++ [char])) (some : text ≠ []) :
    Canonical text ∧ text ≠ ['0'] := by
  obtain ⟨first, rest, rfl⟩ := List.exists_cons_of_ne_nil some
  obtain ⟨-, digits, zero⟩ := canonical
  have leading : first ≠ '0' := by
    rintro rfl
    have alone := zero rfl
    simp at alone
  refine ⟨⟨some, fun char member => digits char (List.mem_append_left _ member), fun front => ?_⟩,
    ?_⟩
  · exact absurd (Option.some.inj front) leading
  · intro alone
    exact leading (List.cons.inj alone).1

/-- Canonical digits are written again as they were read. -/
theorem digits_of_canonical (canonical : Canonical text) : digits (value text) = text := by
  induction text using List.reverseRecOn with
  | nil => exact absurd rfl canonical.1
  | append_singleton init char more =>
      have digit : char.isDigit = true := canonical.2.1 char (by simp)
      have small : char.toNat - '0'.toNat < 10 := by
        have range : 48 ≤ char.toNat ∧ char.toNat ≤ 57 := by
          simpa [Char.isDigit, UInt32.le_iff_toNat_le] using digit
        have zero : '0'.toNat = 48 := rfl
        omega
      rw [value_concat]
      by_cases single : init = []
      · subst single
        have nothing : value [] = 0 := rfl
        rw [nothing, Nat.mul_zero, Nat.zero_add, digits, Nat.toDigits_of_lt_base small,
          digitChar_value digit, List.nil_append]
      · obtain ⟨front, proper⟩ := canonical.init single
        have again := more front
        have positive : 0 < value init := by
          refine Nat.pos_of_ne_zero fun zero => proper ?_
          rw [← again, zero]
          rfl
        rw [digits, Nat.toDigits_of_base_le (by decide) (by omega),
          show (10 * value init + (char.toNat - '0'.toNat)) / 10 = value init by omega,
          show (10 * value init + (char.toNat - '0'.toNat)) % 10 = char.toNat - '0'.toNat by omega,
          digitChar_value digit]
        exact congrArg (· ++ [char]) again

theorem length_digits_le_iff {n k : Nat} (positive : 0 < k) :
    (digits n).length ≤ k ↔ n < 10 ^ k := Nat.length_toDigits_le_iff (by decide) positive

end Bscp.Decimal
