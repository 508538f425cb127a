import Bscp.Json

/-!
Hexadecimal texts: a number without leading zeros, and bytes as pairs of digits. What is
written reads back.
-/

namespace Bscp.Hex

def digits (n : Nat) : List Char := Nat.toDigits 16 n

def number : Nat → List Char → Option Nat
  | sofar, [] => some sofar
  | sofar, char :: rest =>
      match Json.hexValue char with
      | none => none
      | some value => number (sofar * 16 + value) rest

def pair (byte : BitVec 8) : List Char :=
  [Nat.digitChar (byte.toNat / 16), Nat.digitChar (byte.toNat % 16)]

def bytes : List Char → Option (List (BitVec 8))
  | [] => some []
  | high :: low :: rest => do
      let high ← Json.hexValue high
      let low ← Json.hexValue low
      let others ← bytes rest
      some (BitVec.ofNat 8 (high * 16 + low) :: others)
  | [_] => none

def isDigit (char : Char) : Bool := (Json.hexValue char).isSome

theorem hexValue_digitChar {n : Nat} (small : n < 16) :
    Json.hexValue (Nat.digitChar n) = some n := by
  have all : ∀ n < 16, Json.hexValue (Nat.digitChar n) = some n := by decide
  exact all n small

theorem number_append (sofar : Nat) (first last : List Char) :
    number sofar (first ++ last) = (number sofar first).bind (number · last) := by
  induction first generalizing sofar with
  | nil => rfl
  | cons char rest ih =>
      simp only [List.cons_append, number]
      cases Json.hexValue char with
      | none => rfl
      | some value => exact ih _

theorem number_digits (n : Nat) : number 0 (digits n) = some n := by
  unfold digits
  induction n using Nat.strongRecOn with
  | ind n next =>
      by_cases small : n < 16
      · rw [Nat.toDigits_of_lt_base small]
        simp [number, hexValue_digitChar small]
      · rw [Nat.toDigits_of_base_le (by decide) (Nat.not_lt.mp small), number_append,
          next (n / 16) (by omega)]
        simp only [Option.bind_some, number, hexValue_digitChar (Nat.mod_lt n (by decide))]
        congr 1
        omega

theorem digits_ne_nil (n : Nat) : digits n ≠ [] := Nat.toDigits_ne_nil

end Bscp.Hex
