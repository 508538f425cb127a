import Mathlib.Data.List.Basic
import Mathlib.Tactic.Common

/-!
Regular expressions over any alphabet: what they match, a matcher that takes one letter after the
other, and the two substitutions by nothing, of an expression that stands at the beginning of a
word or at its end. Of the matches that begin together the longest one is taken.
-/

namespace Bscp

inductive Regex (α : Type) where
  | none
  | empty
  | one (allowed : α → Bool)
  | seq (first second : Regex α)
  | alt (left right : Regex α)
  | star (body : Regex α)

namespace Regex

variable {α : Type}

inductive Matches : Regex α → List α → Prop
  | empty : Matches .empty []
  | one {allowed : α → Bool} {letter : α} (holds : allowed letter = true) :
      Matches (.one allowed) [letter]
  | seq {first second : Regex α} {front back : List α} (one : Matches first front)
      (two : Matches second back) : Matches (.seq first second) (front ++ back)
  | left {left right : Regex α} {word : List α} (holds : Matches left word) :
      Matches (.alt left right) word
  | right {left right : Regex α} {word : List α} (holds : Matches right word) :
      Matches (.alt left right) word
  | done {body : Regex α} : Matches (.star body) []
  | more {body : Regex α} {front back : List α} (one : Matches body front)
      (rest : Matches (.star body) back) : Matches (.star body) (front ++ back)

/-! ### The matcher -/

def nullable : Regex α → Bool
  | .none => false
  | .empty => true
  | .one _ => false
  | .seq first second => first.nullable && second.nullable
  | .alt left right => left.nullable || right.nullable
  | .star _ => true

def deriv (letter : α) : Regex α → Regex α
  | .none => .none
  | .empty => .none
  | .one allowed => if allowed letter then .empty else .none
  | .seq first second =>
      if first.nullable then .alt (.seq (first.deriv letter) second) (second.deriv letter)
      else .seq (first.deriv letter) second
  | .alt left right => .alt (left.deriv letter) (right.deriv letter)
  | .star body => .seq (body.deriv letter) (.star body)

def accepts (regex : Regex α) : List α → Bool
  | [] => regex.nullable
  | letter :: rest => (regex.deriv letter).accepts rest

section Inversion

variable {first second body : Regex α} {word : List α}

@[simp] theorem matches_none : Matches .none word ↔ False := ⟨nofun, False.elim⟩

@[simp] theorem matches_empty : Matches .empty word ↔ word = [] := by
  constructor
  · rintro ⟨⟩
    rfl
  · rintro rfl
    exact .empty

@[simp] theorem matches_one {allowed : α → Bool} :
    Matches (.one allowed) word ↔ ∃ letter, word = [letter] ∧ allowed letter = true := by
  constructor
  · rintro ⟨⟩
    next letter holds => exact ⟨letter, rfl, holds⟩
  · rintro ⟨letter, rfl, holds⟩
    exact .one holds

@[simp] theorem matches_seq : Matches (.seq first second) word ↔
    ∃ front back, word = front ++ back ∧ Matches first front ∧ Matches second back := by
  constructor
  · rintro ⟨⟩
    next front back one two => exact ⟨front, back, rfl, one, two⟩
  · rintro ⟨front, back, rfl, one, two⟩
    exact .seq one two

@[simp] theorem matches_alt :
    Matches (.alt first second) word ↔ Matches first word ∨ Matches second word := by
  constructor
  · rintro ⟨⟩
    · next holds => exact .inl holds
    · next holds => exact .inr holds
  · rintro (holds | holds)
    · exact .left holds
    · exact .right holds

end Inversion

theorem nullable_iff (regex : Regex α) : regex.nullable = true ↔ Matches regex [] := by
  induction regex with
  | none => simp [nullable]
  | empty => simp [nullable]
  | one allowed => simp [nullable]
  | seq first second one two => simp [nullable, one, two]
  | alt left right one two => simp [nullable, one, two]
  | star body _ => simp [nullable, Matches.done]

/-- A word that begins with a letter, of which a star takes a part that is not empty. -/
theorem star_cons {body : Regex α} {letter : α} {rest : List α} :
    Matches (.star body) (letter :: rest) ↔
      ∃ front back, rest = front ++ back ∧ Matches body (letter :: front) ∧
        Matches (.star body) back := by
  constructor
  · intro star
    generalize whole : letter :: rest = word at star
    generalize same : Regex.star body = regex at star
    induction star generalizing letter rest with
    | done => cases whole
    | @more other front back one star _ next =>
        obtain rfl := Regex.star.inj same
        cases front with
        | nil => exact next whole rfl
        | cons head front =>
            obtain ⟨rfl, rfl⟩ := List.cons.inj whole
            exact ⟨front, back, rfl, one, star⟩
    | empty => cases same
    | one => cases same
    | seq => cases same
    | left => cases same
    | right => cases same
  · rintro ⟨front, back, rfl, one, star⟩
    exact .more one star

theorem seq_cons {first second : Regex α} {letter : α} {rest : List α} :
    Matches (.seq first second) (letter :: rest) ↔
      (∃ front back, rest = front ++ back ∧ Matches first (letter :: front) ∧
        Matches second back) ∨ (Matches first [] ∧ Matches second (letter :: rest)) := by
  rw [matches_seq]
  constructor
  · rintro ⟨front, back, whole, one, two⟩
    cases front with
    | nil => exact .inr ⟨one, whole ▸ two⟩
    | cons head front =>
        obtain ⟨rfl, rfl⟩ := List.cons.inj whole
        exact .inl ⟨front, back, rfl, one, two⟩
  · rintro (⟨front, back, rfl, one, two⟩ | ⟨one, two⟩)
    · exact ⟨letter :: front, back, rfl, one, two⟩
    · exact ⟨[], letter :: rest, rfl, one, two⟩

theorem deriv_iff (regex : Regex α) (letter : α) (rest : List α) :
    Matches (regex.deriv letter) rest ↔ Matches regex (letter :: rest) := by
  induction regex generalizing rest with
  | none => simp [deriv]
  | empty => simp [deriv]
  | one allowed => by_cases holds : allowed letter <;> simp [deriv, holds]
  | seq first second one two =>
      rw [seq_cons, ← nullable_iff]
      have here : Matches (.seq (first.deriv letter) second) rest ↔
          ∃ front back, rest = front ++ back ∧ Matches first (letter :: front) ∧
            Matches second back := by
        simp [one]
      by_cases may : first.nullable = true
      · simp only [deriv, may, if_true, matches_alt, here, two, true_and]
      · simp only [deriv, may, Bool.false_eq_true, if_false, here, false_and, or_false]
  | alt left right one two => simp [deriv, one, two]
  | star body one =>
      rw [star_cons]
      simp [deriv, one]

theorem accepts_iff (regex : Regex α) (word : List α) :
    regex.accepts word = true ↔ Matches regex word := by
  induction word generalizing regex with
  | nil => exact nullable_iff regex
  | cons letter rest next => rw [accepts, next, deriv_iff]

/-! ### Words and runs -/

def lit [DecidableEq α] : List α → Regex α
  | [] => .empty
  | letter :: rest => .seq (.one fun other => other == letter) (lit rest)

@[simp] theorem matches_lit [DecidableEq α] {text word : List α} :
    Matches (lit text) word ↔ word = text := by
  induction text generalizing word with
  | nil => simp [lit]
  | cons letter rest next => simp [lit, next]

def run (allowed : α → Bool) : Regex α := .star (.one allowed)

def run1 (allowed : α → Bool) : Regex α := .seq (.one allowed) (run allowed)

@[simp] theorem matches_run {allowed : α → Bool} {word : List α} :
    Matches (run allowed) word ↔ ∀ letter ∈ word, allowed letter = true := by
  induction word with
  | nil => simp [run, Matches.done]
  | cons letter rest next =>
      rw [run, star_cons]
      rw [run] at next
      simp [next]

@[simp] theorem matches_run1 {allowed : α → Bool} {word : List α} :
    Matches (run1 allowed) word ↔ word ≠ [] ∧ ∀ letter ∈ word, allowed letter = true := by
  rw [run1, matches_seq]
  cases word with
  | nil => simp
  | cons letter rest => simp

/-! ### Substitutions -/

/-- The expression, where it stands at the beginning, is replaced by nothing. -/
def cutStart (regex : Regex α) (word : List α) : List α :=
  match (List.range (word.length + 1)).reverse.find? fun size => regex.accepts (word.take size) with
  | some size => word.drop size
  | .none => word

def cutEnd (regex : Regex α) (word : List α) : List α :=
  match (List.range (word.length + 1)).find? fun size => regex.accepts (word.drop size) with
  | some size => word.take size
  | .none => word

theorem find?_range {holds : Nat → Bool} {count size : Nat} (within : size < count)
    (here : holds size = true) (before : ∀ other < size, holds other = false) :
    (List.range count).find? holds = some size := by
  rw [List.find?_range_eq_some]
  refine ⟨here, List.mem_range.mpr within, fun other small => ?_⟩
  simp [before other small]

theorem find?_range_reverse {holds : Nat → Bool} {count size : Nat} (within : size < count)
    (here : holds size = true) (after : ∀ other, size < other → other < count →
      holds other = false) : (List.range count).reverse.find? holds = some size := by
  induction count with
  | zero => cases within
  | succ count next =>
      rw [List.range_succ, List.reverse_append, List.reverse_singleton, List.singleton_append]
      by_cases last : size = count
      · subst last
        rw [List.find?_cons_of_pos here]
      · have small : size < count := by omega
        rw [List.find?_cons_of_neg (by simp [after count small (Nat.lt_succ_self count)])]
        exact next small fun other above below => after other above (Nat.lt_succ_of_lt below)

/-- What stands behind the longest beginning that matches. -/
theorem cutStart_eq {regex : Regex α} {front back : List α} (starts : Matches regex front)
    (longest : ∀ more rest, more ≠ [] → back = more ++ rest → ¬Matches regex (front ++ more)) :
    regex.cutStart (front ++ back) = back := by
  have found : (List.range ((front ++ back).length + 1)).reverse.find?
      (fun size => regex.accepts ((front ++ back).take size)) = some front.length := by
    refine find?_range_reverse (by rw [List.length_append]; omega) ?_ fun other above below => ?_
    · rw [List.take_left, accepts_iff]
      exact starts
    · rw [Bool.eq_false_iff, Ne, accepts_iff]
      have cut : (front ++ back).take other = front ++ back.take (other - front.length) := by
        rw [List.take_append, List.take_of_length_le (Nat.le_of_lt above)]
      rw [cut]
      refine longest _ _ (fun none => ?_) (List.take_append_drop (other - front.length) back).symm
      have short := congrArg List.length none
      simp only [List.length_append, List.length_take, List.length_nil] at short below
      omega
  rw [cutStart, found]
  exact List.drop_left

/-- What stands before the longest end that matches. -/
theorem cutEnd_eq {regex : Regex α} {front back : List α} (ends : Matches regex back)
    (longest : ∀ rest more, more ≠ [] → front = rest ++ more → ¬Matches regex (more ++ back)) :
    regex.cutEnd (front ++ back) = front := by
  have found : (List.range ((front ++ back).length + 1)).find?
      (fun size => regex.accepts ((front ++ back).drop size)) = some front.length := by
    refine find?_range (by rw [List.length_append]; omega) ?_ fun other below => ?_
    · rw [List.drop_left, accepts_iff]
      exact ends
    · rw [Bool.eq_false_iff, Ne, accepts_iff]
      have cut : (front ++ back).drop other = front.drop other ++ back := by
        rw [List.drop_append_of_le_length (Nat.le_of_lt below)]
      rw [cut]
      refine longest _ _ (fun none => ?_) (List.take_append_drop other front).symm
      have short := congrArg List.length none
      simp only [List.length_drop, List.length_nil] at short
      omega
  rw [cutEnd, found]
  exact List.take_left

end Regex

end Bscp
