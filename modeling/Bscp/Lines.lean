import Bscp.Python
import Mathlib.Data.List.Infix

/-!
Texts made of lines. A writer ends every line with a newline, and a reader may
see the last one torn: whatever stands behind the last newline is not a line yet.
-/

namespace Bscp.Lines

def isLineBreak (char : Char) : Bool :=
  let code := char.toNat
  decide ((10 ≤ code ∧ code ≤ 13) ∨ (28 ≤ code ∧ code ≤ 30) ∨ code = 133 ∨ code = 8232 ∨ code = 8233)

def splitFrom : Text → Text → List Text
  | line, [] => if line = [] then [] else [line]
  | line, '\r' :: '\n' :: rest => line :: splitFrom [] rest
  | line, char :: rest =>
      if isLineBreak char then line :: splitFrom [] rest else splitFrom (line ++ [char]) rest

def splitlines (text : Text) : List Text := splitFrom [] text

/-- `text[:text.rfind('\n')+1]`. -/
def committed (text : Text) : Text := (text.reverse.dropWhile fun char => char != '\n').reverse

/-- `bool(text) and not text.endswith('\n')`. -/
def pendingTail (text : Text) : Bool := !text.isEmpty && text.getLast? != some '\n'

def unlines (lines : List Text) : Text := lines.flatMap fun line => line ++ ['\n']

@[simp] theorem unlines_nil : unlines [] = [] := rfl

@[simp] theorem unlines_cons (line : Text) (lines : List Text) :
    unlines (line :: lines) = line ++ '\n' :: unlines lines := by
  simp [unlines]

@[simp] theorem unlines_append (lines more : List Text) :
    unlines (lines ++ more) = unlines lines ++ unlines more := by
  simp [unlines]

def Unbroken (line : Text) : Prop := ∀ char ∈ line, isLineBreak char = false

theorem splitFrom_unbroken {line : Text} (unbroken : Unbroken line) (sofar rest : Text) :
    splitFrom sofar (line ++ '\n' :: rest) = (sofar ++ line) :: splitFrom [] rest := by
  induction line generalizing sofar with
  | nil => simp [splitFrom, isLineBreak]
  | cons char line next =>
      have here := unbroken char List.mem_cons_self
      have later := next (fun other member => unbroken other (List.mem_cons_of_mem _ member))
        (sofar ++ [char])
      -- No carriage return stands in the line, so the pair of breaks is never met.
      have single : splitFrom sofar (char :: (line ++ '\n' :: rest)) =
          splitFrom (sofar ++ [char]) (line ++ '\n' :: rest) := by
        rw [splitFrom]
        · simp [here]
        · rintro _ rfl
          simp [isLineBreak] at here
      rw [List.cons_append, single, later, List.append_assoc]
      rfl

theorem splitlines_unlines {lines : List Text} (unbroken : ∀ line ∈ lines, Unbroken line) :
    splitlines (unlines lines) = lines := by
  unfold splitlines
  induction lines with
  | nil => rfl
  | cons line lines next =>
      rw [unlines_cons, splitFrom_unbroken (unbroken line List.mem_cons_self), List.nil_append,
        next fun other member => unbroken other (List.mem_cons_of_mem _ member)]

theorem unlines_ends (lines : List Text) : unlines lines = [] ∨
    ∃ front, unlines lines = front ++ ['\n'] := by
  rcases List.eq_nil_or_concat lines with rfl | ⟨front, last, rfl⟩
  · exact .inl rfl
  · exact .inr ⟨unlines front ++ last, by simp⟩

section Torn

variable {lines : List Text} {torn : Text} (unbroken : '\n' ∉ torn)
include unbroken

theorem committed_unlines : committed (unlines lines ++ torn) = unlines lines := by
  have tail : ∀ char ∈ torn.reverse, (char != '\n') = true := by
    intro char member
    have other : char ≠ '\n' := fun same => unbroken (same ▸ List.mem_reverse.mp member)
    simpa using other
  rw [committed, List.reverse_append, List.dropWhile_append_of_pos tail]
  rcases unlines_ends lines with none | ⟨front, last⟩
  · simp [none]
  · simp [last]

theorem pendingTail_unlines :
    pendingTail (unlines lines ++ torn) = true ↔ torn ≠ [] := by
  rcases List.eq_nil_or_concat torn with rfl | ⟨front, last, rfl⟩
  · rcases unlines_ends lines with none | ⟨front, last⟩
    · simp [pendingTail, none]
    · simp [pendingTail, last]
  · have other : last ≠ '\n' := by
      rintro rfl
      exact unbroken (by simp)
    simp [pendingTail, other]

end Torn

section Search

def search (pattern : Text) (follow : Text → Bool) (text : Text) : Bool :=
  text.tails.any fun suffix => pattern.isPrefixOf suffix && follow (suffix.drop pattern.length)

variable {pattern : Text} {follow : Text → Bool}

theorem search_iff {text : Text} : search pattern follow text = true ↔
    ∃ front back, text = front ++ pattern ++ back ∧ follow back = true := by
  unfold search
  constructor
  · intro found
    simp only [List.any_eq_true, List.mem_tails, Bool.and_eq_true] at found
    obtain ⟨suffix, ⟨front, whole⟩, starts, follows⟩ := found
    obtain ⟨back, rfl⟩ := List.isPrefixOf_iff_prefix.mp starts
    rw [List.drop_left] at follows
    exact ⟨front, back, by rw [← whole, List.append_assoc], follows⟩
  · rintro ⟨front, back, rfl, follows⟩
    refine List.any_eq_true.mpr ⟨pattern ++ back, (List.mem_tails _ _).mpr ⟨front, ?_⟩, ?_⟩
    · rw [List.append_assoc]
    · rw [List.drop_left, follows, Bool.and_true]
      exact List.isPrefixOf_iff_prefix.mpr (List.prefix_append _ _)

/-- The first mark cuts a text in one way only. -/
theorem cut_unique {mark : Char} {left right front back : Text} (plain : mark ∉ left)
    (fresh : mark ∉ front) (same : left ++ mark :: right = front ++ mark :: back) :
    left = front ∧ right = back := by
  induction left generalizing front with
  | nil =>
      cases front with
      | nil => exact ⟨rfl, (List.cons.inj same).2⟩
      | cons char front =>
          obtain ⟨rfl, _⟩ := List.cons.inj same
          exact absurd List.mem_cons_self fresh
  | cons char left next =>
      cases front with
      | nil =>
          obtain ⟨rfl, _⟩ := List.cons.inj same
          exact absurd List.mem_cons_self plain
      | cons other front =>
          obtain ⟨rfl, more⟩ := List.cons.inj same
          obtain ⟨rfl, rest⟩ := next (fun member => plain (List.mem_cons_of_mem _ member))
            (fun member => fresh (List.mem_cons_of_mem _ member)) more
          exact ⟨rfl, rest⟩

/-- A text without a newline stands in the first line or behind it. -/
theorem occurs_line {line rest front back : Text} (single : '\n' ∉ pattern) (whole : '\n' ∉ line)
    (same : line ++ '\n' :: rest = front ++ pattern ++ back) :
    (∃ behind, line = front ++ pattern ++ behind ∧ back = behind ++ '\n' :: rest) ∨
      ∃ onward, rest = onward ++ pattern ++ back := by
  by_cases later : '\n' ∈ front
  · obtain ⟨first, onward, rfl, fresh⟩ := List.eq_append_cons_of_mem later
    rw [List.append_assoc, List.append_assoc, List.cons_append] at same
    obtain ⟨_, right⟩ := cut_unique whole fresh same
    exact .inr ⟨onward, by rw [right, List.append_assoc]⟩
  · have clean : '\n' ∉ front ++ pattern := by simp [later, single]
    rcases List.append_eq_append_iff.mp same with ⟨more, longer, cut⟩ | ⟨behind, shorter, cut⟩
    · cases more with
      | nil => exact .inl ⟨[], by simpa using longer.symm, by simpa using cut.symm⟩
      | cons char more =>
          obtain ⟨rfl, _⟩ := List.cons.inj cut
          exact absurd (by simp [longer]) clean
    · exact .inl ⟨behind, shorter, cut⟩

/-- Where a text without a newline stands in a file: in a complete line, followed by
the newline and what is behind it, or in the torn one. -/
theorem search_unlines {lines : List Text} {torn : Text} (single : '\n' ∉ pattern)
    (whole : ∀ line ∈ lines, '\n' ∉ line)
    (found : search pattern follow (unlines lines ++ torn) = true) :
    (∃ line ∈ lines, ∃ front behind rest, line = front ++ pattern ++ behind ∧
      follow (behind ++ '\n' :: rest) = true) ∨
      ∃ front behind, torn = front ++ pattern ++ behind ∧ follow behind = true := by
  induction lines with
  | nil => exact .inr (search_iff.mp found)
  | cons line lines next =>
      obtain ⟨front, back, same, follows⟩ := search_iff.mp found
      rw [unlines_cons, List.append_assoc, List.cons_append] at same
      rcases occurs_line single (whole line List.mem_cons_self) same with
        ⟨behind, here, cut⟩ | ⟨onward, later⟩
      · exact .inl ⟨line, List.mem_cons_self, front, behind, _, here, cut ▸ follows⟩
      · rcases next (fun other member => whole other (List.mem_cons_of_mem _ member))
          (search_iff.mpr ⟨onward, back, later, follows⟩) with
          ⟨other, member, rest⟩ | rest
        · exact .inl ⟨other, List.mem_cons_of_mem _ member, rest⟩
        · exact .inr rest

theorem search_mem {lines : List Text} {torn line : Text} (member : line ∈ lines)
    (whole : line = pattern) (follows : ∀ rest, follow ('\n' :: rest) = true) :
    search pattern follow (unlines lines ++ torn) = true := by
  obtain ⟨before, after, rfl⟩ := List.append_of_mem member
  subst whole
  exact search_iff.mpr ⟨unlines before, '\n' :: (unlines after ++ torn), by simp, follows _⟩

/-- Where a text with a mark in it stands in one whose first mark is known. -/
theorem occurs_mark {mark : Char} {head tail front start finish behind : Text} (plain : mark ∉ head)
    (early : mark ∉ start)
    (same : head ++ mark :: tail = front ++ (start ++ mark :: finish) ++ behind) :
    (head = front ++ start ∧ tail = finish ++ behind) ∨
      ∃ onward, tail = onward ++ (start ++ mark :: finish) ++ behind := by
  by_cases later : mark ∈ front
  · obtain ⟨first, onward, rfl, fresh⟩ := List.eq_append_cons_of_mem later
    rw [List.append_assoc, List.append_assoc, List.cons_append] at same
    obtain ⟨_, right⟩ := cut_unique plain fresh same
    exact .inr ⟨onward, right.trans (List.append_assoc _ _ _).symm⟩
  · have clean : mark ∉ front ++ start := by simp [later, early]
    rw [← List.append_assoc, List.append_assoc, List.cons_append] at same
    obtain ⟨left, right⟩ := cut_unique plain clean same
    exact .inl ⟨left, right⟩

end Search

end Bscp.Lines
