import Mathlib.Data.List.Basic

/-!
How the Microsoft C runtime splits a command line of UTF-16 units into arguments. Backslashes are
literal unless a quote follows: two of them stand for one before a quote, and one that is left
makes the quote literal. A quoted part may hold blanks, and a quote right behind the one that ends
it is literal and goes on with the part. The program name has simpler rules.
-/

namespace Bscp.Argv

abbrev Unit16 := UInt16
abbrev Wide := List Unit16

def NUL : Unit16 := 0
def TAB : Unit16 := 0x09
def SPACE : Unit16 := 0x20
def QUOTE : Unit16 := 0x22
def BACKSLASH : Unit16 := 0x5c

def blank (unit : Unit16) : Bool := unit = SPACE || unit = TAB

inductive Mode where
  | plain
  | quoted
  /-- Right behind the quote that ends a quoted part. -/
  | closed
  deriving DecidableEq

def Mode.settled : Mode → Mode
  | .quoted => .quoted
  | .plain | .closed => .plain

inductive Scan where
  | between
  /-- Within an argument, behind a run of backslashes that are not in it yet. -/
  | inside (mode : Mode) (slashes : Nat) (argument : Wide)

def slashed (argument : Wide) (slashes : Nat) : Wide :=
  argument ++ List.replicate slashes BACKSLASH

def feed (mode : Mode) (slashes : Nat) (argument : Wide) (unit : Unit16) : Option Wide × Scan :=
  if unit = BACKSLASH then (none, .inside mode.settled (slashes + 1) argument)
  else if unit = QUOTE then
    if slashes % 2 = 1 then
      (none, .inside mode.settled 0 (slashed argument (slashes / 2) ++ [QUOTE]))
    else match mode with
      | .plain => (none, .inside .quoted 0 (slashed argument (slashes / 2)))
      | .quoted => (none, .inside .closed 0 (slashed argument (slashes / 2)))
      | .closed => (none, .inside .quoted 0 (slashed argument (slashes / 2) ++ [QUOTE]))
  else if mode ≠ .quoted ∧ blank unit = true then (some (slashed argument slashes), .between)
  else (none, .inside mode.settled 0 (slashed argument slashes ++ [unit]))

def Scan.step : Scan → Unit16 → Option Wide × Scan
  | .between, unit => if blank unit then (none, .between) else feed .plain 0 [] unit
  | .inside mode slashes argument, unit => feed mode slashes argument unit

def Scan.finish : Scan → List Wide
  | .between => []
  | .inside _ slashes argument => [slashed argument slashes]

def scan : Scan → Wide → List Wide
  | state, [] => state.finish
  | state, unit :: rest => (state.step unit).1.toList ++ scan (state.step unit).2 rest

def arguments (line : Wide) : List Wide := scan .between line

/-- The program name, and what is behind it: quotes are left out, and nothing is escaped. -/
def programName (quoted : Bool) : Wide → Wide × Wide
  | [] => ([], [])
  | unit :: rest =>
      if unit = QUOTE then programName (!quoted) rest
      else if quoted = false ∧ blank unit = true then ([], rest)
      else (unit :: (programName quoted rest).1, (programName quoted rest).2)

def argv (line : Wide) : List Wide :=
  (programName false line).1 :: arguments (programName false line).2

/-! ### Steps -/

section Steps

variable {mode : Mode} {slashes : Nat} {argument rest : Wide} {unit : Unit16}

@[simp] theorem slashed_zero (argument : Wide) : slashed argument 0 = argument := by
  simp [slashed]

theorem scan_backslash : scan (.inside .quoted slashes argument) (BACKSLASH :: rest) =
    scan (.inside .quoted (slashes + 1) argument) rest := rfl

theorem scan_backslashes (count : Nat) :
    scan (.inside .quoted slashes argument) (List.replicate count BACKSLASH ++ rest) =
      scan (.inside .quoted (slashes + count) argument) rest := by
  induction count generalizing slashes with
  | zero => rfl
  | succ count more =>
      rw [List.replicate_succ, List.cons_append, scan_backslash, more]
      congr 2
      omega

/-- Twice as many backslashes before a quote that is meant to end a part. -/
theorem scan_closing (count : Nat) :
    scan (.inside .quoted 0 argument) (List.replicate (count * 2) BACKSLASH ++ QUOTE :: rest) =
      scan (.inside .closed 0 (slashed argument count)) rest := by
  rw [scan_backslashes]
  simp [scan, Scan.step, feed, BACKSLASH, QUOTE]

/-- Twice as many and one before a quote that is literal. -/
theorem scan_literal (count : Nat) :
    scan (.inside .quoted 0 argument) (List.replicate (count * 2 + 1) BACKSLASH ++ QUOTE :: rest) =
      scan (.inside .quoted 0 (slashed argument count ++ [QUOTE])) rest := by
  rw [scan_backslashes]
  have half : (count * 2 + 1) / 2 = count := by omega
  simp [scan, Scan.step, feed, BACKSLASH, QUOTE, half, Mode.settled]

/-- As many before anything else. -/
theorem scan_other (count : Nat) (not_backslash : unit ≠ BACKSLASH) (not_quote : unit ≠ QUOTE) :
    scan (.inside .quoted 0 argument) (List.replicate count BACKSLASH ++ unit :: rest) =
      scan (.inside .quoted 0 (slashed argument count ++ [unit])) rest := by
  rw [scan_backslashes]
  simp [scan, Scan.step, feed, not_backslash, not_quote, Mode.settled]

theorem scan_opening : scan .between (QUOTE :: rest) = scan (.inside .quoted 0 []) rest := by
  simp [scan, Scan.step, feed, blank, QUOTE, SPACE, TAB, BACKSLASH]

theorem scan_closed_space : scan (.inside .closed 0 argument) (SPACE :: rest) =
    argument :: scan .between rest := by
  simp [scan, Scan.step, feed, blank, QUOTE, SPACE, BACKSLASH]

theorem scan_closed_nil : scan (.inside .closed 0 argument) [] = [argument] := by
  simp [scan, Scan.finish]

theorem programName_quoted {name : Wide} (none : QUOTE ∉ name) :
    programName true (name ++ QUOTE :: rest) =
      (name ++ (programName false rest).1, (programName false rest).2) := by
  induction name with
  | nil => simp [programName]
  | cons unit name more =>
      simp only [List.mem_cons, not_or] at none
      rw [List.cons_append, programName, if_neg (Ne.symm none.1), if_neg (by simp), more none.2]
      rfl

end Steps

end Bscp.Argv
