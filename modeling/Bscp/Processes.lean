import Mathlib.Data.List.Basic
import Mathlib.Logic.Function.Basic
import Mathlib.Tactic.Common

/-!
A table of processes whose numbers are used again. A process that has exited
keeps its number until it is reaped; then the number is free for a new process.
A number is not given twice within one tick of the clock that start times are
taken from, so a number and a start time name one process, and a generation that
is over does not come back.
-/

namespace Bscp.Processes

abbrev Pid := Nat

variable {Info : Type}

structure Process (Info : Type) where
  start : Nat
  info : Info
  exited : Bool := false

/-- `last` is the start time of the newest process that ever had a number. -/
structure Table (Info : Type) where
  entry : Pid → Option (Process Info)
  last : Pid → Nat
  newest : ∀ pid process, entry pid = some process → process.start = last pid

inductive Change (Info : Type) where
  | exit (pid : Pid)
  | reap (pid : Pid)
  | spawn (pid : Pid) (start : Nat) (info : Info)
  | alter (pid : Pid) (info : Info)

namespace Table

variable (table : Table Info)

def revise (pid : Pid) (change : Process Info → Option (Process Info))
    (kept : ∀ process process', change process = some process' → process'.start = process.start) :
    Table Info where
  entry := Function.update table.entry pid ((table.entry pid).bind change)
  last := table.last
  newest := by
    intro other process present
    by_cases same : other = pid
    · subst same
      rw [Function.update_self] at present
      obtain ⟨before, old, changed⟩ := Option.bind_eq_some_iff.mp present
      exact (kept before process changed).trans (table.newest other before old)
    · rw [Function.update_of_ne same] at present
      exact table.newest other process present

def create (pid : Pid) (start : Nat) (info : Info) : Table Info where
  entry := Function.update table.entry pid (some { start, info })
  last := Function.update table.last pid start
  newest := by
    intro other process present
    by_cases same : other = pid
    · subst same
      simp only [Function.update_self, Option.some.injEq] at present ⊢
      rw [← present]
    · rw [Function.update_of_ne same] at present ⊢
      exact table.newest other process present

def change : Change Info → Table Info
  | .exit pid => table.revise pid (fun process => some { process with exited := true })
      (by rintro _ _ ⟨⟩; rfl)
  | .reap pid => table.revise pid (fun process => if process.exited then none else some process)
      (by intro process process' kept; split at kept <;> cases kept; rfl)
  | .spawn pid start info =>
      if (table.entry pid).isNone ∧ table.last pid < start then table.create pid start info
      else table
  | .alter pid info => table.revise pid (fun process => some { process with info })
      (by rintro _ _ ⟨⟩; rfl)

def run (changes : List (Change Info)) : Table Info := changes.foldl change table

def running (pid : Pid) (start : Nat) : Bool :=
  (table.entry pid).any fun process => process.start == start && !process.exited

def Over (pid : Pid) (start : Nat) : Prop :=
  start ≤ table.last pid ∧ table.running pid start = false

end Table

structure Later (old new : Table Info) : Prop where
  last : ∀ pid, old.last pid ≤ new.last pid
  back : ∀ pid process, new.entry pid = some process → process.start ≤ old.last pid →
    ∃ earlier, old.entry pid = some earlier ∧ earlier.start = process.start ∧
      (earlier.exited = true → process.exited = true)

section Later

variable {old middle new table : Table Info} {pid : Pid} {start : Nat}

theorem Later.refl (table : Table Info) : Later table table :=
  ⟨fun _ => Nat.le_refl _, fun _ process present _ => ⟨process, present, rfl, id⟩⟩

theorem Later.trans (first : Later old middle) (second : Later middle new) : Later old new where
  last pid := Nat.le_trans (first.last pid) (second.last pid)
  back pid process present known := by
    obtain ⟨between, there, same, stays⟩ :=
      second.back pid process present (Nat.le_trans known (first.last pid))
    obtain ⟨earlier, here, same', stays'⟩ := first.back pid between there (by rw [same]; exact known)
    exact ⟨earlier, here, same'.trans same, fun gone => stays (stays' gone)⟩

theorem later_revise {change : Process Info → Option (Process Info)}
    (kept : ∀ process process', change process = some process' → process'.start = process.start)
    (stays : ∀ process process', change process = some process' →
      process.exited = true → process'.exited = true) :
    Later table (table.revise pid change kept) where
  last _ := Nat.le_refl _
  back other process present _ := by
    by_cases same : other = pid
    · subst same
      simp only [Table.revise, Function.update_self] at present
      obtain ⟨before, old, changed⟩ := Option.bind_eq_some_iff.mp present
      exact ⟨before, old, (kept before process changed).symm, stays before process changed⟩
    · simp only [Table.revise, Function.update_of_ne same] at present
      exact ⟨process, present, rfl, id⟩

theorem later_change (change : Change Info) : Later table (table.change change) := by
  cases change with
  | exit pid =>
      rw [Table.change]
      refine later_revise _ ?_
      rintro _ _ ⟨⟩ _
      rfl
  | alter pid info =>
      rw [Table.change]
      refine later_revise _ ?_
      rintro _ _ ⟨⟩ gone
      exact gone
  | reap pid =>
      rw [Table.change]
      refine later_revise _ ?_
      intro process process' kept gone
      simp [gone] at kept
  | spawn pid start info =>
      simp only [Table.change]
      split
      next free =>
        refine ⟨fun other => ?_, fun other process present known => ?_⟩
        · by_cases same : other = pid
          · subst same
            simpa [Table.create] using Nat.le_of_lt free.2
          · simp [Table.create, same]
        · by_cases same : other = pid
          · -- A new process starts after every earlier one of its number.
            subst same
            simp only [Table.create, Function.update_self, Option.some.injEq] at present
            subst present
            exact absurd known (Nat.not_le.mpr free.2)
          · simp only [Table.create, Function.update_of_ne same] at present
            exact ⟨process, present, rfl, id⟩
      · exact Later.refl table

theorem later_run (changes : List (Change Info)) : Later table (table.run changes) := by
  induction changes generalizing table with
  | nil => exact Later.refl table
  | cons change rest next => exact (later_change change).trans next

theorem running_iff : table.running pid start = true ↔
    ∃ process, table.entry pid = some process ∧ process.start = start ∧ process.exited = false := by
  cases present : table.entry pid with
  | none => simp [Table.running, present]
  | some process => simp [Table.running, present]

theorem last_of_running (running : table.running pid start = true) : table.last pid = start := by
  obtain ⟨process, present, rfl, _⟩ := running_iff.mp running
  exact (table.newest pid process present).symm

/-- What runs later and was already known then ran then. -/
theorem Later.running (later : Later old new) (known : start ≤ old.last pid)
    (running : new.running pid start = true) : old.running pid start = true := by
  obtain ⟨process, present, rfl, active⟩ := running_iff.mp running
  obtain ⟨earlier, here, same, stays⟩ := later.back pid process present known
  refine running_iff.mpr ⟨earlier, here, same, ?_⟩
  cases gone : earlier.exited with
  | true => rw [stays gone] at active; cases active
  | false => rfl

theorem Later.ended (later : Later old new) (ended : old.Over pid start) : new.Over pid start := by
  refine ⟨Nat.le_trans ended.1 (later.last pid), ?_⟩
  cases running : new.running pid start with
  | true => exact absurd (later.running ended.1 running) (by rw [ended.2]; decide)
  | false => rfl

/-- While one generation of a number runs, every older one is over. -/
theorem over_of_older (older : start < table.last pid) : table.Over pid start := by
  refine ⟨Nat.le_of_lt older, ?_⟩
  cases running : table.running pid start with
  | true => exact absurd (last_of_running running) (by omega)
  | false => rfl

/-- A generation still in the table that was known while another ran is that one. -/
theorem Later.same_generation (later : Later old new) {other : Nat}
    (running : old.running pid start = true) (known : other ≤ old.last pid)
    {process : Process Info} (present : new.entry pid = some process)
    (named : process.start = other) : other = start := by
  obtain ⟨earlier, here, same, _⟩ := later.back pid process present (by rw [named]; exact known)
  rw [← named, ← same, old.newest pid earlier here]
  exact last_of_running running

end Later

end Bscp.Processes
