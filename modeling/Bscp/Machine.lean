import Mathlib.Data.List.Induction
import Mathlib.Logic.Relation
import Mathlib.Tactic.Common

/-!
Machines and their runs. A deterministic machine is driven by a list of moves: the
list is the schedule, and a property of every list is a property of every
interleaving. A machine with choices of its own is a step relation, and its runs
are the reflexive and transitive closure of it.
-/

namespace Bscp.Machine

variable {σ μ : Type} (step : σ → μ → σ)

def play (state : σ) (moves : List μ) : σ := moves.foldl step state

@[simp] theorem play_nil (state : σ) : play step state [] = state := rfl

@[simp] theorem play_cons (state : σ) (move : μ) (moves : List μ) :
    play step state (move :: moves) = play step (step state move) moves := rfl

@[simp] theorem play_append (state : σ) (first last : List μ) :
    play step state (first ++ last) = play step (play step state first) last :=
  List.foldl_append

variable {step}

/-- What one step keeps, every run keeps. -/
theorem play_keeps {inv : σ → Prop} (kept : ∀ state move, inv state → inv (step state move))
    (moves : List μ) : ∀ state, inv state → inv (play step state moves) := by
  induction moves with
  | nil => exact fun _ holds => holds
  | cons move rest next =>
      intro state holds
      exact next (step state move) (kept state move holds)

section Relation

variable {moves : σ → σ → Prop}

abbrev Reach (moves : σ → σ → Prop) (start state : σ) : Prop :=
  Relation.ReflTransGen moves start state

/-- The runs all of whose steps meet a condition on the state before and after. -/
def Under (moves condition : σ → σ → Prop) (state next : σ) : Prop :=
  moves state next ∧ condition state next

theorem reach_keeps {inv : σ → Prop} {start : σ} (base : inv start)
    (kept : ∀ state next, inv state → moves state next → inv next) {state : σ}
    (reach : Reach moves start state) : inv state := by
  induction reach with
  | refl => exact base
  | tail _ move held => exact kept _ _ held move

theorem Under.reach {condition : σ → σ → Prop} {start state : σ}
    (reach : Reach (Under moves condition) start state) : Reach moves start state := by
  induction reach with
  | refl => exact .refl
  | tail _ move held => exact held.tail move.1

end Relation

section Trace

variable {ε : Type} {does : σ → ε → σ → Prop} {start state next : σ}

/-- A run of a machine whose steps are labelled, with the labels in their order. -/
inductive Trace (does : σ → ε → σ → Prop) (start : σ) : List ε → σ → Prop
  | nil : Trace does start [] start
  | snoc {events : List ε} {state next : σ} {event : ε} (before : Trace does start events state)
      (step : does state event next) : Trace does start (events ++ [event]) next

namespace Trace

/-- A relation between what has happened and the state, kept by one step, holds in every run. -/
theorem keeps {inv : List ε → σ → Prop} (base : inv [] start)
    (kept : ∀ events state event next, inv events state → does state event next →
      inv (events ++ [event]) next) {events : List ε} (trace : Trace does start events state) :
    inv events state := by
  induction trace with
  | nil => exact base
  | snoc _ step held => exact kept _ _ _ _ held step

/-- The same, where the step may use what all events of the run have in common. -/
theorem keeps_among {inv : List ε → σ → Prop} {allowed : ε → Prop} (base : inv [] start)
    (kept : ∀ events state event next, allowed event → inv events state → does state event next →
      inv (events ++ [event]) next) {events : List ε} (trace : Trace does start events state)
    (among : ∀ event ∈ events, allowed event) : inv events state := by
  induction trace with
  | nil => exact base
  | snoc _ step held =>
      have early := held fun event member => among event (List.mem_append_left _ member)
      exact kept _ _ _ _ (among _ (by simp)) early step

theorem imp {stricter : σ → ε → σ → Prop}
    (only : ∀ state event next, stricter state event next → does state event next)
    {events : List ε} (trace : Trace stricter start events state) :
    Trace does start events state := by
  induction trace with
  | nil => exact .nil
  | snoc _ step held => exact held.snoc (only _ _ _ step)

theorem append {first last : List ε} (before : Trace does start first state)
    (after : Trace does state last next) : Trace does start (first ++ last) next := by
  induction after with
  | nil => simpa using before
  | snoc _ step held =>
      rw [← List.append_assoc]
      exact held.snoc step

theorem last {events : List ε} {event : ε} (trace : Trace does start (events ++ [event]) next) :
    ∃ state, Trace does start events state ∧ does state event next := by
  generalize whole : events ++ [event] = all at trace
  cases trace with
  | nil => simp at whole
  | snoc before step =>
      obtain ⟨rfl, rfl⟩ := List.append_inj' whole rfl |>.imp id List.singleton_inj.mp
      exact ⟨_, before, step⟩

theorem split {first later : List ε} (trace : Trace does start (first ++ later) next) :
    ∃ state, Trace does start first state ∧ Trace does state later next := by
  induction later using List.reverseRecOn generalizing next with
  | nil => exact ⟨next, by simpa using trace, .nil⟩
  | append_singleton rest event held =>
      rw [← List.append_assoc] at trace
      obtain ⟨middle, before, step⟩ := trace.last
      obtain ⟨state, begun, ended⟩ := held before
      exact ⟨state, begun, ended.snoc step⟩

theorem uncons {later : List ε} {event : ε} (trace : Trace does start (event :: later) next) :
    ∃ state, does start event state ∧ Trace does state later next := by
  rw [← List.singleton_append] at trace
  obtain ⟨state, begun, ended⟩ := trace.split
  rw [← List.nil_append [event]] at begun
  obtain ⟨origin, nothing, step⟩ := begun.last
  generalize none : [] = events at nothing
  cases nothing with
  | nil => exact ⟨state, step, ended⟩
  | snoc => simp at none

/-- The state in which something of a run happened. -/
theorem at_event {first later : List ε} {event : ε}
    (trace : Trace does start (first ++ event :: later) next) :
    ∃ state after, Trace does start first state ∧ does state event after ∧
      Trace does after later next := by
  rw [List.append_cons] at trace
  obtain ⟨after, begun, ended⟩ := trace.split
  obtain ⟨state, before, step⟩ := begun.last
  exact ⟨state, after, before, step, ended⟩

end Trace

end Trace

end Bscp.Machine
