import Mathlib.Data.List.Basic
import Mathlib.Tactic.Common

/-!
Sequential scripts with exceptions. A script maps a state to an outcome and a
later state: it returns, raises, or is still inside a loop when the fuel of that
loop ends. Handlers catch every raised error and never an unfinished loop, so a
property proved of every outcome also covers the runs that do not end.
-/

namespace Bscp

inductive Outcome (ε α : Type) where
  | done (value : α)
  | raised (error : ε)
  | unfinished
  deriving DecidableEq, Repr

def Script (σ ε α : Type) : Type := σ → Outcome ε α × σ

namespace Script

variable {σ ε α β : Type}

def run (script : Script σ ε α) (state : σ) : Outcome ε α × σ := script state

def ret (value : α) : Script σ ε α := fun state => (.done value, state)

def andThen (first : Script σ ε α) (next : α → Script σ ε β) : Script σ ε β := fun state =>
  match first state with
  | (.done value, middle) => next value middle
  | (.raised error, middle) => (.raised error, middle)
  | (.unfinished, middle) => (.unfinished, middle)

def raise (error : ε) : Script σ ε α := fun state => (.raised error, state)

def handle (body : Script σ ε α) (handler : ε → Script σ ε α) : Script σ ε α := fun state =>
  match body state with
  | (.raised error, middle) => handler error middle
  | other => other

instance : Monad (Script σ ε) where
  pure := ret
  bind := andThen

instance : MonadExceptOf ε (Script σ ε) where
  throw := raise
  tryCatch := handle

def get : Script σ ε σ := fun state => (.done state, state)

def modify (change : σ → σ) : Script σ ε Unit := fun state => (.done (), change state)

/-- Leave a value or an error as it is, ready to be a script's own end. -/
def ofExcept : Except ε α → Script σ ε α
  | .ok value => ret value
  | .error error => raise error

inductive Next (α : Type) where
  | again
  | leave (value : α)

def loop (body : Script σ ε (Next α)) : Nat → Script σ ε α
  | 0 => fun state => (.unfinished, state)
  | fuel + 1 => andThen body fun
      | .again => loop body fuel
      | .leave value => ret value

def each (items : List β) (body : β → Script σ ε Unit) : Script σ ε Unit :=
  match items with
  | [] => ret ()
  | item :: rest => andThen (body item) fun _ => each rest body

def given (condition : Bool) (body : Script σ ε Unit) : Script σ ε Unit :=
  if condition then body else ret ()

/-- The body, then the last part whatever the body's end was. An error of the
last part replaces the body's. -/
def always (body : Script σ ε α) (last : Script σ ε Unit) : Script σ ε α := fun state =>
  match body state with
  | (.done value, middle) => andThen last (fun _ => ret value) middle
  | (.raised error, middle) => andThen last (fun _ => raise error) middle
  | (.unfinished, middle) => (.unfinished, middle)

@[simp] theorem pure_eq (value : α) : (pure value : Script σ ε α) = ret value := rfl

@[simp] theorem bind_eq (first : Script σ ε α) (next : α → Script σ ε β) :
    (first >>= next) = andThen first next := rfl

@[simp] theorem throw_eq (error : ε) : (throw error : Script σ ε α) = raise error := rfl

@[simp] theorem tryCatch_eq (body : Script σ ε α) (handler : ε → Script σ ε α) :
    tryCatch body handler = handle body handler := rfl

/-- Partial correctness with one assertion for each way to end. `open_` is
asserted where a loop has used up its fuel. -/
def Triple (open_ : σ → Prop) (pre : σ → Prop) (script : Script σ ε α)
    (post : α → σ → Prop) (fault : ε → σ → Prop) : Prop :=
  ∀ state, pre state →
    match script state with
    | (.done value, after) => post value after
    | (.raised error, after) => fault error after
    | (.unfinished, after) => open_ after

section Rules

variable {open_ pre : σ → Prop} {post : α → σ → Prop} {fault : ε → σ → Prop}

theorem Triple.ret {value : α} (entails : ∀ state, pre state → post value state) :
    Triple (ε := ε) open_ pre (ret value) post fault :=
  fun state holds => entails state holds

theorem Triple.raise {error : ε} (entails : ∀ state, pre state → fault error state) :
    Triple open_ pre (raise error : Script σ ε α) post fault :=
  fun state holds => entails state holds

theorem Triple.get {post : σ → σ → Prop} (entails : ∀ state, pre state → post state state) :
    Triple (ε := ε) open_ pre get post fault :=
  fun state holds => entails state holds

theorem Triple.modify {change : σ → σ} {post : Unit → σ → Prop}
    (entails : ∀ state, pre state → post () (change state)) :
    Triple (ε := ε) open_ pre (modify change) post fault :=
  fun state holds => entails state holds

/-- Fix the state the script starts from. -/
theorem Triple.start {script : Script σ ε α}
    (fixed : ∀ start, pre start → Triple open_ (fun state => state = start) script post fault) :
    Triple open_ pre script post fault :=
  fun state holds => fixed state holds state rfl

theorem Triple.before {script : Script σ ε α} {pre' : σ → Prop}
    (known : Triple open_ pre' script post fault) (stronger : ∀ state, pre state → pre' state) :
    Triple open_ pre script post fault :=
  fun state holds => known state (stronger state holds)

theorem Triple.andThen {first : Script σ ε α} {next : α → Script σ ε β}
    {m : α → σ → Prop} {post : β → σ → Prop}
    (head : Triple open_ pre first m fault)
    (tail : ∀ value, Triple open_ (m value) (next value) post fault) :
    Triple open_ pre (andThen first next) post fault := by
  intro state holds
  have reached := head state holds
  unfold Script.andThen
  match ends : first state with
  | (.done value, after) => exact tail value after (by simpa [ends] using reached)
  | (.raised error, after) => simpa [ends] using reached
  | (.unfinished, after) => simpa [ends] using reached

theorem Triple.handle {body : Script σ ε α} {handler : ε → Script σ ε α}
    {c : ε → σ → Prop}
    (main : Triple open_ pre body post c)
    (rescue : ∀ error, Triple open_ (c error) (handler error) post fault) :
    Triple open_ pre (handle body handler) post fault := by
  intro state holds
  have reached := main state holds
  unfold Script.handle
  match ends : body state with
  | (.done value, after) => simpa [ends] using reached
  | (.raised error, after) => exact rescue error after (by simpa [ends] using reached)
  | (.unfinished, after) => simpa [ends] using reached

theorem Triple.always {body : Script σ ε α} {last : Script σ ε Unit}
    {m : α → σ → Prop} {c : ε → σ → Prop}
    (main : Triple open_ pre body m c)
    (ordinary : ∀ value, Triple open_ (m value) last (fun _ => post value) fault)
    (failed : ∀ error, Triple open_ (c error) last (fun _ => fault error) fault) :
    Triple open_ pre (always body last) post fault := by
  intro state holds
  have reached := main state holds
  unfold Script.always
  match ends : body state with
  | (.done value, middle) =>
      exact (ordinary value).andThen (fun _ => Triple.ret fun _ holds => holds) middle
        (by simpa [ends] using reached)
  | (.raised error, middle) =>
      exact (failed error).andThen (fun _ => Triple.raise fun _ holds => holds) middle
        (by simpa [ends] using reached)
  | (.unfinished, middle) => simpa [ends] using reached

theorem Triple.consequence {script : Script σ ε α} {pre' : σ → Prop} {post' : α → σ → Prop}
    {fault' : ε → σ → Prop} (known : Triple open_ pre' script post' fault')
    (stronger : ∀ state, pre state → pre' state)
    (weaker : ∀ value state, post' value state → post value state)
    (milder : ∀ error state, fault' error state → fault error state) :
    Triple open_ pre script post fault := by
  intro state holds
  have reached := known state (stronger state holds)
  match ends : script state with
  | (.done value, after) => exact weaker value after (by simpa [ends] using reached)
  | (.raised error, after) => exact milder error after (by simpa [ends] using reached)
  | (.unfinished, after) => simpa [ends] using reached

theorem Triple.loosen {script : Script σ ε α} {open' : σ → Prop}
    (known : Triple open' pre script post fault) (weaker : ∀ state, open' state → open_ state) :
    Triple open_ pre script post fault := by
  intro state holds
  have reached := known state holds
  match ends : script state with
  | (.done value, after) => simpa [ends] using reached
  | (.raised error, after) => simpa [ends] using reached
  | (.unfinished, after) => exact weaker after (by simpa [ends] using reached)

/-- Two assertions about one run. -/
theorem Triple.both {script : Script σ ε α} {open' pre' : σ → Prop} {post' : α → σ → Prop}
    {fault' : ε → σ → Prop} (one : Triple open_ pre script post fault)
    (other : Triple open' pre' script post' fault') :
    Triple open_ (fun state => pre state ∧ pre' state) script
      (fun value state => post value state ∧ post' value state)
      (fun error state => fault error state ∧ fault' error state) := by
  intro state holds
  have first := one state holds.1
  have second := other state holds.2
  match ends : script state with
  | (.done value, after) => simpa [ends] using And.intro first second
  | (.raised error, after) => simpa [ends] using And.intro first second
  | (.unfinished, after) => simpa [ends] using first

theorem Triple.ite {condition : Prop} [Decidable condition] {yes no : Script σ ε α}
    (taken : condition → Triple open_ pre yes post fault)
    (skipped : ¬ condition → Triple open_ pre no post fault) :
    Triple open_ pre (if condition then yes else no) post fault := by
  by_cases holds : condition
  · simpa [holds] using taken holds
  · simpa [holds] using skipped holds

theorem Triple.given {condition : Bool} {body : Script σ ε Unit} {post : Unit → σ → Prop}
    (taken : condition = true → Triple open_ pre body post fault)
    (skipped : condition = false → ∀ state, pre state → post () state) :
    Triple open_ pre (given condition body) post fault := by
  cases condition with
  | true => exact taken rfl
  | false => exact Triple.ret (skipped rfl)

/-- The invariant is asserted before every round; the fuel only bounds how many
rounds are looked at. -/
theorem Triple.loop {body : Script σ ε (Next α)} {i : σ → Prop}
    (round : Triple open_ i body
      (fun next state => match next with
        | .again => i state
        | .leave value => post value state) fault)
    (spent : ∀ state, i state → open_ state) (fuel : Nat) :
    Triple open_ i (loop body fuel) post fault := by
  induction fuel with
  | zero => exact fun state holds => spent state holds
  | succ fuel ih =>
      refine Triple.andThen round fun next => ?_
      cases next with
      | again => exact ih
      | leave value => exact Triple.ret fun _ reached => reached

/-- A loop whose rounds lower a measure ends before its fuel does. -/
theorem Triple.loopEnds {body : Script σ ε (Next α)} {i : σ → Prop} {m : σ → Nat}
    (round : ∀ n, Triple open_ (fun state => i state ∧ m state = n) body
      (fun next state => match next with
        | .again => i state ∧ m state < n
        | .leave value => post value state) fault) (fuel : Nat) :
    Triple open_ (fun state => i state ∧ m state < fuel) (Script.loop body fuel) post fault := by
  induction fuel with
  | zero => exact fun state holds => absurd holds.2 (Nat.not_lt_zero _)
  | succ fuel ih =>
      apply Triple.start
      rintro start ⟨holds, short⟩
      refine Triple.andThen ((round (m start)).before ?_) fun next => ?_
      · rintro state rfl
        exact ⟨holds, rfl⟩
      cases next with
      | again => exact ih.before fun state reached => ⟨reached.1, by omega⟩
      | leave value => exact Triple.ret fun _ reached => reached

theorem Triple.each {body : β → Script σ ε Unit} {i : List β → σ → Prop}
    (items : List β)
    (step : ∀ item rest, Triple open_ (i (item :: rest)) (body item) (fun _ => i rest) fault) :
    Triple open_ (i items) (each items body) (fun _ => i []) fault := by
  induction items with
  | nil => exact Triple.ret fun _ holds => holds
  | cons item rest ih => exact Triple.andThen (step item rest) fun _ => ih

end Rules

/-- An assertion that no step of the script can break, however the script ends. -/
def Keeps (invariant : σ → Prop) (script : Script σ ε α) : Prop :=
  ∀ state, invariant state → invariant (script state).2

theorem keeps_iff {invariant : σ → Prop} {script : Script σ ε α} :
    Keeps invariant script ↔
      Triple invariant invariant script (fun _ => invariant) (fun _ => invariant) := by
  refine forall_congr' fun state => imp_congr_right fun _ => ?_
  match script state with
  | (.done _, _) => rfl
  | (.raised _, _) => rfl
  | (.unfinished, _) => rfl

theorem andThen_assoc {γ : Type} (first : Script σ ε α) (next : α → Script σ ε β)
    (last : β → Script σ ε γ) :
    andThen (andThen first next) last = andThen first fun value => andThen (next value) last := by
  funext state
  simp only [andThen]
  match first state with
  | (.done _, _) => rfl
  | (.raised _, _) => rfl
  | (.unfinished, _) => rfl

theorem each_append (items more : List β) (body : β → Script σ ε Unit) :
    each (items ++ more) body = andThen (each items body) fun _ => each more body := by
  induction items with
  | nil => rfl
  | cons item rest ih =>
      simp only [List.cons_append, each, andThen_assoc, ih]

/-- What a first part has reached stays true when later parts keep it. -/
theorem Keeps.after {invariant : σ → Prop} {first : Script σ ε α} {next : α → Script σ ε β}
    (kept : ∀ value, Keeps invariant (next value)) {state : σ}
    (reached : invariant (first state).2) : invariant (andThen first next state).2 := by
  unfold Script.andThen
  match ends : first state with
  | (.done value, middle) => exact kept value middle (by simpa [ends] using reached)
  | (.raised error, middle) => simpa [ends] using reached
  | (.unfinished, middle) => simpa [ends] using reached

/-- A caller that ignores what each part raises. -/
theorem Keeps.rescued {invariant : σ → Prop} {body : β → Script σ ε Unit}
    (kept : ∀ item, Keeps invariant (body item)) (items : List β) :
    Keeps invariant (each items fun item => handle (body item) fun _ => ret ()) := by
  refine keeps_iff.mpr (Triple.each (i := fun _ => invariant) items fun item _ => ?_)
  exact Triple.handle (c := fun _ => invariant) (keeps_iff.mp (kept item))
    fun _ => Triple.ret fun _ holds => holds

/-- However the script ends, the later state is related to the earlier one. -/
def Within (r : σ → σ → Prop) (script : Script σ ε α) : Prop :=
  ∀ state, r state (script state).2

section Within

variable {r : σ → σ → Prop}

/-- An assertion that follows the relation is kept. -/
theorem Within.triple {script : Script σ ε α} {p : σ → Prop} (within : Within r script)
    (follows : ∀ state later, p state → r state later → p later) :
    Triple p p script (fun _ => p) (fun _ => p) :=
  keeps_iff.mp fun state holds => follows state _ holds (within state)

variable [IsPreorder σ r]

theorem Within.ret (value : α) : Within r (ret value : Script σ ε α) := fun state => refl_of r state

theorem Within.raise (error : ε) : Within r (raise error : Script σ ε α) :=
  fun state => refl_of r state

theorem Within.andThen {first : Script σ ε α} {next : α → Script σ ε β} (head : Within r first)
    (tail : ∀ value, Within r (next value)) : Within r (andThen first next) := by
  intro state
  have reached := head state
  unfold Script.andThen
  match ends : first state with
  | (.done value, middle) =>
      rw [ends] at reached
      exact trans_of r reached (tail value middle)
  | (.raised error, middle) => simpa [ends] using reached
  | (.unfinished, middle) => simpa [ends] using reached

theorem Within.handle {body : Script σ ε α} {handler : ε → Script σ ε α} (main : Within r body)
    (rescue : ∀ error, Within r (handler error)) : Within r (handle body handler) := by
  intro state
  have reached := main state
  unfold Script.handle
  match ends : body state with
  | (.done value, middle) => simpa [ends] using reached
  | (.raised error, middle) =>
      rw [ends] at reached
      exact trans_of r reached (rescue error middle)
  | (.unfinished, middle) => simpa [ends] using reached

theorem Within.given {condition : Bool} {body : Script σ ε Unit} (taken : Within r body) :
    Within r (given condition body) := by
  cases condition with
  | true => exact taken
  | false => exact Within.ret ()

theorem Within.each {body : β → Script σ ε Unit} (step : ∀ item, Within r (body item))
    (items : List β) : Within r (each items body) := by
  induction items with
  | nil => exact Within.ret ()
  | cons item rest ih => exact Within.andThen (step item) fun _ => ih

end Within

end Script

end Bscp
