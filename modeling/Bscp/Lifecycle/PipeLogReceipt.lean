import Bscp.Lifecycle.PipeLogSafety

/-!
A receipt is read field by field while the reader goes on. What it is trusted for does not change
behind the fields that have been read: there is no writer behind the end of the stream, and the
file stays as it is once the reader has finished.
-/

namespace Bscp.PipeLog

variable {ι : Type}

structure Later (state next : State ι) : Prop where
  eof : state.eof = true → next.eof = true ∧ next.written = state.written
  finished : state.finished = true → next.finished = true ∧ next.dropped = state.dropped ∧
    next.kept = state.kept ∧ next.content = state.content ∧ next.consumed = state.consumed

structure Aside (state next : State ι) : Prop where
  limit : next.limit = state.limit
  eof : next.eof = state.eof
  finished : next.finished = state.finished
  written : next.written = state.written
  consumed : next.consumed = state.consumed
  content : next.content = state.content
  kept : next.kept = state.kept
  dropped : next.dropped = state.dropped
  reader : next.reader = state.reader
  errors : next.errors = state.errors ∧ next.error = state.error ∨
    next.errors = state.errors ++ [Operation.closeWrite] ∧ next.error ≠ none

theorem Aside.later {state next : State ι} (aside : Aside state next) : Later state next :=
  ⟨fun eof => ⟨aside.eof.trans eof, aside.written⟩, fun finished =>
    ⟨aside.finished.trans finished, aside.dropped, aside.kept, aside.content, aside.consumed⟩⟩

theorem reader_later {state next : State ι} {choice : Choice} (core : Core state)
    (step : readerStep state choice = some next) : Later state next where
  eof := by
    intro eof
    have past := (core.closed eof).2.2
    cases reader : state.reader <;> simp only [reader, Reader.Over] at past <;>
      simp only [readerStep, reader] at step
    case closingRead | closingFile =>
      split at step <;> obtain rfl := Option.some.inj step <;> exact ⟨eof, rfl⟩
    case finishing | ending => obtain rfl := Option.some.inj step; exact ⟨eof, rfl⟩
    case ended => cases step
  finished := by
    intro finished
    cases core.finished finished with
    | inl ending =>
        simp only [readerStep, ending, Option.some.injEq] at step
        subst step
        exact ⟨finished, rfl, rfl, rfl, rfl⟩
    | inr ended => simp [readerStep, ended] at step

section

variable [DecidableEq ι]

theorem caller_aside {state next : State ι} {caller : ι} {action : Action}
    (step : callerStep state caller action = some next) : Aside state next := by
  unfold callerStep at step
  split at step <;> try cases step
  case h_9 => exact ⟨rfl, rfl, rfl, rfl, rfl, rfl, rfl, rfl, rfl, .inr ⟨rfl, nofun⟩⟩
  case h_11 =>
    split at step <;> cases step <;>
      exact ⟨rfl, rfl, rfl, rfl, rfl, rfl, rfl, rfl, rfl, .inl ⟨rfl, rfl⟩⟩
  all_goals exact ⟨rfl, rfl, rfl, rfl, rfl, rfl, rfl, rfl, rfl, .inl ⟨rfl, rfl⟩⟩

/-- What the writers do has no effect on anything else; none of them writes behind the end. -/
theorem writer_later {state next : State ι} {move : Move ι} (core : Core state)
    (step : PipeLog.step state move = some next) (writer : ∀ choice, move ≠ .reader choice)
    (other : ∀ caller action, move ≠ .caller caller action) :
    Later state next ∧ next.callers = state.callers ∧ next.receipts = state.receipts := by
  have wide (ends : 0 < state.ends) : state.eof ≠ true := fun eof =>
    absurd (core.closed eof).2.1 (by omega)
  cases move with
  | reader choice => exact absurd rfl (writer choice)
  | caller caller action => exact absurd rfl (other caller action)
  | write bytes | share | release =>
      simp only [PipeLog.step] at step
      split at step
      case isFalse => cases step
      case isTrue ends =>
        obtain rfl := Option.some.inj step
        exact ⟨⟨fun eof => absurd eof (wide ends), fun finished => ⟨finished, rfl, rfl, rfl, rfl⟩⟩,
          rfl, rfl⟩

end

/-! ### Receipts -/

structure Known (state : State ι) (field : Nat) (receipt : Receipt) : Prop where
  eof : receipt.eof = true → state.eof = true
  finished : receipt.finished = true → state.finished = true
  dropped : 4 < field → receipt.finished = true → receipt.dropped = 0 → state.dropped = 0
  stored : 5 < field → receipt.finished = true → receipt.error = none →
    state.content = state.consumed.take state.kept

theorem Known.later {state next : State ι} {field : Nat} {receipt : Receipt}
    (known : Known state field receipt) (later : Later state next) : Known next field receipt where
  eof := fun eof => (later.eof (known.eof eof)).1
  finished := fun finished => (later.finished (known.finished finished)).1
  dropped := fun read finished none =>
    (later.finished (known.finished finished)).2.1.trans (known.dropped read finished none)
  stored := fun read finished none => by
    obtain ⟨_, _, kept, content, consumed⟩ := later.finished (known.finished finished)
    rw [kept, content, consumed]
    exact known.stored read finished none

theorem Core.stored {state : State ι} (core : Core state) (finished : state.finished = true)
    (error : state.error = none) : state.content = state.consumed.take state.kept := by
  have past : state.reader.Over := by
    cases core.finished finished with
    | inl ending => rw [ending]; trivial
    | inr ended => rw [ended]; trivial
  exact ((Reader.Between.filed (.inr past) core.filed).2.2 error).1

theorem Known.receive {state : State ι} {field : Nat} {receipt : Receipt} (core : Core state)
    (known : Known state field receipt) :
    Known state (field + 1) (receive state field receipt) := by
  have dropped := known.dropped
  have stored := known.stored
  match field with
  | 0 => exact ⟨id, known.finished, nofun, nofun⟩
  | 1 => exact ⟨known.eof, id, nofun, nofun⟩
  | 2 | 3 => exact ⟨known.eof, known.finished, nofun, nofun⟩
  | 4 => exact ⟨known.eof, known.finished, fun _ _ none => none, nofun⟩
  | 5 =>
      exact ⟨known.eof, known.finished, fun _ => dropped (by omega), fun _ finished error =>
        core.stored (known.finished finished) error⟩
  | 6 =>
      exact ⟨known.eof, known.finished, fun _ => dropped (by omega), fun _ => stored (by omega)⟩
  | field + 7 =>
      exact ⟨known.eof, known.finished, fun _ => dropped (by omega), fun _ => stored (by omega)⟩

theorem Known.last {state : State ι} {field : Nat} {receipt : Receipt}
    (known : Known state field receipt) (last : 7 < field) : Known state 8 receipt :=
  { known with
    dropped := fun _ => known.dropped (by omega)
    stored := fun _ => known.stored (by omega) }

/-- A receipt without a loss is returned only when the file is the stream. -/
theorem Known.whole {state : State ι} {receipt : Receipt} (core : Core state)
    (known : Known state 8 receipt) (eof : receipt.eof = true) (finished : receipt.finished = true)
    (error : receipt.error = none) (dropped : receipt.dropped = 0) :
    state.content = state.written := by
  obtain ⟨empty, _, past⟩ := core.closed (known.eof eof)
  have none := known.dropped (by decide) finished dropped
  have counted := core.counted
  have length := core.length_consumed
  have past : state.reader.uncounted = 0 ∧ state.reader.data = [] := by
    cases reader : state.reader <;>
      simp [reader, Reader.Over, Reader.uncounted, Reader.data] at past ⊢
  rw [past.2, List.length_nil] at length
  rw [known.stored (by decide) finished error, core.stream, empty, List.append_nil,
    List.take_of_length_le (by omega)]

structure Filled (state : State ι) : Prop where
  reading : ∀ caller field receipt, state.callers caller = .receiving field receipt →
    Known state field receipt
  read : ∀ receipt ∈ state.receipts, Known state 8 receipt

theorem Filled.later {state next : State ι} (filled : Filled state) (later : Later state next)
    (callers : next.callers = state.callers) (receipts : next.receipts = state.receipts) :
    Filled next where
  reading := fun caller field receipt at_ =>
    (filled.reading caller field receipt (callers ▸ at_)).later later
  read := fun receipt member => (filled.read receipt (receipts ▸ member)).later later

structure Apart (state next : State ι) : Prop where
  callers : next.callers = state.callers
  receipts : next.receipts = state.receipts
  attempted : next.writeCloseAttempted = state.writeCloseAttempted
  closes : next.closes = state.closes

theorem reader_apart {state next : State ι} {choice : Choice}
    (step : readerStep state choice = some next) : Apart state next := by
  unfold readerStep at step
  split at step
  case h_1 =>
    split at step
    · cases step; exact ⟨rfl, rfl, rfl, rfl⟩
    · split at step
      · split at step <;> cases step; exact ⟨rfl, rfl, rfl, rfl⟩
      · cases step; exact ⟨rfl, rfl, rfl, rfl⟩
  case h_3 | h_4 | h_7 | h_8 => split at step <;> cases step <;> exact ⟨rfl, rfl, rfl, rfl⟩
  all_goals cases step
  all_goals exact ⟨rfl, rfl, rfl, rfl⟩

variable [DecidableEq ι]

/-- The phase that a caller comes to, with the receipts that are finished. -/
theorem filled_call {state next : State ι} {caller : ι} {phase : Caller} (filled : Filled state)
    (later : Later state next) (callers : next.callers = Function.update state.callers caller phase)
    (receipts : ∀ receipt ∈ next.receipts, Known state 8 receipt)
    (known : ∀ field receipt, phase = .receiving field receipt → Known state field receipt) :
    Filled next where
  reading := by
    intro other field receipt at_
    rw [callers] at at_
    by_cases same : other = caller
    · subst same
      rw [Function.update_self] at at_
      exact (known field receipt at_).later later
    · rw [Function.update_of_ne same] at at_
      exact (filled.reading other field receipt at_).later later
  read := fun receipt member => (receipts receipt member).later later

theorem after_ne {within : Bool} {field : Nat} {receipt : Receipt} :
    Caller.after within ≠ .receiving field receipt := by
  cases within <;> simp [Caller.after]

theorem filled_caller {state next : State ι} {caller : ι} {action : Action} (core : Core state)
    (filled : Filled state) (step : callerStep state caller action = some next) : Filled next := by
  have later := (caller_aside step).later
  cases phase : state.callers caller with
  | idle =>
      cases action <;> simp only [callerStep, phase, reduceCtorEq, Option.some.injEq] at step <;>
        subst step
      all_goals exact filled_call filled later rfl filled.read nofun
  | looking =>
      cases action <;> simp only [callerStep, phase, reduceCtorEq, Option.some.injEq] at step
      subst step
      refine filled_call filled later rfl filled.read fun _ _ same => ?_
      split at same <;> cases same
  | lookingMark =>
      cases action <;> simp only [callerStep, phase, reduceCtorEq, Option.some.injEq] at step
      subst step
      refine filled_call filled later rfl filled.read fun _ _ same => ?_
      split at same <;> cases same
  | checking within =>
      cases action <;> simp only [callerStep, phase, reduceCtorEq, Option.some.injEq] at step
      subst step
      refine filled_call filled later rfl filled.read fun _ _ same => ?_
      split at same
      · exact absurd same after_ne
      · cases same
  | marking within =>
      cases action <;> simp only [callerStep, phase, reduceCtorEq, Option.some.injEq] at step
      subst step
      exact filled_call filled later rfl filled.read nofun
  | closing within =>
      cases action <;> simp only [callerStep, phase, reduceCtorEq, Option.some.injEq] at step
      subst step
      refine filled_call filled later rfl filled.read fun _ _ same => ?_
      split at same <;> cases same
  | clearing within | faulting within =>
      cases action <;> simp only [callerStep, phase, reduceCtorEq, Option.some.injEq] at step
      subst step
      exact filled_call filled later rfl filled.read fun _ _ same => absurd same after_ne
  | joining =>
      cases action <;> simp only [callerStep, phase, reduceCtorEq, Option.some.injEq] at step
      subst step
      refine filled_call filled later rfl filled.read fun _ _ same => ?_
      cases same
      exact ⟨nofun, nofun, nofun, nofun⟩
  | receiving field receipt =>
      have known := (filled.reading caller field receipt phase).receive core
      cases action <;> simp only [callerStep, phase, reduceCtorEq] at step
      split at step <;> obtain rfl := Option.some.inj step
      case isTrue =>
        refine filled_call filled later rfl filled.read fun _ _ same => ?_
        cases same
        exact known
      case isFalse last =>
        refine filled_call filled later rfl (fun other member => ?_) nofun
        cases member with
        | head => exact known.last (by omega)
        | tail _ member => exact filled.read other member

theorem filled_step {state next : State ι} (core : Core state) (filled : Filled state)
    (moves : Moves state next) : Filled next := by
  obtain ⟨move, step⟩ := moves
  cases move with
  | reader choice =>
      have apart := reader_apart step
      exact filled.later (reader_later core step) apart.callers apart.receipts
  | caller caller action => exact filled_caller core filled step
  | write | share | release =>
      obtain ⟨later, callers, receipts⟩ := writer_later core step nofun nofun
      exact filled.later later callers receipts

theorem filled_reach {limit : Int} {state : State ι}
    (reach : Machine.Reach Moves { limit := limit } state) : Filled state := by
  induction reach with
  | refl => exact ⟨nofun, nofun⟩
  | tail before moves filled => exact filled_step (core_reach before) filled moves

end Bscp.PipeLog
