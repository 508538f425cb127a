import Bscp.Lifecycle.PipeLogReceipt

/-!
Whole runs of a pipe log: what is counted as kept once there is an error, and how often the write
end is closed.
-/

namespace Bscp.PipeLog

variable {ι : Type}

/-! ### Errors -/

/-- What an error says about the iteration: only a failed close of the write end leaves one that
still counts its bytes. -/
structure Blamed (state : State ι) : Prop where
  recorded : state.errors ≠ [] → state.error ≠ none
  own : ∀ operation ∈ state.errors, operation ≠ .closeWrite → state.reader.inFlight = 0

structure Flown (state next : State ι) : Prop where
  kept : next.kept = state.kept ∨
    next.kept = state.kept + state.reader.inFlight ∧ next.reader.inFlight = 0
  flight : next.reader.inFlight = 0 ∨ next.reader.inFlight = state.reader.inFlight ∨
    state.error = none
  errors : next.errors = state.errors ∧ next.error = state.error ∨
    next.reader.inFlight = 0 ∧ next.error ≠ none

theorem reader_flown {state next : State ι} {choice : Choice}
    (step : readerStep state choice = some next) : Flown state next := by
  cases reader : state.reader with
  | reading =>
      simp only [readerStep, reader] at step
      split at step
      case isTrue =>
        cases step
        exact ⟨.inl rfl, .inl rfl, .inr ⟨rfl, Option.some_ne_none _⟩⟩
      case isFalse =>
        split at step
        · split at step <;> cases step
          exact ⟨.inl rfl, .inl rfl, .inl ⟨rfl, rfl⟩⟩
        · cases step
          exact ⟨.inl rfl, .inl rfl, .inl ⟨rfl, rfl⟩⟩
  | counting data =>
      simp only [readerStep, reader, Option.some.injEq] at step
      subst step
      refine ⟨.inl rfl, ?_, .inl ⟨rfl, rfl⟩⟩
      cases error : state.error with
      | none => exact .inr (.inr rfl)
      | some operation => exact .inl (by simp [Reader.inFlight])
  | writing data n =>
      simp only [readerStep, reader] at step
      split at step <;> obtain rfl := Option.some.inj step
      case isTrue => exact ⟨.inl rfl, .inl rfl, .inr ⟨rfl, Option.some_ne_none _⟩⟩
      case isFalse => exact ⟨.inl rfl, .inr (.inl (by rw [reader]; rfl)), .inl ⟨rfl, rfl⟩⟩
  | flushing data n =>
      simp only [readerStep, reader] at step
      split at step <;> obtain rfl := Option.some.inj step
      case isTrue => exact ⟨.inl rfl, .inl rfl, .inr ⟨rfl, Option.some_ne_none _⟩⟩
      case isFalse => exact ⟨.inl rfl, .inr (.inl (by rw [reader]; rfl)), .inl ⟨rfl, rfl⟩⟩
  | keeping data n =>
      simp only [readerStep, reader, Option.some.injEq] at step
      subst step
      exact ⟨.inr ⟨by rw [reader]; rfl, rfl⟩, .inl rfl, .inl ⟨rfl, rfl⟩⟩
  | closingRead | closingFile =>
      simp only [readerStep, reader] at step
      split at step <;> obtain rfl := Option.some.inj step
      case isTrue => exact ⟨.inl rfl, .inl rfl, .inr ⟨rfl, Option.some_ne_none _⟩⟩
      case isFalse => exact ⟨.inl rfl, .inl rfl, .inl ⟨rfl, rfl⟩⟩
  | dropping | finishing | ending =>
      simp only [readerStep, reader, Option.some.injEq] at step
      subst step
      exact ⟨.inl rfl, .inl rfl, .inl ⟨rfl, rfl⟩⟩
  | ended => simp [readerStep, reader] at step

variable [DecidableEq ι]

theorem flown_or_aside {state next : State ι} (moves : Moves state next) :
    Flown state next ∨ next.kept = state.kept ∧ next.reader = state.reader ∧
      (next.errors = state.errors ∧ next.error = state.error ∨
        next.errors = state.errors ++ [Operation.closeWrite] ∧ next.error ≠ none) := by
  obtain ⟨move, step⟩ := moves
  cases move with
  | reader choice => exact .inl (reader_flown step)
  | caller caller action =>
      have aside := caller_aside step
      exact .inr ⟨aside.kept, aside.reader, aside.errors⟩
  | write | share | release =>
      simp only [PipeLog.step] at step
      split at step <;> cases step
      exact .inr ⟨rfl, rfl, .inl ⟨rfl, rfl⟩⟩

theorem blamed_step {state next : State ι} (blamed : Blamed state) (moves : Moves state next) :
    Blamed next := by
  obtain flown | ⟨-, reader, errors⟩ := flown_or_aside moves
  case inl =>
    obtain ⟨errors, error⟩ | ⟨past, error⟩ := flown.errors
    case inr => exact ⟨fun _ => error, fun _ _ _ => past⟩
    case inl =>
      refine ⟨by rw [errors, error]; exact blamed.recorded, fun operation member own => ?_⟩
      rw [errors] at member
      obtain past | same | none := flown.flight
      · exact past
      · rw [same]
        exact blamed.own operation member own
      · exact absurd none (blamed.recorded (List.ne_nil_of_mem member))
  case inr =>
    obtain ⟨errors, error⟩ | ⟨errors, error⟩ := errors
    case inl =>
      refine ⟨by rw [errors, error]; exact blamed.recorded, ?_⟩
      rw [errors, reader]
      exact blamed.own
    case inr =>
      refine ⟨fun _ => error, fun operation member own => ?_⟩
      rw [errors] at member
      rw [reader]
      obtain member | last := List.mem_append.mp member
      · exact blamed.own operation member own
      · exact absurd (List.mem_singleton.mp last) own

theorem blamed_reach {limit : Int} {state : State ι}
    (reach : Machine.Reach Moves { limit := limit } state) : Blamed state := by
  have base : Blamed ({ limit := limit } : State ι) := ⟨fun some => absurd rfl some, nofun⟩
  exact Machine.reach_keeps base (fun _ _ blamed moves => blamed_step blamed moves) reach

/-- Once there is an error, at most the bytes of the iteration that has not seen it are counted. -/
theorem kept_settled {state later : State ι} (error : state.error ≠ none)
    (reach : Machine.Reach Moves state later) :
    later.error ≠ none ∧
      (later.kept = state.kept ∧
          (later.reader.inFlight = 0 ∨ later.reader.inFlight = state.reader.inFlight) ∨
        later.kept = state.kept + state.reader.inFlight ∧ later.reader.inFlight = 0) := by
  induction reach with
  | refl => exact ⟨error, .inl ⟨rfl, .inr rfl⟩⟩
  | @tail middle next _ moves held =>
      obtain ⟨error, held⟩ := held
      obtain flown | ⟨kept, reader, errors⟩ := flown_or_aside moves
      case inr =>
        refine ⟨?_, by rw [kept, reader]; exact held⟩
        obtain same | more := errors
        · exact same.2 ▸ error
        · exact more.2
      case inl =>
        refine ⟨?_, ?_⟩
        · obtain same | more := flown.errors
          · exact same.2 ▸ error
          · exact more.2
        · have flight := flown.flight
          have kept := flown.kept
          simp only [error, or_false] at flight
          omega

/-! ### Closing the write end -/

def Sole (state : State ι) : Prop :=
  ∀ caller other, state.callers caller ≠ .idle → state.callers other ≠ .idle → caller = other

structure Once (state : State ι) : Prop where
  fresh : state.writeCloseAttempted = false → state.closes = 0
  marking : ∀ caller within, state.callers caller = .marking within →
    state.writeCloseAttempted = false
  closing : ∀ caller within, state.callers caller = .closing within →
    state.writeCloseAttempted = true ∧ state.closes = 0
  most : state.closes ≤ 1

/-- A step of a caller that neither marks the write end nor closes it. -/
theorem Once.call {state next : State ι} {caller : ι} {phase : Caller} (once : Once state)
    (attempted : next.writeCloseAttempted = state.writeCloseAttempted)
    (closes : next.closes = state.closes)
    (callers : next.callers = Function.update state.callers caller phase)
    (marking : ∀ within, phase = .marking within → state.writeCloseAttempted = false)
    (closing : ∀ within, phase ≠ .closing within) : Once next where
  fresh := by rw [attempted, closes]; exact once.fresh
  marking := by
    intro other within at_
    rw [callers] at at_
    rw [attempted]
    by_cases same : other = caller
    · subst same
      rw [Function.update_self] at at_
      exact marking within at_
    · rw [Function.update_of_ne same] at at_
      exact once.marking other within at_
  closing := by
    intro other within at_
    rw [callers] at at_
    rw [attempted, closes]
    by_cases same : other = caller
    · subst same
      rw [Function.update_self] at at_
      exact absurd at_ (closing within)
    · rw [Function.update_of_ne same] at at_
      exact once.closing other within at_
  most := closes ▸ once.most

/-- Nobody else is in a call. -/
theorem Sole.others {state : State ι} {caller other : ι} {phase current : Caller}
    (sole : Sole state) (busy : state.callers caller ≠ .idle) (active : phase ≠ .idle)
    (at_ : Function.update state.callers caller current other = phase) :
    other = caller ∧ current = phase := by
  by_cases same : other = caller
  · subst same
    exact ⟨rfl, by simpa using at_⟩
  · rw [Function.update_of_ne same] at at_
    exact absurd (sole caller other busy (at_ ▸ active)).symm same

theorem once_caller {state next : State ι} {caller : ι} {action : Action} (once : Once state)
    (sole : Sole state) (step : callerStep state caller action = some next) : Once next := by
  cases phase : state.callers caller with
  | idle =>
      cases action <;> simp only [callerStep, phase, reduceCtorEq, Option.some.injEq] at step <;>
        subst step
      all_goals exact once.call rfl rfl rfl (fun _ same => by cases same) fun _ same => by cases same
  | looking | lookingMark =>
      cases action <;> simp only [callerStep, phase, reduceCtorEq, Option.some.injEq] at step
      subst step
      refine once.call rfl rfl rfl (fun _ same => ?_) fun _ same => ?_ <;>
        split at same <;> cases same
  | checking within =>
      cases action <;> simp only [callerStep, phase, reduceCtorEq, Option.some.injEq] at step
      subst step
      refine once.call rfl rfl rfl (fun _ same => ?_) fun _ same => ?_ <;> split at same
      case refine_1.isTrue | refine_2.isTrue => cases within <;> cases same
      case refine_1.isFalse fresh => simpa using fresh
      case refine_2.isFalse => cases same
  | marking within =>
      cases action <;> simp only [callerStep, phase, reduceCtorEq, Option.some.injEq] at step
      subst step
      have fresh := once.marking caller within phase
      exact {
        fresh := fun fresh => by cases fresh
        marking := fun other _ at_ => by
          cases (sole.others (by simp [phase]) (by simp) at_).2
        closing := fun other _ at_ => ⟨rfl, once.fresh fresh⟩
        most := once.most }
  | closing within =>
      cases action <;> simp only [callerStep, phase, reduceCtorEq, Option.some.injEq] at step
      subst step
      obtain ⟨attempted, closes⟩ := once.closing caller within phase
      exact {
        fresh := fun fresh => by cases attempted.symm.trans fresh
        marking := fun other _ at_ => by
          have := (sole.others (by simp [phase]) (by simp) at_).2
          split at this <;> cases this
        closing := fun other _ at_ => by
          have := (sole.others (by simp [phase]) (by simp) at_).2
          split at this <;> cases this
        most := by simp [closes] }
  | clearing within | faulting within =>
      cases action <;> simp only [callerStep, phase, reduceCtorEq, Option.some.injEq] at step
      subst step
      refine once.call rfl rfl rfl (fun _ same => ?_) fun _ same => ?_ <;>
        cases within <;> cases same
  | joining =>
      cases action <;> simp only [callerStep, phase, reduceCtorEq, Option.some.injEq] at step
      subst step
      exact once.call rfl rfl rfl (fun _ same => by cases same) fun _ same => by cases same
  | receiving field receipt =>
      cases action <;> simp only [callerStep, phase, reduceCtorEq] at step
      split at step <;> obtain rfl := Option.some.inj step <;>
        exact once.call rfl rfl rfl (fun _ same => by cases same) fun _ same => by cases same

theorem once_step {state next : State ι} (once : Once state) (sole : Sole state)
    (moves : Moves state next) : Once next := by
  obtain ⟨move, step⟩ := moves
  cases move with
  | reader choice =>
      have apart := reader_apart step
      exact {
        fresh := by rw [apart.attempted, apart.closes]; exact once.fresh
        marking := by rw [apart.callers, apart.attempted]; exact once.marking
        closing := by rw [apart.callers, apart.attempted, apart.closes]; exact once.closing
        most := apart.closes ▸ once.most }
  | caller caller action => exact once_caller once sole step
  | write | share | release =>
      simp only [PipeLog.step] at step
      split at step <;> cases step
      exact { once with }

theorem once_reach {limit : Int} {state : State ι} (reach : Machine.Reach
      (Machine.Under Moves fun state _ => Sole state) { limit := limit } state) :
    Once state := by
  have base : Once ({ limit := limit } : State ι) := ⟨fun _ => rfl, nofun, nofun, Nat.zero_le _⟩
  exact Machine.reach_keeps base (fun _ _ once moves => once_step once moves.2 moves.1) reach

/-! ### The log -/

def run (state : State ι) : List (Move ι) → Option (State ι)
  | [] => some state
  | move :: rest => (step state move).bind fun next => run next rest

theorem reach_run (moves : List (Move ι)) : ∀ {state next : State ι},
    run state moves = some next → Machine.Reach Moves state next := by
  induction moves with
  | nil =>
      rintro state _ ⟨⟩
      exact .refl
  | cons move rest following =>
      intro state last ran
      obtain ⟨next, step, ran⟩ := Option.bind_eq_some_iff.mp ran
      exact .head ⟨move, step⟩ (following ran)

/-- In every run the file begins with the kept bytes of the stream, and a receipt without a loss
proves that it is the stream. -/
theorem pipe_log {limit : Int} {state : State ι}
    (reach : Machine.Reach Moves { limit := limit } state) :
    state.kept + state.dropped = state.completed + state.reader.uncounted ∧
      (state.kept ≤ state.written.length ∧ state.written.take state.kept <+: state.content) ∧
      (state.error ≠ none → ∀ later, Machine.Reach Moves state later →
        later.kept = state.kept ∨
          later.kept = state.kept + state.reader.inFlight ∧
            ∀ operation ∈ state.errors, operation = .closeWrite) ∧
      (∀ receipt ∈ state.receipts, receipt.eof = true → receipt.finished = true →
        receipt.error = none → receipt.dropped = 0 → receipt.writeCloseUnknown = false →
          state.content = state.written) ∧
      (Machine.Reach (Machine.Under Moves fun state _ => Sole state) { limit := limit } state →
        state.closes ≤ 1) := by
  have core := core_reach reach
  have blamed := blamed_reach reach
  have kept := core.kept_le
  refine ⟨core.counted, ⟨?_, ?_⟩, ?_, ?_, fun alone => (once_reach alone).most⟩
  · rw [core.stream, List.length_append]
    omega
  · rw [core.stream, List.take_append_of_le_length kept]
    exact core.front
  · intro error later after
    obtain ⟨kept, -⟩ | ⟨kept, -⟩ := (kept_settled error after).2
    · exact .inl kept
    · by_cases own : ∀ operation ∈ state.errors, operation = .closeWrite
      · exact .inr ⟨kept, own⟩
      · push Not at own
        obtain ⟨operation, member, own⟩ := own
        exact .inl (by rw [kept, blamed.own operation member own, Nat.add_zero])
  · intro receipt member eof finished error dropped _
    exact ((filled_reach reach).read receipt member).whole core eof finished error dropped

def partly : List (Move Unit) :=
  [.write [7, 8], .reader { first := 2 }, .reader {}, .reader {}, .reader {}, .reader {}]

def failing : List (Move Unit) :=
  [.write [7, 8], .reader { first := 2 }, .reader {}, .caller () .sent, .caller () (.step false 0),
    .caller () (.step false 0), .caller () (.step true 0), .caller () (.step false 0)]

def crossing : List (Move Bool) :=
  [.caller true .sent, .caller false .sent, .caller true (.step false 0),
    .caller false (.step false 0), .caller true (.step false 0), .caller false (.step false 0),
    .caller true (.step false 1), .caller false (.step true 0)]

def drained : List (Move Unit) :=
  List.append
    [.write [7, 8], .reader { first := 2 }, .reader {}, .reader {}, .reader {}, .reader {},
      .reader {}, .caller () .finish, .caller () (.step false 0), .caller () (.step false 0),
      .caller () (.step false 0), .caller () (.step false 0), .caller () (.step false 1),
      .caller () (.step false 0), .reader {}, .reader {}, .reader {}, .reader {}, .reader {}]
    (List.replicate 9 (.caller () (.step false 0)))

theorem pipe_log_not_always :
    (∃ state : State Unit, Machine.Reach Moves { limit := 1 } state ∧
      state.kept + state.dropped ≠ state.completed) ∧
    (∃ state later : State Unit, Machine.Reach Moves { limit := 64 } state ∧ state.error ≠ none ∧
      Machine.Reach Moves state later ∧ later.kept ≠ state.kept) ∧
    (∃ state : State Bool, Machine.Reach Moves { limit := 64 } state ∧ state.closes = 2) := by
  refine ⟨⟨_, reach_run partly rfl, by decide⟩, ?_, ⟨_, reach_run crossing rfl, by decide⟩⟩
  exact ⟨_, _, reach_run failing rfl, by decide, reach_run [.reader {}, .reader {}, .reader {}] rfl,
    by decide⟩

theorem pipe_log_drained : ∃ state : State Unit,
    state.receipts = [{ eof := true, finished := true, kept := 2 }] ∧
      state.content = state.written := by
  have reach : Machine.Reach Moves ({ limit := 64 } : State Unit) _ := reach_run drained rfl
  exact ⟨_, rfl, (pipe_log reach).2.2.2.1 _ (List.mem_singleton.mpr rfl) rfl rfl rfl rfl rfl⟩

end Bscp.PipeLog
