import Bscp.Lifecycle.PipeLog

/-!
What the receipt of a pipe log proves. The kept bytes are the first ones of the stream and stand at
the front of the file; a receipt without a loss is only returned when the file is the stream.
-/

namespace Bscp.PipeLog

variable {ι : Type}

namespace Reader

def data : Reader → List UInt8
  | .counting data => data
  | .writing data _ | .flushing data _ | .keeping data _ | .dropping data _ => data
  | _ => []

/-- Kept bytes of an iteration whose dropped bytes are not counted yet. -/
def uncounted : Reader → Nat
  | .dropping _ n => n
  | _ => 0

def inFlight : Reader → Nat
  | .writing _ n | .flushing _ n | .keeping _ n => n
  | _ => 0

def Over : Reader → Prop
  | .closingRead | .closingFile | .finishing | .ending | .ended => True
  | _ => False

end Reader

def Filed (state : State ι) : Prop :=
  match state.reader with
  | .writing _ n =>
      0 < n ∧ state.dropped = 0 ∧ state.content = state.consumed.take state.kept ∧
        state.pending = []
  | .flushing _ n =>
      0 < n ∧ state.dropped = 0 ∧ state.consumed.take state.kept <+: state.content ∧
        state.content ++ state.pending = state.consumed.take (state.kept + n)
  | .keeping _ n =>
      0 < n ∧ state.dropped = 0 ∧ state.content = state.consumed.take (state.kept + n) ∧
        state.pending = []
  | _ =>
      state.consumed.take state.kept <+: state.content ∧
        state.content ++ state.pending <+: state.consumed ∧
        (state.error = none → state.content = state.consumed.take state.kept ∧ state.pending = [])

def Spared (state : State ι) : Prop :=
  match state.reader with
  | .writing data n | .flushing data n | .keeping data n =>
      n = data.length ∨ (n ≤ data.length ∧ state.limit ≤ state.kept + n)
  | .dropping data n =>
      n = data.length ∨ (n ≤ data.length ∧ (state.error ≠ none ∨ state.limit ≤ state.kept))
  | _ => True

structure Core (state : State ι) : Prop where
  stream : state.written = state.consumed ++ state.pipe
  closed : state.eof = true → state.pipe = [] ∧ state.ends = 0 ∧ state.reader.Over
  finished : state.finished = true → state.reader = .ending ∨ state.reader = .ended
  counted : state.kept + state.dropped = state.completed + state.reader.uncounted
  read : ∃ front, state.consumed = front ++ state.reader.data ∧ front.length = state.completed
  full : state.dropped = 0 ∨ state.error ≠ none ∨ state.limit ≤ state.kept
  spared : Spared state
  filed : Filed state

section Files

variable {state : State ι} {bytes : List UInt8} {count : Nat}

theorem store_whole : (state.store bytes count).content ++ (state.store bytes count).pending =
    state.content ++ (state.pending ++ bytes) := by
  simp [State.store, List.append_assoc]

theorem store_front : state.content <+: (state.store bytes count).content :=
  List.prefix_append _ _

theorem forget_whole :
    (state.forget count).content ++ (state.forget count).pending <+:
      state.content ++ state.pending :=
  (List.prefix_append_right_inj _).mpr (List.take_prefix _ _)

end Files

theorem chunk_cut (pipe : List UInt8) (count : Nat) :
    chunk pipe count ++ pipe.drop (chunk pipe count).length = pipe := by
  unfold chunk
  generalize min 65536 (max 1 count) = most
  rw [List.length_take]
  by_cases short : most ≤ pipe.length
  · rw [Nat.min_eq_left short, List.take_append_drop]
  · rw [Nat.min_eq_right (by omega), List.drop_length, List.append_nil,
      List.take_of_length_le (by omega)]

/-- A fault only adds to what is recorded. -/
theorem Filed.fault {state : State ι} {operation : Operation} (filed : Filed state) :
    Filed (state.fault operation) := by
  unfold Filed at *
  cases reader : state.reader <;> simp only [State.fault, reader] at filed ⊢ <;>
    first
      | exact filed
      | exact ⟨filed.1, filed.2.1, nofun⟩

theorem Spared.fault {state : State ι} {operation : Operation} (spared : Spared state) :
    Spared (state.fault operation) := by
  unfold Spared at *
  cases reader : state.reader <;> simp only [State.fault, reader] at spared ⊢
  case writing | flushing | keeping => exact spared
  case dropping => exact spared.imp id fun less => ⟨less.1, .inl nofun⟩

theorem Core.fault {state : State ι} (core : Core state) (operation : Operation) :
    Core (state.fault operation) :=
  { core with full := .inr (.inl nofun), spared := core.spared.fault, filed := core.filed.fault }

def Reader.Between (reader : Reader) : Prop := reader = .reading ∨ reader.Over

theorem Reader.Between.filed {state : State ι} (between : state.reader.Between)
    (filed : Filed state) :
    state.consumed.take state.kept <+: state.content ∧
      state.content ++ state.pending <+: state.consumed ∧
      (state.error = none → state.content = state.consumed.take state.kept ∧
        state.pending = []) := by
  unfold Filed at filed
  unfold Reader.Between at between
  cases reader : state.reader <;> simp only [reader] at filed between <;>
    first
      | exact filed
      | simp [Reader.Over] at between

/-- The same facts in another phase of that kind. -/
theorem Filed.between {state : State ι} {reader : Reader} (between : reader.Between)
    (filed : state.consumed.take state.kept <+: state.content ∧
      state.content ++ state.pending <+: state.consumed ∧
      (state.error = none → state.content = state.consumed.take state.kept ∧
        state.pending = [])) :
    Filed { state with reader := reader } := by
  unfold Filed
  unfold Reader.Between at between
  cases reader <;> simp only [Reader.Over, reduceCtorEq, or_false, or_true] at between <;>
    exact filed

theorem Core.length_consumed {state : State ι} (core : Core state) :
    state.consumed.length = state.completed + state.reader.data.length := by
  obtain ⟨front, whole, length⟩ := core.read
  rw [whole, List.length_append, length]

theorem Core.kept_le {state : State ι} (core : Core state) :
    state.kept ≤ state.consumed.length := by
  have counted := core.counted
  have length := core.length_consumed
  have spared := core.spared
  cases reader : state.reader <;>
    simp only [reader, Spared, Reader.uncounted, Reader.data] at counted length spared <;> omega

/-- In every phase the file begins with the kept bytes. -/
theorem Core.front {state : State ι} (core : Core state) :
    state.consumed.take state.kept <+: state.content := by
  have filed := core.filed
  cases reader : state.reader <;> simp only [Filed, reader] at filed
  case writing => exact filed.2.2.1 ▸ List.prefix_rfl
  case flushing => exact filed.2.2.1
  case keeping =>
    rw [filed.2.2.1]
    exact List.take_prefix_take_left (Nat.le_add_right _ _)
  all_goals exact filed.1

/-- While nothing has been dropped, the bytes behind the kept ones are those of the chunk. -/
theorem Core.take_consumed {state : State ι} (core : Core state) (dropped : state.dropped = 0)
    (early : state.reader.uncounted = 0) {n : Nat} :
    state.consumed.take (state.kept + n) =
      state.consumed.take state.kept ++ state.reader.data.take n := by
  obtain ⟨front, whole, length⟩ := core.read
  have counted := core.counted
  have kept : state.kept = front.length := by omega
  rw [whole, kept, List.take_length_add_append, List.take_left]

theorem Core.running {state : State ι} (core : Core state) (going : ¬state.reader.Over) :
    state.eof ≠ true ∧ state.finished ≠ true := by
  constructor
  · exact fun eof => going (core.closed eof).2.2
  · intro finished
    cases core.finished finished with
    | inl reader => simp [reader, Reader.Over] at going
    | inr reader => simp [reader, Reader.Over] at going

/-! ### The steps of the reader -/

section ReaderStep

variable {state next : State ι} {choice : Choice}

theorem core_reading (core : Core state) (reader : state.reader = .reading)
    (step : readerStep state choice = some next) : Core next := by
  have filed := Reader.Between.filed (.inl reader) core.filed
  obtain ⟨going, running⟩ := core.running (by simp [reader, Reader.Over])
  have counted := core.counted
  obtain ⟨front, whole, length⟩ := core.read
  simp only [reader, Reader.data, Reader.uncounted, List.append_nil, Nat.add_zero] at counted whole
  simp only [readerStep, reader] at step
  split at step
  case isTrue =>
    obtain rfl := Option.some.inj step
    exact {
      stream := core.stream
      closed := fun eof => absurd eof going
      finished := fun finished => absurd finished running
      counted := counted
      read := ⟨front, whole.trans (List.append_nil _).symm, length⟩
      full := .inr (.inl nofun)
      spared := trivial
      filed := ⟨filed.1, filed.2.1, nofun⟩ }
  split at step
  case isTrue empty =>
    split at step
    case isFalse => cases step
    case isTrue ended =>
      obtain rfl := Option.some.inj step
      exact {
        stream := core.stream
        closed := fun _ => ⟨empty, ended, trivial⟩
        finished := fun finished => absurd finished running
        counted := counted
        read := ⟨front, whole.trans (List.append_nil _).symm, length⟩
        full := core.full
        spared := trivial
        filed := filed }
  case isFalse some =>
    obtain rfl := Option.some.inj step
    have kept : state.kept ≤ state.consumed.length := by rw [whole, length]; omega
    have same := @List.take_append_of_le_length _ _ (chunk state.pipe choice.first) _ kept
    exact {
      stream := by rw [core.stream, List.append_assoc, chunk_cut]
      closed := fun eof => absurd eof going
      finished := fun finished => absurd finished running
      counted := counted
      read := ⟨state.consumed, rfl, whole ▸ length⟩
      full := core.full
      spared := trivial
      filed := ⟨same ▸ filed.1, filed.2.1.trans (List.prefix_append _ _),
        fun error => same ▸ filed.2.2 error⟩ }

theorem core_counting {data : List UInt8} (core : Core state)
    (reader : state.reader = .counting data) (step : readerStep state choice = some next) :
    Core next := by
  have filed := core.filed
  obtain ⟨going, running⟩ := core.running (by simp [reader, Reader.Over])
  have counted := core.counted
  have read := core.read
  simp only [Filed, reader, Reader.data, Reader.uncounted, Nat.add_zero] at counted read filed
  simp only [readerStep, reader, Option.some.injEq] at step
  generalize amount : (if state.error.isSome then 0
    else min data.length (max 0 (state.limit - state.kept)).toNat) = n at step
  subst step
  by_cases nothing : n = 0
  case pos =>
    have spared : 0 = data.length ∨
        0 ≤ data.length ∧ (state.error ≠ none ∨ state.limit ≤ state.kept) := by
      split at amount
      case isTrue error => exact .inr ⟨Nat.zero_le _, .inl (Option.isSome_iff_ne_none.mp error)⟩
      case isFalse => omega
    simp only [nothing, if_true]
    exact { core with
      closed := fun eof => absurd eof going
      finished := fun finished => absurd finished running
      counted := counted
      read := read
      spared := spared
      filed := filed }
  case neg =>
    split at amount
    case isTrue => exact absurd amount.symm nothing
    case isFalse error =>
    have error : state.error = none := by simpa using error
    have room : ¬state.limit ≤ state.kept := fun less => by omega
    have dropped : state.dropped = 0 := by simpa [error, room] using core.full
    have spared : n = data.length ∨ n ≤ data.length ∧ state.limit ≤ state.kept + n := by omega
    obtain ⟨content, pending⟩ := filed.2.2 error
    simp only [nothing, if_false]
    exact { core with
      closed := fun eof => absurd eof going
      finished := fun finished => absurd finished running
      counted := counted
      read := read
      spared := spared
      filed := ⟨Nat.pos_of_ne_zero nothing, dropped, content, pending⟩ }

theorem core_writing {data : List UInt8} {n : Nat} (core : Core state)
    (reader : state.reader = .writing data n) (step : readerStep state choice = some next) :
    Core next := by
  obtain ⟨going, running⟩ := core.running (by simp [reader, Reader.Over])
  have counted := core.counted
  have read := core.read
  have spared := core.spared
  obtain ⟨some, dropped, content, pending⟩ := by simpa only [Filed, reader] using core.filed
  have front := core.take_consumed dropped (by rw [reader]; rfl) (n := n)
  simp only [Spared, reader, Reader.data, Reader.uncounted, Nat.add_zero]
    at counted read spared front
  have stored : (state.store (data.take n) choice.first).content ++
      (state.store (data.take n) choice.first).pending = state.consumed.take (state.kept + n) := by
    rw [store_whole, pending, content, front, List.nil_append]
  simp only [readerStep, reader] at step
  split at step
  case isTrue =>
    obtain rfl := Option.some.inj step
    exact {
      stream := core.stream
      closed := fun eof => absurd eof going
      finished := fun finished => absurd finished running
      counted := counted
      read := read
      full := .inl dropped
      spared := .inr ⟨Nat.zero_le _, .inl nofun⟩
      filed := ⟨content ▸ store_front,
        forget_whole.trans (stored ▸ List.take_prefix _ _), nofun⟩ }
  case isFalse =>
    obtain rfl := Option.some.inj step
    exact {
      stream := core.stream
      closed := fun eof => absurd eof going
      finished := fun finished => absurd finished running
      counted := counted
      read := read
      full := .inl dropped
      spared := spared
      filed := ⟨some, dropped, content ▸ store_front, stored⟩ }

theorem core_flushing {data : List UInt8} {n : Nat} (core : Core state)
    (reader : state.reader = .flushing data n) (step : readerStep state choice = some next) :
    Core next := by
  obtain ⟨going, running⟩ := core.running (by simp [reader, Reader.Over])
  have counted := core.counted
  have read := core.read
  have spared := core.spared
  obtain ⟨some, dropped, content, whole⟩ := by simpa only [Filed, reader] using core.filed
  simp only [Spared, reader, Reader.data, Reader.uncounted, Nat.add_zero] at counted read spared
  simp only [readerStep, reader] at step
  split at step
  case isTrue =>
    obtain rfl := Option.some.inj step
    have stored := @store_whole _ state [] choice.first
    rw [List.append_nil, whole] at stored
    exact {
      stream := core.stream
      closed := fun eof => absurd eof going
      finished := fun finished => absurd finished running
      counted := counted
      read := read
      full := .inl dropped
      spared := .inr ⟨Nat.zero_le _, .inl nofun⟩
      filed := ⟨content.trans store_front,
        forget_whole.trans (stored ▸ List.take_prefix _ _), nofun⟩ }
  case isFalse =>
    obtain rfl := Option.some.inj step
    exact {
      stream := core.stream
      closed := fun eof => absurd eof going
      finished := fun finished => absurd finished running
      counted := counted
      read := read
      full := .inl dropped
      spared := spared
      filed := ⟨some, dropped, by simpa [State.store] using whole, by simp [State.store]⟩ }

theorem core_keeping {data : List UInt8} {n : Nat} (core : Core state)
    (reader : state.reader = .keeping data n) (step : readerStep state choice = some next) :
    Core next := by
  obtain ⟨going, running⟩ := core.running (by simp [reader, Reader.Over])
  have counted := core.counted
  have read := core.read
  have spared := core.spared
  obtain ⟨some, dropped, content, pending⟩ := by simpa only [Filed, reader] using core.filed
  simp only [Spared, reader, Reader.data, Reader.uncounted, Nat.add_zero] at counted read spared
  simp only [readerStep, reader, Option.some.injEq] at step
  subst step
  exact {
    stream := core.stream
    closed := fun eof => absurd eof going
    finished := fun finished => absurd finished running
    counted := by simp only [Reader.uncounted]; omega
    read := read
    full := .inl dropped
    spared := spared.imp id fun less => ⟨less.1, .inr (by push_cast; exact less.2)⟩
    filed := by
      have front : state.content ++ state.pending <+: state.consumed := by
        rw [pending, content, List.append_nil]
        exact List.take_prefix _ _
      exact ⟨content ▸ List.prefix_rfl, front, fun _ => ⟨content, pending⟩⟩ }

theorem core_dropping {data : List UInt8} {n : Nat} (core : Core state)
    (reader : state.reader = .dropping data n) (step : readerStep state choice = some next) :
    Core next := by
  obtain ⟨going, running⟩ := core.running (by simp [reader, Reader.Over])
  have counted := core.counted
  have length := core.length_consumed
  have spared := core.spared
  have filed := core.filed
  simp only [Spared, Filed, reader, Reader.data, Reader.uncounted] at counted length spared filed
  simp only [readerStep, reader, Option.some.injEq] at step
  subst step
  exact {
    stream := core.stream
    closed := fun eof => absurd eof going
    finished := fun finished => absurd finished running
    counted := by simp only [Reader.uncounted]; omega
    read := ⟨state.consumed, by simp [Reader.data], length⟩
    full := by
      cases spared with
      | inl all => exact core.full.imp_left fun dropped => by simp [dropped, all]
      | inr less => exact .inr less.2
    spared := trivial
    filed := filed }

/-- Closing the read end, and everything behind closing the file. -/
theorem core_over (core : Core state) (past : state.reader.Over)
    (step : readerStep state choice = some next) : Core next := by
  have filed := Reader.Between.filed (.inr past) core.filed
  have counted := core.counted
  have read := core.read
  have finished := core.finished
  cases reader : state.reader with
  | closingRead =>
      simp only [reader, Reader.data, Reader.uncounted, reduceCtorEq, or_self]
        at counted read finished
      simp only [readerStep, reader] at step
      split at step <;> obtain rfl := Option.some.inj step
      case isTrue =>
        exact {
          stream := core.stream
          closed := fun eof => ⟨(core.closed eof).1, (core.closed eof).2.1, trivial⟩
          finished := fun done => absurd (finished done) id
          counted := counted
          read := read
          full := .inr (.inl nofun)
          spared := trivial
          filed := ⟨filed.1, filed.2.1, nofun⟩ }
      case isFalse =>
        exact { core with
          closed := fun eof => ⟨(core.closed eof).1, (core.closed eof).2.1, trivial⟩
          finished := fun done => absurd (finished done) id
          counted := counted
          read := read
          spared := trivial
          filed := filed }
  | closingFile =>
      simp only [reader, Reader.data, Reader.uncounted, reduceCtorEq, or_self]
        at counted read finished
      simp only [readerStep, reader] at step
      split at step <;> obtain rfl := Option.some.inj step
      case isTrue =>
        have stored := @store_whole _ state [] choice.first
        rw [List.append_nil] at stored
        exact {
          stream := core.stream
          closed := fun eof => ⟨(core.closed eof).1, (core.closed eof).2.1, trivial⟩
          finished := fun done => absurd (finished done) id
          counted := counted
          read := read
          full := .inr (.inl nofun)
          spared := trivial
          filed := ⟨filed.1.trans store_front,
            forget_whole.trans (stored ▸ filed.2.1), nofun⟩ }
      case isFalse =>
        have stored (error : state.error = none) :
            (state.store [] state.pending.length).content = state.consumed.take state.kept := by
          rw [← (filed.2.2 error).1]
          simp [State.store, (filed.2.2 error).2]
        exact { core with
          closed := fun eof => ⟨(core.closed eof).1, (core.closed eof).2.1, trivial⟩
          finished := fun done => absurd (finished done) id
          counted := counted
          read := read
          spared := trivial
          filed := ⟨filed.1.trans store_front, by simpa [State.store] using filed.2.1,
            fun error => ⟨stored error, by simp [State.store]⟩⟩ }
  | finishing =>
      simp only [reader, Reader.data, Reader.uncounted] at counted read
      simp only [readerStep, reader, Option.some.injEq] at step
      subst step
      exact { core with
        closed := fun eof => ⟨(core.closed eof).1, (core.closed eof).2.1, trivial⟩
        finished := fun _ => .inl rfl
        counted := counted
        read := read
        spared := trivial
        filed := filed }
  | ending =>
      simp only [reader, Reader.data, Reader.uncounted] at counted read
      simp only [readerStep, reader, Option.some.injEq] at step
      subst step
      exact { core with
        closed := fun eof => ⟨(core.closed eof).1, (core.closed eof).2.1, trivial⟩
        finished := fun _ => .inr rfl
        counted := counted
        read := read
        spared := trivial
        filed := filed }
  | ended => simp [readerStep, reader] at step
  | reading | counting _ | writing _ _ | flushing _ _ | keeping _ _ | dropping _ _ =>
      simp [reader, Reader.Over] at past

theorem core_reader_step (core : Core state) (step : readerStep state choice = some next) :
    Core next := by
  cases reader : state.reader with
  | reading => exact core_reading core reader step
  | counting => exact core_counting core reader step
  | writing => exact core_writing core reader step
  | flushing => exact core_flushing core reader step
  | keeping => exact core_keeping core reader step
  | dropping => exact core_dropping core reader step
  | closingRead | closingFile | finishing | ending | ended =>
      exact core_over core (by rw [reader]; trivial) step

end ReaderStep

/-! ### Runs -/

variable [DecidableEq ι]

theorem Core.call {state : State ι} (core : Core state) (caller : ι) (next : Caller) :
    Core (state.call caller next) := { core with }

theorem core_caller_step {state next : State ι} {caller : ι} {action : Action} (core : Core state)
    (step : callerStep state caller action = some next) : Core next := by
  unfold callerStep at step
  split at step <;> try cases step
  case h_7 released _ =>
    exact { core with
      closed := fun eof => ⟨(core.closed eof).1, by simp [(core.closed eof).2.1],
        (core.closed eof).2.2⟩ }
  case h_9 => exact (core.call _ _).fault _
  case h_11 =>
    split at step <;> cases step <;> exact { core with }
  all_goals exact { core with }

theorem core_step {state next : State ι} (core : Core state) (moves : Moves state next) :
    Core next := by
  obtain ⟨move, step⟩ := moves
  cases move with
  | reader choice => exact core_reader_step core step
  | caller caller action => exact core_caller_step core step
  | write bytes =>
      simp only [PipeLog.step] at step
      split at step
      case isFalse => cases step
      case isTrue ends =>
      obtain rfl := Option.some.inj step
      exact { core with
        stream := by rw [core.stream, List.append_assoc]
        closed := fun eof => absurd (core.closed eof).2.1 (by omega) }
  | share =>
      simp only [PipeLog.step] at step
      split at step
      case isFalse => cases step
      case isTrue ends =>
      obtain rfl := Option.some.inj step
      exact { core with closed := fun eof => absurd (core.closed eof).2.1 (by omega) }
  | release =>
      simp only [PipeLog.step] at step
      split at step
      case isFalse => cases step
      case isTrue ends =>
      obtain rfl := Option.some.inj step
      exact { core with closed := fun eof => absurd (core.closed eof).2.1 (by omega) }

theorem core_reach {limit : Int} {state : State ι}
    (reach : Machine.Reach Moves { limit := limit } state) : Core state := by
  have base : Core ({ limit := limit } : State ι) := {
    stream := rfl
    closed := nofun
    finished := nofun
    counted := rfl
    read := ⟨[], rfl, rfl⟩
    full := .inl rfl
    spared := trivial
    filed := ⟨List.prefix_rfl, List.prefix_rfl, fun _ => ⟨rfl, rfl⟩⟩ }
  exact Machine.reach_keeps base (fun _ _ core moves => core_step core moves) reach

end Bscp.PipeLog
