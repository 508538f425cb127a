import Bscp.Machine
import Bscp.Crosvm.VcpuPower

/-!
Who may leave which power state. A thread that has read `OnPending`, up to the end of
`complete_on`, owns the entry of its vCPU: every other call finds it pending and leaves it alone.
So both checks of `complete_on` succeed, and an accepted `CPU_ON` is completed once, with its own
entry and context.
-/

namespace Bscp.Crosvm.VcpuPower

open Bscp.Machine

/-! The table after each operation. -/

def answerTo : Option Power → Int
  | none => invalidParams
  | some .on => alreadyOn
  | some (.onPending ..) => onPending
  | some .off => success

theorem answerTo_success {power : Option Power} (accepted : answerTo power = success) :
    power = some .off := by
  revert accepted
  match power with
  | none => decide
  | some .on => decide
  | some (.onPending ..) => exact fun wrong => absurd wrong (by decide : onPending ≠ success)
  | some .off => exact fun _ => rfl

theorem requestOn_response (states : States) (target : Nat) (entry context : Word) :
    (requestOn states target entry context).1 = answerTo states[target]? := by
  unfold requestOn
  split <;> simp_all [answerTo]

/-- A request changes the entry of its target alone, and only when it is accepted. -/
theorem requestOn_states (states : States) (target id : Nat) (entry context : Word) :
    (requestOn states target entry context).2[id]? =
      if target = id ∧ states[target]? = some .off then some (.onPending entry context)
      else states[id]? := by
  unfold requestOn
  split <;> grind -ring -linarith

theorem setOff_states {states after : States} {id : Nat} (done : setOff states id = some after)
    (other : Nat) : after[other]? = if id = other then some .off else states[other]? := by
  unfold setOff at done
  split at done
  case h_1 => cases done
  case h_2 power known =>
      cases done
      grind -ring -linarith

/-! Facts about what happened, read from the events. -/

def owes (id : Nat) (due : Option (Word × Word)) : Event → Option (Word × Word)
  | .cpuOn _ target entry context response =>
      if target = id ∧ response = success then some (entry, context) else due
  | .runs who _ _ => if who = id then none else due
  | _ => due

def owed (id : Nat) (events : List Event) : Option (Word × Word) := events.foldl (owes id) none

@[simp] theorem owed_snoc (id : Nat) (events : List Event) (event : Event) :
    owed id (events ++ [event]) = owes id (owed id events) event := by
  simp [owed]

def Event.accepts (id : Nat) : Event → Option (Word × Word)
  | .cpuOn _ target entry context response =>
      if target = id ∧ response = success then some (entry, context) else none
  | _ => none

def Event.completed (id : Nat) : Event → Option (Word × Word)
  | .completes who entry context => if who = id then some (entry, context) else none
  | _ => none

/-- The `CPU_ON` calls for a vCPU that returned `SUCCESS`, in their order. -/
def accepted (id : Nat) (events : List Event) : List (Word × Word) :=
  events.filterMap (Event.accepts id)

def completions (id : Nat) (events : List Event) : List (Word × Word) :=
  events.filterMap (Event.completed id)

def offs (id : Nat) (events : List Event) : Nat := events.count (.cpuOff id)

@[simp] theorem accepted_append (id : Nat) (first last : List Event) :
    accepted id (first ++ last) = accepted id first ++ accepted id last := by
  simp [accepted]

@[simp] theorem accepted_single (id : Nat) (event : Event) :
    accepted id [event] = (event.accepts id).toList := by
  cases happens : event.accepts id <;> simp [accepted, happens]

@[simp] theorem completions_append (id : Nat) (first last : List Event) :
    completions id (first ++ last) = completions id first ++ completions id last := by
  simp [completions]

@[simp] theorem completions_single (id : Nat) (event : Event) :
    completions id [event] = (event.completed id).toList := by
  cases happens : event.completed id <;> simp [completions, happens]

@[simp] theorem offs_append (id : Nat) (first last : List Event) :
    offs id (first ++ last) = offs id first + offs id last := by
  simp [offs]

@[simp] theorem offs_single (id : Nat) (event : Event) :
    offs id [event] = if event = .cpuOff id then 1 else 0 := by
  by_cases happens : event = .cpuOff id <;> simp [offs, happens]

def waitingFor : Option Power → List (Word × Word)
  | some (.onPending entry context) => [(entry, context)]
  | _ => []

/-! The ownership invariant of one vCPU. -/

def Owned (power : Option Power) (v : Vcpu) : Prop :=
  match v.place with
  | .outside | .waiting => True
  | .pending entry context => power = some (.onPending entry context)
  | .initialising entry context stage =>
      power = some (.onPending entry context) ∧ (stage = .writeX0 → v.registers.pc = entry)
  | .initialised entry context =>
      power = some (.onPending entry context) ∧ v.registers.pc = entry ∧ v.registers.x0 = context
  | .ready | .running | .trapped _ | .called | .answering _ => power = some .on

def Due (power : Option Power) (v : Vcpu) (due : Option (Word × Word)) : Prop :=
  match power with
  | some (.onPending entry context) => due = some (entry, context)
  | some .on => due = none ∨ v.place = .ready ∧ due = some (v.registers.pc, v.registers.x0)
  | some .off | none => due = none

structure Fits (power : Option Power) (v : Vcpu) (due : Option (Word × Word)) : Prop where
  owned : Owned power v
  run : Due power v due

namespace Fits

variable {power : Option Power} {v after : Vcpu} {due : Option (Word × Word)}

theorem on_of_ready (fits : Fits power v due) (here : v.place = .ready) : power = some .on := by
  simpa [Owned, here] using fits.owned

theorem on_of_called (fits : Fits power v due) (here : v.place = .called) :
    power = some .on := by
  simpa [Owned, here] using fits.owned

theorem pending_of_place {entry context : Word} (fits : Fits power v due)
    (here : v.place = .pending entry context) : power = some (.onPending entry context) := by
  simpa [Owned, here] using fits.owned

theorem pending_of_initialising {entry context : Word} {stage : Stage}
    (fits : Fits power v due) (here : v.place = .initialising entry context stage) :
    power = some (.onPending entry context) := by
  have owned := fits.owned
  rw [Owned, here] at owned
  exact owned.1

theorem pending_of_initialised {entry context : Word} (fits : Fits power v due)
    (here : v.place = .initialised entry context) :
    power = some (.onPending entry context) ∧ v.registers.pc = entry ∧ v.registers.x0 = context := by
  simpa [Owned, here] using fits.owned

/-- A thread that is on and not about to run owes no run. -/
theorem nothing_due (fits : Fits power v due) (on : power = some .on) (away : v.place ≠ .ready) :
    due = none := by
  have run := fits.run
  rw [on] at run
  exact run.resolve_right fun ready => away ready.1

/-- Only the run itself leaves the place where one may be due. -/
theorem due_of_move (fits : Fits power v due) (away : v.place ≠ .ready) : Due power after due := by
  match power, fits with
  | some (.onPending ..), fits => exact fits.run
  | some .off, fits => exact fits.run
  | none, fits => exact fits.run
  | some .on, fits => exact .inl (fits.nothing_due rfl away)

theorem moves (fits : Fits power v due) (move : Moves power v after) : Fits power after due := by
  have owned := fits.owned
  constructor
  case run =>
      cases move <;> exact fits.due_of_move (by simp_all)
  case owned =>
      cases move <;> simp_all [Owned, Vcpu.goes, Vcpu.setPc, Vcpu.setX0]

theorem leaves (fits : Fits power v due) (away : v.place ≠ .ready) :
    Fits power (v.goes .outside) due :=
  ⟨trivial, fits.due_of_move away⟩

end Fits

def Sound (events : List Event) (w : World) : Prop :=
  ∀ id, Fits (w.power id) (w.vcpu id) (owed id events)

inductive Changes (id : Nat) : Event → Option Power → Option Power → Prop
  | same {event : Event} {power : Option Power} (noOn : event.accepts id = none)
      (noCompletion : event.completed id = none) (noOff : event ≠ .cpuOff id) :
      Changes id event power power
  | cpuOn {caller : Nat} {entry context : Word} :
      Changes id (.cpuOn caller id entry context success) (some .off)
        (some (.onPending entry context))
  | completes {entry context : Word} :
      Changes id (.completes id entry context) (some (.onPending entry context)) (some .on)
  | cpuOff : Changes id (.cpuOff id) (some .on) (some .off)

section Step

variable {events : List Event} {w next : World} {event : Event}

theorem Changes.of_silent (id : Nat) (power : Option Power) : Changes id .silent power power :=
  .same rfl rfl (by simp)

theorem Changes.of_request {caller target : Nat} {entry context : Word} {response : Int}
    {states : States} (request : requestOn w.states target entry context = (response, states))
    (id : Nat) :
    Changes id (.cpuOn caller target entry context response) (w.power id) states[id]? := by
  have answered := requestOn_response w.states target entry context
  have table := requestOn_states w.states target id entry context
  rw [request] at answered table
  simp only at answered table
  by_cases hit : target = id ∧ w.states[target]? = some .off
  · obtain ⟨rfl, off⟩ := hit
    rw [table, if_pos ⟨rfl, off⟩, World.power, off, answered, off]
    exact .cpuOn
  · rw [table, if_neg hit]
    apply Changes.same
    case noOn =>
        have refused : ¬(target = id ∧ response = success) := by
          intro both
          exact hit ⟨both.1, answerTo_success (answered ▸ both.2)⟩
        simp [Event.accepts, refused]
    case noCompletion => rfl
    case noOff => simp

/-- What one step does to the entry of any vCPU. -/
theorem Step.changes (step : Step w event next) (sound : Sound events w) (id : Nat) :
    Changes id event (w.power id) (next.power id) := by
  cases step with
  | moves _ => exact .of_silent id _
  | asks => exact .of_silent id _
  | refusedBefore _ _ => exact .same rfl rfl (by simp)
  | initializeFails _ => exact .same rfl rfl (by simp)
  | refusedAfter _ _ => exact .same rfl rfl (by simp)
  | @completes who entry context _ expected =>
      by_cases same : who = id
      · subst same
        have known : who < w.states.length := (List.getElem?_eq_some_iff.mp expected).1
        have after : (w.states.set who .on)[who]? = some .on := by simp [known]
        rw [expected, World.power, after]
        exact .completes
      · have kept : (w.states.set who .on)[id]? = w.states[id]? := by simp [same]
        rw [World.power, World.power, kept]
        exact .same rfl (by simp [Event.completed, same]) (by simp)
  | runs _ => exact .same rfl rfl (by simp)
  | @cpuOff who states here _ known =>
      have table := setOff_states known id
      rw [World.power, World.power, table]
      by_cases same : who = id
      · subst same
        have on : w.states[who]? = some .on := (sound who).on_of_called here
        rw [on, if_pos rfl]
        exact .cpuOff
      · rw [if_neg same]
        exact .same rfl rfl (by simp [same])
  | cpuOffFails _ _ _ => exact .of_silent id _
  | cpuOn _ _ _ _ _ request => exact .of_request request id
  | affinityInfo _ _ _ _ => exact .same rfl rfl (by simp)

/-- An accepted request finds the thread of its target where nothing is promised. -/
theorem Fits.requested {v : Vcpu} {due : Option (Word × Word)} (fits : Fits (some .off) v due)
    (entry context : Word) :
    Fits (some (.onPending entry context)) v (some (entry, context)) := by
  constructor
  case run => rfl
  case owned =>
      have owned := fits.owned
      unfold Owned at owned ⊢
      split at owned <;> simp_all

theorem Fits.answered {id caller target : Nat} {entry context : Word} {response : Int}
    {before after : Option Power} {v : Vcpu} {due : Option (Word × Word)} (fits : Fits before v due)
    (change : Changes id (.cpuOn caller target entry context response) before after) :
    Fits after v (owes id due (.cpuOn caller target entry context response)) := by
  cases change with
  | same noOn _ _ =>
      have refused : ¬(target = id ∧ response = success) := by
        intro both
        simp [Event.accepts, both] at noOn
      simpa [owes, refused] using fits
  | cpuOn => simpa [owes] using fits.requested entry context

theorem sound_of_own {who : Nat} {v : Vcpu} (sound : Sound events w)
    (quiet : ∀ id due, owes id due event = due)
    (own : Fits (w.power who) v (owed who events)) :
    Sound (events ++ [event]) (w.setVcpu who v) := by
  intro id
  rw [owed_snoc, quiet, World.setVcpu_power, World.setVcpu_vcpu]
  split
  case isTrue same => exact same ▸ own
  case isFalse _ => exact sound id

theorem Step.sound (step : Step w event next) (sound : Sound events w) :
    Sound (events ++ [event]) next := by
  cases step with
  | moves own => exact sound_of_own sound (fun _ _ => rfl) ((sound _).moves own)
  | asks id exit => exact sound_of_own sound (fun _ _ => rfl) ⟨(sound id).owned, (sound id).run⟩
  | refusedBefore here _ =>
      exact sound_of_own sound (fun _ _ => rfl) ((sound _).leaves (by simp [here]))
  | initializeFails here =>
      exact sound_of_own sound (fun _ _ => rfl) ((sound _).leaves (by simp [here]))
  | refusedAfter here _ =>
      exact sound_of_own sound (fun _ _ => rfl) ((sound _).leaves (by simp [here]))
  | cpuOffFails here _ _ =>
      exact sound_of_own sound (fun _ _ => rfl) ((sound _).leaves (by simp [here]))
  | @affinityInfo who _ _ here _ _ _ =>
      apply sound_of_own sound (fun _ _ => rfl)
      exact ⟨(sound who).on_of_called here, (sound who).due_of_move (by simp [here])⟩
  | @runs who here =>
      have on := (sound who).on_of_ready here
      intro id
      rw [owed_snoc, World.setVcpu_power, World.setVcpu_vcpu]
      by_cases same : id = who
      · subst same
        rw [if_pos rfl, on]
        exact ⟨rfl, .inl (by simp [owes])⟩
      · simpa [same, owes, Ne.symm same] using sound id
  | @completes who entry context here expected =>
      obtain ⟨_, atEntry, atContext⟩ := (sound who).pending_of_initialised here
      intro id
      by_cases same : id = who
      · subst same
        have run : owed id events = some (entry, context) := by
          simpa [expected, Due] using (sound id).run
        have after : (w.states.set id .on)[id]? = some .on := by
          simp [(List.getElem?_eq_some_iff.mp expected).1]
        rw [owed_snoc, World.power, after]
        constructor
        case owned => simp [Owned, Vcpu.goes]
        case run =>
            right
            simpa [Vcpu.goes, owes, atEntry, atContext] using run
      · have kept : (w.states.set who .on)[id]? = w.states[id]? := by simp [Ne.symm same]
        rw [owed_snoc, World.power, kept]
        simpa [same, owes, World.power] using sound id
  | @cpuOff who states here call known =>
      have on := (sound who).on_of_called here
      have nothing := (sound who).nothing_due on (by simp [here])
      have table := setOff_states known
      intro id
      rw [owed_snoc, World.power, table id]
      by_cases same : id = who
      · subst same
        rw [if_pos rfl]
        exact ⟨by simp [Owned, Vcpu.goes], nothing⟩
      · rw [if_neg (Ne.symm same)]
        simpa [same, owes, World.power] using sound id
  | @cpuOn who target entry context response states here _ _ _ _ request =>
      have moved : Sound events
          (w.setVcpu who ((w.vcpu who).goes (.answering (psciRet response)))) := by
        intro id
        rw [World.setVcpu_power, World.setVcpu_vcpu]
        split
        case isTrue same =>
            subst same
            exact ⟨(sound id).on_of_called here, (sound id).due_of_move (by simp [here])⟩
        case isFalse _ => exact sound id
      intro id
      have change := @Changes.of_request w who target entry context response states request id
      have fits := moved id
      rw [World.setVcpu_power] at fits
      rw [owed_snoc, World.power]
      exact fits.answered change

end Step

/-! Whole runs. -/

section Run

variable {count : Nat} {events : List Event} {w next : World}

theorem initial_power (count id : Nat) :
    (initial count).power id =
      if id < count then some (if id = 0 then .on else .off) else none := by
  by_cases known : id < count <;> simp [initial, World.power, initialStates, known]

theorem initial_sound (count : Nat) : Sound [] (initial count) := by
  intro id
  constructor
  case owned => trivial
  case run =>
      rw [initial_power]
      by_cases known : id < count
      · by_cases first : id = 0
        · simp [first, first ▸ known, Due, owed]
        · simp [known, first, Due, owed]
      · simp [known, Due, owed]

theorem run_sound (run : Trace Step (initial count) events w) : Sound events w :=
  run.keeps (initial_sound count) fun _ _ _ _ sound step => step.sound sound

structure Tally (count : Nat) (events : List Event) (w : World) (id : Nat) : Prop where
  calls : accepted id events = completions id events ++ waitingFor (w.power id)
  turns : id < count → (accepted id events).length + (if id = 0 then 1 else 0) =
    offs id events + (if w.power id = some .off then 0 else 1)
  /-- The table keeps its length. -/
  known : w.power id = none ↔ count ≤ id

theorem Tally.step {event : Event} {id : Nat} (tally : Tally count events w id)
    (change : Changes id event (w.power id) (next.power id)) :
    Tally count (events ++ [event]) next id := by
  obtain ⟨calls, turns, known⟩ := tally
  generalize w.power id = before at change calls turns known
  generalize after : next.power id = power at change
  cases change with
  | same noOn noCompletion noOff =>
      constructor
      case calls => simpa [noOn, noCompletion, after] using calls
      case turns => simpa [noOn, noOff, after] using turns
      case known => rw [after, known]
  | cpuOn =>
      constructor
      case calls => simp_all [Event.accepts, Event.completed, waitingFor]
      case turns =>
          intro inside
          have turns := turns inside
          simp [Event.accepts, after] at turns ⊢
          omega
      case known => simp_all
  | completes =>
      constructor
      case calls => simp_all [Event.accepts, Event.completed, waitingFor]
      case turns => simpa [Event.accepts, after] using turns
      case known => simp_all
  | cpuOff =>
      constructor
      case calls => simp_all [Event.accepts, Event.completed, waitingFor]
      case turns =>
          intro inside
          have turns := turns inside
          simp [Event.accepts, after] at turns ⊢
          omega
      case known => simp_all

theorem initial_tally (count id : Nat) : Tally count [] (initial count) id := by
  constructor
  case calls =>
      rw [initial_power]
      by_cases known : id < count
      · by_cases first : id = 0
        · simp [first, first ▸ known, accepted, completions, waitingFor]
        · simp [known, first, accepted, completions, waitingFor]
      · simp [known, accepted, completions, waitingFor]
  case turns =>
      intro inside
      rw [initial_power]
      by_cases first : id = 0 <;> simp [first, inside, accepted, offs]
  case known => simp [initial_power]

theorem run_tally (run : Trace Step (initial count) events w) (id : Nat) :
    Tally count events w id := by
  have kept : ∀ events state event next,
      Sound events state ∧ Tally count events state id → Step state event next →
        Sound (events ++ [event]) next ∧ Tally count (events ++ [event]) next id := by
    intro events state event next held step
    exact ⟨step.sound held.1, held.2.step (step.changes held.1 id)⟩
  exact (run.keeps ⟨initial_sound count, initial_tally count id⟩ kept).2

/-- A vCPU that goes off is one of the table, on before and off after. -/
theorem off_at {id : Nat} {first last : List Event}
    (run : Trace Step (initial count) (first ++ Event.cpuOff id :: last) w) :
    id < count ∧ ∃ before after, Trace Step (initial count) first before ∧
      Trace Step (initial count) (first ++ [Event.cpuOff id]) after ∧
      before.power id = some .on ∧ after.power id = some .off := by
  obtain ⟨before, after, begun, step, _⟩ := run.at_event
  have change := step.changes (run_sound begun) id
  generalize on : before.power id = power at change
  generalize off : after.power id = left at change
  cases change with
  | same _ _ noOff => exact absurd rfl noOff
  | cpuOff =>
      have known := (run_tally begun id).known
      rw [on] at known
      exact ⟨by simpa using known, before, after, begun, begun.snoc step, on, off⟩

theorem offs_of_not_mem {id : Nat} {events : List Event} (never : .cpuOff id ∉ events) :
    offs id events = 0 :=
  List.count_eq_zero.mpr never

/-- Between two entries into `Off` exactly one request is accepted. -/
theorem one_accepted_between {id : Nat} {first middle last : List Event}
    (run : Trace Step (initial count) (first ++ Event.cpuOff id :: (middle ++ Event.cpuOff id :: last)) w)
    (never : Event.cpuOff id ∉ middle) : (accepted id middle).length = 1 := by
  obtain ⟨inside, _, start, _, begun, _, off⟩ := off_at run
  have again : Trace Step (initial count)
      ((first ++ .cpuOff id :: middle) ++ .cpuOff id :: last) w := by
    simpa using run
  obtain ⟨_, finish, _, ended, _, on, _⟩ := off_at again
  have atStart := (run_tally begun id).turns inside
  have atFinish := (run_tally ended id).turns inside
  have calls : accepted id (first ++ .cpuOff id :: middle) =
      accepted id (first ++ [.cpuOff id]) ++ accepted id middle := by
    rw [List.append_cons, accepted_append]
  have turns : offs id (first ++ .cpuOff id :: middle) =
      offs id (first ++ [.cpuOff id]) + offs id middle := by
    rw [List.append_cons, offs_append]
  rw [calls, turns, on, offs_of_not_mem never, List.length_append] at atFinish
  rw [off] at atStart
  simp only [reduceCtorEq, Option.some.injEq, if_false, if_true] at atStart atFinish
  omega

/-- And before the first one, exactly one unless the vCPU was on from the beginning. -/
theorem one_accepted_before {id : Nat} {middle last : List Event}
    (run : Trace Step (initial count) (middle ++ .cpuOff id :: last) w)
    (never : Event.cpuOff id ∉ middle) : (accepted id middle).length = if id = 0 then 0 else 1 := by
  obtain ⟨inside, finish, _, ended, _, on, _⟩ := off_at run
  have atFinish := (run_tally ended id).turns inside
  simp [on, offs_of_not_mem never] at atFinish
  split <;> simp_all

/-- A run that is due stays due, with its own entry and context, until it happens. -/
theorem owed_kept {id : Nat} {due : Word × Word} {later : List Event}
    (sound : Sound events w) (owes : owed id events = some due)
    (run : Trace Step w later next) (never : ∀ pc x0, .runs id pc x0 ∉ later) :
    Sound (events ++ later) next ∧ owed id (events ++ later) = some due := by
  induction run with
  | nil => simpa using ⟨sound, owes⟩
  | @snoc later before next event _ step held =>
      obtain ⟨soundBefore, owedBefore⟩ := held fun pc x0 inside =>
        never pc x0 (List.mem_append_left _ inside)
      rw [← List.append_assoc]
      refine ⟨step.sound soundBefore, ?_⟩
      rw [owed_snoc, owedBefore]
      have noRun : ∀ pc x0, event ≠ .runs id pc x0 := by
        rintro pc x0 rfl
        exact never pc x0 (by simp)
      have change := step.changes soundBefore id
      have fits := soundBefore id
      rw [owedBefore] at fits
      match event, noRun, change with
      | .cpuOn caller target entry context response, _, change =>
          -- an accepted request would have found the vCPU off, where no run is due
          generalize before.power id = power at change fits
          generalize next.power id = after at change
          cases change with
          | same noOn _ _ =>
              have refused : ¬(target = id ∧ response = success) := by
                intro both
                simp [Event.accepts, both] at noOn
              simp [VcpuPower.owes, refused]
          | cpuOn => exact absurd fits.run (by simp [Due])
      | .runs who pc x0, noRun, _ =>
          have other : who ≠ id := by
            rintro rfl
            exact noRun pc x0 rfl
          simp [VcpuPower.owes, other]
      | .silent, _, _ => rfl
      | .cpuOff _, _, _ => rfl
      | .affinityInfo .., _, _ => rfl
      | .refused _, _, _ => rfl
      | .initializeFails .., _, _ => rfl
      | .completes .., _, _ => rfl

/-- The first run after an accepted request starts at its entry, with its context. -/
theorem first_run {id caller : Nat} {entry context pc x0 : Word} {first middle last : List Event}
    (run : Trace Step (initial count)
      (first ++ Event.cpuOn caller id entry context success ::
        (middle ++ Event.runs id pc x0 :: last)) w)
    (never : ∀ pc x0, Event.runs id pc x0 ∉ middle) : pc = entry ∧ x0 = context := by
  obtain ⟨before, after, begun, step, rest⟩ := run.at_event
  obtain ⟨there, left, later, runs, _⟩ := rest.at_event
  have sound := run_sound (begun.snoc step)
  have owes : owed id (first ++ [.cpuOn caller id entry context success]) =
      some (entry, context) := by
    simp [VcpuPower.owes]
  obtain ⟨soundThere, due⟩ := owed_kept sound owes later never
  cases runs with
  | runs here =>
      have fits := soundThere id
      have on := fits.on_of_ready here
      have run := fits.run
      rw [on, due] at run
      simpa [Due, here, eq_comm] using run

end Run

/-! Nothing but its own failures keeps a pending vCPU from running. -/

section Progress

variable {entry context : Word} {v after : Vcpu}

def Goes (entry context : Word) (v after : Vcpu) : Prop :=
  Moves (some (.onPending entry context)) v after ∨ after = { v with immediateExit := false }

def Way (entry context : Word) (v : Vcpu) : Prop :=
  ∃ done, Reach (Goes entry context) v done ∧ done.place = .initialised entry context ∧
    done.registers.pc = entry ∧ done.registers.x0 = context

theorem Way.step (goes : Goes entry context v after) (way : Way entry context after) :
    Way entry context v := by
  obtain ⟨done, reach, ended⟩ := way
  exact ⟨done, .head goes reach, ended⟩

theorem Way.writeX0 (here : v.place = .initialising entry context .writeX0)
    (written : v.registers.pc = entry) : Way entry context v :=
  Way.step (.inl (.writesX0 here)) ⟨_, .refl, rfl, written, rfl⟩

theorem Way.writePc (here : v.place = .initialising entry context .writePc) :
    Way entry context v :=
  Way.step (.inl (.writesPc here)) (.writeX0 rfl rfl)

theorem Way.resetDebug (here : v.place = .initialising entry context .resetDebug) :
    Way entry context v :=
  Way.step (.inl (.resetsDebug here)) (.writePc rfl)

theorem Way.pending (here : v.place = .pending entry context) : Way entry context v :=
  Way.step (.inl (.checks here rfl)) (.resetDebug rfl)

theorem Way.waiting (here : v.place = .waiting) : Way entry context v := by
  apply Way.step (.inr rfl)
  exact Way.step (.inl (.seesPending here rfl rfl)) (.pending rfl)

theorem Way.outside (here : v.place = .outside) : Way entry context v :=
  Way.step (.inl (.enters here)) (.waiting rfl)

/-- Whatever the place at which it finds itself pending. -/
theorem Way.of_owned (owned : Owned (some (.onPending entry context)) v) :
    Way entry context v := by
  cases here : v.place with
  | outside => exact .outside here
  | waiting => exact .waiting here
  | pending =>
      simp only [Owned, here, Option.some.injEq, Power.onPending.injEq] at owned
      obtain ⟨rfl, rfl⟩ := owned
      exact .pending here
  | initialising _ _ stage =>
      simp only [Owned, here, Option.some.injEq, Power.onPending.injEq] at owned
      obtain ⟨⟨rfl, rfl⟩, written⟩ := owned
      cases stage with
      | resetDebug => exact .resetDebug here
      | writePc => exact .writePc here
      | writeX0 => exact .writeX0 here (written rfl)
  | initialised =>
      simp only [Owned, here, Option.some.injEq, Power.onPending.injEq] at owned
      obtain ⟨⟨rfl, rfl⟩, written⟩ := owned
      exact ⟨v, .refl, here, written⟩
  | ready => simp [Owned, here] at owned
  | running => simp [Owned, here] at owned
  | trapped => simp [Owned, here] at owned
  | called => simp [Owned, here] at owned
  | answering => simp [Owned, here] at owned

variable {w : World} {id : Nat}

/-- The way of one thread is a run of the whole, in which nothing else changes. -/
theorem Way.run (due : w.power id = some (.onPending entry context))
    (reach : Reach (Goes entry context) (w.vcpu id) after) :
    ∃ silent next, Trace Step w silent next ∧ (∀ event ∈ silent, event = .silent) ∧
      next.states = w.states ∧ next.vcpu id = after ∧
      ∀ other, other ≠ id → next.vcpu other = w.vcpu other := by
  induction reach with
  | refl => exact ⟨[], w, .nil, by simp, rfl, rfl, fun _ _ => rfl⟩
  | @tail middle last _ goes held =>
      obtain ⟨silent, next, run, quiet, states, here, others⟩ := held
      have power : next.power id = some (.onPending entry context) := by
        rw [World.power, states]
        exact due
      have step : Step next .silent (next.setVcpu id last) := by
        rcases goes with moves | rfl
        · exact .moves (by rwa [power, here])
        · have asks := Step.asks next id false
          rwa [here] at asks
      refine ⟨silent ++ [.silent], next.setVcpu id last, run.snoc step, ?_, states, ?_, ?_⟩
      · simpa [or_imp, forall_and] using quiet
      · simp
      · intro other away
        simpa [away] using others other away

/-- The last two steps, once the registers are written. -/
theorem completes_runs (here : (w.vcpu id).place = .initialised entry context)
    (due : w.power id = some (.onPending entry context))
    (atEntry : (w.vcpu id).registers.pc = entry) (atContext : (w.vcpu id).registers.x0 = context) :
    ∃ next, Trace Step w ([Event.completes id entry context] ++ [Event.runs id entry context]) next ∧
      next.power id = some .on ∧ ∀ other, other ≠ id →
        next.vcpu other = w.vcpu other ∧ next.power other = w.power other := by
  have inside : id < w.states.length := (List.getElem?_eq_some_iff.mp due).1
  let ready : World :=
    { w.setVcpu id ((w.vcpu id).goes .ready) with states := w.states.set id .on }
  have own : ready.vcpu id = (w.vcpu id).goes .ready := by simp [ready]
  have completes : Step w (.completes id entry context) ready := .completes here due
  have runs : Step ready (.runs id entry context)
      (ready.setVcpu id ((ready.vcpu id).goes .running)) := by
    have runs : Step ready _ _ := .runs (by simp [own, Vcpu.goes] : (ready.vcpu id).place = .ready)
    rw [own] at runs
    simpa [own, Vcpu.goes, atEntry, atContext] using runs
  refine ⟨_, (Trace.nil.snoc completes).snoc runs, ?_, ?_⟩
  · simp [World.power, ready, inside]
  · intro other away
    simp [World.power, ready, away, Ne.symm away]

/-- From every place, the thread of a pending vCPU can complete the request and run it. -/
theorem can_run {events : List Event} (sound : Sound events w)
    (due : w.power id = some (.onPending entry context)) :
    ∃ silent next, (∀ event ∈ silent, event = .silent) ∧
      Trace Step w (silent ++ ([Event.completes id entry context] ++
        [Event.runs id entry context])) next ∧
      next.power id = some .on ∧ ∀ other, other ≠ id →
        next.vcpu other = w.vcpu other ∧ next.power other = w.power other := by
  have owned := (sound id).owned
  rw [due] at owned
  obtain ⟨done, reach, ended, atEntry, atContext⟩ := Way.of_owned owned
  obtain ⟨silent, there, run, quiet, states, here, others⟩ := Way.run due reach
  have power : there.power = w.power := by
    funext other
    rw [World.power, World.power, states]
  subst here
  obtain ⟨next, last, on, rest⟩ :=
    completes_runs ended (power ▸ due) atEntry atContext
  refine ⟨silent, next, quiet, run.append last, on, ?_⟩
  intro other away
  obtain ⟨vcpu, table⟩ := rest other away
  exact ⟨vcpu.trans (others other away), power ▸ table⟩

end Progress

structure Orderly (events : List Event) (w : World) : Prop where
  /-- `Off` to `OnPending` by an accepted `CPU_ON`, `OnPending` to `On` by the vCPU's own thread,
  `On` to `Off` by its own `CPU_OFF`. -/
  changes : ∀ event next, Step w event next → ∀ id,
    Changes id event (w.power id) (next.power id)
  answers : ∀ caller target entry context response next,
    Step w (.cpuOn caller target entry context response) next →
      response = answerTo (w.power target)
  /-- Exactly one accepted `CPU_ON` between two entries into `Off`. -/
  between : ∀ id first middle last,
    events = first ++ Event.cpuOff id :: (middle ++ Event.cpuOff id :: last) →
      .cpuOff id ∉ middle →
      (accepted id middle).length = 1
  before : ∀ id middle last, events = middle ++ Event.cpuOff id :: last → .cpuOff id ∉ middle →
    (accepted id middle).length = if id = 0 then 0 else 1
  runsOn : ∀ id pc x0 next, Step w (.runs id pc x0) next → w.power id = some .on
  /-- The first run after an accepted `CPU_ON`. -/
  first : ∀ id caller entry context pc x0 first middle last,
    events = first ++ Event.cpuOn caller id entry context success ::
      (middle ++ Event.runs id pc x0 :: last) →
    (∀ pc x0, .runs id pc x0 ∉ middle) → pc = entry ∧ x0 = context
  failure : ∀ id entry context next, Step w (.initializeFails id entry context) next →
    w.power id = some (.onPending entry context) ∧ next.power id = w.power id
  /-- No accepted call is lost: it was completed or is the one that is pending, the checks of
  `complete_on` never turn it away, and its thread can always bring it to its first run. -/
  kept : ∀ id, accepted id events = completions id events ++ waitingFor (w.power id)
  welcome : ∀ id next, ¬Step w (.refused id) next
  progress : ∀ id entry context, w.power id = some (.onPending entry context) →
    ∃ silent next, (∀ event ∈ silent, event = .silent) ∧
      Trace Step w (silent ++ ([Event.completes id entry context] ++
        [Event.runs id entry context])) next ∧
      ∀ other, other ≠ id →
        next.vcpu other = w.vcpu other ∧ next.power other = w.power other

theorem vcpu_power_orderly {count : Nat} {events : List Event} {w : World}
    (run : Trace Step (initial count) events w) : Orderly events w := by
  have sound := run_sound run
  constructor
  case changes => exact fun event next step id => step.changes sound id
  case answers =>
      intro caller target entry context response next step
      cases step with
      | cpuOn _ _ _ _ _ request =>
          rw [World.power, ← requestOn_response w.states target entry context, request]
  case between =>
      rintro id first middle last rfl never
      exact one_accepted_between run never
  case before =>
      rintro id middle last rfl never
      exact one_accepted_before run never
  case runsOn =>
      intro id pc x0 next step
      cases step with
      | runs here => exact (sound id).on_of_ready here
  case first =>
      rintro id caller entry context pc x0 first middle last rfl never
      exact first_run run never
  case failure =>
      intro id entry context next step
      cases step with
      | initializeFails here => exact ⟨(sound id).pending_of_initialising here, rfl⟩
  case kept => exact fun id => (run_tally run id).calls
  case welcome =>
      intro id next step
      cases step with
      | refusedBefore here other => exact other ((sound id).pending_of_place here)
      | refusedAfter here other => exact other ((sound id).pending_of_initialised here).1
  case progress =>
      intro id entry context due
      obtain ⟨silent, next, quiet, way, _, others⟩ := can_run sound due
      exact ⟨silent, next, quiet, way, others⟩

/-- The first vCPU of two starts the second one, which completes the call and runs. -/
theorem vcpu_power_runs_second : ∃ events w, .cpuOn 0 1 0x1000 7 success ∈ events ∧
    .completes 1 0x1000 7 ∈ events ∧ .runs 1 0x1000 7 ∈ events ∧ w.power 1 = some .on ∧
    Orderly events w := by
  have entered : Trace Step (initial 2) _ _ := Trace.nil.snoc (@Step.moves _ 0 _ (.enters rfl))
  -- vCPU 0 runs, and asks for vCPU 1.
  have seen := entered.snoc (@Step.moves _ 0 _ (.seesOn rfl rfl rfl))
  have begun := seen.snoc (@Step.runs _ 0 rfl)
  have trapped := begun.snoc
    (@Step.moves _ 0 _ (.traps rfl ⟨0, 0xc4000003, 1, 0x1000, 7⟩ false))
  have called := trapped.snoc (@Step.moves _ 0 _ (.calls rfl))
  have requested := called.snoc
    (@Step.cpuOn _ 0 1 0x1000 7 success _ rfl (by decide) (by decide) rfl rfl rfl)
  have waiting := requested.snoc (@Step.moves _ 1 _ (.enters rfl))
  -- vCPU 1 makes itself ready, and then runs.
  have pending := waiting.snoc (@Step.moves _ 1 _ (.seesPending rfl rfl rfl))
  have checked := pending.snoc (@Step.moves _ 1 _ (.checks rfl rfl))
  have reset := checked.snoc (@Step.moves _ 1 _ (.resetsDebug rfl))
  have placed := reset.snoc (@Step.moves _ 1 _ (.writesPc rfl))
  have given := placed.snoc (@Step.moves _ 1 _ (.writesX0 rfl))
  have completed := given.snoc (@Step.completes _ 1 _ _ rfl rfl)
  have running := completed.snoc (@Step.runs _ 1 rfl)
  have registers : ∀ events : List Event,
      .runs 1 0x1000 7 ∈ events ++ [Event.runs 1 0x1000 7] := fun events => by simp
  exact ⟨_, _, by simp, by simp, registers _, rfl, vcpu_power_orderly running⟩

end Bscp.Crosvm.VcpuPower
