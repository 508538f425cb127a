import Bscp.Lifecycle.Supervise

/-!
The rule by which a supervised run is followed on its owner's state alone. An
owner whose operations move between the phases below, each under the conditions
at which the supervisor calls it, is carried by the supervisor from `idle` to
`ended` or to `broken`, whatever the commands, the clock and the deadlines are.
-/

namespace Bscp.Supervise

open Script ComputeProtocol
open BoundOwner (ResourceState StorageState)

section Phases

variable {Ω Snap : Type}

def AroundRequest (result : Result Snap) : Prop :=
  result.events.getLast? = some .requestPending ∨ result.events.getLast? = some .requestComplete

def Completed (result : Result Snap) (command response : Text) : Prop :=
  result.events.getLast? = some .requestComplete ∧ singleLine response = true ∧
    ("VADD ".toList.isPrefixOf command = true → ∃ task, validateResponse command response = .ok task) ∧
    ∃ request, result.request = some request ∧ request.command = command ∧
      request.state = .complete ∧ request.response = some response

def Legal (command : Text) : Prop := isCommand command = true

/-- What an answer of `failure_cleanup` has to show when it claims REAPED. -/
def Shown (evidence : Snap → Ω → Prop) (reply : Reply (Cleanup Snap)) (state : Ω) : Prop :=
  ∀ cleanup snapshot, reply = .value cleanup → cleanup.resourceState = some .reaped →
    cleanup.storageSnapshot = some (.value snapshot) → evidence snapshot state

structure Phases (owner : Owner Ω Snap) (emit : Result Snap → Script Ω Fault Unit) where
  always : Ω → Prop
  idle : Ω → Prop
  marked : Ω → Prop
  announced : Ω → Prop
  answered : Text → Text → Ω → Prop
  doubtful : Ω → Prop
  ended : Ω → Prop
  broken : Ω → Prop
  evidence : Snap → Ω → Prop
  idle_broken : ∀ state, idle state → broken state
  ended_broken : ∀ state, ended state → broken state
  broken_always : ∀ state, broken state → always state
  answered_doubtful : ∀ command response state, answered command response state → doubtful state
  start : Triple always idle owner.start (fun _ => idle) (fun _ => broken)
  ready : Triple always idle owner.ready (fun _ => idle) (fun _ => broken)
  observe : Triple always idle owner.observe (fun _ => idle) (fun _ => broken)
  polled : Triple always idle owner.guestDone (fun _ => idle) (fun _ => broken)
  idleEmit : ∀ result, ¬ AroundRequest result →
    Triple always idle (emit result) (fun _ => idle) (fun _ => broken)
  mark : ∀ state, idle state → marked (owner.setTransportUnknown true state)
  announce : ∀ result, result.events.getLast? = some .requestPending →
    Triple always marked (emit result) (fun _ => announced) (fun _ => doubtful)
  request : ∀ command, Legal command →
    Triple always
      (fun state => ∃ before, announced before ∧ state = owner.setTransportUnknown false before)
      (owner.request command)
      (fun reply state => doubtful state ∧
        ∀ response, reply = .value response → answered command response state)
      (fun _ => doubtful)
  complete : ∀ result command response, Completed result command response →
    Triple always (answered command response) (emit result) (fun _ => idle) (fun _ => doubtful)
  doubt : ∀ state, doubtful state → broken (owner.setTransportUnknown true state)
  stop : Triple always idle owner.stop (fun _ => ended) (fun _ => broken)
  awaited : Triple always ended owner.guestDone (fun _ => ended) (fun _ => broken)
  guestExit : Triple always ended owner.guestExit (fun _ => ended) (fun _ => broken)
  cleanupServices : Triple always ended owner.cleanupServices (fun _ => ended) (fun _ => broken)
  snapshot : Triple always ended owner.snapshot (fun _ => ended) (fun _ => broken)
  endedEmit : ∀ result, ¬ AroundRequest result →
    Triple always ended (emit result) (fun _ => ended) (fun _ => broken)
  failureCleanup : Triple always broken owner.failureCleanup
    (fun reply state => broken state ∧ Shown evidence reply state) (fun _ => broken)
  brokenEmit : ∀ result, ¬ AroundRequest result →
    Triple always broken (emit result) (fun _ => broken) (fun _ => broken)
  evidentEmit : ∀ result snapshot, Triple always (evidence snapshot) (emit result)
    (fun _ => evidence snapshot) (fun _ => evidence snapshot)

def At (phase : Ω → Prop) (shape : Result Snap → Prop) (world : World Ω Snap) : Prop :=
  phase world.owner ∧ shape world.result

theorem ask_at {α : Type} {always phase : Ω → Prop} {operation : Script Ω Fault α}
    {post : α → Ω → Prop} {fault : Fault → Ω → Prop} {event : Except Fault α → Call Snap}
    {s : Result Snap → Prop} (known : Triple always phase operation post fault) :
    Triple (fun world => always world.owner) (At phase s) (ask event operation)
      (fun value => At (post value) s) (fun error => At (fault error) s) := by
  rintro world ⟨holds, shaped⟩
  have reached := known world.owner holds
  unfold ask
  match ends : operation world.owner with
  | (.done value, after) => exact ⟨by simpa [ends] using reached, shaped⟩
  | (.raised error, after) => exact ⟨by simpa [ends] using reached, shaped⟩
  | (.unfinished, after) => simpa [ends] using reached

theorem update_at {always phase : Ω → Prop} {shape n : Result Snap → Prop}
    {change : Result Snap → Result Snap} {fault : Fault → World Ω Snap → Prop}
    (shaped : ∀ result, shape result → n (change result)) :
    Triple (fun world => always world.owner) (At phase shape) (update change)
      (fun _ => At phase n) fault :=
  Triple.modify fun world holds => ⟨holds.1, shaped world.result holds.2⟩

theorem getLast_events (events : List Note) (event : Note) :
    ((events ++ [event]).drop ((events ++ [event]).length - 64)).getLast? = some event := by
  rw [List.getLast?_drop]
  simp only [List.length_append, List.length_singleton]
  rw [if_neg (by omega)]
  exact List.getLast?_concat

theorem inside_at {α : Type} {always phase : Ω → Prop} {part : Script Ω Fault α}
    {post : α → Ω → Prop} {fault : Fault → Ω → Prop} {s : Result Snap → Prop}
    (known : Triple always phase part post fault) :
    Triple (fun world => always world.owner) (At phase s) (inside part)
      (fun value => At (post value) s) (fun error => At (fault error) s) := by
  rintro world ⟨holds, shaped⟩
  have reached := known world.owner holds
  simp only [inside]
  generalize part world.owner = ended at reached ⊢
  obtain ⟨outcome, after⟩ := ended
  cases outcome with
  | done value => exact ⟨reached, shaped⟩
  | raised error => exact ⟨reached, shaped⟩
  | unfinished => exact reached

/-- A note is emitted, and stays, as the last event of the result. -/
theorem note_last {always p : Ω → Prop} {around : Surroundings Ω Snap} {event : Note}
    {post : Ω → Prop} {fault : Ω → Prop} {s : Result Snap → Prop}
    (stable : ∀ result events, s result → s { result with events := events })
    (emitted : ∀ result, s result → result.events.getLast? = some event →
      Triple always p (around.emit result) (fun _ => post) (fun _ => fault)) :
    Triple (fun world => always world.owner) (At p s) (note around event)
      (fun _ => At post fun result => s result ∧ result.events.getLast? = some event)
      (fun _ => At fault fun result => s result ∧ result.events.getLast? = some event) := by
  unfold note
  refine Triple.andThen (update_at (n := fun result => s result ∧
    result.events.getLast? = some event) fun result shaped =>
      ⟨stable _ _ shaped, getLast_events result.events event⟩) fun _ => ?_
  refine Triple.andThen (m := fun now world => At p (fun result => s result ∧
    result.events.getLast? = some event) world ∧ now = world) (Triple.get fun _ holds =>
      ⟨holds, rfl⟩) fun now => ?_
  apply Triple.start
  rintro start ⟨⟨holds, shaped, last⟩, rfl⟩
  refine Triple.andThen (m := fun _ => At p fun result => s result ∧
    result.events.getLast? = some event) (Triple.modify ?_) fun _ =>
    inside_at (emitted _ shaped last)
  rintro world rfl
  exact ⟨holds, shaped, last⟩

theorem note_at {always p : Ω → Prop} {around : Surroundings Ω Snap} {event : Note}
    {post : Ω → Prop} {fault : Ω → Prop} {s : Result Snap → Prop}
    (stable : ∀ result events, s result → s { result with events := events })
    (emitted : ∀ result, s result → result.events.getLast? = some event →
      Triple always p (around.emit result) (fun _ => post) (fun _ => fault)) :
    Triple (fun world => always world.owner) (At p s) (note around event)
      (fun _ => At post s) (fun _ => At fault s) :=
  (note_last stable emitted).consequence (fun _ holds => holds)
    (fun _ _ holds => ⟨holds.1, holds.2.1⟩) (fun _ _ holds => ⟨holds.1, holds.2.1⟩)

/-- A note that is not written around a request. -/
theorem plain_note {result : Result Snap} {event : Note}
    (last : result.events.getLast? = some event)
    (plain : event ≠ .requestPending ∧ event ≠ .requestComplete) : ¬ AroundRequest result := by
  rintro (pending | complete)
  · exact plain.1 (Option.some.inj (last.symm.trans pending))
  · exact plain.2 (Option.some.inj (last.symm.trans complete))

theorem judge_at {always phase : Ω → Prop} {fault : Ω → Prop} {shape : Result Snap → Prop}
    (stable : ∀ result task, shape result → shape { result with taskResult := task })
    (faulty : ∀ state, phase state → fault state) (command response : Text) :
    Triple (fun world => always world.owner) (At phase shape) (judge command response)
      (fun _ => At phase shape) (fun _ => At fault shape) := by
  unfold judge
  refine Triple.andThen (update_at fun result shaped => stable result _ shaped) fun _ => ?_
  apply Triple.ite
  · intro _
    cases matchValue response with
    | none => exact Triple.ret fun _ holds => holds
    | some value =>
        refine Triple.ite (fun _ => Triple.raise fun _ holds => ⟨faulty _ holds.1, holds.2⟩)
          fun _ => ?_
        exact Triple.given (fun _ => update_at fun result shaped => stable result _ shaped)
          fun _ _ holds => holds
  · exact fun _ => Triple.given (fun _ => update_at fun result shaped => stable result _ shaped)
      fun _ _ holds => holds

section Rule

variable {owner : Owner Ω Snap} {around : Surroundings Ω Snap}
variable (phases : Phases owner around.emit)

abbrev In (phase : Ω → Prop) (world : World Ω Snap) : Prop := At phase (fun _ => True) world

omit phases in
theorem update_in {always phase : Ω → Prop} {change : Result Snap → Result Snap}
    {fault : Fault → World Ω Snap → Prop} :
    Triple (fun world => always world.owner) (In phase) (update change) (fun _ => In phase) fault :=
  Triple.modify fun _ holds => holds

abbrev Moves {α : Type} (phase : Ω → Prop) (part : Step Ω Snap α) (next : Ω → Prop) : Prop :=
  Triple (fun world => phases.always world.owner) (In phase) part (fun _ => In next)
    (fun _ => In phases.broken)

def Underway (command : Text) (result : Result Snap) : Prop :=
  ∃ request, result.request = some request ∧ request.command = command

theorem exchange_moves {command : Text} (legal : Legal command) :
    Triple (fun world => phases.always world.owner) (At phases.marked (Underway command))
      (exchange owner around command) (fun _ => In phases.idle) (fun _ => In phases.doubtful) := by
  unfold exchange
  refine Triple.andThen ((note_at (fun _ _ shaped => shaped)
    fun result _ last => phases.announce result last).consequence (fun _ holds => holds)
    (fun _ _ holds => holds) (fun _ _ holds => ⟨holds.1, trivial⟩)) fun _ => ?_
  refine Triple.andThen (m := fun _ => At (fun state => ∃ before, phases.announced before ∧
    state = owner.setTransportUnknown false before) (Underway command))
    (Triple.modify fun world holds => ⟨⟨world.owner, holds.1, rfl⟩, holds.2⟩) fun _ => ?_
  refine Triple.andThen ((ask_at (phases.request command legal)).consequence
    (fun _ holds => holds) (fun _ _ holds => holds) (fun _ _ holds => ⟨holds.1, trivial⟩))
    fun reply => ?_
  cases reply with
  | other => exact Triple.raise fun _ holds => ⟨holds.1.1, trivial⟩
  | value response =>
    refine Triple.ite (fun _ => Triple.raise fun _ holds => ⟨holds.1.1, trivial⟩) fun single => ?_
    have line : singleLine response = true := by simpa using single
    refine Triple.andThen (m := fun _ => At (phases.answered command response) fun result =>
        Underway command result ∧ ("VADD ".toList.isPrefixOf command = true →
          ∃ task, validateResponse command response = .ok task))
      (Triple.given (fun isVadd => ?_) fun notVadd world holds => ?_) fun _ => ?_
    · cases judged : validateResponse command response with
      | error error =>
          exact Triple.andThen (m := fun _ _ => False)
            (Triple.raise fun _ holds => ⟨holds.1.1, trivial⟩) fun _ _ impossible => impossible.elim
      | ok task =>
          refine Triple.andThen (m := fun _ => At (phases.answered command response)
            (Underway command)) (Triple.ret fun _ holds => ⟨holds.1.2 response rfl, holds.2⟩)
            fun written => update_at fun result shaped => ?_
          obtain ⟨request, present, same⟩ := shaped
          exact ⟨⟨{ request with task := some written }, by simp [present], same⟩,
            fun _ => ⟨task, rfl⟩⟩
    · exact ⟨holds.1.2 response rfl, holds.2, fun isVadd => absurd (notVadd.symm.trans isVadd) (by simp)⟩
    refine Triple.andThen (update_at (n := fun result =>
      ("VADD ".toList.isPrefixOf command = true →
        ∃ task, validateResponse command response = .ok task) ∧
      ∃ request, result.request = some request ∧ request.command = command ∧
        request.state = .complete ∧ request.response = some response) fun result shaped => ?_)
      fun _ => ?_
    · obtain ⟨⟨request, present, same⟩, valid⟩ := shaped
      exact ⟨valid, { request with state := .complete, response := some response },
        by simp [present], same, rfl, rfl⟩
    refine Triple.andThen ((judge_at (fun _ _ shaped => shaped)
      (fun _ answered => phases.answered_doubtful _ _ _ answered) command response).consequence
      (fun _ holds => holds) (fun _ _ holds => holds) (fun _ _ holds => ⟨holds.1, trivial⟩))
      fun _ => ?_
    exact (note_at (fun _ _ shaped => shaped) fun result shaped last =>
      phases.complete result command response ⟨last, line, shaped⟩).consequence
      (fun _ holds => holds) (fun _ _ holds => ⟨holds.1, trivial⟩) (fun _ _ holds => ⟨holds.1, trivial⟩)

theorem request_moves (id : Nat) {command : Text} (legal : Legal command) :
    Moves phases phases.idle (request owner around id command) phases.idle := by
  unfold request
  refine Triple.andThen (m := fun _ => At phases.idle (Underway command))
    (Triple.modify fun world holds => ⟨holds.1, _, rfl, rfl⟩) fun _ => ?_
  refine Triple.andThen (m := fun _ => At phases.marked (Underway command))
    (Triple.modify fun world holds => ⟨phases.mark _ holds.1, holds.2⟩) fun _ => ?_
  refine Triple.handle (exchange_moves phases legal) fun exc => ?_
  refine Triple.andThen (m := fun _ => In phases.broken)
    (Triple.modify fun world holds => ⟨phases.doubt _ holds.1, trivial⟩) fun _ => ?_
  exact Triple.andThen (update_in) fun _ => Triple.raise fun _ holds => holds

theorem idle_note {event : Note} (plain : event ≠ .requestPending ∧ event ≠ .requestComplete) :
    Moves phases phases.idle (note around event) phases.idle :=
  note_at (fun _ _ _ => trivial) fun result _ last => phases.idleEmit result (plain_note last plain)

theorem matchRequest_legal {line command : Text} {id : Nat}
    (matched : matchRequest line = some (id, command)) : Legal command := by
  unfold matchRequest at matched
  split at matched
  · dsimp only at matched
    split at matched
    · rename_i accepted
      simp only [Bool.and_eq_true] at accepted
      simp only [Option.some.injEq, Prod.mk.injEq] at matched
      exact matched.2 ▸ accepted.2
    · cases matched
  · cases matched

theorem requestLine_moves (line : Text) :
    Moves phases phases.idle (requestLine owner around line) phases.idle := by
  unfold requestLine
  refine Triple.andThen (m := fun _ => In phases.idle) (Triple.get fun _ holds => holds)
    fun world => ?_
  cases matched : matchRequest line with
  | none => exact idle_note phases (by decide)
  | some found =>
      have legal : Legal found.2 := matchRequest_legal matched
      refine Triple.ite (fun _ => idle_note phases (by decide)) fun _ => ?_
      refine Triple.ite (fun _ => ?_) fun _ => request_moves phases _ legal
      cases parse found.2 with
      | error _ => exact idle_note phases (by decide)
      | ok _ => exact request_moves phases _ legal

/-- The supervisor may raise by itself wherever the owner is idle. -/
theorem idle_raises {world : World Ω Snap} (holds : In phases.idle world) : In phases.broken world :=
  ⟨phases.idle_broken _ holds.1, trivial⟩

theorem turn_moves (deadline : Int) :
    Moves phases phases.idle (turn owner around deadline) phases.idle := by
  unfold turn
  refine Triple.andThen (ask_at phases.observe) fun _ => ?_
  refine Triple.andThen (ask_at phases.polled) fun done => ?_
  refine Triple.ite (fun _ => Triple.raise fun _ => idle_raises phases) fun _ => ?_
  refine Triple.andThen (m := fun _ => In phases.idle) (fun _ holds => holds) fun now => ?_
  refine Triple.ite (fun _ => Triple.andThen (update_in) fun _ =>
    Triple.ret fun _ holds => holds) fun _ => ?_
  refine Triple.andThen (m := fun _ => In phases.idle) (fun _ holds => holds) fun command => ?_
  have again : ∀ {part : Step Ω Snap Unit}, Moves phases phases.idle part phases.idle →
      Moves phases phases.idle (do part; Script.ret (Next.again : Next Unit)) phases.idle :=
    fun part => Triple.andThen part fun _ => Triple.ret fun _ holds => holds
  cases command with
  | none => exact Triple.ret fun _ holds => holds
  | some command =>
      refine Triple.ite (fun _ => again (idle_note phases (by decide))) fun _ => ?_
      refine Triple.ite (fun _ => Triple.raise fun _ => idle_raises phases) fun _ => ?_
      refine Triple.ite (fun _ => again (requestLine_moves phases command)) fun _ => ?_
      refine Triple.ite (fun _ => Triple.ret fun _ holds => holds) fun _ => ?_
      exact again (idle_note phases (by decide))

theorem startUp_moves (deadline : Int) (fuel : Nat) :
    Moves phases phases.idle (startUp owner around deadline fuel) phases.idle := by
  unfold startUp
  refine Triple.andThen (ask_at phases.start) fun _ => ?_
  refine Triple.andThen (idle_note phases (by decide)) fun _ => ?_
  refine Triple.andThen (m := fun _ => In phases.idle)
    (Triple.loop (i := In phases.idle) ?_ (fun _ holds =>
      phases.broken_always _ (phases.idle_broken _ holds.1)) fuel) fun _ => ?_
  · refine Triple.andThen (ask_at phases.ready) fun ready => ?_
    refine Triple.ite (fun _ => Triple.ret fun _ holds => holds) fun _ => ?_
    refine Triple.andThen (m := fun _ => In phases.idle) (fun _ holds => holds) fun now => ?_
    exact Triple.ite (fun _ => Triple.raise fun _ => idle_raises phases)
      fun _ => Triple.ret fun _ holds => holds
  · exact Triple.andThen (update_in) fun _ => idle_note phases (by decide)

theorem ended_note {event : Note} (plain : event ≠ .requestPending ∧ event ≠ .requestComplete)
    {shape : Result Snap → Prop}
    (stable : ∀ result events, shape result → shape { result with events := events }) :
    Triple (fun world => phases.always world.owner) (At phases.ended shape) (note around event)
      (fun _ => At phases.ended shape) (fun _ => In phases.broken) :=
  (note_at stable fun result _ last => phases.endedEmit result (plain_note last plain)).consequence
    (fun _ holds => holds) (fun _ _ holds => holds) (fun _ _ holds => ⟨holds.1, trivial⟩)

theorem ended_raises {world : World Ω Snap} {shape : Result Snap → Prop}
    (holds : At phases.ended shape world) : In phases.broken world :=
  ⟨phases.ended_broken _ holds.1, trivial⟩

theorem stopGuest_moves (fuel : Nat) :
    Moves phases phases.idle (stopGuest owner around fuel) phases.ended := by
  unfold stopGuest
  refine Triple.andThen (update_in) fun _ => ?_
  refine Triple.andThen (idle_note phases (by decide)) fun _ => ?_
  refine Triple.andThen (ask_at phases.stop) fun reply => ?_
  cases reply with
  | other => exact Triple.raise fun _ => ended_raises phases
  | value reply =>
    refine Triple.andThen (update_in) fun _ => ?_
    refine Triple.ite (fun _ => Triple.raise fun _ => ended_raises phases) fun _ => ?_
    refine Triple.andThen (m := fun _ => In phases.ended) (fun _ holds => holds) fun now => ?_
    refine Triple.loop (i := In phases.ended) ?_ (fun _ holds =>
      phases.broken_always _ (phases.ended_broken _ holds.1)) fuel
    refine Triple.andThen (ask_at phases.awaited) fun done => ?_
    refine Triple.ite (fun _ => Triple.ret fun _ holds => holds) fun _ => ?_
    refine Triple.andThen (m := fun _ => In phases.ended) (fun _ holds => holds) fun later => ?_
    exact Triple.ite (fun _ => Triple.raise fun _ => ended_raises phases)
      fun _ => Triple.ret fun _ holds => holds

variable [EmptyCollection Snap]

/-- What the failure branch keeps: the phase, the state and the last event of
the result, and the evidence behind a resource state that is reported as reaped. -/
structure Lost (world : World Ω Snap) : Prop where
  broken : phases.broken world.owner
  unknown : world.result.state = .unknown
  plain : ¬ AroundRequest world.result
  shown : world.result.resourceState = .reaped → ∃ snapshot, snapshot ≠ ∅ ∧
    world.result.storageSnapshot = some (.value snapshot) ∧
    phases.evidence snapshot world.owner

theorem safeNote_lost {event : Note} (plain : event ≠ .requestPending ∧ event ≠ .requestComplete)
    {fault : Fault → World Ω Snap → Prop} :
    Triple (fun world => phases.always world.owner) (Lost phases) (safeNote around event)
      (fun _ => Lost phases) fault := by
  apply Triple.start
  rintro start ⟨broken, unknown, _, shown⟩
  refine Triple.handle (c := fun _ => Lost phases) ?_ fun exc =>
    Triple.modify fun world lost => { lost with }
  by_cases reaped : start.result.resourceState = .reaped
  · obtain ⟨snapshot, nonempty, kept, evident⟩ := shown reaped
    have both : ∀ result, ¬ AroundRequest result → Triple phases.always
        (fun state => phases.broken state ∧ phases.evidence snapshot state) (around.emit result)
        (fun _ state => phases.broken state ∧ phases.evidence snapshot state)
        (fun _ state => phases.broken state ∧ phases.evidence snapshot state) :=
      fun result plain => (phases.brokenEmit result plain).both (phases.evidentEmit result snapshot)
    refine (note_last (s := fun result => result.state = .unknown ∧
        result.storageSnapshot = some (.value snapshot)) (fun _ _ shaped => shaped)
      fun result _ last => both result (plain_note last plain)).consequence ?_ ?_ ?_
    · rintro world rfl
      exact ⟨⟨broken, evident⟩, unknown, kept⟩
    · rintro _ world ⟨⟨broken, evident⟩, ⟨unknown, kept⟩, last⟩
      exact ⟨broken, unknown, plain_note last plain, fun _ => ⟨snapshot, nonempty, kept, evident⟩⟩
    · rintro _ world ⟨⟨broken, evident⟩, ⟨unknown, kept⟩, last⟩
      exact ⟨broken, unknown, plain_note last plain, fun _ => ⟨snapshot, nonempty, kept, evident⟩⟩
  · refine (note_last (p := phases.broken) (s := fun result => result.state = .unknown ∧
      result.resourceState ≠ .reaped) (fun _ _ shaped => shaped)
      fun result _ last => phases.brokenEmit result (plain_note last plain)).consequence ?_ ?_ ?_
    · rintro world rfl
      exact ⟨broken, unknown, reaped⟩
    · rintro _ world ⟨broken, ⟨unknown, pending⟩, last⟩
      exact ⟨broken, unknown, plain_note last plain, fun claimed => (pending claimed).elim⟩
    · rintro _ world ⟨broken, ⟨unknown, pending⟩, last⟩
      exact ⟨broken, unknown, plain_note last plain, fun claimed => (pending claimed).elim⟩

def Unreaped (result : Result Snap) : Prop :=
  result.state = .unknown ∧ ¬ AroundRequest result ∧ result.resourceState ≠ .reaped

theorem lost_unreaped {world : World Ω Snap} (holds : At phases.broken Unreaped world) :
    Lost phases world :=
  ⟨holds.1, holds.2.1, holds.2.2.1, fun claimed => (holds.2.2.2 claimed).elim⟩

variable [DecidableEq Snap]

theorem release_moves :
    Triple (fun world => phases.always world.owner) (In phases.ended) (release owner around)
      (fun _ => At phases.ended fun result => result.state = .stopped)
      (fun _ => In phases.broken) := by
  unfold release
  refine Triple.andThen (ask_at phases.guestExit) fun code => ?_
  refine Triple.ite (fun _ => Triple.raise fun _ => ended_raises phases) fun _ => ?_
  refine Triple.andThen (update_in) fun _ => ?_
  refine Triple.andThen (ended_note phases (by decide) fun _ _ _ => trivial) fun _ => ?_
  refine Triple.andThen (ask_at phases.cleanupServices) fun _ => ?_
  refine Triple.andThen (update_in) fun _ => ?_
  refine Triple.andThen (ended_note phases (by decide) fun _ _ _ => trivial) fun _ => ?_
  refine Triple.andThen (ask_at phases.snapshot) fun snapshot => ?_
  refine Triple.andThen (update_in) fun _ => ?_
  refine Triple.ite (fun _ => Triple.raise fun _ => ended_raises phases) fun _ => ?_
  refine Triple.andThen (update_at (n := fun result => result.state = .stopped) fun _ _ => rfl)
    fun _ => ?_
  exact ended_note phases (by decide) fun _ _ stopped => stopped

theorem ordinary_moves (deadline : Int) (fuel : Nat) :
    Triple (fun world => phases.always world.owner) (In phases.idle)
      (ordinary owner around deadline fuel)
      (fun _ => At phases.ended fun result => result.state = .stopped)
      (fun _ => In phases.broken) := by
  unfold ordinary
  refine Triple.andThen (startUp_moves phases deadline fuel) fun _ => ?_
  refine Triple.andThen (m := fun _ => In phases.idle) ?_ fun _ => ?_
  · refine Triple.loop (i := In phases.idle) ?_ (fun _ holds =>
      phases.broken_always _ (phases.idle_broken _ holds.1)) fuel
    refine (turn_moves phases deadline).consequence (fun _ holds => holds) ?_ (fun _ _ holds => holds)
    rintro next world holds
    cases next <;> exact holds
  refine Triple.andThen (stopGuest_moves phases fuel) fun _ => ?_
  exact release_moves phases

theorem cleanUp_lost :
    Triple (fun world => phases.always world.owner) (At phases.broken Unreaped) (cleanUp owner)
      (fun _ => Lost phases) (fun _ => Lost phases) := by
  unfold cleanUp
  refine Triple.andThen ((ask_at phases.failureCleanup).consequence (fun _ holds => holds)
    (fun _ _ holds => holds) (fun _ _ holds => lost_unreaped phases holds)) fun reply => ?_
  refine Triple.andThen (update_at (n := Unreaped) fun _ shaped => shaped) fun _ => ?_
  cases reply with
  | other => exact Triple.raise fun _ holds => lost_unreaped phases ⟨holds.1.1, holds.2⟩
  | value cleanup =>
    refine Triple.given (fun claimed => ?_)
      fun _ _ holds => lost_unreaped phases ⟨holds.1.1, holds.2⟩
    cases given_ : cleanup.storageSnapshot with
    | none => exact Triple.raise fun _ holds => lost_unreaped phases ⟨holds.1.1, holds.2⟩
    | some kept =>
      cases kept with
      | other => exact Triple.raise fun _ holds => lost_unreaped phases ⟨holds.1.1, holds.2⟩
      | value snapshot =>
        refine Triple.ite (fun _ => Triple.raise fun _ holds =>
          lost_unreaped phases ⟨holds.1.1, holds.2⟩) fun nonempty => Triple.modify ?_
        rintro world ⟨⟨broken, shown⟩, unknown, plain, _⟩
        exact ⟨broken, unknown, plain, fun _ => ⟨snapshot, nonempty, rfl,
          shown cleanup snapshot rfl (by simpa using claimed) given_⟩⟩

theorem failure_lost (exc : Fault) :
    Triple (fun world => phases.always world.owner) (In phases.broken) (failure owner around exc)
      (fun _ => Lost phases) (fun _ => In phases.broken) := by
  have preserved : ∀ {world : World Ω Snap}, At phases.broken (fun result =>
      (result.state = .unknown ∧ result.resourceState ≠ .reaped) ∧
        result.events.getLast? = some .failurePreserved) world → At phases.broken Unreaped world :=
    fun holds => ⟨holds.1, holds.2.1.1, plain_note holds.2.2 (by decide), holds.2.1.2⟩
  unfold failure
  refine Triple.andThen (m := fun _ => At phases.broken fun result => result.state = .unknown ∧
    result.resourceState ≠ .reaped) (Triple.modify fun world holds => ⟨holds.1, rfl, by simp⟩)
    fun _ => ?_
  refine Triple.andThen (m := fun _ => At phases.broken Unreaped)
    (Triple.handle ((note_last (fun _ _ shaped => shaped) fun result _ last =>
      phases.brokenEmit result (plain_note last (by decide))).consequence (fun _ holds => holds)
      (fun _ _ holds => preserved holds) (fun _ _ holds => preserved holds))
      fun _ => update_at fun _ shaped => shaped) fun _ => ?_
  refine Triple.andThen (m := fun _ => Lost phases) (Triple.handle (cleanUp_lost phases)
    fun _ => Triple.modify fun _ lost => { lost with }) fun _ => ?_
  refine Triple.andThen (m := fun _ => Lost phases) (Triple.get fun _ lost => lost) fun now => ?_
  refine Triple.andThen (m := fun _ => Lost phases) (Triple.given
    (fun _ => Triple.modify fun _ lost => { lost with }) fun _ _ lost => lost) fun _ => ?_
  refine Triple.andThen (m := fun _ => Lost phases) (Triple.given
    (fun _ => Triple.modify fun _ lost => { lost with }) fun _ _ lost => lost) fun _ => ?_
  split
  · exact Triple.raise fun _ lost => ⟨lost.broken, trivial⟩
  · refine Triple.andThen (m := fun _ => Lost phases) (Triple.given
      (fun _ => Triple.modify fun _ lost => { lost with }) fun _ _ lost => lost) fun _ => ?_
    refine Triple.andThen (m := fun _ => Lost phases)
      (Triple.modify fun _ lost => { lost with }) fun _ => ?_
    refine safeNote_lost phases ?_
    split <;> decide

/-- The whole run, from a new idle owner. -/
theorem supervise_moves (fuel : Nat) :
    Triple (fun world => phases.always world.owner) (In phases.idle) (supervise owner around fuel)
      (fun result world => result = world.result ∧
        ((phases.ended world.owner ∧ result.state = .stopped) ∨ Lost phases world))
      (fun _ => In phases.broken) := by
  unfold supervise
  refine Triple.andThen (m := fun _ => In phases.idle) (fun _ holds => holds) fun now => ?_
  refine Triple.andThen (m := fun _ world => (phases.ended world.owner ∧
      world.result.state = .stopped) ∨ Lost phases world)
    (Triple.handle ((ordinary_moves phases _ fuel).consequence (fun _ holds => holds)
      (fun _ _ holds => Or.inl ⟨holds.1, holds.2⟩) (fun _ _ holds => holds)) fun exc =>
      (failure_lost phases exc).consequence (fun _ holds => holds) (fun _ _ lost => Or.inr lost)
        (fun _ _ holds => holds)) fun _ => ?_
  exact Triple.andThen (m := fun now world => now = world ∧
      ((phases.ended world.owner ∧ world.result.state = .stopped) ∨ Lost phases world))
    (Triple.get fun _ holds => ⟨rfl, holds⟩) fun _ => Triple.ret (by
      rintro world ⟨rfl, holds⟩
      exact ⟨rfl, holds⟩)

end Rule

end Phases

end Bscp.Supervise
