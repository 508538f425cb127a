import Bscp.Lifecycle.Supervise

/-!
How a supervised run ends. Every step before the STOP keeps `Serving`, the two
parts after it leave exactly the evidence of a healthy stop, and the failure
branch leaves a record that no snapshot can resume.
-/

namespace Bscp.Supervise

open Script ComputeProtocol
open BoundOwner (ResourceState StorageState)

section Statement

variable {Ω Snap : Type}

def Answers {α : Type} (operation : Script Ω Fault α) : Prop :=
  ∀ state, (operation state).1 ≠ .unfinished

structure Owner.Answering (owner : Owner Ω Snap) : Prop where
  start : Answers owner.start
  ready : Answers owner.ready
  observe : Answers owner.observe
  request : ∀ command, Answers (owner.request command)
  guestDone : Answers owner.guestDone
  stop : Answers owner.stop
  guestExit : Answers owner.guestExit
  cleanupServices : Answers owner.cleanupServices
  snapshot : Answers owner.snapshot
  failureCleanup : Answers owner.failureCleanup

def Call.calm : Call Snap → Bool
  | .stop _ | .failureCleanup _ => false
  | _ => true

/-- The calls of a run, newest first, up to the Guest's end after its one STOP. -/
def GuestEnded (calls : List (Call Snap)) : Prop :=
  ∃ polls before : List (Call Snap), calls =
      Call.guestDone (.ok true) ::
        (polls ++ Call.stop (.ok (.value "BYE\n".toList)) :: before) ∧
    (∀ call ∈ polls, call = Call.guestDone (.ok false)) ∧ ∀ call ∈ before, call.calm = true

def HealthyStop (calls : List (Call Snap)) (snapshot : Snap) : Prop :=
  ∃ ended, calls = .snapshot (.ok (.value snapshot)) :: .cleanupServices (.ok ()) ::
      .guestExit (.ok (.value 0)) :: ended ∧ GuestEnded ended

/-- Time passes every bound and stays beyond it. -/
def Passes (clock : Nat → Int) : Prop := ∀ bound, ∃ reading, ∀ later ≥ reading, bound ≤ clock later

end Statement

section Steps

variable {Ω Snap : Type}

structure Serving (ticks : Nat) (world : World Ω Snap) : Prop where
  recovery : world.result.needsRecovery = false
  forced : world.result.forcedGuest = some false
  uncleaned : world.result.failureCleanup = none
  calm : ∀ call ∈ world.calls, call.calm = true
  ticks : world.ticks = ticks

def Uncleaned (_ : Fault) (world : World Ω Snap) : Prop := world.result.failureCleanup = none

/-- The three keys of a result that decide about a later resume and that no step
before the end changes. -/
def SameFate (result other : Result Snap) : Prop :=
  result.needsRecovery = other.needsRecovery ∧ result.forcedGuest = other.forcedGuest ∧
    result.failureCleanup = other.failureCleanup

abbrev Spec {α : Type} (pre : World Ω Snap → Prop) (part : Step Ω Snap α)
    (post : α → World Ω Snap → Prop) : Prop :=
  Triple (fun _ => False) pre part post Uncleaned

theorem ask_spec {α : Type} {event : Except Fault α → Call Snap} {operation : Script Ω Fault α}
    (answers : Answers operation) {pre : World Ω Snap → Prop} {post : α → World Ω Snap → Prop}
    {fault : Fault → World Ω Snap → Prop}
    (returned : ∀ world owner value, pre world →
      post value { world with owner := owner, calls := event (.ok value) :: world.calls })
    (refused : ∀ world owner error, pre world →
      fault error { world with owner := owner, calls := event (.error error) :: world.calls }) :
    Triple (fun _ => False) pre (ask event operation) post fault := by
  intro world holds
  unfold ask
  match ends : operation world.owner with
  | (.done value, after) => exact returned world after value holds
  | (.raised error, after) => exact refused world after error holds
  | (.unfinished, after) => exact answers world.owner (by rw [ends])

theorem ask_serving {α : Type} {event : Except Fault α → Call Snap}
    {operation : Script Ω Fault α} (answers : Answers operation)
    (calm : ∀ answer, (event answer).calm = true) (ticks : Nat) :
    Spec (Serving ticks) (ask event operation) (fun _ => Serving ticks) := by
  refine ask_spec answers ?_ ?_
  · intro world owner value serving
    exact { serving with calm := by simpa using ⟨calm _, serving.calm⟩ }
  · intro world owner error serving
    exact serving.uncleaned

theorem update_serving {change : Result Snap → Result Snap} (ticks : Nat)
    (same : ∀ result, SameFate (change result) result := by intro _; exact ⟨rfl, rfl, rfl⟩) :
    Spec (Serving (Ω := Ω) ticks) (update change) (fun _ => Serving ticks) := by
  refine Triple.modify fun world serving => ?_
  obtain ⟨recovery, forced, uncleaned⟩ := same world.result
  exact ⟨recovery.trans serving.recovery, forced.trans serving.forced,
    uncleaned.trans serving.uncleaned, serving.calm, serving.ticks⟩

theorem setTransportUnknown_serving (owner : Owner Ω Snap) (unknown : Bool) (ticks : Nat) :
    Spec (Serving ticks) (setTransportUnknown owner unknown) (fun _ => Serving ticks) :=
  Triple.modify fun _ serving => { serving with }

theorem inside_spec {α : Type} {part : Script Ω Fault α} (answers : Answers part)
    {pre : World Ω Snap → Prop} {fault : Fault → World Ω Snap → Prop}
    (kept : ∀ world owner, pre world → pre { world with owner := owner })
    (refused : ∀ error world, pre world → fault error world) :
    Triple (fun _ => False) pre (inside part) (fun _ => pre) fault := by
  intro world holds
  simp only [inside]
  cases ends : (part world.owner).1 with
  | done value => exact kept world _ holds
  | raised error => exact refused _ _ (kept world _ holds)
  | unfinished => exact answers world.owner ends

/-- A note changes the events and the owner, and may raise. -/
theorem note_spec {around : Surroundings Ω Snap}
    (emits : ∀ result, Answers (around.emit result)) (event : Note)
    {pre : World Ω Snap → Prop} {fault : Fault → World Ω Snap → Prop}
    (kept : ∀ world owner events emissions, pre world →
      pre { world with owner := owner, emissions := emissions
                       result := { world.result with events := events } })
    (refused : ∀ error world, pre world → fault error world) :
    Triple (fun _ => False) pre (note around event) (fun _ => pre) fault := by
  unfold note
  refine Triple.andThen (m := fun _ => pre) (Triple.modify fun world holds => ?_) fun _ => ?_
  · exact kept world world.owner _ world.emissions holds
  refine Triple.andThen (m := fun _ => pre) (Triple.get fun _ holds => holds) fun now => ?_
  refine Triple.andThen (m := fun _ => pre) (Triple.modify fun world holds => ?_) fun _ => ?_
  · exact kept world world.owner world.result.events _ holds
  · exact inside_spec (emits _) (fun world owner holds =>
      kept world owner world.result.events world.emissions holds) refused

theorem note_serving {around : Surroundings Ω Snap}
    (emits : ∀ result, Answers (around.emit result)) (event : Note) (ticks : Nat) :
    Spec (Serving ticks) (note around event) (fun _ => Serving ticks) :=
  note_spec emits event (fun _ _ _ _ serving => { serving with })
    fun _ _ serving => serving.uncleaned

theorem clock_serving (around : Surroundings Ω Snap) (ticks : Nat) :
    Spec (Serving ticks) (clock around)
      (fun now world => Serving (ticks + 1) world ∧ now = around.clock ticks) := by
  intro world serving
  refine ⟨{ serving with ticks := ?_ }, ?_⟩
  · exact congrArg (· + 1) serving.ticks
  · exact congrArg around.clock serving.ticks

theorem judge_serving (command response : Text) (ticks : Nat) :
    Spec (Serving ticks) (judge command response : Step Ω Snap Unit) (fun _ => Serving ticks) := by
  unfold judge
  have passed : Spec (Serving ticks)
      (update fun result => { result with taskResult := .success } : Step Ω Snap Unit)
      (fun _ => Serving ticks) := update_serving ticks
  refine Triple.andThen (update_serving ticks) fun _ => ?_
  apply Triple.ite
  · intro _
    cases matchValue response with
    | none => exact Triple.ret fun _ serving => serving
    | some value =>
        refine Triple.ite (fun _ => Triple.raise fun _ serving => serving.uncleaned) fun _ => ?_
        exact Triple.given (fun _ => passed) fun _ _ serving => serving
  · exact fun _ => Triple.given (fun _ => passed) fun _ _ serving => serving

section Requests

variable {owner : Owner Ω Snap} {around : Surroundings Ω Snap}
variable (answering : owner.Answering) (emits : ∀ result, Answers (around.emit result))

include answering emits

theorem exchange_serving (command : Text) (ticks : Nat) :
    Spec (Serving ticks) (exchange owner around command) (fun _ => Serving ticks) := by
  unfold exchange
  refine Triple.andThen (note_serving emits _ ticks) fun _ => ?_
  refine Triple.andThen (setTransportUnknown_serving owner false ticks) fun _ => ?_
  refine Triple.andThen (ask_serving (answering.request command) (fun _ => rfl) ticks) fun reply => ?_
  cases reply with
  | other => exact Triple.raise fun _ serving => serving.uncleaned
  | value response =>
      refine Triple.ite (fun _ => Triple.raise fun _ serving => serving.uncleaned) fun _ => ?_
      refine Triple.andThen (m := fun _ => Serving ticks)
        (Triple.given (fun _ => ?_) fun _ _ serving => serving) fun _ => ?_
      · cases validateResponse command response with
        | error error =>
            exact Triple.andThen (m := fun _ _ => False)
              (Triple.raise fun _ serving => serving.uncleaned) fun _ _ impossible => impossible.elim
        | ok task =>
            exact Triple.andThen (m := fun _ => Serving ticks) (Triple.ret fun _ serving => serving)
              fun _ => update_serving ticks
      refine Triple.andThen (update_serving ticks) fun _ => ?_
      refine Triple.andThen (judge_serving command response ticks) fun _ => ?_
      exact note_serving emits _ ticks

theorem request_serving (id : Nat) (command : Text) (ticks : Nat) :
    Spec (Serving ticks) (request owner around id command) (fun _ => Serving ticks) := by
  unfold request
  refine Triple.andThen (m := fun _ => Serving ticks) (Triple.modify fun _ serving =>
    { serving with }) fun _ => ?_
  refine Triple.andThen (setTransportUnknown_serving owner true ticks) fun _ => ?_
  refine Triple.handle (exchange_serving answering emits command ticks) fun exc => ?_
  refine Triple.andThen (m := fun _ => Uncleaned exc) (Triple.modify fun _ holds => holds)
    fun _ => ?_
  exact Triple.andThen (m := fun _ => Uncleaned exc) (Triple.modify fun _ holds => holds)
    fun _ => Triple.raise fun _ holds => holds

theorem requestLine_serving (line : Text) (ticks : Nat) :
    Spec (Serving ticks) (requestLine owner around line) (fun _ => Serving ticks) := by
  unfold requestLine
  refine Triple.andThen (m := fun _ => Serving ticks) (Triple.get fun _ serving => serving)
    fun world => ?_
  cases matchRequest line with
  | none => exact note_serving emits _ ticks
  | some matched =>
      refine Triple.ite (fun _ => note_serving emits _ ticks) fun _ => ?_
      refine Triple.ite (fun _ => ?_) fun _ => request_serving answering emits _ _ ticks
      cases parse matched.2 with
      | error _ => exact note_serving emits _ ticks
      | ok _ => exact request_serving answering emits _ _ ticks

/-- A turn that does not end the loop has read the clock before the deadline. -/
theorem turn_serving (deadline : Int) (ticks : Nat) :
    Spec (Serving ticks) (turn owner around deadline)
      (fun next world => Serving (ticks + 1) world ∧
        (next = .again → around.clock ticks < deadline)) := by
  unfold turn
  refine Triple.andThen (ask_serving answering.observe (fun _ => rfl) ticks) fun _ => ?_
  refine Triple.andThen (ask_serving answering.guestDone (fun _ => rfl) ticks) fun done => ?_
  refine Triple.ite (fun _ => Triple.raise fun _ serving => serving.uncleaned) fun _ => ?_
  refine Triple.andThen (clock_serving around ticks) fun now => ?_
  apply Triple.ite
  · intro _
    refine Triple.andThen (m := fun _ => Serving (ticks + 1))
      ((update_serving (ticks + 1)).before fun _ holds => holds.1) fun _ => ?_
    exact Triple.ret fun _ serving => ⟨serving, nofun⟩
  intro early
  apply Triple.start
  rintro start ⟨serving, rfl⟩
  have before : around.clock ticks < deadline := by simpa using early
  refine Triple.andThen (m := fun _ => Serving (ticks + 1)) ?_ fun command => ?_
  · rintro world rfl
    exact { serving with }
  have again : ∀ {part : Step Ω Snap Unit},
      Spec (Serving (ticks + 1)) part (fun _ => Serving (ticks + 1)) →
      Spec (Serving (ticks + 1)) (do part; Script.ret (Next.again : Next Unit))
        (fun next world => Serving (ticks + 1) world ∧
          (next = .again → around.clock ticks < deadline)) :=
    fun part => Triple.andThen part fun _ => Triple.ret fun _ serving => ⟨serving, fun _ => before⟩
  cases command with
  | none => exact Triple.ret fun _ serving => ⟨serving, fun _ => before⟩
  | some command =>
      refine Triple.ite (fun _ => again (note_serving emits _ _)) fun _ => ?_
      refine Triple.ite (fun _ => Triple.raise fun _ serving => serving.uncleaned) fun _ => ?_
      refine Triple.ite (fun _ => again (requestLine_serving answering emits command _)) fun _ => ?_
      refine Triple.ite (fun _ => Triple.ret fun _ serving => ⟨serving, nofun⟩) fun _ => ?_
      exact again (note_serving emits _ _)

/-- The fuel that the readings of the clock before `horizon` can use up. -/
theorem startUp_serving {deadline : Int} {horizon fuel : Nat}
    (passed : ∀ later ≥ horizon, deadline ≤ around.clock later) (enough : horizon < fuel)
    (ticks : Nat) (early : ticks ≤ horizon) :
    Spec (Serving ticks) (startUp owner around deadline fuel)
      (fun _ world => ∃ reached ≤ horizon, Serving reached world) := by
  unfold startUp
  refine Triple.andThen (ask_serving answering.start (fun _ => rfl) ticks) fun _ => ?_
  refine Triple.andThen (note_serving emits _ ticks) fun _ => ?_
  refine Triple.andThen (m := fun _ world => ∃ reached ≤ horizon, Serving reached world)
    ((Triple.loopEnds (i := fun world => ∃ reached ≤ horizon, Serving reached world)
      (m := fun world => horizon - world.ticks) (fun left => ?_) fuel).before ?_) fun _ => ?_
  · apply Triple.start
    rintro start ⟨⟨reached, short, serving⟩, rfl⟩
    refine Triple.andThen ((ask_serving answering.ready (fun _ => rfl) reached).before
      (by rintro state rfl; exact serving)) fun ready => ?_
    refine Triple.ite (fun _ => Triple.ret fun _ serving => ⟨reached, short, serving⟩) fun _ => ?_
    refine Triple.andThen (clock_serving around reached) fun now => ?_
    refine Triple.ite (fun _ => Triple.raise fun _ holds => holds.1.uncleaned) fun inTime => ?_
    apply Triple.ret
    rintro world ⟨next, rfl⟩
    have before : reached < horizon := by
      by_contra late
      exact inTime (passed reached (by omega))
    exact ⟨⟨reached + 1, before, next⟩, by rw [next.ticks, serving.ticks]; omega⟩
  · exact fun world serving => ⟨⟨ticks, early, serving⟩, by omega⟩
  · apply Triple.start
    rintro start ⟨reached, short, serving⟩
    refine Triple.andThen ((update_serving reached).before
      (by rintro state rfl; exact serving)) fun _ => ?_
    exact (note_serving emits _ reached).consequence (fun _ holds => holds)
      (fun _ _ serving => ⟨reached, short, serving⟩) (fun _ _ holds => holds)

theorem turns_serving {deadline : Int} {horizon fuel : Nat}
    (passed : ∀ later ≥ horizon, deadline ≤ around.clock later) (enough : horizon < fuel) :
    Spec (fun world => ∃ reached ≤ horizon, Serving reached world)
      (loop (turn owner around deadline) fuel)
      (fun _ world => ∃ reached ≤ horizon + 1, Serving reached world) := by
  refine (Triple.loopEnds (i := fun world => ∃ reached ≤ horizon, Serving reached world)
    (m := fun world => horizon - world.ticks) (fun left => ?_) fuel).before
    fun world holds => ⟨holds, by omega⟩
  apply Triple.start
  rintro start ⟨⟨reached, short, serving⟩, rfl⟩
  refine (turn_serving answering emits deadline reached).consequence
    (by rintro state rfl; exact serving) ?_ (fun _ _ holds => holds)
  rintro next world ⟨serving', inTime⟩
  cases next with
  | leave => exact ⟨reached + 1, by omega, serving'⟩
  | again =>
      have before : reached < horizon := by
        by_contra late
        exact absurd (inTime rfl) (not_lt.mpr (passed reached (by omega)))
      exact ⟨⟨reached + 1, before, serving'⟩, by rw [serving'.ticks, serving.ticks]; omega⟩

structure Ending (past : List (Call Snap) → Prop) (world : World Ω Snap) : Prop where
  recovery : world.result.needsRecovery = false
  forced : world.result.forcedGuest = some false
  uncleaned : world.result.failureCleanup = none
  reply : world.result.stopReply = some "BYE".toList
  past : past world.calls

def Awaited (calls : List (Call Snap)) : Prop :=
  ∃ polls before : List (Call Snap),
    calls = polls ++ Call.stop (.ok (.value "BYE\n".toList)) :: before ∧
    (∀ call ∈ polls, call = Call.guestDone (.ok false)) ∧ ∀ call ∈ before, call.calm = true

theorem stopGuest_spec {horizon last fuel : Nat}
    (passed : ∀ reading ≤ horizon, ∀ later ≥ last,
      around.clock reading + 30000 ≤ around.clock later) (enough : last < fuel) :
    Spec (fun world => ∃ reached ≤ horizon, Serving reached world) (stopGuest owner around fuel)
      (fun _ => Ending GuestEnded) := by
  apply Triple.start
  rintro start ⟨reached, short, serving⟩
  unfold stopGuest
  refine Triple.andThen ((update_serving reached).before
    (by rintro state rfl; exact serving)) fun _ => ?_
  refine Triple.andThen (note_serving emits _ reached) fun _ => ?_
  refine Triple.andThen (m := fun reply world => world.result.needsRecovery = false ∧
      world.result.forcedGuest = some false ∧ world.result.failureCleanup = none ∧
      world.ticks = reached ∧ ∃ before, world.calls = .stop (.ok reply) :: before ∧
        ∀ call ∈ before, call.calm = true)
    (ask_spec answering.stop ?_ ?_) fun reply => ?_
  · intro world owner reply serving
    exact ⟨serving.recovery, serving.forced, serving.uncleaned, serving.ticks, _, rfl, serving.calm⟩
  · exact fun world owner error serving => serving.uncleaned
  cases reply with
  | other => exact Triple.raise fun _ holds => holds.2.2.1
  | value reply =>
    refine Triple.andThen (m := fun _ world => (world.result.needsRecovery = false ∧
        world.result.forcedGuest = some false ∧ world.result.failureCleanup = none ∧
        world.ticks = reached ∧ ∃ before, world.calls = .stop (.ok (.value reply)) :: before ∧
          ∀ call ∈ before, call.calm = true) ∧ world.result.stopReply = some (strip reply))
      (Triple.modify fun world holds => ⟨holds, rfl⟩) fun _ => ?_
    refine Triple.ite (fun _ => Triple.raise fun _ holds => holds.1.2.2.1) fun bye => ?_
    obtain rfl : reply = "BYE\n".toList := by simpa using bye
    refine Triple.andThen (m := fun now world => Ending Awaited world ∧
      now = around.clock reached) ?_ fun now => ?_
    · rintro world ⟨⟨recovery, forced, uncleaned, ticks, before, past, calm⟩, stripped⟩
      refine ⟨⟨recovery, forced, uncleaned, stripped.trans (by decide), [], before, past, by simp,
        calm⟩, congrArg around.clock ticks⟩
    apply Triple.start
    rintro middle ⟨ending, rfl⟩
    refine (Triple.loopEnds (i := Ending Awaited) (m := fun world => last - world.ticks)
      (fun left => ?_) fuel).before (by rintro state rfl; exact ⟨ending, by omega⟩)
    refine Triple.andThen (m := fun done world => if done then Ending GuestEnded world
        else Ending Awaited world ∧ last - world.ticks = left) (ask_spec answering.guestDone ?_ ?_)
      fun done => ?_
    · rintro world owner done ⟨ending, same⟩
      obtain ⟨polls, before, past, alive, calm⟩ := ending.past
      cases done with
      | true => exact { ending with past := ⟨polls, before, by simp [past], alive, calm⟩ }
      | false =>
          refine ⟨{ ending with past := ⟨.guestDone (.ok false) :: polls, before, by simp [past], ?_,
            calm⟩ }, same⟩
          simpa using alive
    · exact fun world owner error holds => holds.1.uncleaned
    cases done with
    | true => exact Triple.ret fun _ ended => ended
    | false =>
        refine Triple.ite nofun fun _ => ?_
        refine Triple.andThen (m := fun later world => Ending Awaited world ∧
          ∃ reading, later = around.clock reading ∧ last - reading = left ∧
            world.ticks = reading + 1) ?_ fun later => ?_
        · rintro world ⟨ending, same⟩
          exact ⟨{ ending with }, world.ticks, rfl, same, rfl⟩
        refine Triple.ite (fun _ => Triple.raise fun _ holds => holds.1.uncleaned) fun inTime => ?_
        apply Triple.ret
        rintro world ⟨ending, reading, rfl, left_, ticks⟩
        refine ⟨ending, ?_⟩
        have before : reading < last := by
          by_contra late
          exact inTime (passed reached short reading (by omega))
        omega

variable [EmptyCollection Snap]

structure Stopped (world : World Ω Snap) (snapshot : Snap) : Prop where
  ending : Ending (HealthyStop · snapshot) world
  state : world.result.state = .stopped
  exit : world.result.guestExit = some 0
  cleaned : world.result.serviceCleaned = true
  released : world.result.storageReleased = some true
  reaped : world.result.resourceState = .reaped
  kept : world.result.storageSnapshot = some (.value snapshot)
  nonempty : snapshot ≠ ∅

variable [DecidableEq Snap]

theorem release_spec :
    Spec (Ending GuestEnded) (release owner around) (fun _ world => ∃ snapshot, Stopped world snapshot) := by
  unfold release
  refine Triple.andThen (m := fun code => Ending fun calls => ∃ ended,
    calls = .guestExit (.ok code) :: ended ∧ GuestEnded ended) (ask_spec answering.guestExit ?_ ?_)
    fun code => ?_
  · exact fun world owner code ending => { ending with past := ⟨_, rfl, ending.past⟩ }
  · exact fun world owner error ending => ending.uncleaned
  refine Triple.ite (fun _ => Triple.raise fun _ ending => ending.uncleaned) fun zero => ?_
  obtain rfl : code = .value 0 := by simpa using zero
  refine Triple.andThen (m := fun _ world => Ending (fun calls => ∃ ended,
      calls = .guestExit (.ok (.value 0)) :: ended ∧ GuestEnded ended) world ∧
      world.result.guestExit = some 0)
    (Triple.modify fun world ending => ⟨{ ending with }, rfl⟩) fun _ => ?_
  refine Triple.andThen (note_spec emits _ (fun _ _ _ _ holds => ⟨{ holds.1 with }, holds.2⟩)
    fun _ _ holds => holds.1.uncleaned) fun _ => ?_
  refine Triple.andThen (m := fun _ world => Ending (fun calls => ∃ ended,
      calls = .cleanupServices (.ok ()) :: .guestExit (.ok (.value 0)) :: ended ∧
        GuestEnded ended) world ∧ world.result.guestExit = some 0)
    (ask_spec answering.cleanupServices ?_ ?_) fun _ => ?_
  · rintro world owner _ ⟨ending, exit⟩
    obtain ⟨ended, past, guest⟩ := ending.past
    exact ⟨{ ending with past := ⟨ended, by rw [past], guest⟩ }, exit⟩
  · exact fun world owner error holds => holds.1.uncleaned
  refine Triple.andThen (m := fun _ world => Ending (fun calls => ∃ ended,
      calls = .cleanupServices (.ok ()) :: .guestExit (.ok (.value 0)) :: ended ∧
        GuestEnded ended) world ∧ world.result.guestExit = some 0 ∧
        world.result.serviceCleaned = true)
    (Triple.modify fun world holds => ⟨{ holds.1 with }, holds.2, rfl⟩) fun _ => ?_
  refine Triple.andThen (note_spec emits _ (fun _ _ _ _ holds => ⟨{ holds.1 with }, holds.2⟩)
    fun _ _ holds => holds.1.uncleaned) fun _ => ?_
  refine Triple.andThen (m := fun snapshot world => Ending (fun calls => ∃ ended,
      calls = .snapshot (.ok snapshot) :: .cleanupServices (.ok ()) ::
        .guestExit (.ok (.value 0)) :: ended ∧ GuestEnded ended) world ∧
        world.result.guestExit = some 0 ∧ world.result.serviceCleaned = true)
    (ask_spec answering.snapshot ?_ ?_) fun snapshot => ?_
  · rintro world owner snapshot ⟨ending, fields⟩
    obtain ⟨ended, past, guest⟩ := ending.past
    exact ⟨{ ending with past := ⟨ended, by rw [past], guest⟩ }, fields⟩
  · exact fun world owner error holds => holds.1.uncleaned
  refine Triple.andThen (m := fun _ world => (Ending (fun calls => ∃ ended,
      calls = .snapshot (.ok snapshot) :: .cleanupServices (.ok ()) ::
        .guestExit (.ok (.value 0)) :: ended ∧ GuestEnded ended) world ∧
        world.result.guestExit = some 0 ∧ world.result.serviceCleaned = true) ∧
        world.result.storageSnapshot = some snapshot)
    (Triple.modify fun world holds => ⟨⟨{ holds.1 with }, holds.2⟩, rfl⟩) fun _ => ?_
  refine Triple.ite (fun _ => Triple.raise fun _ holds => holds.1.1.uncleaned) fun evident => ?_
  cases snapshot with
  | other => exact absurd (Or.inl rfl) evident
  | value snapshot =>
    have nonempty : snapshot ≠ ∅ := by simpa using evident
    refine Triple.andThen (m := fun _ world => Stopped world snapshot)
      (Triple.modify fun world holds => ?_) fun _ => ?_
    · obtain ⟨⟨ending, exit, cleaned⟩, kept⟩ := holds
      exact ⟨{ ending with }, rfl, exit, cleaned, rfl, rfl, kept, nonempty⟩
    · refine (note_spec emits _ (fun _ _ _ _ stopped => ?_) fun _ _ stopped =>
        stopped.ending.uncleaned).consequence (fun _ holds => holds)
        (fun _ _ stopped => ⟨snapshot, stopped⟩) (fun _ _ holds => holds)
      exact { stopped with ending := { stopped.ending with } }

theorem ordinary_spec (deadline : Int) (horizon last fuel : Nat)
    (passed : ∀ later ≥ horizon, deadline ≤ around.clock later)
    (passedAgain : ∀ reading ≤ horizon + 1, ∀ later ≥ last,
      around.clock reading + 30000 ≤ around.clock later)
    (enough : horizon < fuel) (enoughAgain : last < fuel) (ticks : Nat) (early : ticks ≤ horizon) :
    Spec (Serving ticks) (ordinary owner around deadline fuel)
      (fun _ world => ∃ snapshot, Stopped world snapshot) := by
  unfold ordinary
  refine Triple.andThen (startUp_serving answering emits passed enough ticks early) fun _ => ?_
  refine Triple.andThen (turns_serving answering emits passed enough) fun _ => ?_
  refine Triple.andThen (stopGuest_spec answering emits passedAgain enoughAgain) fun _ => ?_
  exact release_spec answering emits

end Requests

section Failure

variable {owner : Owner Ω Snap} {around : Surroundings Ω Snap}

structure Failed (world : World Ω Snap) : Prop where
  state : world.result.state = .unknown
  recovery : world.result.needsRecovery = true
  dictionary : world.result.failureCleanup ≠ some .other

theorem safeNote_failed (emits : ∀ result, Answers (around.emit result)) (event : Note)
    {fault : Fault → World Ω Snap → Prop} :
    Triple (fun _ => False) Failed (safeNote around event) (fun _ => Failed) fault := by
  refine Triple.handle (c := fun _ => Failed) (note_spec emits event ?_ fun _ _ failed => failed)
    fun exc => Triple.modify fun world failed => { failed with }
  exact fun _ _ _ _ failed => { failed with }

variable [DecidableEq Snap] [EmptyCollection Snap]

theorem cleanUp_failed (answers : Answers owner.failureCleanup)
    (dictionary : ∀ before after, owner.failureCleanup before ≠ (.done .other, after)) :
    Triple (fun _ => False) Failed (cleanUp owner) (fun _ => Failed) (fun _ => Failed) := by
  unfold cleanUp
  refine Triple.andThen (m := fun reply world => Failed world ∧ reply ≠ .other) ?_ fun reply => ?_
  · intro world failed
    simp only [ask]
    match ends : owner.failureCleanup world.owner with
    | (.done reply, after) =>
        refine ⟨{ failed with }, ?_⟩
        rintro rfl
        exact dictionary _ _ ends
    | (.raised error, after) => exact { failed with }
    | (.unfinished, after) => exact answers world.owner (by rw [ends])
  refine Triple.andThen (m := fun _ => Failed) (Triple.modify fun world holds => ?_) fun _ => ?_
  · exact { holds.1 with dictionary := by simpa using holds.2 }
  cases reply with
  | other => exact Triple.raise fun _ failed => failed
  | value cleanup =>
      refine Triple.given (fun _ => ?_) fun _ _ failed => failed
      match cleanup.storageSnapshot with
      | none => exact Triple.raise fun _ failed => failed
      | some .other => exact Triple.raise fun _ failed => failed
      | some (.value snapshot) =>
          exact Triple.ite (fun _ => Triple.raise fun _ failed => failed)
            fun _ => Triple.modify fun _ failed => { failed with }

theorem failure_spec (answers : Answers owner.failureCleanup)
    (emits : ∀ result, Answers (around.emit result))
    (dictionary : ∀ before after, owner.failureCleanup before ≠ (.done .other, after))
    (exc : Fault) :
    Triple (fun _ => False) (Uncleaned exc) (failure owner around exc) (fun _ => Failed)
      (fun _ _ => False) := by
  unfold failure
  refine Triple.andThen (m := fun _ => Failed) (Triple.modify fun world uncleaned => ?_) fun _ => ?_
  · exact ⟨rfl, rfl, fun given_ => by simp [show world.result.failureCleanup = none from uncleaned]
      at given_⟩
  refine Triple.andThen (safeNote_failed emits _) fun _ => ?_
  refine Triple.andThen (m := fun _ => Failed) (Triple.handle (cleanUp_failed answers dictionary)
    fun _ => Triple.modify fun _ failed => { failed with }) fun _ => ?_
  refine Triple.andThen (m := fun now world => Failed world ∧
    now.result.failureCleanup ≠ some .other)
    (Triple.get fun _ failed => ⟨failed, failed.dictionary⟩) fun now => ?_
  apply Triple.start
  rintro start ⟨failed, readable⟩
  have marked : ∀ {change : Result Snap → Result Snap},
      (∀ result, (change result).state = result.state ∧
        (change result).needsRecovery = result.needsRecovery ∧
        (change result).failureCleanup = result.failureCleanup) →
      Triple (fun _ => False) Failed (update change : Step Ω Snap Unit) (fun _ => Failed)
        (fun _ _ => False) := by
    intro change same
    refine Triple.modify fun world failed => ?_
    obtain ⟨state, recovery, cleanup⟩ := same world.result
    exact ⟨state.trans failed.state, recovery.trans failed.recovery, cleanup ▸ failed.dictionary⟩
  refine Triple.andThen (m := fun _ => Failed) ((Triple.given (fun _ => marked ?_)
    fun _ _ failed => failed).before (by rintro state rfl; exact failed)) fun _ => ?_
  · exact fun _ => ⟨rfl, rfl, rfl⟩
  refine Triple.andThen (m := fun _ => Failed) (Triple.given (fun _ => marked ?_)
    fun _ _ failed => failed) fun _ => ?_
  · exact fun _ => ⟨rfl, rfl, rfl⟩
  split
  · rename_i other
    cases cleanup : now.result.failureCleanup with
    | none => simp [cleanup] at other
    | some reply =>
        simp only [cleanup, Option.getD_some] at other
        exact absurd (cleanup.trans (congrArg some other)) readable
  · refine Triple.andThen (m := fun _ => Failed) (Triple.given (fun _ => marked ?_)
      fun _ _ failed => failed) fun _ => ?_
    · exact fun _ => ⟨rfl, rfl, rfl⟩
    refine Triple.andThen (m := fun _ => Failed) (marked ?_) fun _ => safeNote_failed emits _
    exact fun _ => ⟨rfl, rfl, rfl⟩

end Failure

end Steps

section Resume

variable {Ω Snap : Type}

theorem need_ok (ok : Bool) (text : String) : need ok text = .ok () ↔ ok = true := by
  cases ok <;> simp [need]

theorem need_bind_ok {α : Type} (ok : Bool) (text : String) (next : Unit → Except Fault α)
    (value : α) : (need ok text >>= next) = .ok value ↔ ok = true ∧ next () = .ok value := by
  cases ok <;> simp [need, bind, Except.bind]

variable [EmptyCollection Snap]

theorem Stopped.recordState {world : World Ω Snap} {snapshot : Snap}
    (stopped : Stopped world snapshot) (record : Record Snap) :
    recordState (emitRecord record world.result) = .ok .stopped := by
  simp [Supervise.recordState, emitRecord, stopped.state, stopped.exit, stopped.ending.reply,
    stopped.cleaned, stopped.released, stopped.ending.forced]

variable [DecidableEq Snap]

theorem canResume_recovery (record : Record Snap) {result : Result Snap}
    (recovery : result.needsRecovery = true) (snapshot : Snap) :
    canResume (emitRecord record result) snapshot ≠ .ok () := by
  simp [canResume, need_bind_ok, emitRecord, recovery]

theorem Stopped.canResume_iff {world : World Ω Snap} {snapshot : Snap}
    (stopped : Stopped world snapshot) (record : Record Snap) (other : Snap) :
    canResume (emitRecord record world.result) other = .ok () ↔ other = snapshot := by
  have state : (Supervise.recordState (emitRecord record world.result) >>= fun state => do
      need (state = .stopped) "only proven healthy STOPPED can resume"
      need (other ≠ ∅ && (emitRecord record world.result).storageSnapshot = some (.value other))
        "state identity/content mismatch") = .ok () ↔ other = snapshot := by
    rw [stopped.recordState record]
    change (need (decide (RunState.stopped = .stopped)) "only proven healthy STOPPED can resume" >>=
      fun _ => need _ "state identity/content mismatch") = .ok () ↔ _
    rw [need_bind_ok, need_ok]
    simp only [emitRecord, stopped.kept, Bool.and_eq_true, decide_eq_true_eq, true_and,
      Option.some.injEq, Reply.value.injEq]
    exact ⟨fun both => both.2.symm, by rintro rfl; exact ⟨stopped.nonempty, rfl⟩⟩
  unfold canResume
  rw [need_bind_ok, need_bind_ok, state]
  simp [emitRecord, stopped.ending.recovery, stopped.reaped]

/-- Of finitely many readings one is the latest. -/
theorem readings_bounded (clock : Nat → Int) (count : Nat) :
    ∃ bound, ∀ reading ≤ count, clock reading ≤ bound := by
  induction count with
  | zero => exact ⟨clock 0, fun reading first => by rw [Nat.le_zero.mp first]⟩
  | succ count ih =>
      obtain ⟨bound, below⟩ := ih
      refine ⟨max bound (clock (count + 1)), fun reading short => ?_⟩
      rcases Nat.le_succ_iff.mp short with earlier | rfl
      · exact le_trans (below reading earlier) (le_max_left _ _)
      · exact le_max_right _ _

/-- A run returns, and its result is a healthy stop that resumes from exactly one
snapshot, or unknown and never resumes. -/
theorem supervise_settles (owner : Owner Ω Snap) (around : Surroundings Ω Snap) (state : Ω)
    (answering : owner.Answering) (emits : ∀ result, Answers (around.emit result))
    (passes : Passes around.clock)
    (dictionary : ∀ before after, owner.failureCleanup before ≠ (.done .other, after)) :
    ∃ enough, ∀ fuel ≥ enough, ∃ world : World Ω Snap,
      supervise owner around fuel { owner := state } = (.done world.result, world) ∧
      ((world.result.state = .stopped ∧ ∃ snapshot, snapshot ≠ ∅ ∧
          HealthyStop world.calls snapshot ∧
          ∀ record, recordState (emitRecord record world.result) = .ok .stopped ∧
            ∀ other, canResume (emitRecord record world.result) other = .ok () ↔ other = snapshot) ∨
        (world.result.state = .unknown ∧
          ∀ record other, canResume (emitRecord record world.result) other ≠ .ok ())) := by
  obtain ⟨first, passed⟩ := passes (around.clock 0 + 1000 * around.timeout)
  obtain ⟨bound, below⟩ := readings_bounded around.clock (first + 2)
  obtain ⟨last, passedAgain⟩ := passes (bound + 30000)
  refine ⟨first + last + 2, fun fuel enough => ?_⟩
  have ends : Triple (fun _ => False) (fun world : World Ω Snap => world = { owner := state })
      (supervise owner around fuel)
      (fun result world => result = world.result ∧
        ((∃ snapshot, Stopped world snapshot) ∨ Failed world)) (fun _ _ => False) := by
    unfold supervise
    refine Triple.andThen (m := fun now world => Serving 1 world ∧ now = around.clock 0) ?_
      fun now => ?_
    · rintro world rfl
      exact ⟨⟨rfl, rfl, rfl, by simp, rfl⟩, rfl⟩
    apply Triple.start
    rintro start ⟨serving, rfl⟩
    refine Triple.andThen (m := fun _ world => (∃ snapshot, Stopped world snapshot) ∨ Failed world)
      (Triple.handle (c := Uncleaned) ?_ fun exc => ?_) fun _ => ?_
    · refine (ordinary_spec answering emits _ (first + 1) last fuel
        (fun later past => passed later (by omega)) (fun reading short later past => ?_) (by omega)
        (by omega) 1 (by omega)).consequence (by rintro world rfl; exact serving)
        (fun _ _ stopped => Or.inl stopped) (fun _ _ holds => holds)
      have known := below reading (by omega)
      have beyond := passedAgain later past
      omega
    · exact (failure_spec answering.failureCleanup emits dictionary exc).consequence
        (fun _ holds => holds) (fun _ _ failed => Or.inr failed) (fun _ _ impossible => impossible)
    · exact Triple.andThen (m := fun now world => now = world ∧
        ((∃ snapshot, Stopped world snapshot) ∨ Failed world))
        (Triple.get fun _ holds => ⟨rfl, holds⟩) fun _ => Triple.ret fun _ holds =>
          ⟨congrArg World.result holds.1, holds.2⟩
  have reached := ends { owner := state } rfl
  match run : supervise owner around fuel { owner := state } with
  | (.raised error, world) => simp [run] at reached
  | (.unfinished, world) => simp [run] at reached
  | (.done result, world) =>
      simp only [run] at reached
      obtain ⟨rfl, ending⟩ := reached
      refine ⟨world, rfl, ?_⟩
      rcases ending with ⟨snapshot, stopped⟩ | failed
      · exact Or.inl ⟨stopped.state, snapshot, stopped.nonempty, stopped.ending.past,
          fun record => ⟨stopped.recordState record, stopped.canResume_iff record⟩⟩
      · exact Or.inr ⟨failed.state, fun record => canResume_recovery record failed.recovery⟩

end Resume

section Instances

def obedient : Owner Bool (List Nat) where
  start := Script.ret ()
  ready := Script.ret true
  observe := Script.ret ()
  request _ := Script.ret (.value "OK\n".toList)
  guestDone stopped := (.done stopped, stopped)
  stop _ := (.done (.value "BYE\n".toList), true)
  guestExit := Script.ret (.value 0)
  cleanupServices := Script.ret ()
  snapshot := Script.ret (.value [1])
  failureCleanup := Script.ret (.value {})
  setTransportUnknown _ stopped := stopped
  forcedMacosCleanupRequested _ := false
  forcedLinuxCleanupRequested _ := false
  forcedCleanupRequested _ := false

def idleHour : Surroundings Bool (List Nat) where
  clock reading := 1000 * reading
  commands _ := none
  timeout := 3600
  emit _ := Script.ret ()

theorem obedient_answering : obedient.Answering := by
  constructor <;> intro _ <;> exact nofun

theorem supervise_settles_obedient :
    ∃ enough, ∀ fuel ≥ enough, ∃ world : World Bool (List Nat),
      supervise obedient idleHour fuel { owner := false } = (.done world.result, world) ∧
      ((world.result.state = .stopped ∧ ∃ snapshot, snapshot ≠ ∅ ∧
          HealthyStop world.calls snapshot ∧
          ∀ record, recordState (emitRecord record world.result) = .ok .stopped ∧
            ∀ other, canResume (emitRecord record world.result) other = .ok () ↔ other = snapshot) ∨
        (world.result.state = .unknown ∧
          ∀ record other, canResume (emitRecord record world.result) other ≠ .ok ())) := by
  refine supervise_settles obedient idleHour false obedient_answering (fun _ _ => nofun) ?_ ?_
  · intro bound
    refine ⟨bound.toNat, fun later past => ?_⟩
    simp only [idleHour]
    omega
  · intro before after same
    simp [obedient, Script.ret] at same

def careless : Owner Bool (List Nat) :=
  { obedient with
    start := Script.raise ⟨.osError, "start"⟩
    failureCleanup := Script.ret .other }

def unready : Owner Bool (List Nat) := { obedient with ready := Script.ret false }

def frozen : Surroundings Bool (List Nat) := { idleHour with clock := fun _ => 0 }

theorem supervise_frozen (fuel : Nat) :
    Triple (fun _ => True) (fun _ => True) (supervise unready frozen fuel) (fun _ _ => False)
      (fun _ _ => False) := by
  unfold supervise
  refine Triple.andThen (m := fun now _ => now = 0) (fun _ _ => rfl) fun now => ?_
  apply Triple.start
  rintro start rfl
  refine Triple.andThen (m := fun _ _ => False) (Triple.handle (c := fun _ _ => False) ?_
    fun _ _ impossible => impossible.elim) fun _ _ impossible => impossible.elim
  unfold ordinary
  refine Triple.andThen (m := fun _ _ => False) ?_ fun _ _ impossible => impossible.elim
  unfold startUp
  refine Triple.andThen (m := fun _ _ => True) (fun _ _ => trivial) fun _ => ?_
  refine Triple.andThen (m := fun _ _ => True) (fun _ _ => trivial) fun _ => ?_
  refine Triple.andThen (m := fun _ _ => False) ?_ fun _ _ impossible => impossible.elim
  exact Triple.loop (i := fun _ => True) (fun _ _ => trivial) (fun _ _ => trivial) fuel

/-- The cleanup's answer is read outside the inner `try`, so the error of reading
it leaves the supervisor; and under a clock that stands still the supervisor waits
for ever. Neither run has a result. -/
theorem supervise_escapes :
    (careless.Answering ∧ Passes idleHour.clock ∧
      ∀ fuel, (supervise careless idleHour fuel { owner := false }).1 =
        .raised ⟨.attributeError, "get"⟩) ∧
    (unready.Answering ∧ ∀ fuel, (supervise unready frozen fuel { owner := false }).1 = .unfinished)
    := by
  refine ⟨⟨?_, fun bound => ⟨bound.toNat, fun later past => ?_⟩, fun _ => rfl⟩, ?_, fun fuel => ?_⟩
  · exact { obedient_answering with start := fun _ => nofun, failureCleanup := fun _ => nofun }
  · simp only [idleHour]
    omega
  · exact { obedient_answering with ready := fun _ => nofun }
  · have waits := supervise_frozen fuel { owner := false } trivial
    match run : supervise unready frozen fuel { owner := false } with
    | (.done _, _) => simp [run] at waits
    | (.raised _, _) => simp [run] at waits
    | (.unfinished, _) => rfl

end Instances

end Bscp.Supervise
