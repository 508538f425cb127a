import Bscp.Lifecycle.SupervisePhases

/-!
The part of `runtime.run` after the launch: the supervised run, and the loop in
which an unknown owner is retained until its end is observed. Printing and the
keys of the result that only report on the retention are left out.
-/

namespace Bscp.Supervise

open Script ComputeProtocol
open BoundOwner (ResourceState StorageState)

/-- An owner with the operations that its retention uses. `terminalReceipt` is
the snapshot that `refresh_terminal_receipts` finds in a reaped receipt. -/
structure Keeper (Ω Snap : Type) extends Owner Ω Snap where
  finalizeIfTerminal : Script Ω Fault Bool
  controllerReleaseReady : Script Ω Fault Bool
  retentionStatus : Script Ω Fault Unit
  terminalReceipt : Script Ω Fault (Option Snap)
  sentStop : Ω → Bool
  transportUnknown : Ω → Bool

section Model

variable {Ω Snap : Type} [DecidableEq Snap] [EmptyCollection Snap]
variable (keeper : Keeper Ω Snap) (around : Surroundings Ω Snap)

def retainedCommand : Step Ω Snap (Next Unit) := do
  let command ← getNowait around
  match command with
  | none => Script.ret .again
  | some command => do
      let world ← Script.get
      if command = "status".toList then do
        inside keeper.retentionStatus
        Script.ret .again
      else if command = "stop".toList ∧ keeper.sentStop world.owner = false ∧
          keeper.transportUnknown world.owner = false then do
        let _ ← ask .stop keeper.stop
        Script.ret .again
      else Script.ret .again

def retainedTurn : Step Ω Snap (Next Unit) :=
  handle
    (do
      let terminal ← inside keeper.finalizeIfTerminal
      if terminal then do
        update fun result => { result with ownerTerminal := some true }
        let released ← inside keeper.controllerReleaseReady
        if released then Script.ret (.leave ()) else retainedCommand keeper around
      else retainedCommand keeper around)
    (fun _ => Script.ret .again)

def refreshTerminalReceipts : Step Ω Snap Unit := do
  let found ← inside keeper.terminalReceipt
  match found with
  | none => Script.ret ()
  | some snapshot => update fun result => { result with
      resourceState := .reaped, storageSnapshot := some (.value snapshot),
      storageState := .released, storageReleased := some true }

def run (fuel : Nat) : Step Ω Snap (Result Snap) := do
  let result ← supervise keeper.toOwner around fuel
  if result.state ≠ .unknown then Script.ret result else do
    let released ← inside keeper.controllerReleaseReady
    if released then Script.ret result else do
      loop (retainedTurn keeper around) fuel
      refreshTerminalReceipts keeper
      let world ← Script.get
      inside (around.emit world.result)
      Script.ret world.result

end Model

section Rule

variable {Ω Snap : Type} {keeper : Keeper Ω Snap} {around : Surroundings Ω Snap}

structure Harmless {α : Type} (phases : Phases keeper.toOwner around.emit)
    (operation : Script Ω Fault α) : Prop where
  broken : Triple phases.always phases.broken operation (fun _ => phases.broken)
    (fun _ => phases.broken)
  evident : ∀ snapshot, Triple phases.always
    (fun state => phases.broken state ∧ phases.evidence snapshot state) operation
    (fun _ => phases.evidence snapshot) (fun _ => phases.evidence snapshot)

structure RetentionPhases [EmptyCollection Snap] (phases : Phases keeper.toOwner around.emit) :
    Prop where
  finalizeIfTerminal : Harmless phases keeper.finalizeIfTerminal
  controllerReleaseReady : Harmless phases keeper.controllerReleaseReady
  retentionStatus : Harmless phases keeper.retentionStatus
  stop : Triple phases.always
    (fun state => phases.broken state ∧ keeper.sentStop state = false ∧
      keeper.transportUnknown state = false)
    keeper.stop (fun _ => phases.broken) (fun _ => phases.broken)
  stopEvident : ∀ snapshot, Triple phases.always
    (fun state => (phases.broken state ∧ keeper.sentStop state = false ∧
      keeper.transportUnknown state = false) ∧ phases.evidence snapshot state)
    keeper.stop (fun _ => phases.evidence snapshot) (fun _ => phases.evidence snapshot)
  terminalReceipt : Harmless phases keeper.terminalReceipt
  found : Triple phases.always phases.broken keeper.terminalReceipt
    (fun found state => ∀ snapshot, found = some snapshot →
      snapshot ≠ ∅ ∧ phases.evidence snapshot state) (fun _ _ => True)
  lastEmit : ∀ result, ¬ AroundRequest result → Harmless phases (around.emit result)

variable [EmptyCollection Snap] {phases : Phases keeper.toOwner around.emit}

/-- A part that keeps the phase, the evidence and what the result says of them. -/
theorem lost_step {α : Type} {part : Step Ω Snap α} {p : Ω → Prop}
    (broken : ∀ shape, Triple (fun world => phases.always world.owner)
      (At (fun state => phases.broken state ∧ p state) shape) part
      (fun _ => At phases.broken shape) (fun _ => At phases.broken shape))
    (evident : ∀ snapshot, Triple (fun world => phases.always world.owner)
      (In fun state => (phases.broken state ∧ p state) ∧ phases.evidence snapshot state) part
      (fun _ => In (phases.evidence snapshot)) (fun _ => In (phases.evidence snapshot))) :
    Triple (fun world => phases.always world.owner)
      (fun world => Lost phases world ∧ p world.owner) part
      (fun _ => Lost phases) (fun _ => Lost phases) := by
  apply Triple.start
  rintro start ⟨⟨brokenNow, unknown, plain, shown⟩, ready⟩
  by_cases reaped : start.result.resourceState = .reaped
  · obtain ⟨snapshot, nonempty, kept, proven⟩ := shown reaped
    refine ((broken fun result => (result.state = .unknown ∧ ¬ AroundRequest result) ∧
      result.storageSnapshot = some (.value snapshot)).both (evident snapshot)).consequence ?_ ?_ ?_
    · rintro world rfl
      exact ⟨⟨⟨brokenNow, ready⟩, ⟨unknown, plain⟩, kept⟩, ⟨⟨brokenNow, ready⟩, proven⟩, trivial⟩
    · rintro _ world ⟨⟨broken, ⟨unknown, plain⟩, kept⟩, evident, _⟩
      exact ⟨broken, unknown, plain, fun _ => ⟨snapshot, nonempty, kept, evident⟩⟩
    · rintro _ world ⟨⟨broken, ⟨unknown, plain⟩, kept⟩, evident, _⟩
      exact ⟨broken, unknown, plain, fun _ => ⟨snapshot, nonempty, kept, evident⟩⟩
  · refine (broken Unreaped).consequence ?_ (fun _ _ holds => lost_unreaped phases holds)
      (fun _ _ holds => lost_unreaped phases holds)
    rintro world rfl
    exact ⟨⟨brokenNow, ready⟩, unknown, plain, reaped⟩

theorem Harmless.lost {α : Type} {operation : Script Ω Fault α}
    (harmless : Harmless phases operation) :
    Triple (fun world => phases.always world.owner) (Lost phases) (inside operation)
      (fun _ => Lost phases) (fun _ => Lost phases) :=
  (lost_step (p := fun _ => True)
    (fun _ => inside_at (harmless.broken.before fun _ holds => holds.1))
    (fun snapshot => inside_at ((harmless.evident snapshot).before
      fun _ holds => ⟨holds.1.1, holds.2⟩))).before fun _ lost => ⟨lost, trivial⟩

variable (retention : RetentionPhases phases)

include retention

theorem retainedCommand_lost :
    Triple (fun world => phases.always world.owner) (Lost phases) (retainedCommand keeper around)
      (fun _ => Lost phases) (fun _ => Lost phases) := by
  unfold retainedCommand
  refine Triple.andThen (m := fun _ => Lost phases) (fun _ lost => { lost with }) fun command => ?_
  cases command with
  | none => exact Triple.ret fun _ lost => lost
  | some command =>
    refine Triple.andThen (m := fun now world => Lost phases world ∧ now = world)
      (Triple.get fun _ lost => ⟨lost, rfl⟩) fun now => ?_
    refine Triple.ite (fun _ => Triple.andThen
      (retention.retentionStatus.lost.before fun _ holds => holds.1)
      fun _ => Triple.ret fun _ lost => lost) fun _ => ?_
    refine Triple.ite (fun wanted => ?_) fun _ => Triple.ret fun _ holds => holds.1
    refine Triple.andThen ((lost_step (fun _ => ask_at retention.stop)
      (fun snapshot => ask_at (retention.stopEvident snapshot))).before ?_)
      fun _ => Triple.ret fun _ lost => lost
    rintro world ⟨lost, rfl⟩
    exact ⟨lost, wanted.2⟩

theorem retainedTurn_lost :
    Triple (fun world => phases.always world.owner) (Lost phases) (retainedTurn keeper around)
      (fun _ => Lost phases) (fun _ _ => False) := by
  refine Triple.handle (c := fun _ => Lost phases) ?_ fun _ => Triple.ret fun _ lost => lost
  refine Triple.andThen retention.finalizeIfTerminal.lost fun terminal => ?_
  refine Triple.ite (fun _ => ?_) fun _ => retainedCommand_lost retention
  refine Triple.andThen (m := fun _ => Lost phases) (Triple.modify fun _ lost => { lost with })
    fun _ => ?_
  refine Triple.andThen retention.controllerReleaseReady.lost fun released => ?_
  exact Triple.ite (fun _ => Triple.ret fun _ lost => lost) fun _ => retainedCommand_lost retention

theorem refreshTerminalReceipts_lost :
    Triple (fun world => phases.always world.owner) (Lost phases) (refreshTerminalReceipts keeper)
      (fun _ => Lost phases) (fun _ => Lost phases) := by
  unfold refreshTerminalReceipts
  have found : Triple (fun world : World Ω Snap => phases.always world.owner) (Lost phases)
      (inside keeper.terminalReceipt) (fun found world => ∀ snapshot, found = some snapshot →
        snapshot ≠ ∅ ∧ phases.evidence snapshot world.owner) (fun _ _ => True) :=
    (inside_at (s := fun _ => True) retention.found).consequence
      (fun _ lost => ⟨lost.1, trivial⟩) (fun _ _ holds => holds.1) (fun _ _ _ => trivial)
  refine Triple.andThen ((retention.terminalReceipt.lost.both found).consequence
    (fun _ lost => ⟨lost, lost⟩) (fun _ _ holds => holds) (fun _ _ holds => holds.1)) fun receipt => ?_
  cases receipt with
  | none => exact Triple.ret fun _ holds => holds.1
  | some snapshot =>
      refine Triple.modify fun world holds => ?_
      obtain ⟨⟨broken, unknown, plain, _⟩, shown⟩ := holds
      exact ⟨broken, unknown, plain, fun _ => ⟨snapshot, (shown snapshot rfl).1, rfl, (shown snapshot rfl).2⟩⟩

/-- The run of the supervisor and of the retention after it. -/
theorem run_moves [DecidableEq Snap] (fuel : Nat) :
    Triple (fun world => phases.always world.owner) (In phases.idle) (run keeper around fuel)
      (fun result world => result = world.result ∧
        ((phases.ended world.owner ∧ result.state = .stopped) ∨ Lost phases world))
      (fun _ => In phases.broken) := by
  unfold run
  refine Triple.andThen (supervise_moves phases fuel) fun result => ?_
  refine Triple.ite (fun _ => Triple.ret fun _ holds => holds) fun unknown => ?_
  apply Triple.start
  rintro start ⟨same, ending⟩
  have lost : Lost phases start := by
    rcases ending with ⟨_, stopped⟩ | lost
    · simp [stopped] at unknown
    · exact lost
  refine Triple.andThen (m := fun _ world => Lost phases world ∧ result = world.result) ?_
    fun released => ?_
  · have kept := retention.controllerReleaseReady.lost.both
      (inside_at (s := fun now => result = now)
        (retention.controllerReleaseReady.broken))
    refine kept.consequence ?_ (fun _ _ holds => ⟨holds.1, holds.2.2⟩)
      (fun _ _ holds => ⟨holds.1.1, trivial⟩)
    rintro world rfl
    exact ⟨lost, lost.1, same⟩
  refine Triple.ite (fun _ => Triple.ret fun _ holds => ⟨holds.2, Or.inr holds.1⟩) fun _ => ?_
  refine Triple.andThen (m := fun _ => Lost phases) ((Triple.loop (i := Lost phases)
    ((retainedTurn_lost retention).consequence (fun _ lost => lost) ?_
      (fun _ _ impossible => impossible.elim)) (fun _ lost => phases.broken_always _ lost.1)
      fuel).before fun _ holds => holds.1) fun _ => ?_
  · rintro next world lost
    cases next <;> exact lost
  refine Triple.andThen ((refreshTerminalReceipts_lost retention).consequence (fun _ lost => lost)
    (fun _ _ lost => lost) (fun _ _ lost => ⟨lost.1, trivial⟩)) fun _ => ?_
  refine Triple.andThen (m := fun now world => Lost phases world ∧ now = world)
    (Triple.get fun _ lost => ⟨lost, rfl⟩) fun now => ?_
  apply Triple.start
  rintro last ⟨lost, rfl⟩
  have emitted := (retention.lastEmit now.result lost.plain).lost.both
    (inside_at (s := fun result => now.result = result)
      (retention.lastEmit now.result lost.plain).broken)
  refine Triple.andThen (emitted.consequence ?_ (fun _ _ holds => holds)
    (fun _ _ holds => ⟨holds.1.1, trivial⟩)) fun _ => Triple.ret fun _ holds =>
      ⟨holds.2.2, Or.inr holds.1⟩
  rintro world rfl
  exact ⟨lost, lost.broken, rfl⟩

end Rule

end Bscp.Supervise
