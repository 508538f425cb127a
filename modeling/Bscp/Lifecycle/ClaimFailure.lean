import Bscp.Lifecycle.ClaimSafety

/-!
What a run that raises leaves behind. Up to the re-validation it has written
nothing but its claim, and it has taken that back. From then on the claim stays,
and a claim that stays stops every other run before it writes anything: those
that look for it, and those that looked before it was there and try to create
their own.
-/

namespace Bscp.ClaimProtocol

open Machine

/-- The points at which a run leaves no claim of its own when it raises: before
the creation, and after a failed re-validation whose claim was released. -/
def Pc.claimless (pc : Pc) : Bool := pc.early || pc == .released

/-- The steps that a new call takes up to its look for a claim, counted down. -/
def Pc.rank : Pc → Nat
  | .preflight => 7
  | .readPlan => 6
  | .verifyMode => 5
  | .readRecord => 4
  | .readProfile => 3
  | .readIdentity => 2
  | .lookClaim => 1
  | _ => 0

def Move.steps (id : RunId) : Move → Bool
  | .run other _ => other == id
  | _ => false

def Status.ended (status : Status) : Prop := status = .raised ∨ status = .killed

/-- From here on no run writes a file or launches, the claim stays, and a run
that is called raises within seven steps unless it is killed. -/
def Blocked (system : System) : Prop :=
  ∀ more, let later := play step system more
    later.files.claim = system.files.claim ∧ later.files.record = system.files.record ∧
    later.files.next = system.files.next ∧ later.started = system.started ∧
    (∀ move, move.actor ≠ none → (step later move).files = later.files) ∧
    ∀ id call rest, (later.runs id).status = .idle → 7 ≤ rest.countP (Move.steps id) →
      ((play step later (.call id call :: rest)).runs id).status.ended

def Untouched (files files' : Files) : Prop :=
  files'.record = files.record ∧ files'.next = files.next ∧ files'.plan = files.plan ∧
    files'.root = files.root

section Local

variable {me : RunId} {mine : Local} {files : Files}

theorem failure_early (left : Nat) (early : mine.pc.early = true) :
    failure me left mine files = (mine.raise, files) := by
  cases at_ : mine.pc <;> first
    | (rw [at_] at early; cases early; done)
    | simp only [failure, at_]

/-- While another's claim is there, a run that has none writes nothing. -/
theorem act_blocked (choice : Choice) (early : mine.pc.early = true)
    (present : files.claim.isSome = true) : (act me choice mine files).2 = files := by
  have refused : (failure me 0 mine files).2 = files := by rw [failure_early 0 early]
  cases choice with
  | kill => rfl
  | fail left => simp [act, failure_early left early]
  | proceed inode serve =>
      have taken : files.claim.isNone = false := by simpa using present
      cases at_ : mine.pc with
      | preflight | readPlan | awaitPort => simp [act, advance, at_]
      | verifyMode =>
          simp only [act, advance, at_]
          split
          · split
            · rfl
            · exact refused
          · exact refused
      | readRecord | readProfile | readIdentity =>
          simp only [act, advance, at_]
          split
          · rfl
          · exact refused
      | lookClaim | createClaim =>
          simp only [act, advance, at_, taken]
          exact refused
      | _ =>
          rw [at_] at early
          cases early

/-- A step of a call that has not looked for a claim yet: it comes nearer to the
look, or the run has ended. -/
theorem act_nearer (me : RunId) (choice : Choice) (active : mine.status = .active)
    (looking : 0 < mine.pc.rank) (present : files.claim.isSome = true) :
    (act me choice mine files).1.status.ended ∨
      ((act me choice mine files).1.status = .active ∧
        0 < (act me choice mine files).1.pc.rank ∧
        (act me choice mine files).1.pc.rank < mine.pc.rank) := by
  have early : mine.pc.early = true := by
    cases at_ : mine.pc <;> first | rfl | (rw [at_] at looking; cases looking)
  have refused : (failure me 0 mine files).1.status.ended := by
    rw [failure_early 0 early]
    exact .inl rfl
  cases choice with
  | kill => exact .inl (.inr rfl)
  | fail left =>
      refine .inl ?_
      rw [act, failure_early left early]
      exact .inl rfl
  | proceed inode serve =>
      have taken : files.claim.isNone = false := by simpa using present
      cases at_ : mine.pc with
      | preflight | readPlan =>
          simp only [act, advance, at_]
          exact .inr ⟨active, by simp [Pc.rank], by simp [Pc.rank]⟩
      | verifyMode =>
          simp only [act, advance, at_]
          split
          · split
            · exact .inr ⟨active, by simp [Pc.rank], by simp [Pc.rank]⟩
            · exact .inl refused
          · exact .inl refused
      | readRecord | readProfile | readIdentity =>
          simp only [act, advance, at_]
          split
          · exact .inr ⟨active, by simp [Pc.rank], by simp [Pc.rank]⟩
          · exact .inl refused
      | lookClaim =>
          simp only [act, advance, at_, taken]
          exact .inl refused
      | _ =>
          rw [at_] at looking
          cases looking

end Local

section Runs

variable {system : System} {id other : RunId}

/-- Moves leave a run alone that is not theirs or that cannot move. -/
theorem runs_of_inactive (inactive : (system.runs id).status ≠ .active) (choice : Choice) :
    (step system (.run other choice)).runs id = system.runs id := by
  by_cases active : (system.runs other).status = .active
  · refine (step_run active choice).1.elsewhere id ?_
    rintro rfl
    exact inactive active
  · simp [step, active]

theorem runs_of_called (called : (system.runs id).status ≠ .idle) (call : Call) :
    (step system (.call other call)).runs id = system.runs id := by
  by_cases idle : (system.runs other).status = .idle
  · have apart : id ≠ other := by
      rintro rfl
      exact called idle
    simp [step, idle, apart]
  · simp [step, idle]

structure Abandoned (id : RunId) (system : System) : Prop where
  known : Launching system
  ended : (system.runs id).status = .raised
  held : (system.runs id).pc.holds = true

theorem Abandoned.present (left : Abandoned id system) : system.files.claim.isSome = true := by
  have mine := (left.known.sound.holds id).mp left.held
  cases claim : system.files.claim with
  | none => simp [holder, claim] at mine
  | some _ => rfl

/-- Every run that can still move stands before the creation of its claim. -/
theorem Abandoned.early (left : Abandoned id system)
    (active : (system.runs other).status = .active) : (system.runs other).pc.early = true := by
  have apart : other ≠ id := by
    rintro rfl
    rw [left.ended] at active
    cases active
  have free : (system.runs other).pc.holds = false := by
    cases theirs : (system.runs other).pc.holds with
    | true => exact absurd (left.known.sound.exclusive left.held theirs) apart
    | false => rfl
  have ok := left.known.sound.ok other
  cases at_ : (system.runs other).pc <;> first
    | rfl
    | exact absurd active (ok.released at_)
    | exact absurd (ok.unlinked at_) (by rw [active]; decide)
    | (rw [at_] at free; cases free)

theorem Abandoned.files (left : Abandoned id system) (move : Move) (actor : move.actor ≠ none) :
    (step system move).files = system.files := by
  cases move with
  | run other choice =>
      by_cases active : (system.runs other).status = .active
      · simpa [step, active] using act_blocked choice (left.early active) left.present
      · simp [step, active]
  | call other call =>
      by_cases idle : (system.runs other).status = .idle <;> simp [step, idle]
  | environment plan profile root => exact absurd rfl actor

theorem Abandoned.started (left : Abandoned id system) (move : Move) :
    (step system move).started = system.started := by
  cases move with
  | run other choice =>
      by_cases active : (system.runs other).status = .active
      · rcases (step_run active choice).2 with same | ⟨at_, _, _⟩
        · exact same
        · have early := left.early active
          rw [at_] at early
          cases early
      · simp [step, active]
  | call other call =>
      by_cases idle : (system.runs other).status = .idle <;> simp [step, idle]
  | environment plan profile root => rfl

theorem Abandoned.step (left : Abandoned id system) (move : Move) :
    Abandoned id (step system move) := by
  have still : (ClaimProtocol.step system move).runs id = system.runs id := by
    cases move with
    | run other choice => exact runs_of_inactive (by simp [left.ended]) choice
    | call other call => exact runs_of_called (by simp [left.ended]) call
    | environment plan profile root => rfl
  exact ⟨step_launching left.known move, by rw [still]; exact left.ended, by rw [still]; exact left.held⟩

theorem Abandoned.play (left : Abandoned id system) (moves : List Move) :
    Abandoned id (play ClaimProtocol.step system moves) := by
  have keeps : ∀ (state : System) (move : Move), Abandoned id state →
      Abandoned id (ClaimProtocol.step state move) := fun _ move left => left.step move
  exact play_keeps keeps moves system left

def Frozen (system system' : System) : Prop :=
  system'.files.claim = system.files.claim ∧ system'.files.record = system.files.record ∧
    system'.files.next = system.files.next ∧ system'.started = system.started

theorem Abandoned.frozen (left : Abandoned id system) (moves : List Move) :
    Frozen system (Machine.play ClaimProtocol.step system moves) := by
  induction moves generalizing system with
  | nil => exact ⟨rfl, rfl, rfl, rfl⟩
  | cons move rest next =>
      have first : Frozen system (ClaimProtocol.step system move) := by
        have started := left.started move
        cases move with
        | environment plan profile root => exact ⟨rfl, rfl, rfl, rfl⟩
        | run other choice =>
            have files := left.files (.run other choice) nofun
            exact ⟨by rw [files], by rw [files], by rw [files], started⟩
        | call other call =>
            have files := left.files (.call other call) nofun
            exact ⟨by rw [files], by rw [files], by rw [files], started⟩
      obtain ⟨claim, record, staged, started⟩ := next (left.step move)
      exact ⟨claim.trans first.1, record.trans first.2.1, staged.trans first.2.2.1,
        started.trans first.2.2.2⟩

/-- The run has ended, or at most `budget` of its steps are left to its look. -/
def Nearing (id : RunId) (budget : Nat) (system : System) : Prop :=
  (system.runs id).status.ended ∨
    ((system.runs id).status = .active ∧ 0 < (system.runs id).pc.rank ∧
      (system.runs id).pc.rank ≤ budget)

theorem Abandoned.nearing (left : Abandoned id system) {budget : Nat} (move : Move)
    (near : Nearing other (budget + if move.steps other then 1 else 0) system) :
    Nearing other budget (ClaimProtocol.step system move) := by
  rcases near with ended | ⟨active, looking, bound⟩
  · -- A run that has ended is left alone by every move.
    have stays : (ClaimProtocol.step system move).runs other = system.runs other := by
      have inactive : (system.runs other).status ≠ .active := by
        rcases ended with raised | killed <;> simp [*]
      have called : (system.runs other).status ≠ .idle := by
        rcases ended with raised | killed <;> simp [*]
      cases move with
      | run actor choice => exact runs_of_inactive inactive choice
      | call actor call => exact runs_of_called called call
      | environment plan profile root => rfl
    exact .inl (by rw [stays]; exact ended)
  · cases move with
    | run actor choice =>
        by_cases same : actor = other
        · subst same
          have nearer := act_nearer actor choice active looking left.present
          simp only [Move.steps, beq_self_eq_true, if_true] at bound
          simp only [Nearing, ClaimProtocol.step, active, if_true, Function.update_self]
          rcases nearer with ended | ⟨active', looking', less⟩
          · exact .inl ended
          · exact .inr ⟨active', looking', by omega⟩
        · have stays : (ClaimProtocol.step system (.run actor choice)).runs other =
              system.runs other := by
            by_cases moving : (system.runs actor).status = .active
            · exact (step_run moving choice).1.elsewhere other (Ne.symm same)
            · simp [ClaimProtocol.step, moving]
          simp only [Move.steps, beq_eq_false_iff_ne.mpr same] at bound
          exact .inr (by rw [stays]; exact ⟨active, looking, bound⟩)
    | call actor call =>
        have called : (system.runs other).status ≠ .idle := by simp [active]
        exact .inr (by rw [runs_of_called called call]; exact ⟨active, looking, bound⟩)
    | environment plan profile root => exact .inr ⟨active, looking, bound⟩

theorem Abandoned.ends (left : Abandoned id system) (moves : List Move)
    (near : Nearing other (moves.countP (Move.steps other)) system) :
    ((Machine.play ClaimProtocol.step system moves).runs other).status.ended := by
  induction moves generalizing system with
  | nil =>
      rcases near with ended | ⟨_, looking, bound⟩
      · exact ended
      · exact absurd looking (by simpa using bound)
  | cons move rest next =>
      rw [List.countP_cons] at near
      exact next (left.step move) (left.nearing move near)

theorem Nearing.more {budget budget' : Nat} (near : Nearing id budget system)
    (le : budget ≤ budget') : Nearing id budget' system :=
  near.imp_right fun ⟨active, looking, bound⟩ => ⟨active, looking, bound.trans le⟩

theorem Abandoned.blocked (left : Abandoned id system) : Blocked system := by
  intro more
  have later := left.play more
  obtain ⟨claim, record, staged, started⟩ := left.frozen more
  refine ⟨claim, record, staged, started, later.files, fun other call rest idle enough => ?_⟩
  have near : Nearing other 7 (ClaimProtocol.step (Machine.play ClaimProtocol.step system more)
      (.call other call)) := by
    refine .inr ?_
    simp [ClaimProtocol.step, idle, Pc.rank]
  exact (later.step (.call other call)).ends rest (near.more enough)

/-- The moves of a run before it goes beyond the re-validation write no file but
its claim. -/
theorem untouched_of_quiet (quiet : (system.runs id).pc.quiet = true)
    (move : Move) (mine : move.actor = some id) :
    Untouched system.files (step system move).files := by
  cases move with
  | run actor choice =>
      obtain rfl : actor = id := by simpa [Move.actor] using mine
      by_cases active : (system.runs actor).status = .active
      · exact (step_run active choice).1.turn.quiet quiet
      · simp [step, active, Untouched]
  | call actor call =>
      by_cases idle : (system.runs actor).status = .idle <;> simp [step, idle, Untouched]
  | environment plan profile root => cases mine

theorem Sound.loud (sound : Sound system) (loud : (system.runs id).pc.quiet = false)
    (move : Move) : ((step system move).runs id).pc.quiet = false := by
  cases move with
  | run actor choice =>
      by_cases active : (system.runs id).status = .active
      · by_cases same : actor = id
        · subst same
          exact (step_run active choice).1.turn.loud loud
        · have stays : (step system (.run actor choice)).runs id = system.runs id := by
            by_cases moving : (system.runs actor).status = .active
            · exact (step_run moving choice).1.elsewhere id (Ne.symm same)
            · simp [step, moving]
          rw [stays]
          exact loud
      · rw [runs_of_inactive active choice]
        exact loud
  | call actor call =>
      have called : (system.runs id).status ≠ .idle := fun idle => by
        rw [(sound.ok id).waiting idle] at loud
        cases loud
      rw [runs_of_called called call]
      exact loud
  | environment plan profile root => exact loud

/-- A run that has gone beyond the re-validation does not come back. -/
theorem Launching.loud_play (known : Launching system) (moves : List Move)
    (loud : (system.runs id).pc.quiet = false) :
    ((play step system moves).runs id).pc.quiet = false := by
  have keeps : ∀ (state : System) (move : Move),
      Launching state ∧ (state.runs id).pc.quiet = false →
      Launching (step state move) ∧ ((step state move).runs id).pc.quiet = false :=
    fun _ move ⟨known, loud⟩ => ⟨step_launching known move, known.sound.loud loud move⟩
  exact (play_keeps keeps moves system ⟨known, loud⟩).2

theorem Pc.holds_of_not_claimless {pc : Pc} (claimed : pc.claimless = false)
    (unreturned : pc ≠ .unlinked) : pc.holds = true := by
  cases pc <;> first | rfl | exact absurd rfl unreturned | cases claimed

theorem Pc.free_of_claimless {pc : Pc} (free : pc.claimless = true) : pc.holds = false := by
  cases pc <;> first | rfl | cases free

/-- For every run that raises, in every interleaving: if it raises before it has
written anything but its claim, it has left the record, the plan and the root as
they were; if it raises before it has a claim, or after it has released it, no
claim of its own remains; at every other point the claim remains and blocks the
instance. -/
theorem raised_run_leaves (fresh : Instance) (moves : List Move) (id : RunId)
    (raised : ((play step fresh.system moves).runs id).status = .raised) :
    let system := play step fresh.system moves
    ((system.runs id).pc.quiet = true → ∀ front move back, moves = front ++ move :: back →
      move.actor = some id →
      Untouched (play step fresh.system front).files
        (step (play step fresh.system front) move).files) ∧
    ((system.runs id).pc.claimless = true →
      ∀ claim, system.files.claim = some claim → claim.file ≠ id) ∧
    ((system.runs id).pc.claimless = false →
      (∃ claim, system.files.claim = some claim ∧ claim.file = id) ∧ Blocked system) := by
  intro system
  have known : Launching system := runs_launching fresh moves
  have holds := known.sound.holds id
  refine ⟨?_, ?_, ?_⟩
  · rintro quiet front move back rfl mine
    have before := runs_launching fresh front
    refine untouched_of_quiet ?_ move mine
    -- Otherwise the run's last step would lie beyond the re-validation as well.
    cases loud : ((play step fresh.system front).runs id).pc.quiet with
    | true => rfl
    | false =>
        have last := before.loud_play (move :: back) loud
        rw [← play_append] at last
        exact last.symm.trans quiet
  · intro free claim present mine
    have held := holds.mpr (by simp [holder, present, mine])
    rw [Pc.free_of_claimless free] at held
    cases held
  · intro claimed
    have unreturned : (system.runs id).pc ≠ .unlinked := fun at_ => by
      rw [(known.sound.ok id).unlinked at_] at raised
      cases raised
    have held := Pc.holds_of_not_claimless claimed unreturned
    refine ⟨?_, Abandoned.blocked ⟨known, raised, held⟩⟩
    simpa [holder] using holds.mp held

end Runs

def preparedInstance : Instance where
  files := {
    record := ⟨some ⟨2, ⟨some .on, 0⟩, .prepared, none, 7, none, 0⟩, 1⟩
    next := none
    plan := ⟨some ⟨some .on, some ⟨some .on, 0⟩⟩, 0⟩
    profile := 7
    claim := none
    root := none }
  plain := by simp
  unsaved := rfl
  unclaimed := rfl

/-- The first save breaks off inside the write. The handler's save then finds
`record.next` in its way, and `record.json` still says PREPARED. -/
def brokenSave : List Move :=
  Move.call 0 ⟨⟨2, ⟨some .on, 0⟩, .prepared, none, 7, none, 0⟩, false, false, false⟩ ::
    List.append (List.replicate 23 (Move.run 0 (.proceed 3 (.finish true))))
      [.run 0 (.fail 1), .run 0 (.proceed 0 (.finish true)), .run 0 (.proceed 0 (.finish true))]

theorem raised_run_leaves_broken_save :
    let system := play step preparedInstance.system brokenSave
    (system.runs 0).status = .raised ∧ (system.runs 0).pc = .openNext .raise ∧
    system.files.record = preparedInstance.files.record ∧
    (∃ claim, system.files.claim = some claim ∧ claim.file = 0) ∧ Blocked system := by
  intro system
  have raised : (system.runs 0).status = .raised := by decide +kernel
  have last : (system.runs 0).pc = .openNext .raise := by decide +kernel
  have record : system.files.record = preparedInstance.files.record := by decide +kernel
  have left := raised_run_leaves preparedInstance brokenSave 0 raised
  exact ⟨raised, last, record, left.2.2 (by rw [last]; rfl)⟩

end Bscp.ClaimProtocol
