import Bscp.Virtmgr.VmInstance

/-!
The life of one instance: `vm_state` moves forward only, the exit monitor publishes
what it has proven, and at most one stop action is issued.
-/

namespace Bscp.Virtmgr

def Start.inside : Start → Bool
  | .preparing | .spawned | .bound _ | .monitored _ | .guarded _ => true
  | _ => false

def Start.alone : Start → Bool
  | .preparing | .spawned | .bound _ => true
  | _ => false

def Monitor.early : Monitor → Bool
  | .absent | .waiting | .observing _ | .cleaning => true
  | _ => false

def Monitor.proven : Monitor → Bool
  | .cleaning | .published | .storing _ | .notifying _ => true
  | _ => false

structure Booted (s : State) : Prop where
  holder : ∀ number, (s.start number).inside = true → s.locked = some (.start number)
  held : ∀ number, s.locked = some (.start number) →
    (s.start number).inside = true ∧ s.vm = .notStarted
  childless : ∀ number, s.start number = .preparing → s.child = .none
  unwatched : ∀ number, (s.start number).alone = true → s.monitor = .absent
  unstarted : s.vm = .notStarted → s.locked = none → s.child = .none ∧ s.monitor = .absent
  failed : s.vm = .failed → s.monitor = .absent
  early : s.vm = .dead → s.monitor.early = false

theorem booted_start : Booted {} where
  holder := nofun
  held := nofun
  childless := nofun
  unwatched := nofun
  unstarted _ _ := ⟨rfl, rfl⟩
  failed := nofun
  early := nofun

section Boot

variable {config : Config} {s next : State}

inductive StartMove (number : Nat) (s next : State) : Prop
  | outside (before : (s.start number).inside = false) (after : (next.start number).inside = false)
      (locked : next.locked = s.locked) (vm : next.vm = s.vm) (child : next.child = s.child)
      (monitor : next.monitor = s.monitor)
  | enter (before : (s.start number).inside = false) (after : next.start number = .preparing)
      (free : s.locked = none) (locked : next.locked = some (.start number))
      (fresh : s.vm = .notStarted)
      (vm : next.vm = s.vm) (child : next.child = s.child) (monitor : next.monitor = s.monitor)
  | fail (before : s.start number = .preparing) (after : (next.start number).inside = false)
      (locked : next.locked = none) (vm : next.vm = .failed) (child : next.child = s.child)
      (monitor : next.monitor = s.monitor)
  | prepare (before : (s.start number).alone = true) (after : (next.start number).alone = true)
      (spawned : next.start number ≠ .preparing) (locked : next.locked = s.locked)
      (vm : next.vm = s.vm) (monitor : next.monitor = s.monitor)
  | watch (before : (s.start number).alone = true) (after : (next.start number).inside = true)
      (watched : (next.start number).alone = false) (locked : next.locked = s.locked)
      (vm : next.vm = s.vm) (child : next.child = s.child) (monitor : next.monitor = .waiting)
  | guard (before : (s.start number).inside = true) (after : (next.start number).inside = true)
      (watched : (next.start number).alone = false) (locked : next.locked = s.locked)
      (vm : next.vm = s.vm) (child : next.child = s.child) (monitor : next.monitor = s.monitor)
  | publish (before : (s.start number).inside = true) (watched : (s.start number).alone = false)
      (after : (next.start number).inside = false) (locked : next.locked = none)
      (vm : next.vm = .running) (child : next.child = s.child) (monitor : next.monitor = s.monitor)

theorem StartStep.others {number other : Nat} (step : StartStep config number s next)
    (different : other ≠ number) : next.start other = s.start other := by
  cases step <;> simp [different]

theorem StartStep.move {number : Nat} (step : StartStep config number s next) :
    StartMove number s next := by
  cases step with
  | hostShutdown here _ =>
      exact .outside (by simp [here, Start.inside]) (by simp [Start.inside]) rfl rfl rfl rfl
  | refuse here _ =>
      exact .outside (by simp [here, Start.inside]) (by simp [Start.inside]) rfl rfl rfl rfl
  | retain here _ _ _ =>
      exact .outside (by simp [here, Start.inside]) (by simp [Start.inside]) rfl rfl rfl rfl
  | serve here => exact .outside (by simp [here, Start.inside]) (by simp [Start.inside]) rfl rfl rfl rfl
  | serveFails here _ =>
      exact .outside (by simp [here, Start.inside]) (by simp [Start.inside]) rfl rfl rfl rfl
  | enter here free fresh =>
      exact .enter (by simp [here, Start.inside]) (by simp) free rfl fresh rfl rfl rfl
  | enterLate here _ _ =>
      exact .outside (by simp [here, Start.inside]) (by simp [Start.inside]) rfl rfl rfl rfl
  | enterPoisoned here _ =>
      exact .outside (by simp [here, Start.inside]) (by simp [Start.inside]) rfl rfl rfl rfl
  | prepareFails here => exact .fail here (by simp [Start.inside]) rfl rfl rfl rfl
  | spawn here =>
      exact .prepare (by simp [here, Start.alone]) (by simp [Start.alone]) (by simp) rfl rfl rfl
  | bindPeer here _ =>
      exact .prepare (by simp [here, Start.alone]) (by simp [Start.alone]) (by simp) rfl rfl rfl
  | bindFails here _ =>
      exact .prepare (by simp [here, Start.alone]) (by simp [Start.alone]) (by simp) rfl rfl rfl
  | bindNone here _ =>
      exact .prepare (by simp [here, Start.alone]) (by simp [Start.alone]) (by simp) rfl rfl rfl
  | monitor here =>
      exact .watch (by simp [here, Start.alone]) (by simp [Start.inside]) (by simp [Start.alone])
        rfl rfl rfl rfl
  | guard here =>
      exact .guard (by simp [here, Start.inside]) (by simp [Start.inside]) (by simp [Start.alone])
        rfl rfl rfl rfl
  | @publish ok here =>
      exact .publish (by simp [here, Start.inside]) (by simp [here, Start.alone])
        (by cases ok <;> simp [Start.inside]) rfl rfl rfl rfl
  | opens here => exact .outside (by simp [here, Start.inside]) (by simp [Start.inside]) rfl rfl rfl rfl
  | openFails here _ =>
      exact .outside (by simp [here, Start.inside]) (by simp [Start.inside]) rfl rfl rfl rfl
  | keep here _ _ _ =>
      exact .outside (by simp [here, Start.inside]) (by simp [Start.inside]) rfl rfl rfl rfl
  | giveUp here _ _ _ =>
      exact .outside (by simp [here, Start.inside]) (by simp [Start.inside]) rfl rfl rfl rfl
  | giveUpUnasked here _ =>
      exact .outside (by simp [here, Start.inside]) (by simp [Start.inside]) rfl rfl rfl rfl
  | release here => exact .outside (by simp [here, Start.inside]) (by simp [Start.inside]) rfl rfl rfl rfl
  | releaseFails here =>
      exact .outside (by simp [here, Start.inside]) (by simp [Start.inside]) rfl rfl rfl rfl

theorem Start.inside_of_alone {start : Start} (alone : start.alone = true) :
    start.inside = true := by
  cases start <;> first | rfl | cases alone

/-- Another call that is inside excludes this one. -/
theorem Booted.single (booted : Booted s) {one other : Nat} (first : (s.start one).inside = true)
    (second : (s.start other).inside = true) : other = one := by
  have held := (booted.holder one first).symm.trans (booted.holder other second)
  exact (Holder.start.inj (Option.some.inj held)).symm

theorem Booted.startStep (booted : Booted s) {number : Nat}
    (step : StartStep config number s next) : Booted next := by
  have others := fun other => @StartStep.others config s next number other step
  have alone := @Start.inside_of_alone
  have single := @Booted.single s booted
  obtain ⟨holder, held, childless, unwatched, unstarted, failed, early⟩ := booted
  cases step.move with
  | outside before after locked vm child monitor => constructor <;> grind -ring -linarith [Start.inside, Start.alone]
  | enter before after free locked fresh vm child monitor =>
      constructor <;> grind -ring -linarith [Start.inside, Start.alone]
  | fail before after locked vm child monitor => constructor <;> grind -ring -linarith [Start.inside, Start.alone]
  | prepare before after spawned locked vm monitor =>
      constructor <;> grind -ring -linarith [Start.inside, Start.alone]
  | watch before after watched locked vm child monitor =>
      constructor <;> grind -ring -linarith [Start.inside, Start.alone]
  | guard before after watched locked vm child monitor =>
      constructor <;> grind -ring -linarith [Start.inside, Start.alone]
  | publish before watched after locked vm child monitor =>
      constructor <;> grind -ring -linarith [Start.inside, Start.alone]

/-- What a step of the exit monitor does to the state. -/
theorem MonitorStep.frame (step : MonitorStep config s next) :
    next.start = s.start ∧ next.locked = s.locked ∧ next.child = s.child ∧ next.kill = s.kill ∧
      next.issued = s.issued ∧ next.peer = s.peer ∧ next.noteExit = s.noteExit ∧
      s.monitor ≠ .absent ∧ next.monitor ≠ .absent ∧
      ((next.vm = s.vm ∧ (s.monitor.early = false → next.monitor.early = false)) ∨
        (s.locked = none ∧ s.monitor = .cleaning ∧ next.vm = .dead ∧ next.monitor = .published)) := by
  cases step <;> simp_all [Monitor.early]

theorem Booted.monitorStep (booted : Booted s) (step : MonitorStep config s next) : Booted next := by
  obtain ⟨start, locked, child, _, _, _, _, present, still, move⟩ := step.frame
  constructor
  case holder => rw [start, locked]; exact booted.holder
  case held =>
      intro number holds
      rw [locked] at holds
      obtain ⟨inside, fresh⟩ := booted.held number holds
      rw [start]
      rcases move with ⟨vm, _⟩ | ⟨free, _⟩
      · exact ⟨inside, vm.trans fresh⟩
      · rw [free] at holds
        cases holds
  case childless => rw [start, child]; exact booted.childless
  case unwatched =>
      intro number alone
      rw [start] at alone
      exact absurd (booted.unwatched number alone) present
  case unstarted =>
      intro fresh free
      rw [locked] at free
      rcases move with ⟨vm, _⟩ | ⟨_, _, dead, _⟩
      · exact absurd (booted.unstarted (vm ▸ fresh) free).2 present
      · rw [dead] at fresh
        cases fresh
  case failed =>
      intro failed
      rcases move with ⟨vm, _⟩ | ⟨_, _, dead, _⟩
      · exact absurd (booted.failed (vm ▸ failed)) present
      · rw [dead] at failed
        cases failed
  case early =>
      intro dead
      rcases move with ⟨vm, later⟩ | ⟨_, _, _, published⟩
      · exact later (booted.early (vm ▸ dead))
      · rw [published]
        rfl

theorem Booted.killStep (booted : Booted s) {caller : Caller} (step : KillStep config caller s next) :
    Booted next := by
  obtain ⟨start, locked, child, _, _, monitor, _, _, _, _, _, _, _, _, _, _, _, _, _, move⟩ :=
    step.frame
  -- A state other than the two that `kill` moves between is the one before.
  have standing : ∀ vm, vm ≠ .shuttingDown → next.vm = vm → s.vm = vm := by
    rintro vm other rfl
    rcases move with same | ⟨_, stopping, _⟩
    · exact same.symm
    · exact absurd stopping other
  -- A call inside `VmState::start` keeps the lock from a panic here.
  have keeps : ∀ number, (s.start number).inside = true → next.locked = s.locked := by
    intro number inside
    rcases locked with same | ⟨free, _⟩
    · exact same
    · rw [booted.holder number inside] at free
      cases free
  have held : ∀ number, next.locked = some (.start number) → next.locked = s.locked := by
    intro number holds
    rcases locked with same | ⟨_, _, panicked⟩
    · exact same
    · rw [panicked] at holds
      cases holds
  constructor
  case holder =>
      rw [start]
      exact fun number inside => (keeps number inside).trans (booted.holder number inside)
  case held =>
      intro number holds
      rw [held number holds] at holds
      obtain ⟨inside, fresh⟩ := booted.held number holds
      rw [start]
      rcases move with same | ⟨_, _, free⟩
      · exact ⟨inside, same.trans fresh⟩
      · rw [free] at holds
        cases holds
  case childless => rw [start, child]; exact booted.childless
  case unwatched => rw [start, monitor]; exact booted.unwatched
  case unstarted =>
      rw [child, monitor]
      intro fresh free
      rcases locked with same | ⟨_, _, panicked⟩
      · exact booted.unstarted (standing _ nofun fresh) (same ▸ free)
      · rw [panicked] at free
        cases free
  case failed => rw [monitor]; exact fun failed => booted.failed (standing _ nofun failed)
  case early => rw [monitor]; exact fun dead => booted.early (standing _ nofun dead)

/-- A process that has exited does not come back, and one that never was does not exit. -/
theorem OutsideStep.child (step : OutsideStep s next) :
    next.child = s.child ∨ s.child = .alive ∧ next.child = .exited := by
  cases step <;> simp_all

theorem Booted.outsideStep (booted : Booted s) (step : OutsideStep s next) : Booted next := by
  have child := step.child
  have none : s.child = .none → next.child = .none := by
    rintro missing
    rcases child with same | ⟨alive, _⟩
    · exact same.trans missing
    · rw [missing] at alive
      cases alive
  rw [step.frame]
  exact ⟨booted.holder, booted.held, fun number here => none (booted.childless number here),
    booted.unwatched, fun fresh free => ⟨none (booted.unstarted fresh free).1,
      (booted.unstarted fresh free).2⟩, booted.failed, booted.early⟩

theorem Booted.step (booted : Booted s) (step : Step config s next) : Booted next := by
  cases step with
  | start number step => exact booted.startStep step
  | kill caller step => exact booted.killStep step
  | monitor step => exact booted.monitorStep step
  | hangup step =>
      rw [step.frame]
      exact ⟨booted.holder, booted.held, booted.childless, booted.unwatched, booted.unstarted,
        booted.failed, booted.early⟩
  | outside step => exact booted.outsideStep step
  | client step =>
      rw [step.frame]
      exact ⟨booted.holder, booted.held, booted.childless, booted.unwatched, booted.unstarted,
        booted.failed, booted.early⟩

inductive VmMove : VmState → VmState → Prop
  | same (vm : VmState) : VmMove vm vm
  | started : VmMove .notStarted .running
  | startFailed : VmMove .notStarted .failed
  | stopped : VmMove .running .shuttingDown
  | died : VmMove .running .dead
  | exited : VmMove .shuttingDown .dead

theorem Booted.vmMove (booted : Booted s) (step : Step config s next) : VmMove s.vm next.vm := by
  cases step with
  | start number step =>
      have inside : (s.start number).inside = true → s.vm = .notStarted := fun inside =>
        (booted.held number (booted.holder number inside)).2
      cases step.move with
      | outside _ _ _ vm _ _ => rw [vm]; exact .same _
      | enter _ _ _ _ _ vm _ _ => rw [vm]; exact .same _
      | fail before _ _ vm _ _ =>
          rw [inside (by rw [before]; rfl), vm]
          exact .startFailed
      | prepare _ _ _ _ vm _ => rw [vm]; exact .same _
      | watch _ _ _ _ vm _ _ => rw [vm]; exact .same _
      | guard _ _ _ _ vm _ _ => rw [vm]; exact .same _
      | publish before _ _ _ vm _ _ =>
          rw [inside before, vm]
          exact .started
  | kill caller step =>
      have move : next.vm = s.vm ∨ s.vm = .running ∧ next.vm = .shuttingDown ∧ s.locked = none := by
        have frame := step.frame
        tauto
      rcases move with vm | ⟨running, stopping, _⟩
      · rw [vm]; exact .same _
      · rw [running, stopping]; exact .stopped
  | monitor step =>
      obtain ⟨_, _, _, _, _, _, _, present, _, ⟨vm, _⟩ | ⟨free, cleaning, dead, _⟩⟩ := step.frame
      · rw [vm]; exact .same _
      · rw [dead]
        -- A monitor that is there excludes a start that failed or has not happened.
        cases standing : s.vm with
        | notStarted => exact absurd (booted.unstarted standing free).2 present
        | running => exact .died
        | shuttingDown => exact .exited
        | dead => exact .same _
        | failed => exact absurd (booted.failed standing) present
  | hangup step => rw [step.frame]; exact .same _
  | outside step => rw [step.frame]; exact .same _
  | client step => rw [step.frame]; exact .same _

end Boot

/-- The call has moved the state and its stop action may still come. -/
def Kill.pending : Kill → Bool
  | .entered true | .sweeping | .storing _ | .requesting _ => true
  | _ => false

def VmState.quiet : VmState → Bool
  | .notStarted | .running | .failed => true
  | _ => false

structure Stops (s : State) : Prop where
  quiet : s.vm.quiet = true → s.issued = [] ∧ ∀ caller, (s.kill caller).pending = false
  unissued : ∀ caller, (s.kill caller).pending = true → s.issued = []
  single : ∀ one other, (s.kill one).pending = true → (s.kill other).pending = true → one = other
  once : s.issued.length ≤ 1

theorem stops_start : Stops {} where
  quiet _ := ⟨rfl, fun _ => rfl⟩
  unissued := nofun
  single := nofun
  once := Nat.zero_le 1

section Stop

variable {config : Config} {s next : State}

inductive KillMove (caller : Caller) (s next : State) : Prop
  | first (running : s.vm = .running) (stopping : next.vm = .shuttingDown)
      (issued : next.issued = s.issued)
  | issue (action : StopAction) (before : (s.kill caller).pending = true)
      (after : (next.kill caller).pending = false) (vm : next.vm = s.vm)
      (issued : next.issued = action :: s.issued)
  | quiet (after : (next.kill caller).pending = true → (s.kill caller).pending = true)
      (vm : next.vm = s.vm) (issued : next.issued = s.issued)

theorem KillStep.others {caller other : Caller} (step : KillStep config caller s next)
    (different : other ≠ caller) : next.kill other = s.kill other := by
  cases step <;> simp [different]

theorem KillStep.move {caller : Caller} (step : KillStep config caller s next) :
    KillMove caller s next := by
  cases step with
  | first here _ _ running => exact .first running rfl rfl
  | later here _ _ _ => exact .quiet (by simp [Kill.pending]) rfl rfl
  | refuse here _ _ _ => exact .quiet (by simp [Kill.pending]) rfl rfl
  | poisoned here _ _ => exact .quiet (by simp [Kill.pending]) rfl rfl
  | ownerMissing here _ _ => exact .quiet (by simp [Kill.pending]) rfl rfl
  | @proceed first here _ =>
      cases first with
      | true => exact .quiet (by simp [here, Kill.pending]) rfl rfl
      | false =>
          by_cases linux : config.platform = .linux
          · exact .quiet (by simp [linux, Kill.pending]) rfl rfl
          · exact .quiet (by simp [linux, Kill.pending]) rfl rfl
  | take here => exact .quiet (by simp [here, Kill.pending]) rfl rfl
  | store here => exact .quiet (by simp [here, Kill.pending]) rfl rfl
  | ask here => exact .quiet (by simp [here, Kill.pending]) rfl rfl
  | shutdown here _ ok =>
      exact .issue _ (by simp [here, Kill.pending]) (by cases ok <;> simp [Kill.pending]) rfl rfl
  | shutdownAnyway here _ =>
      exact .issue _ (by simp [here, Kill.pending]) (by simp [Kill.pending]) rfl rfl
  | killChild here _ => exact .quiet (by simp [Kill.pending]) rfl rfl
  | killChildFails here _ => exact .quiet (by simp [Kill.pending]) rfl rfl
  | terminate here _ _ _ _ ok =>
      exact .issue _ (by simp [here, Kill.pending]) (by cases ok <;> simp [Kill.pending]) rfl rfl
  | terminateExited here _ _ => exact .quiet (by simp [Kill.pending]) rfl rfl
  | terminateRefused here _ => exact .quiet (by simp [Kill.pending]) rfl rfl
  | requestExit here _ _ ok =>
      exact .issue _ (by simp [here, Kill.pending]) (by cases ok <;> simp [Kill.pending]) rfl rfl
  | requestRefused here _ _ => exact .quiet (by simp [Kill.pending]) rfl rfl
  | wake here _ _ _ => exact .quiet (by simp [Kill.pending]) rfl rfl
  | expire here _ _ _ => exact .quiet (by simp [Kill.pending]) rfl rfl
  | observe here _ => exact .quiet (by simp [Kill.pending]) rfl rfl
  | unobserved here => exact .quiet (by simp [Kill.pending]) rfl rfl
  | wakeLinux here _ _ _ => exact .quiet (by simp [Kill.pending]) rfl rfl
  | expireLinux here _ _ _ => exact .quiet (by simp [Kill.pending]) rfl rfl
  | expirePanics here _ _ _ => exact .quiet (by simp [Kill.pending]) rfl rfl
  | join here _ _ => exact .quiet (by simp [Kill.pending]) rfl rfl
  | finished here _ _ => exact .quiet (by simp [Kill.pending]) rfl rfl

theorem VmMove.quiet {before after : VmState} (move : VmMove before after)
    (quiet : after.quiet = true) : before.quiet = true := by
  cases move <;> first | exact quiet | rfl

/-- A step of another thread keeps what the callers of `kill` rely on. -/
theorem Stops.frame (stops : Stops s) (kill : next.kill = s.kill) (issued : next.issued = s.issued)
    (move : VmMove s.vm next.vm) : Stops next := by
  constructor
  case quiet =>
      intro quiet
      rw [kill, issued]
      exact stops.quiet (move.quiet quiet)
  case unissued => rw [kill, issued]; exact stops.unissued
  case single => rw [kill]; exact stops.single
  case once => rw [issued]; exact stops.once

theorem Stops.killStep (stops : Stops s) {caller : Caller}
    (step : KillStep config caller s next) : Stops next := by
  have others := fun other => @KillStep.others config s next caller other step
  cases step.move with
  | first running stopping issued =>
      obtain ⟨none, idle⟩ := stops.quiet (by rw [running]; rfl)
      -- No other call was pending before, so this is the only one.
      have mine : ∀ other, (next.kill other).pending = true → other = caller := by
        intro other pending
        by_contra different
        rw [others other different, idle other] at pending
        cases pending
      constructor
      case quiet => rw [stopping]; exact nofun
      case unissued => exact fun _ _ => issued.trans none
      case single =>
          exact fun one other first second => (mine one first).trans (mine other second).symm
      case once => rw [issued]; exact stops.once
  | issue action before after vm issued =>
      -- The one pending call gives up its turn as the action is issued.
      have done : ∀ other, (next.kill other).pending = false := by
        intro other
        by_cases same : other = caller
        · rw [same]; exact after
        · rw [others other same]
          by_contra pending
          exact same (stops.single other caller (by simpa using pending) before)
      have loud : s.vm.quiet = false := by
        by_contra quiet
        have idle := (stops.quiet (by simpa using quiet)).2 caller
        rw [before] at idle
        cases idle
      constructor
      case quiet => rw [vm, loud]; exact nofun
      case unissued => intro other pending; rw [done other] at pending; cases pending
      case single => intro one _ pending; rw [done one] at pending; cases pending
      case once => rw [issued, stops.unissued caller before]; exact Nat.le_refl 1
  | quiet after vm issued =>
      have back : ∀ other, (next.kill other).pending = true → (s.kill other).pending = true := by
        intro other pending
        by_cases same : other = caller
        · rw [same] at pending ⊢; exact after pending
        · rw [others other same] at pending; exact pending
      constructor
      case quiet =>
          intro quiet
          obtain ⟨none, idle⟩ := stops.quiet (vm ▸ quiet)
          constructor
          · exact issued.trans none
          · intro other
            by_contra pending
            have before := back other (by simpa using pending)
            rw [idle other] at before
            cases before
      case unissued => exact fun other pending => issued.trans (stops.unissued other (back other pending))
      case single => exact fun one other first second => stops.single one other (back one first) (back other second)
      case once => rw [issued]; exact stops.once

/-- What `start` leaves alone, for the other threads. -/
theorem StartStep.frame {number : Nat} (step : StartStep config number s next) :
    next.kill = s.kill ∧ next.issued = s.issued ∧ next.noteExit = s.noteExit ∧
      next.waited = s.waited ∧ next.observed = s.observed ∧ next.mayRelease = s.mayRelease ∧
      (s.peer = true → next.peer = true) ∧
      (next.child = s.child ∨ s.start number = .preparing ∧ next.child = .alive) ∧
      (next.monitor = s.monitor ∨ next.monitor = .waiting) ∧
      (next.diedCalled = s.diedCalled ∨ config.shuttingDown = true) := by
  cases step <;> simp_all [State.setStart]

theorem Stops.step (stops : Stops s) (booted : Booted s) (step : Step config s next) :
    Stops next := by
  have move := booted.vmMove step
  cases step with
  | start number step => exact stops.frame step.frame.1 step.frame.2.1 move
  | kill caller step => exact stops.killStep step
  | monitor step =>
      obtain ⟨_, _, _, kill, issued, _⟩ := step.frame
      exact stops.frame kill issued move
  | hangup step => exact stops.frame (by rw [step.frame]) (by rw [step.frame]) move
  | outside step => exact stops.frame (by rw [step.frame]) (by rw [step.frame]) move
  | client step => exact stops.frame (by rw [step.frame]) (by rw [step.frame]) move

structure Ordered (s : State) : Prop where
  booted : Booted s
  stops : Stops s

theorem Ordered.step (ordered : Ordered s) (step : Step config s next) : Ordered next where
  booted := ordered.booted.step step
  stops := ordered.stops.step ordered.booted step

theorem reachable_ordered (reach : Reachable config s) : Ordered s :=
  Machine.reach_keeps ⟨booted_start, stops_start⟩ (fun _ _ ordered step => ordered.step step) reach

end Stop

end Bscp.Virtmgr
