import Bscp.Virtmgr.VmLifecycle

/-!
What is known of the original child's exit on macOS and Windows: what the exit monitor
has proven when it publishes `Dead`, calls the callbacks or may release the
registration, and what a call of `kill` has seen when it returns `Ok`.
-/

namespace Bscp.Virtmgr

/-- The child's wait succeeded and, on macOS, its `NOTE_EXIT` was observed. -/
def State.ExitProven (s : State) (config : Config) : Prop :=
  s.waited = true ∧ (config.platform = .macos → s.observed = true)

structure Exits (config : Config) (s : State) : Prop where
  noted : s.noteExit = true → s.child = .exited
  waited : s.waited = true → s.child = .exited
  looking : ∀ left, s.monitor = .observing left → s.waited = true
  proven : s.monitor.proven = true → s.ExitProven config
  dead : s.vm = .dead → s.ExitProven config
  release : s.mayRelease = true → s.ExitProven config
  died : s.diedCalled = true → config.shuttingDown = true ∨ s.ExitProven config
  observing : ∀ caller, s.kill caller = .observing → s.vm = .dead
  returned : ∀ caller, s.kill caller = .returned true →
    s.vm = .dead ∧ s.child = .exited ∧ s.exitSeen config.platform = true

theorem exits_start {config : Config} : Exits config {} where
  noted := nofun
  waited := nofun
  looking := nofun
  proven := nofun
  dead := nofun
  release := nofun
  died := nofun
  observing := nofun
  returned := nofun

section Exit

variable {config : Config} {s next : State}

/-- Seeing the exit of the child on either platform says that it has exited. -/
theorem Exits.exited (exits : Exits config s) {platform : Platform}
    (seen : s.exitSeen platform = true) : s.child = .exited := by
  cases platform with
  | macos => exact exits.noted (by simp_all [State.exitSeen])
  | windows => simpa [State.exitSeen] using seen
  | linux => simpa [State.exitSeen] using seen

/-- What is seen of the exit stays seen while the child stays exited. -/
theorem exitSeen_mono {platform : Platform} (peer : s.peer = true → next.peer = true)
    (noted : s.noteExit = true → next.noteExit = true)
    (gone : s.child = .exited → next.child = .exited) (seen : s.exitSeen platform = true) :
    next.exitSeen platform = true := by
  cases platform with
  | macos =>
      simp only [State.exitSeen, Bool.and_eq_true] at seen ⊢
      exact ⟨peer seen.1, noted seen.2⟩
  | windows =>
      simp only [State.exitSeen, decide_eq_true_eq] at seen ⊢
      exact gone seen
  | linux =>
      simp only [State.exitSeen, decide_eq_true_eq] at seen ⊢
      exact gone seen

theorem Exits.startStep (exits : Exits config s) (booted : Booted s) {number : Nat}
    (step : StartStep config number s next) : Exits config next := by
  obtain ⟨kill, _, noteExit, waited, observed, mayRelease, peer, child, monitor, diedCalled⟩ :=
    step.frame
  have move := booted.vmMove (.start number step)
  -- The one call that spawns a child finds none before it.
  have gone : s.child = .exited → next.child = .exited := by
    intro exited
    rcases child with same | ⟨preparing, _⟩
    · exact same.trans exited
    · rw [booted.childless number preparing] at exited
      cases exited
  have proven : s.ExitProven config → next.ExitProven config := by
    rw [State.ExitProven, State.ExitProven, waited, observed]
    exact id
  have dead : next.vm = .dead → s.vm = .dead := by
    intro dead
    have still := step.move
    cases still <;> simp_all
  have dying : s.vm = .dead → next.vm = .dead := by
    intro dead
    rw [dead] at move
    generalize next.vm = after at move ⊢
    cases move
    rfl
  constructor
  case noted => rw [noteExit]; exact fun noted => gone (exits.noted noted)
  case waited => rw [waited]; exact fun done => gone (exits.waited done)
  case looking =>
      intro left looking
      rw [waited]
      rcases monitor with same | waiting
      · exact exits.looking left (same ▸ looking)
      · rw [waiting] at looking
        cases looking
  case proven =>
      intro holds
      rcases monitor with same | waiting
      · exact proven (exits.proven (same ▸ holds))
      · rw [waiting] at holds
        cases holds
  case dead => exact fun now => proven (exits.dead (dead now))
  case release => rw [mayRelease]; exact fun may => proven (exits.release may)
  case died =>
      intro called
      rcases diedCalled with same | shutdown
      · exact (exits.died (same ▸ called)).imp id proven
      · exact .inl shutdown
  case observing => rw [kill]; exact fun caller here => dying (exits.observing caller here)
  case returned =>
      rw [kill]
      intro caller here
      obtain ⟨ended, exited, seen⟩ := exits.returned caller here
      exact ⟨dying ended, gone exited, exitSeen_mono peer (noteExit ▸ id) gone seen⟩

/-- A call looks at the exit once it has found `Dead`, and returns `Ok` when it sees it. -/
theorem KillStep.ends (host : config.platform ≠ .linux) {caller : Caller}
    (step : KillStep config caller s next) :
    (next.kill caller = .observing → s.vm = .dead) ∧
      (next.kill caller = .returned true →
        s.kill caller = .observing ∧ s.exitSeen config.platform = true) := by
  cases step with
  | @proceed first _ _ => cases first <;> simp [host]
  | shutdown _ _ ok => cases ok <;> simp
  | terminate _ _ _ _ _ ok => cases ok <;> simp
  | requestExit _ _ _ ok => cases ok <;> simp
  | wake _ _ _ dead => simp [dead]
  | observe here seen => simp [here, seen]
  | join _ linux _ => exact absurd linux host
  | finished _ linux _ => exact absurd linux host
  | _ => simp

theorem Exits.killStep (exits : Exits config s) (host : config.platform ≠ .linux) {caller : Caller}
    (step : KillStep config caller s next) : Exits config next := by
  obtain ⟨_, _, child, peer, noteExit, monitor, waited, observed, mayRelease, diedCalled, _, _, _, _,
    _, _, _, _, _, move⟩ := step.frame
  have others := fun other => @KillStep.others config s next caller other step
  have proven : s.ExitProven config → next.ExitProven config := by
    rw [State.ExitProven, State.ExitProven, waited, observed]
    exact id
  have dead : next.vm = .dead ↔ s.vm = .dead := by
    rcases move with same | ⟨running, stopping, _⟩
    · rw [same]
    · rw [running, stopping]; simp
  have seen : next.exitSeen config.platform = s.exitSeen config.platform := by
    cases config.platform <;> simp [State.exitSeen, child, peer, noteExit]
  constructor
  case noted => rw [noteExit, child]; exact exits.noted
  case waited => rw [waited, child]; exact exits.waited
  case looking => rw [waited, monitor]; exact exits.looking
  case proven => rw [monitor]; exact fun holds => proven (exits.proven holds)
  case dead => exact fun now => proven (exits.dead (dead.1 now))
  case release => rw [mayRelease]; exact fun may => proven (exits.release may)
  case died => rw [diedCalled]; exact fun called => (exits.died called).imp id proven
  case observing =>
      intro other here
      by_cases same : other = caller
      · exact dead.2 ((step.ends host).1 (same ▸ here))
      · rw [others other same] at here
        exact dead.2 (exits.observing other here)
  case returned =>
      intro other here
      rw [child, seen]
      by_cases same : other = caller
      · obtain ⟨looked, saw⟩ := (step.ends host).2 (same ▸ here)
        exact ⟨dead.2 (exits.observing caller looked), exits.exited saw, saw⟩
      · rw [others other same] at here
        obtain ⟨ended, rest⟩ := exits.returned other here
        exact ⟨dead.2 ended, rest⟩

/-- What the exit monitor proves before it goes on. -/
theorem MonitorStep.proves (step : MonitorStep config s next) :
    (s.waited = true → next.waited = true) ∧ (s.observed = true → next.observed = true) ∧
      (next.waited = true → s.waited = true ∨ s.child = .exited) ∧
      (∀ left, next.monitor = .observing left →
        next.waited = true ∨ ∃ more, s.monitor = .observing more) ∧
      (next.monitor.proven = true → s.monitor.proven = true ∨ next.mayRelease = true ∨
        config.platform = .linux) ∧
      (next.vm = .dead → s.vm = .dead ∨ s.monitor.proven = true) ∧
      (next.diedCalled = true → s.diedCalled = true ∨ s.monitor.proven = true) := by
  cases step <;> simp_all [Monitor.proven]

/-- What `may_release` rests on. -/
theorem MonitorStep.mayRelease (step : MonitorStep config s next)
    (may : next.mayRelease = true) :
    s.mayRelease = true ∨ (config.platform = .windows ∧ next.waited = true) ∨
      (next.observed = true ∧ ∃ left, s.monitor = .observing left) := by
  cases step <;> simp_all

theorem Exits.monitorStep (exits : Exits config s) (host : config.platform ≠ .linux)
    (step : MonitorStep config s next) : Exits config next := by
  obtain ⟨_, _, child, kill, _, peer, noteExit, _, _, move⟩ := step.frame
  obtain ⟨waits, observes, waited, looking, proves, dead, died⟩ := step.proves
  have proven : s.ExitProven config → next.ExitProven config :=
    fun proof => ⟨waits proof.1, fun macos => observes (proof.2 macos)⟩
  have dying : s.vm = .dead → next.vm = .dead := by
    intro dead
    rcases move with ⟨same, _⟩ | ⟨_, _, now, _⟩
    · exact same.trans dead
    · exact now
  have release : next.mayRelease = true → next.ExitProven config := by
    intro may
    rcases step.mayRelease may with before | ⟨windows, done⟩ | ⟨seen, left, looked⟩
    · exact proven (exits.release before)
    · exact ⟨done, fun macos => by rw [windows] at macos; cases macos⟩
    · exact ⟨waits (exits.looking left looked), fun _ => seen⟩
  constructor
  case noted => rw [noteExit, child]; exact exits.noted
  case waited =>
      intro done
      rw [child]
      exact (waited done).elim exits.waited id
  case looking =>
      intro left here
      rcases looking left here with done | ⟨more, before⟩
      · exact done
      · exact waits (exits.looking more before)
  case proven =>
      intro holds
      rcases proves holds with before | may | linux
      · exact proven (exits.proven before)
      · exact release may
      · exact absurd linux host
  case dead =>
      intro now
      exact (dead now).elim (fun before => proven (exits.dead before))
        (fun before => proven (exits.proven before))
  case release => exact release
  case died =>
      intro called
      rcases died called with before | before
      · exact (exits.died before).imp id proven
      · exact .inr (proven (exits.proven before))
  case observing => rw [kill]; exact fun caller here => dying (exits.observing caller here)
  case returned =>
      rw [kill, child]
      intro caller here
      obtain ⟨ended, exited, seen⟩ := exits.returned caller here
      exact ⟨dying ended, exited,
        exitSeen_mono (peer ▸ id) (noteExit ▸ id) (child ▸ id) seen⟩

/-- What the system delivers does not undo an exit. -/
theorem OutsideStep.exit (step : OutsideStep s next) :
    (s.child = .exited → next.child = .exited) ∧ (s.noteExit = true → next.noteExit = true) ∧
      (next.noteExit = true → s.noteExit = true ∨ next.child = .exited) := by
  cases step <;> simp_all

theorem Exits.outsideStep (exits : Exits config s) (step : OutsideStep s next) :
    Exits config next := by
  obtain ⟨gone, noting, noted⟩ := step.exit
  have frame := step.frame
  constructor
  case noted => exact fun now => (noted now).elim (fun before => gone (exits.noted before)) id
  case waited => rw [frame]; exact fun done => gone (exits.waited done)
  case looking => rw [frame]; exact exits.looking
  case proven => rw [frame]; exact exits.proven
  case dead => rw [frame]; exact exits.dead
  case release => rw [frame]; exact exits.release
  case died => rw [frame]; exact exits.died
  case observing => rw [frame]; exact exits.observing
  case returned =>
      have kill : next.kill = s.kill := by rw [frame]
      have vm : next.vm = s.vm := by rw [frame]
      have peer : next.peer = s.peer := by rw [frame]
      intro caller here
      rw [kill] at here
      obtain ⟨ended, exited, seen⟩ := exits.returned caller here
      exact ⟨vm.trans ended, gone exited, exitSeen_mono (peer ▸ id) noting gone seen⟩

theorem Exits.step (exits : Exits config s) (host : config.platform ≠ .linux) (booted : Booted s)
    (step : Step config s next) : Exits config next := by
  cases step with
  | start number step => exact exits.startStep booted step
  | kill caller step => exact exits.killStep host step
  | monitor step => exact exits.monitorStep host step
  | hangup step =>
      rw [step.frame]
      exact ⟨exits.noted, exits.waited, exits.looking, exits.proven, exits.dead, exits.release,
        exits.died, exits.observing, exits.returned⟩
  | outside step => exact exits.outsideStep step
  | client step =>
      rw [step.frame]
      exact ⟨exits.noted, exits.waited, exits.looking, exits.proven, exits.dead, exits.release,
        exits.died, exits.observing, exits.returned⟩

structure Sound (config : Config) (s : State) : Prop where
  booted : Booted s
  exits : Exits config s

theorem Sound.step (sound : Sound config s) (host : config.platform ≠ .linux)
    (step : Step config s next) : Sound config next where
  booted := sound.booted.step step
  exits := sound.exits.step host sound.booted step

theorem reachable_sound (host : config.platform ≠ .linux) (reach : Reachable config s) :
    Sound config s :=
  Machine.reach_keeps ⟨booted_start, exits_start⟩ (fun _ _ sound step => sound.step host step) reach

structure Unstarted (s : State) : Prop where
  start : ∀ number, s.start number = .idle ∨ s.start number = .returned false
  vm : s.vm = .notStarted
  child : s.child = .none
  monitor : s.monitor = .absent

theorem unstarted_start : Unstarted {} where
  start _ := .inl rfl
  vm := rfl
  child := rfl
  monitor := rfl

theorem Unstarted.startStep (unstarted : Unstarted s) (down : config.shuttingDown = true)
    {number : Nat} (step : StartStep config number s next) : Unstarted next := by
  have here := unstarted.start number
  cases step with
  | hostShutdown _ _ =>
      refine ⟨fun other => ?_, unstarted.vm, unstarted.child, unstarted.monitor⟩
      by_cases same : other = number
      · exact .inr (by simp [same])
      · simpa [same] using unstarted.start other
  -- Every other step needs a host that is up, or a call that has got further.
  | _ => simp_all

theorem Unstarted.step (unstarted : Unstarted s) (down : config.shuttingDown = true)
    (step : Step config s next) : Unstarted next := by
  cases step with
  | start number step => exact unstarted.startStep down step
  | kill caller step =>
      obtain ⟨start, _, child, _, _, monitor, _, _, _, _, _, _, _, _, _, _, _, _, _, move⟩ := step.frame
      constructor
      case start => rw [start]; exact unstarted.start
      case vm =>
          rcases move with same | ⟨running, _⟩
          · exact same.trans unstarted.vm
          · rw [unstarted.vm] at running
            cases running
      case child => rw [child]; exact unstarted.child
      case monitor => rw [monitor]; exact unstarted.monitor
  | monitor step =>
      obtain ⟨_, _, _, _, _, _, _, present, _⟩ := step.frame
      exact absurd unstarted.monitor present
  | hangup step => rw [step.frame]; exact ⟨unstarted.start, unstarted.vm, unstarted.child, unstarted.monitor⟩
  | outside step =>
      have child : next.child = .none := by
        rcases step.child with same | ⟨alive, _⟩
        · exact same.trans unstarted.child
        · rw [unstarted.child] at alive
          cases alive
      rw [step.frame]
      exact ⟨unstarted.start, unstarted.vm, child, unstarted.monitor⟩
  | client step => rw [step.frame]; exact ⟨unstarted.start, unstarted.vm, unstarted.child, unstarted.monitor⟩

theorem reachable_unstarted (down : config.shuttingDown = true) (reach : Reachable config s) :
    Unstarted s :=
  Machine.reach_keeps unstarted_start (fun _ _ unstarted step => unstarted.step down step) reach

/-- One stop action at most, a state that moves forward only, and no `Ok`, `Dead` or
`callback_on_died` without the exit of the original child. A start that is refused as
the host shuts down tells the callbacks of an instance that has no child. -/
theorem stop_action_once_and_exit_proven (config : Config) (host : config.platform ≠ .linux)
    (s : State) (reach : Reachable config s) :
    s.issued.length ≤ 1 ∧ (∀ next, Step config s next → VmMove s.vm next.vm) ∧
      (∀ caller, s.kill caller = .returned true →
        s.vm = .dead ∧ s.child = .exited ∧ s.exitSeen config.platform = true) ∧
      (s.vm = .dead → s.ExitProven config) ∧
      (s.diedCalled = true → s.ExitProven config ∨
        config.shuttingDown = true ∧ s.vm = .notStarted ∧ s.child = .none) := by
  have sound := reachable_sound host reach
  refine ⟨(reachable_ordered reach).stops.once, fun next step => sound.booted.vmMove step, sound.exits.returned,
    sound.exits.dead, fun called => ?_⟩
  rcases sound.exits.died called with down | proven
  · have unstarted := reachable_unstarted down reach
    exact .inr ⟨down, unstarted.vm, unstarted.child⟩
  · exact .inl proven

end Exit

/-- A guest without an agent is stopped: from the start of the instance to the `Ok` of
the caller. -/
theorem stopped_guest : ∃ s, Reachable ⟨.macos, false, false, false⟩ s ∧
    s.kill (.client 0) = .returned true ∧ s.issued = [.auditTokenTerm] := by
  exact ⟨_, .head (.start 0 (.retain rfl rfl rfl rfl)) <|
    .head (.start 0 (.serve rfl)) <|
    .head (.start 0 (.enter rfl rfl rfl)) <|
    .head (.start 0 (.spawn rfl)) <|
    .head (.start 0 (.bindPeer rfl nofun)) <|
    .head (.start 0 (.monitor rfl)) <|
    .head (.start 0 (.guard rfl)) <|
    .head (.start 0 (.publish rfl)) <|
    .head (.kill (.client 0) (.first rfl nofun rfl rfl)) <|
    .head (.kill (.client 0) (.proceed rfl nofun)) <|
    .head (.kill (.client 0) (.take rfl)) <|
    .head (.kill (.client 0) (.ask rfl)) <|
    .head (.kill (.client 0) (.terminate rfl rfl rfl rfl rfl true)) <|
    .head (.outside (.exits rfl)) <|
    .head (.outside (.deliver rfl)) <|
    .head (.monitor (.waitMac rfl rfl rfl)) <|
    .head (.monitor (.observe rfl rfl)) <|
    .head (.monitor (.publish rfl rfl)) <|
    .head (.kill (.client 0) (.wake rfl nofun rfl rfl)) <|
    .head (.kill (.client 0) (.observe rfl rfl)) .refl, rfl, rfl⟩

theorem stopped_guest_exit_proven : ∃ s, Reachable ⟨.macos, false, false, false⟩ s ∧
    s.issued = [.auditTokenTerm] ∧ s.vm = .dead ∧ s.noteExit = true := by
  obtain ⟨s, reach, returned, issued⟩ := stopped_guest
  obtain ⟨_, _, ok, _⟩ := 
    stop_action_once_and_exit_proven ⟨.macos, false, false, false⟩ nofun s reach
  obtain ⟨dead, _, seen⟩ := ok (.client 0) returned
  simp only [State.exitSeen, Bool.and_eq_true] at seen
  exact ⟨s, reach, issued, dead, seen.2⟩

/-- On a host that is shutting down a start tells the callbacks, and no child was waited for. -/
theorem refused_start_calls_died : ∃ s, Reachable ⟨.windows, true, true, true⟩ s ∧
    s.accepted = [7] ∧ s.died = [7] ∧ s.diedCalled = true ∧ s.waited = false := by
  exact ⟨_, .head (.client (@ClientStep.registerCallback _ 7 nofun rfl nofun)) <|
    .head (.start 0 (.hostShutdown rfl rfl)) .refl, rfl, rfl, rfl, rfl⟩

end Bscp.Virtmgr
