import Bscp.Virtmgr.VmLifecycle

/-!
`kill` on Linux. The call that starts the shutdown keeps the receiver of a rendezvous
channel until it returns; the others send on the channel and take the receiver's drop
for the end of the shutdown, whatever the first call returned.
-/

namespace Bscp.Virtmgr

/-- No `child.kill()` of the call that started the shutdown fails before `Dead`. -/
def ChildKilled (s next : State) : Prop :=
  ∀ caller, s.kill caller = .requesting false ∨ s.kill caller = .waiting →
    next.kill caller = .returned false → s.vm = .dead

structure Awaited (s : State) : Prop where
  unpoisoned : s.locked ≠ some .panicked
  blind : ∀ left, s.monitor ≠ .observing left
  unobserved : ∀ caller, s.kill caller ≠ .observing
  published : s.monitor.early = false → s.vm = .dead
  receiver : s.vm = .shuttingDown → s.receiver = true
  later : ∀ caller, s.kill caller = .entered false ∨ s.kill caller = .queued →
    s.vm = .shuttingDown ∨ s.vm = .dead
  returned : ∀ caller, s.kill caller = .returned true → s.vm = .dead

theorem awaited_start : Awaited {} where
  unpoisoned := nofun
  blind := nofun
  unobserved := nofun
  published := nofun
  receiver := nofun
  later := by simp
  returned := nofun

section Linux

variable {config : Config} {s next : State}

/-- A step of another thread that leaves the channel alone. -/
theorem Awaited.frame (awaited : Awaited s) (kill : next.kill = s.kill)
    (receiver : next.receiver = s.receiver) (move : VmMove s.vm next.vm)
    (running : s.vm = .running → next.vm ≠ .shuttingDown)
    (unpoisoned : next.locked ≠ some .panicked) (blind : ∀ left, next.monitor ≠ .observing left)
    (published : next.monitor.early = false → next.vm = .dead) : Awaited next := by
  have dead : s.vm = .dead → next.vm = .dead := by
    intro dead
    rw [dead] at move
    generalize next.vm = after at move ⊢
    cases move
    rfl
  constructor
  case unpoisoned => exact unpoisoned
  case blind => exact blind
  case unobserved => rw [kill]; exact awaited.unobserved
  case published => exact published
  case receiver =>
      rw [receiver]
      intro stopping
      apply awaited.receiver
      rw [stopping] at move running
      generalize before : s.vm = vm at move
      cases move with
      | same => rfl
      | stopped => exact absurd rfl (running before)
  case later =>
      rw [kill]
      intro caller here
      rcases awaited.later caller here with stopping | ended
      · rw [stopping] at move
        generalize next.vm = after at move ⊢
        cases move with
        | same => exact .inl rfl
        | exited => exact .inr rfl
      · exact .inr (dead ended)
  case returned => rw [kill]; exact fun caller here => dead (awaited.returned caller here)

/-- How a call on Linux uses the channel: what it leaves of the receiver, and what an `Ok`
rests on. -/
theorem KillStep.channel (linux : config.platform = .linux) {caller : Caller}
    (step : KillStep config caller s next) :
    (next.vm = .shuttingDown ∧ next.receiver = true ∨ next.receiver = s.receiver ∨
      s.monitor = .gone ∨ ((s.kill caller = .requesting false ∨ s.kill caller = .waiting) ∧
        next.kill caller = .returned false)) ∧
    (next.locked = s.locked ∨ s.kill caller = .waiting ∧ next.kill caller = .returned false ∧
      s.vm = .shuttingDown) := by
  cases step <;> simp_all

theorem KillStep.waiter (linux : config.platform = .linux) {caller : Caller}
    (step : KillStep config caller s next) :
    next.kill caller ≠ .observing ∧
    (next.kill caller = .entered false ∨ next.kill caller = .queued →
      s.vm = .shuttingDown ∨ s.kill caller = .entered false) ∧
    (next.kill caller = .returned true → s.monitor = .gone ∨ s.kill caller = .observing ∨
      s.kill caller = .queued ∧ s.receiver = false) := by
  cases step with
  | @proceed first _ _ => cases first <;> simp_all
  | _ => simp_all

theorem Awaited.killStep (awaited : Awaited s) (linux : config.platform = .linux) {caller : Caller}
    (step : KillStep config caller s next) (killed : ChildKilled s next) : Awaited next := by
  have others := fun other => @KillStep.others config s next caller other step
  obtain ⟨_, _, _, _, _, monitor, _, _, _, _, _, _, _, _, _, _, _, _, _, move⟩ := step.frame
  obtain ⟨channel, locked⟩ := step.channel linux
  obtain ⟨unobserved, later, returned⟩ := step.waiter linux
  have gone : s.monitor = .gone → s.vm = .dead := fun here => awaited.published (by rw [here]; rfl)
  have dead : next.vm = .dead ↔ s.vm = .dead := by
    rcases move with same | ⟨running, stopping, _⟩
    · rw [same]
    · rw [running, stopping]; simp
  have stays : s.vm = .shuttingDown ∨ s.vm = .dead → next.vm = .shuttingDown ∨ next.vm = .dead := by
    rcases move with same | ⟨_, stopping, _⟩
    · rw [same]; exact id
    · exact fun _ => .inl stopping
  constructor
  case unpoisoned =>
      rcases locked with same | ⟨waiting, failed, stopping⟩
      · rw [same]; exact awaited.unpoisoned
      · -- The panic is that of a failed `child.kill`.
        have ended := killed caller (.inr waiting) failed
        rw [stopping] at ended
        cases ended
  case blind => rw [monitor]; exact awaited.blind
  case unobserved =>
      intro other
      by_cases same : other = caller
      · rw [same]; exact unobserved
      · rw [others other same]; exact awaited.unobserved other
  case published => rw [monitor, dead]; exact awaited.published
  case receiver =>
      intro stopping
      have alive : s.vm ≠ .dead := fun ended => by
        rw [dead.2 ended] at stopping
        cases stopping
      rcases channel with ⟨_, opened⟩ | same | ended | ⟨asked, failed⟩
      · exact opened
      · rcases move with vm | ⟨running, _, _⟩
        · rw [same]; exact awaited.receiver (vm ▸ stopping)
        · -- The call that moves the state opens the channel.
          cases step <;> simp_all
      · exact absurd (gone ended) alive
      · exact absurd (killed caller asked failed) alive
  case later =>
      intro other here
      by_cases same : other = caller
      · rw [same] at here
        rcases later here with stopping | entered
        · exact stays (.inl stopping)
        · exact stays (awaited.later caller (.inl entered))
      · rw [others other same] at here
        exact stays (awaited.later other here)
  case returned =>
      intro other here
      rw [dead]
      by_cases same : other = caller
      · rw [same] at here
        rcases returned here with ended | observing | ⟨queued, dropped⟩
        · exact gone ended
        · exact absurd observing (awaited.unobserved caller)
        · rcases awaited.later caller (.inr queued) with stopping | ended
          · rw [awaited.receiver stopping] at dropped
            cases dropped
          · exact ended
      · rw [others other same] at here
        exact awaited.returned other here

/-- The exit monitor on Linux publishes before it leaves. -/
theorem Awaited.monitorStep (awaited : Awaited s) (linux : config.platform = .linux)
    (move : VmMove s.vm next.vm) (step : MonitorStep config s next) : Awaited next := by
  obtain ⟨_, locked, _, kill, _, _, _, _, _, vm⟩ := step.frame
  refine awaited.frame kill (by cases step <;> rfl) move ?_ (locked ▸ awaited.unpoisoned) ?_ ?_
  · intro running
    rcases vm with ⟨same, _⟩ | ⟨_, _, dead, _⟩
    · rw [same, running]; nofun
    · rw [dead]; nofun
  · have blind := awaited.blind
    cases step <;> simp_all
  · have published := awaited.published
    have unpoisoned := awaited.unpoisoned
    have blind := awaited.blind
    cases step <;> simp_all [Monitor.early]

theorem StartStep.channel {number : Nat} (step : StartStep config number s next) :
    next.receiver = s.receiver ∧ (next.vm = .shuttingDown → s.vm = .shuttingDown) ∧
      (next.locked = s.locked ∨ next.locked ≠ some .panicked) := by
  cases step <;> simp_all [State.setStart]

theorem Awaited.startStep (awaited : Awaited s) (booted : Booted s) {number : Nat}
    (step : StartStep config number s next) : Awaited next := by
  obtain ⟨receiver, stopping, locked⟩ := step.channel
  have move := booted.vmMove (.start number step)
  have monitor : next.monitor = s.monitor ∨ next.monitor = .waiting := step.frame.2.2.2.2.2.2.2.2.1
  refine awaited.frame step.frame.1 receiver move ?_ ?_ ?_ ?_
  · intro running here
    have before := stopping here
    rw [running] at before
    cases before
  · rcases locked with same | free
    · rw [same]; exact awaited.unpoisoned
    · exact free
  · rcases monitor with same | waiting
    · rw [same]; exact awaited.blind
    · rw [waiting]; nofun
  · intro ended
    rcases monitor with same | waiting
    · have dead := awaited.published (same ▸ ended)
      rw [dead] at move
      generalize next.vm = after at move ⊢
      cases move
      rfl
    · rw [waiting] at ended
      cases ended

theorem Awaited.step (awaited : Awaited s) (linux : config.platform = .linux) (booted : Booted s)
    (step : Step config s next) (killed : ChildKilled s next) : Awaited next := by
  have move := booted.vmMove step
  cases step with
  | start number step => exact awaited.startStep booted step
  | kill caller step => exact awaited.killStep linux step killed
  | monitor step => exact awaited.monitorStep linux move step
  | hangup step =>
      rw [step.frame]
      exact ⟨awaited.unpoisoned, awaited.blind, awaited.unobserved, awaited.published,
        awaited.receiver, awaited.later, awaited.returned⟩
  | outside step =>
      rw [step.frame]
      exact ⟨awaited.unpoisoned, awaited.blind, awaited.unobserved, awaited.published,
        awaited.receiver, awaited.later, awaited.returned⟩
  | client step =>
      rw [step.frame]
      exact ⟨awaited.unpoisoned, awaited.blind, awaited.unobserved, awaited.published,
        awaited.receiver, awaited.later, awaited.returned⟩

/-- In every run in which no `child.kill` fails before `Dead`, a call returns `Ok` after
`Dead` only, be it the one that started the shutdown or one that waited for it. -/
theorem linux_kill_ok_after_dead (config : Config) (linux : config.platform = .linux) (s : State)
    (reach : Machine.Reach (Machine.Under (Step config) ChildKilled) {} s) :
    ∀ caller, s.kill caller = .returned true → s.vm = .dead := by
  have both : Booted s ∧ Awaited s := by
    induction reach with
    | refl => exact ⟨booted_start, awaited_start⟩
    | tail _ move held => exact ⟨held.1.step move.1, held.2.step linux held.1 move.1 move.2⟩
  exact both.2.returned

/-- A call that has failed stays so. -/
theorem Step.failed {caller : Caller} (step : Step config s next)
    (failed : s.kill caller = .returned false) : next.kill caller = .returned false := by
  cases step with
  | start number step => rw [step.frame.1]; exact failed
  | kill other step =>
      by_cases same : caller = other
      · rw [same] at failed
        cases step <;> simp_all
      · rw [step.others same]; exact failed
  | monitor step =>
      obtain ⟨_, _, _, kill, _⟩ := step.frame
      rw [kill]
      exact failed
  | hangup step => rw [step.frame]; exact failed
  | outside step => rw [step.frame]; exact failed
  | client step => rw [step.frame]; exact failed

/-- A run in which no call has failed is one in which no `child.kill` has. -/
theorem unfailed_run (reach : Reachable config s) (unfailed : ∀ caller, s.kill caller ≠ .returned false) :
    Machine.Reach (Machine.Under (Step config) ChildKilled) {} s := by
  induction reach with
  | refl => exact .refl
  | tail _ step run =>
      refine (run fun caller failed => unfailed caller (step.failed failed)).tail ⟨step, ?_⟩
      exact fun caller _ failed => absurd failed (unfailed caller)

end Linux

/-- One call stops the guest and another waits for it: both return `Ok`, after `Dead`. -/
theorem both_callers_return_after_dead : ∃ s,
    Machine.Reach (Machine.Under (Step ⟨.linux, false, false, false⟩) ChildKilled) {} s ∧
    s.kill (.client 0) = .returned true ∧ s.kill (.client 1) = .returned true ∧ s.vm = .dead := by
  have run : ∃ s, Reachable ⟨.linux, false, false, false⟩ s ∧
      (∀ caller, s.kill caller ≠ .returned false) ∧
      s.kill (.client 0) = .returned true ∧ s.kill (.client 1) = .returned true := by
    refine ⟨_, .head (.start 0 (.retain rfl rfl rfl rfl)) <|
      .head (.start 0 (.serve rfl)) <|
      .head (.start 0 (.enter rfl rfl rfl)) <|
      .head (.start 0 (.spawn rfl)) <|
      .head (.start 0 (.bindNone rfl rfl)) <|
      .head (.start 0 (.monitor rfl)) <|
      .head (.start 0 (.guard rfl)) <|
      .head (.start 0 (.publish rfl)) <|
      .head (.kill (.client 0) (.first rfl nofun rfl rfl)) <|
      .head (.kill (.client 1) (.later rfl nofun rfl rfl)) <|
      .head (.kill (.client 1) (.proceed rfl nofun)) <|
      .head (.kill (.client 0) (.proceed rfl nofun)) <|
      .head (.kill (.client 0) (.take rfl)) <|
      .head (.kill (.client 0) (.ask rfl)) <|
      .head (.kill (.client 0) (.killChild rfl rfl)) <|
      .head (.outside (.exits rfl)) <|
      .head (.monitor (.waitLinux rfl rfl rfl)) <|
      .head (.monitor (.publish rfl rfl)) <|
      .head (.kill (.client 0) (.wakeLinux rfl rfl rfl nofun)) <|
      .head (.monitor (.take rfl)) <|
      .head (.monitor (.call rfl)) <|
      .head (.monitor (.clear rfl)) <|
      .head (.monitor (.release rfl (.inl rfl))) <|
      .head (.kill (.client 0) (.join rfl rfl rfl)) <|
      .head (.kill (.client 1) (.finished rfl rfl rfl)) .refl, ?_, rfl, rfl⟩
    rintro (number | _)
    · match number with
      | 0 => nofun
      | 1 => nofun
      | _ + 2 => nofun
    · nofun
  obtain ⟨s, reach, unfailed, first, second⟩ := run
  have under := unfailed_run reach unfailed
  exact ⟨s, under, first, second, linux_kill_ok_after_dead _ rfl s under _ second⟩

/-- The first call's `child.kill` fails; the one that waits takes its return for success. -/
theorem waiter_returns_ok_while_running : ∃ s, Reachable ⟨.linux, false, false, false⟩ s ∧
    s.kill (.client 1) = .returned true ∧ s.vm = .shuttingDown ∧ s.child = .alive := by
  exact ⟨_, .head (.start 0 (.retain rfl rfl rfl rfl)) <|
    .head (.start 0 (.serve rfl)) <|
    .head (.start 0 (.enter rfl rfl rfl)) <|
    .head (.start 0 (.spawn rfl)) <|
    .head (.start 0 (.bindNone rfl rfl)) <|
    .head (.start 0 (.monitor rfl)) <|
    .head (.start 0 (.guard rfl)) <|
    .head (.start 0 (.publish rfl)) <|
    .head (.kill (.client 0) (.first rfl nofun rfl rfl)) <|
    .head (.kill (.client 1) (.later rfl nofun rfl rfl)) <|
    .head (.kill (.client 1) (.proceed rfl nofun)) <|
    .head (.kill (.client 0) (.proceed rfl nofun)) <|
    .head (.kill (.client 0) (.take rfl)) <|
    .head (.kill (.client 0) (.ask rfl)) <|
    .head (.kill (.client 0) (.killChildFails rfl rfl)) <|
    .head (.kill (.client 1) (.finished rfl rfl rfl)) .refl, rfl, rfl, rfl⟩

end Bscp.Virtmgr
