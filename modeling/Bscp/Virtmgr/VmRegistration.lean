import Bscp.Virtmgr.VmExit

/-!
The strong registration of an instance in the service (`retain_for_start`,
`release_owned_registration`) from the spawn of crosvm on. It is given up by the exit
monitor's guard and by a failing `start`; the latter decides by `is_vm_running`.
-/

namespace Bscp.Virtmgr

def Start.active : Start → Bool
  | .idle | .returned _ => false
  | _ => true

def State.Retained (s : State) : Prop := s.owned = true ∧ s.registered = true

/-- A failing `start` does not ask `is_vm_running` while a stop has moved the state on
and the exit of the child is not proven. -/
def AsksInTime (config : Config) (s next : State) : Prop :=
  ∀ number, s.start number = .failed → next.start number ≠ .failed →
    s.vm = .shuttingDown → s.ExitProven config

structure Kept (config : Config) (s : State) : Prop where
  single : ∀ one other, (s.start one).active = true → (s.start other).active = true → one = other
  used : ∀ number, (s.start number).active = true → s.owned = true ∨ s.registered = false
  spawned : s.child ≠ .none → s.owned = true ∨ s.registered = false
  admitted : ∀ number, (s.start number).active = true → s.ExitProven config ∨ s.Retained
  child : s.child ≠ .none → s.ExitProven config ∨ s.Retained
  releasing : ∀ number, s.start number = .releasing → s.child = .none ∨ s.ExitProven config
  failed : s.vm = .failed → s.child = .none

theorem kept_start {config : Config} : Kept config {} where
  single := nofun
  used := nofun
  spawned := nofun
  admitted := nofun
  child := nofun
  releasing := nofun
  failed := nofun

section Registration

variable {config : Config} {s next : State}

theorem State.ExitProven.step (proven : s.ExitProven config) (step : Step config s next) :
    next.ExitProven config := by
  cases step with
  | start number step =>
      obtain ⟨_, _, _, waited, observed, _⟩ := step.frame
      rw [State.ExitProven, waited, observed]
      exact proven
  | kill caller step =>
      obtain ⟨_, _, _, _, _, _, waited, observed, _⟩ := step.frame
      rw [State.ExitProven, waited, observed]
      exact proven
  | monitor step =>
      obtain ⟨waits, observes, _⟩ := step.proves
      exact ⟨waits proven.1, fun macos => observes (proven.2 macos)⟩
  | hangup step => rw [step.frame]; exact proven
  | outside step => rw [step.frame]; exact proven
  | client step => rw [step.frame]; exact proven

inductive StartClaim (number : Nat) (s next : State) : Prop
  | keep (before : (next.start number).active = true → (s.start number).active = true)
      (owned : next.owned = s.owned) (registered : next.registered = s.registered)
  | retain (free : s.owned = false) (listed : s.registered = true) (owned : next.owned = true)
      (registered : next.registered = true) (child : next.child = s.child)
      (vm : next.vm = s.vm) (after : next.start number = .retained)
  | release (before : s.start number = .releasing) (after : (next.start number).active = false)
      (registered : next.registered = false) (child : next.child = s.child) (vm : next.vm = s.vm)

theorem StartStep.claim {number : Nat} (step : StartStep config number s next) :
    StartClaim number s next := by
  cases step with
  | hostShutdown _ _ => exact .keep (by simp [Start.active]) rfl rfl
  | refuse _ _ => exact .keep (by simp [Start.active]) rfl rfl
  | retain _ _ free listed => exact .retain free listed rfl listed rfl rfl (by simp)
  | release here => exact .release here (by simp [Start.active]) rfl rfl rfl
  | enterPoisoned _ _ => exact .keep (by simp [Start.active]) rfl rfl
  | opens _ => exact .keep (by simp [Start.active]) rfl rfl
  | keep _ _ _ _ => exact .keep (by simp [Start.active]) rfl rfl
  | releaseFails _ => exact .keep (by simp [Start.active]) rfl rfl
  | serve here => exact .keep (by simp [here, Start.active]) rfl rfl
  | serveFails here _ => exact .keep (by simp [here, Start.active]) rfl rfl
  | enter here _ _ => exact .keep (by simp [here, Start.active]) rfl rfl
  | enterLate here _ _ => exact .keep (by simp [here, Start.active]) rfl rfl
  | prepareFails here => exact .keep (by simp [here, Start.active]) rfl rfl
  | spawn here => exact .keep (by simp [here, Start.active]) rfl rfl
  | bindPeer here _ => exact .keep (by simp [here, Start.active]) rfl rfl
  | bindFails here _ => exact .keep (by simp [here, Start.active]) rfl rfl
  | bindNone here _ => exact .keep (by simp [here, Start.active]) rfl rfl
  | monitor here => exact .keep (by simp [here, Start.active]) rfl rfl
  | guard here => exact .keep (by simp [here, Start.active]) rfl rfl
  | publish here => exact .keep (by simp [here, Start.active]) rfl rfl
  | openFails here _ => exact .keep (by simp [here, Start.active]) rfl rfl
  | giveUp here _ _ _ => exact .keep (by simp [here, Start.active]) rfl rfl
  | giveUpUnasked here _ => exact .keep (by simp [here, Start.active]) rfl rfl

/-- The one way to the release: `is_vm_running` was asked and said no. -/
theorem StartStep.releasing (host : config.platform ≠ .linux) {number : Nat}
    (step : StartStep config number s next) (here : next.start number = .releasing) :
    s.start number = .failed ∧ s.locked = none ∧ s.vm ≠ .running ∧ next.child = s.child := by
  cases step with
  | giveUp failed _ free idle => exact ⟨failed, free, idle, rfl⟩
  | giveUpUnasked _ linux => exact absurd linux host
  | @publish ok _ => cases ok <;> simp at here
  | _ => simp at here

theorem Start.active_releasing {start : Start} (here : start = .releasing) : start.active = true := by
  rw [here]
  rfl

theorem Start.active_preparing {start : Start} (here : start = .preparing) : start.active = true := by
  rw [here]
  rfl

/-- A start that fails before the spawn leaves no child. -/
theorem Kept.startFailed (kept : Kept config s) (booted : Booted s) {number : Nat}
    (step : StartStep config number s next) (failed : next.vm = .failed) : next.child = .none := by
  cases step.move with
  | outside _ _ _ vm child _ => exact child.trans (kept.failed (vm.symm.trans failed))
  | enter _ _ _ _ _ vm child _ => exact child.trans (kept.failed (vm.symm.trans failed))
  | fail before _ _ _ child _ => exact child.trans (booted.childless number before)
  | prepare before _ _ _ vm _ =>
      have inside := booted.holder number (Start.inside_of_alone before)
      have fresh := (booted.held number inside).2
      rw [vm.symm.trans failed] at fresh
      cases fresh
  | watch _ _ _ _ vm child _ => exact child.trans (kept.failed (vm.symm.trans failed))
  | guard _ _ _ _ vm child _ => exact child.trans (kept.failed (vm.symm.trans failed))
  | publish _ _ _ _ vm _ _ => rw [vm] at failed; cases failed

/-- A call that goes on to release has no child, or one whose exit is proven. -/
theorem Kept.mayRelease (kept : Kept config s) (host : config.platform ≠ .linux)
    (sound : Sound config s) {number : Nat}
    (step : StartStep config number s next) (asks : AsksInTime config s next)
    (here : next.start number = .releasing) : s.child = .none ∨ s.ExitProven config := by
  obtain ⟨failed, free, idle, _⟩ := step.releasing host here
  have asked := asks number failed (by rw [here]; nofun)
  cases standing : s.vm with
  | notStarted => exact .inl (sound.booted.unstarted standing free).1
  | running => exact absurd standing idle
  | shuttingDown => exact .inr (asked standing)
  | dead => exact .inr (sound.exits.dead standing)
  | failed => exact .inl (kept.failed standing)

theorem Kept.startStep (kept : Kept config s) (host : config.platform ≠ .linux)
    (sound : Sound config s) {number : Nat}
    (step : StartStep config number s next) (asks : AsksInTime config s next) :
    Kept config next := by
  have others := fun other => @StartStep.others config s next number other step
  have proven : s.ExitProven config → next.ExitProven config := fun proof =>
    proof.step (.start number step)
  have spawns : next.child = s.child ∨ s.start number = .preparing ∧ next.child = .alive :=
    step.frame.2.2.2.2.2.2.2.1
  have failed := kept.startFailed sound.booted step
  cases step.claim with
  | keep before owned registered =>
      have back : ∀ other, (next.start other).active = true → (s.start other).active = true := by
        intro other active
        by_cases same : other = number
        · rw [same] at active ⊢; exact before active
        · rw [others other same] at active; exact active
      have retained : s.ExitProven config ∨ s.Retained → next.ExitProven config ∨ next.Retained := by
        rintro (proof | held)
        · exact .inl (proven proof)
        · exact .inr ⟨owned.trans held.1, registered.trans held.2⟩
      constructor
      case single => exact fun one other first second => kept.single one other (back one first) (back other second)
      case used => rw [owned, registered]; exact fun other active => kept.used other (back other active)
      case spawned =>
          rw [owned, registered]
          intro present
          rcases spawns with same | ⟨preparing, _⟩
          · exact kept.spawned (same ▸ present)
          · exact kept.used number (Start.active_preparing preparing)
      case admitted => exact fun other active => retained (kept.admitted other (back other active))
      case child =>
          intro present
          rcases spawns with same | ⟨preparing, _⟩
          · exact retained (kept.child (same ▸ present))
          · exact retained (kept.admitted number (Start.active_preparing preparing))
      case releasing =>
          intro other here
          by_cases mine : other = number
          · rw [mine] at here
            rw [(step.releasing host here).2.2.2]
            exact (kept.mayRelease host sound step asks here).imp id proven
          · rw [others other mine] at here
            -- The call that spawns would be a second active one.
            rcases spawns with same | ⟨preparing, _⟩
            · rw [same]; exact (kept.releasing other here).imp id proven
            · exact absurd (kept.single other number (Start.active_releasing here)
                (Start.active_preparing preparing)) mine
      case failed => exact failed
  | retain free listed owned registered child vm after =>
      -- An instance that is not owned and still registered was never retained before.
      have never : ¬(s.owned = true ∨ s.registered = false) := by simp [free, listed]
      have only : ∀ other, (next.start other).active = true → other = number := by
        intro other active
        by_contra different
        rw [others other different] at active
        exact never (kept.used other active)
      constructor
      case single => exact fun one other first second => (only one first).trans (only other second).symm
      case used => exact fun _ _ => .inl owned
      case spawned => exact fun _ => .inl owned
      case admitted => exact fun _ _ => .inr ⟨owned, registered⟩
      case child => exact fun _ => .inr ⟨owned, registered⟩
      case releasing =>
          intro other here
          have mine := only other (Start.active_releasing here)
          rw [mine, after] at here
          cases here
      case failed => exact failed
  | release before after registered child vm =>
      have none : ∀ other, (next.start other).active = false := by
        intro other
        by_cases same : other = number
        · rw [same]; exact after
        · rw [others other same]
          by_contra active
          exact same (kept.single other number (by simpa using active) (Start.active_releasing before))
      have idle : ∀ other, ¬((next.start other).active = true) := fun other => by simp [none other]
      constructor
      case single => exact fun one _ active => absurd active (idle one)
      case used => exact fun other active => absurd active (idle other)
      case spawned => exact fun _ => .inr registered
      case admitted => exact fun other active => absurd active (idle other)
      case child =>
          intro present
          rw [child] at present
          exact .inl (proven ((kept.releasing number before).resolve_left present))
      case releasing => exact fun other here => absurd (Start.active_releasing here) (idle other)
      case failed => exact failed

/-- A step of another thread keeps the registration, or removes it with the exit proven. -/
theorem Kept.frame (kept : Kept config s) (start : next.start = s.start)
    (child : next.child = .none ↔ s.child = .none) (failed : next.vm = .failed → s.vm = .failed)
    (proven : s.ExitProven config → next.ExitProven config)
    (move : (next.owned = s.owned ∧ next.registered = s.registered) ∨
      (next.registered = false ∧ next.ExitProven config)) : Kept config next := by
  have used : s.owned = true ∨ s.registered = false → next.owned = true ∨ next.registered = false := by
    rcases move with ⟨owned, registered⟩ | ⟨gone, _⟩
    · rw [owned, registered]; exact id
    · exact fun _ => .inr gone
  have retained : s.ExitProven config ∨ s.Retained → next.ExitProven config ∨ next.Retained := by
    rintro (proof | held)
    · exact .inl (proven proof)
    · rcases move with ⟨owned, registered⟩ | ⟨_, proof⟩
      · exact .inr ⟨owned.trans held.1, registered.trans held.2⟩
      · exact .inl proof
  constructor
  case single => rw [start]; exact kept.single
  case used => rw [start]; exact fun number active => used (kept.used number active)
  case spawned => exact fun present => used (kept.spawned (present ∘ child.2))
  case admitted => rw [start]; exact fun number active => retained (kept.admitted number active)
  case child => exact fun present => retained (kept.child (present ∘ child.2))
  case releasing => rw [start]; exact fun number here => (kept.releasing number here).imp child.2 proven
  case failed => exact fun now => child.2 (kept.failed (failed now))

/-- The guard of the exit monitor is the only step of it that touches the registration. -/
theorem MonitorStep.registration (step : MonitorStep config s next) :
    (next.owned = s.owned ∧ next.registered = s.registered) ∨
      (next.registered = false ∧ (config.platform = .linux ∨ s.mayRelease = true)) := by
  cases step <;> simp_all

theorem Kept.step (kept : Kept config s) (host : config.platform ≠ .linux) (sound : Sound config s)
    (step : Step config s next) (asks : AsksInTime config s next) : Kept config next := by
  have proven : s.ExitProven config → next.ExitProven config := fun proof => proof.step step
  cases step with
  | start number step => exact kept.startStep host sound step asks
  | kill caller step =>
      obtain ⟨start, _, child, _, _, _, _, _, _, _, registered, owned, _, _, _, _, _, _, _, move⟩ :=
        step.frame
      refine kept.frame start (by rw [child]) ?_ proven (.inl ⟨owned, registered⟩)
      rcases move with same | ⟨_, stopping, _⟩
      · rw [same]; exact id
      · rw [stopping]; nofun
  | monitor step =>
      obtain ⟨start, _, child, _, _, _, _, _, _, move⟩ := step.frame
      refine kept.frame start (by rw [child]) ?_ proven ?_
      · rcases move with ⟨same, _⟩ | ⟨_, _, dead, _⟩
        · rw [same]; exact id
        · rw [dead]; nofun
      · exact step.registration.imp id fun ⟨gone, may⟩ =>
          ⟨gone, proven (sound.exits.release (may.resolve_left host))⟩
  | hangup step =>
      rw [step.frame] at proven ⊢
      exact kept.frame rfl Iff.rfl id proven (.inl ⟨rfl, rfl⟩)
  | outside step =>
      have child : next.child = .none ↔ s.child = .none := by
        rcases step.child with same | ⟨alive, exited⟩
        · rw [same]
        · rw [alive, exited]; simp
      refine kept.frame ?_ child ?_ proven (.inl ⟨?_, ?_⟩)
      all_goals rw [step.frame]
      exact id
  | client step =>
      rw [step.frame] at proven ⊢
      exact kept.frame rfl Iff.rfl id proven (.inl ⟨rfl, rfl⟩)

/-- In every run in which no failing start asks too late, crosvm's registration stays
from the spawn until its exit is proven. -/
theorem registration_kept_until_exit (config : Config) (host : config.platform ≠ .linux) (s : State)
    (reach : Machine.Reach (Machine.Under (Step config) (AsksInTime config)) {} s) :
    s.child ≠ .none → ¬s.ExitProven config → s.Retained := by
  have both : Sound config s ∧ Kept config s := by
    induction reach with
    | refl => exact ⟨⟨booted_start, exits_start⟩, kept_start⟩
    | tail _ move held => exact ⟨held.1.step host move.1, held.2.step host held.1 move.1 move.2⟩
  intro present unproven
  exact (both.2.child present).resolve_left unproven

end Registration

/-- The peer of a spawned crosvm cannot be bound; the start fails and asks while the VM runs. -/
theorem failed_bind_keeps_registration : ∃ s,
    Machine.Reach (Machine.Under (Step ⟨.macos, false, false, false⟩)
      (AsksInTime ⟨.macos, false, false, false⟩)) {} s ∧
    s.start 0 = .returned false ∧ s.child = .alive ∧ s.Retained := by
  have run : ∃ s, Machine.Reach (Machine.Under (Step ⟨.macos, false, false, false⟩)
      (AsksInTime ⟨.macos, false, false, false⟩)) {} s ∧
      s.start 0 = .returned false ∧ s.child = .alive ∧ s.waited = false :=
    -- No stop is called, so the state never stands at `ShuttingDown`.
    ⟨_, .head ⟨.start 0 (.retain rfl rfl rfl rfl), fun _ _ _ => nofun⟩ <|
      .head ⟨.start 0 (.serve rfl), fun _ _ _ => nofun⟩ <|
      .head ⟨.start 0 (.enter rfl rfl rfl), fun _ _ _ => nofun⟩ <|
      .head ⟨.start 0 (.spawn rfl), fun _ _ _ => nofun⟩ <|
      .head ⟨.start 0 (.bindFails rfl nofun), fun _ _ _ => nofun⟩ <|
      .head ⟨.start 0 (.monitor rfl), fun _ _ _ => nofun⟩ <|
      .head ⟨.start 0 (.guard rfl), fun _ _ _ => nofun⟩ <|
      .head ⟨.start 0 (.publish rfl), fun _ _ _ => nofun⟩ <|
      .head ⟨.start 0 (.keep rfl nofun rfl rfl), fun _ _ _ => nofun⟩ .refl, rfl, rfl, rfl⟩
  obtain ⟨s, reach, returned, alive, unwaited⟩ := run
  refine ⟨s, reach, returned, alive, registration_kept_until_exit _ ?_ s reach ?_ ?_⟩
  · nofun
  · rw [alive]
    nofun
  · rintro ⟨waited, _⟩
    rw [unwaited] at waited
    cases waited

/-- A stop comes between the failed bind and the question: the registration of a live
crosvm is released. -/
theorem stop_before_question_releases : ∃ s, Reachable ⟨.macos, false, false, false⟩ s ∧
    s.child = .alive ∧ s.waited = false ∧ s.owned = false ∧ s.registered = false := by
  exact ⟨_, .head (.start 0 (.retain rfl rfl rfl rfl)) <|
    .head (.start 0 (.serve rfl)) <|
    .head (.start 0 (.enter rfl rfl rfl)) <|
    .head (.start 0 (.spawn rfl)) <|
    .head (.start 0 (.bindFails rfl nofun)) <|
    .head (.start 0 (.monitor rfl)) <|
    .head (.start 0 (.guard rfl)) <|
    .head (.start 0 (.publish rfl)) <|
    .head (.kill (.client 0) (.first rfl nofun rfl rfl)) <|
    .head (.start 0 (.giveUp rfl nofun rfl nofun)) <|
    .head (.start 0 (.release rfl)) .refl, rfl, rfl, rfl, rfl⟩

end Bscp.Virtmgr
