import Bscp.Virtmgr.VmLifecycle

/-!
The payload state of an instance, which the Guest's notifications and the hangup
monitor advance under a lock of its own, and the answers of `getState`, which combine
it with `vm_state`.
-/

namespace Bscp.Virtmgr

def Reported.rank : Reported → Nat
  | .notStarted => 0
  | .starting => 1
  | .started => 2
  | .ready => 3
  | .finished => 4
  | .dead => 5

/-- What `getState` has answered at most, if it was not asked between the hangup and the
stop that follows it. -/
def State.answered (s : State) : Nat :=
  match s.vm with
  | .notStarted => 0
  | .running => min (s.payload.rank + 1) 4
  | .shuttingDown => 4
  | .dead => 5
  | .failed => 5

def PayloadState.begun : PayloadState → Bool
  | .started | .ready | .finished => true
  | _ => false

def Start.unguarded : Start → Bool
  | .preparing | .spawned | .bound _ | .monitored _ => true
  | _ => false

/-- No notification is recorded between the hangup monitor's timeout and its update. -/
def NotifiesInTime (s next : State) : Prop :=
  s.hangup = .timedOut ∨ s.hangup = .overdue → s.payload = .starting →
    next.payload.begun = false

/-- `getState` is not asked between the hangup and the stop that follows it. -/
def AsksAside (s next : State) : Prop :=
  s.vm = .running → s.payload = .hangup → next.reports = s.reports

structure Watched (s : State) : Prop where
  unguarded : ∀ number, (s.start number).unguarded = true → s.hangup = .absent
  fresh : s.vm = .notStarted → s.locked = none → s.hangup = .absent
  overdue : s.hangup = .timedOut ∨ s.hangup = .overdue → s.payload = .starting
  killing : s.hangup = .killing → s.payload = .hangup
  called : s.kill .hangup ≠ .idle → s.hangup = .killing

theorem watched_start : Watched {} where
  unguarded := nofun
  fresh _ _ := rfl
  overdue := by simp
  killing := nofun
  called := by simp

section Payload

variable {config : Config} {s next : State}

theorem PayloadState.update_le (current new : PayloadState) :
    current.rank ≤ (current.update new).rank := by
  unfold PayloadState.update
  split
  · rename_i forward
    exact Nat.le_of_lt forward
  · exact Nat.le_refl _

theorem PayloadState.update_hangup (current : PayloadState) : current.update .hangup = .hangup := by
  cases current <;> rfl

/-- An update by the Guest never gives `Hangup`, and never leaves it. -/
theorem PayloadState.update_guest {current new : PayloadState} (guest : new ≠ .hangup) :
    current.update new = .hangup ↔ current = .hangup := by
  cases current <;> cases new <;> simp_all [PayloadState.update, PayloadState.rank]

inductive PayloadMove (s next : State) : Prop
  | still (payload : next.payload = s.payload) (hangup : next.hangup = s.hangup)
  | watch (payload : next.payload = s.payload) (number : Nat)
      (here : (s.start number).unguarded = true) (after : (next.start number).unguarded = false)
      (hangup : next.hangup = .watching)
  | turn (payload : next.payload = s.payload) (watched : s.hangup ≠ .absent)
      (timely : next.hangup = .timedOut ∨ next.hangup = .overdue → s.payload = .starting ∨
        s.hangup = .timedOut)
      (unkilled : s.hangup ≠ .killing ∧ next.hangup ≠ .killing)
  | notify (new : PayloadState) (guest : new ≠ .hangup) (payload : next.payload = s.payload.update new)
      (hangup : next.hangup = s.hangup)
  | hang (overdue : s.hangup = .overdue) (payload : next.payload = .hangup)
      (hangup : next.hangup = .killing)

theorem Step.payload (step : Step config s next) : PayloadMove s next := by
  cases step with
  | start number step =>
      cases step with
      | @guard ok here =>
          by_cases detects : config.detectHangup = true
          · exact .watch rfl number (by rw [here]; rfl) (by simp [Start.unguarded]) (by simp [detects])
          · exact .still rfl (by simp [detects])
      | _ => exact .still rfl rfl
  | kill caller step =>
      obtain ⟨_, _, _, _, _, _, _, _, _, _, _, _, _, _, _, _, payload, hangup, _⟩ := step.frame
      exact .still payload hangup
  | monitor step => cases step <;> exact .still rfl rfl
  | hangup step =>
      cases step with
      | timeout here late => exact .turn rfl (by rw [here]; nofun) (fun _ => .inl late) (by simp [here])
      | started here done => exact .turn rfl (by rw [here]; nofun) (by simp) (by simp [here])
      | alive here running => exact .turn rfl (by rw [here]; nofun) (fun _ => .inr here) (by simp [here])
      | exited here => exact .turn rfl (by rw [here]; nofun) (by simp) (by simp [here])
      | update here => exact .hang here (PayloadState.update_hangup _) rfl
  | outside step =>
      cases step with
      | notify new guest => exact .notify new guest rfl rfl
      | _ => exact .still rfl rfl
  | client step => rw [step.frame]; exact .still rfl rfl

theorem Step.payload_le (step : Step config s next) : s.payload.rank ≤ next.payload.rank := by
  cases step.payload with
  | still payload _ => exact Nat.le_of_eq (congrArg PayloadState.rank payload.symm)
  | watch payload _ _ _ _ => exact Nat.le_of_eq (congrArg PayloadState.rank payload.symm)
  | turn payload _ _ _ => exact Nat.le_of_eq (congrArg PayloadState.rank payload.symm)
  | notify new _ payload _ => rw [payload]; exact PayloadState.update_le _ _
  | hang _ payload _ => rw [payload]; cases s.payload <;> decide

/-- Where the calls of `start` that may still make a hangup monitor come from. -/
theorem Step.unguarded (step : Step config s next) {number : Nat}
    (here : (next.start number).unguarded = true) :
    (s.start number).unguarded = true ∨ s.vm = .notStarted ∧ s.locked = none := by
  cases step with
  | start other step =>
      by_cases same : number = other
      · subst same
        cases step <;> simp_all [Start.unguarded]
        -- `publish` ends in one of two places, neither inside.
        rename_i ok _
        cases ok <;> simp_all
      · rw [step.others same] at here
        exact .inl here
  | kill caller step => rw [step.frame.1] at here; exact .inl here
  | monitor step => rw [step.frame.1] at here; exact .inl here
  | hangup step => rw [step.frame] at here; exact .inl here
  | outside step => rw [step.frame] at here; exact .inl here
  | client step => rw [step.frame] at here; exact .inl here

theorem Start.inside_of_unguarded {start : Start} (here : start.unguarded = true) :
    start.inside = true := by
  cases start <;> first | rfl | cases here

theorem Step.fresh (step : Step config s next) (fresh : next.vm = .notStarted)
    (free : next.locked = none) : s.locked = none := by
  cases step with
  | start number step =>
      have move := step.move
      cases move <;> simp_all
  | kill caller step =>
      obtain ⟨_, same | ⟨unlocked, _⟩, _⟩ := step.frame
      · exact same ▸ free
      · exact unlocked
  | monitor step =>
      obtain ⟨_, locked, _⟩ := step.frame
      exact locked ▸ free
  | hangup step => rw [step.frame] at free; exact free
  | outside step => rw [step.frame] at free; exact free
  | client step => rw [step.frame] at free; exact free

/-- Only a hangup monitor that has timed out calls `kill`. -/
theorem Step.called (step : Step config s next) (called : next.kill .hangup ≠ .idle) :
    s.kill .hangup ≠ .idle ∨ s.hangup = .killing := by
  cases step with
  | start number step => rw [step.frame.1] at called; exact .inl called
  | kill caller step =>
      by_cases same : Caller.hangup = caller
      · subst same
        cases step <;> simp_all
      · rw [step.others same] at called
        exact .inl called
  | monitor step =>
      obtain ⟨_, _, _, kill, _⟩ := step.frame
      rw [kill] at called
      exact .inl called
  | hangup step => rw [step.frame] at called; exact .inl called
  | outside step => rw [step.frame] at called; exact .inl called
  | client step => rw [step.frame] at called; exact .inl called

theorem VmMove.fresh {before after : VmState} (move : VmMove before after)
    (fresh : after = .notStarted) : before = .notStarted := by
  cases move <;> first | exact fresh | cases fresh

/-- No hangup monitor is there before `start` makes one. -/
theorem Watched.absent (watched : Watched s) {number : Nat}
    (here : (s.start number).unguarded = true ∨ s.vm = .notStarted ∧ s.locked = none) :
    s.hangup = .absent :=
  here.elim (watched.unguarded number) fun fresh => watched.fresh fresh.1 fresh.2

theorem Watched.step (watched : Watched s) (booted : Booted s) (step : Step config s next)
    (notifies : NotifiesInTime s next) : Watched next := by
  have vm := booted.vmMove step
  constructor
  case unguarded =>
      intro number here
      have absent := watched.absent (step.unguarded here)
      cases step.payload with
      | still _ hangup => exact hangup.trans absent
      | watch _ other guards after _ =>
          -- The call that makes the monitor is the only one inside.
          have inside := Start.inside_of_unguarded guards
          rcases step.unguarded here with before | ⟨_, free⟩
          · rw [booted.single inside (Start.inside_of_unguarded before), after] at here
            cases here
          · rw [booted.holder other inside] at free
            cases free
      | turn _ present _ _ => exact absurd absent present
      | notify _ _ _ hangup => exact hangup.trans absent
      | hang overdue _ _ => rw [absent] at overdue; cases overdue
  case fresh =>
      intro fresh free
      have before := step.fresh fresh free
      have absent := watched.fresh (vm.fresh fresh) before
      cases step.payload with
      | still _ hangup => exact hangup.trans absent
      | watch _ other guards _ _ =>
          rw [booted.holder other (Start.inside_of_unguarded guards)] at before
          cases before
      | turn _ present _ _ => exact absurd absent present
      | notify _ _ _ hangup => exact hangup.trans absent
      | hang overdue _ _ => rw [absent] at overdue; cases overdue
  case overdue =>
      intro late
      cases step.payload with
      | still payload hangup => rw [payload]; exact watched.overdue (hangup ▸ late)
      | watch _ _ _ _ hangup => rw [hangup] at late; rcases late with late | late <;> cases late
      | turn payload _ timely _ =>
          rw [payload]
          exact (timely late).elim id fun timedOut => watched.overdue (.inl timedOut)
      | notify new guest payload hangup =>
          rw [hangup] at late
          have starting := watched.overdue late
          have quiet := notifies late starting
          have other : next.payload ≠ .hangup := by
            rw [payload, Ne, PayloadState.update_guest guest, starting]
            nofun
          revert quiet other
          cases next.payload <;> simp [PayloadState.begun]
      | hang _ _ hangup => rw [hangup] at late; rcases late with late | late <;> cases late
  case killing =>
      intro killing
      cases step.payload with
      | still payload hangup => rw [payload]; exact watched.killing (hangup ▸ killing)
      | watch _ _ _ _ hangup => rw [hangup] at killing; cases killing
      | turn _ _ _ unkilled => exact absurd killing unkilled.2
      | notify new guest payload hangup =>
          rw [payload, PayloadState.update_guest guest]
          exact watched.killing (hangup ▸ killing)
      | hang _ payload _ => exact payload
  case called =>
      intro called
      have killing : s.hangup = .killing := (step.called called).elim watched.called id
      cases step.payload with
      | still _ hangup => exact hangup.trans killing
      | watch _ _ guards _ _ => rw [watched.absent (.inl guards)] at killing; cases killing
      | turn _ _ _ unkilled => exact absurd killing unkilled.1
      | notify _ _ _ hangup => exact hangup.trans killing
      | hang overdue _ _ => rw [overdue] at killing; cases killing

/-- `Hangup` comes from `Starting` only. -/
theorem Watched.hangs (watched : Watched s) (step : Step config s next)
    (hangup : next.payload = .hangup) : s.payload = .starting ∨ s.payload = .hangup := by
  cases step.payload with
  | still payload _ => exact .inr (payload ▸ hangup)
  | watch payload _ _ _ _ => exact .inr (payload ▸ hangup)
  | turn payload _ _ _ => exact .inr (payload ▸ hangup)
  | notify new guest payload _ =>
      rw [payload, PayloadState.update_guest guest] at hangup
      exact .inr hangup
  | hang overdue _ _ => exact .inl (watched.overdue (.inr overdue))

/-- A payload that has begun is not stopped by the hangup monitor. -/
theorem Watched.spares (watched : Watched s) (begun : s.payload.begun = true) :
    s.hangup ≠ .killing ∧ s.kill .hangup = .idle := by
  have other : s.hangup ≠ .killing := by
    intro killing
    rw [watched.killing killing] at begun
    cases begun
  refine ⟨other, ?_⟩
  by_contra called
  exact other (watched.called called)

structure Answers (s : State) : Prop where
  bound : ∀ answer ∈ s.reports, answer.rank ≤ s.answered
  ordered : s.reports.Pairwise fun later earlier => earlier.rank ≤ later.rank

theorem answers_start : Answers {} where
  bound := nofun
  ordered := .nil

theorem answered_le (move : VmMove s.vm next.vm) (payload : s.payload.rank ≤ next.payload.rank) :
    s.answered ≤ next.answered := by
  unfold State.answered
  generalize before : s.vm = vm at move
  generalize after : next.vm = vm' at move
  cases move <;> (try cases vm) <;> simp
  all_goals omega

/-- Aside from the time between a hangup and its stop, the answer is the bound itself. -/
theorem report_rank (aside : ¬(s.vm = .running ∧ s.payload = .hangup)) :
    s.report.rank = s.answered := by
  unfold State.report State.answered
  cases vm : s.vm <;> cases payload : s.payload <;>
    simp_all [Reported.rank, PayloadState.rank]

theorem Step.reports (step : Step config s next) : next.reports = s.reports ∨
    next.reports = s.report :: s.reports ∧ next.vm = s.vm ∧ next.payload = s.payload := by
  cases step with
  | start number step => cases step <;> exact .inl rfl
  | kill caller step =>
      obtain ⟨_, _, _, _, _, _, _, _, _, _, _, _, _, _, _, _, _, _, reports, _⟩ := step.frame
      exact .inl reports
  | monitor step => cases step <;> exact .inl rfl
  | hangup step => rw [step.frame]; exact .inl rfl
  | outside step => rw [step.frame]; exact .inl rfl
  | client step =>
      cases step with
      | getState _ => exact .inr ⟨rfl, rfl, rfl⟩
      | _ => exact .inl rfl

theorem Answers.step (answers : Answers s) (booted : Booted s) (step : Step config s next)
    (aside : AsksAside s next) : Answers next := by
  have grows := answered_le (booted.vmMove step) step.payload_le
  rcases step.reports with same | ⟨asked, _⟩
  · constructor
    case bound => rw [same]; exact fun answer held => Nat.le_trans (answers.bound answer held) grows
    case ordered => rw [same]; exact answers.ordered
  · have elsewhere : ¬(s.vm = .running ∧ s.payload = .hangup) := by
      rintro ⟨running, hangup⟩
      have unasked := aside running hangup
      rw [asked] at unasked
      simp at unasked
    have rank := report_rank elsewhere
    constructor
    case bound =>
        rw [asked]
        intro answer held
        rcases List.mem_cons.1 held with new | old
        · rw [new, rank]; exact grows
        · exact Nat.le_trans (answers.bound answer old) grows
    case ordered =>
        rw [asked]
        refine List.pairwise_cons.2 ⟨?_, answers.ordered⟩
        exact fun answer held => rank.symm ▸ answers.bound answer held

/-- In every run in which no notification comes between the hangup monitor's timeout and
its update, and `getState` is not asked between a hangup and its stop: the payload state
goes forward and to `Hangup` from `Starting` only, a payload that has begun is not
stopped by the hangup monitor, and the answers of `getState` never go back. -/
theorem payload_forward_and_answers_ordered (config : Config) (s : State)
    (reach : Machine.Reach (Machine.Under (Step config)
      fun s next => NotifiesInTime s next ∧ AsksAside s next) {} s) :
    (∀ next, Step config s next → s.payload.rank ≤ next.payload.rank ∧
      (next.payload = .hangup → s.payload = .starting ∨ s.payload = .hangup)) ∧
    (s.payload.begun = true → s.hangup ≠ .killing ∧ s.kill .hangup = .idle) ∧
    s.reports.Pairwise (fun later earlier => earlier.rank ≤ later.rank) := by
  have all : Booted s ∧ Watched s ∧ Answers s := by
    induction reach with
    | refl => exact ⟨booted_start, watched_start, answers_start⟩
    | tail _ move held =>
        obtain ⟨booted, watched, answers⟩ := held
        obtain ⟨step, notifies, aside⟩ := move
        exact ⟨booted.step step, watched.step booted step notifies, answers.step booted step aside⟩
  obtain ⟨_, watched, answers⟩ := all
  exact ⟨fun next step => ⟨step.payload_le, watched.hangs step⟩, watched.spares, answers.ordered⟩

end Payload

/-- A guest that hangs is stopped by the hangup monitor and asked for its state around it. -/
theorem hung_guest_answers_in_order : ∃ s, Machine.Reach (Machine.Under
    (Step ⟨.windows, false, false, true⟩) fun s next => NotifiesInTime s next ∧ AsksAside s next) {} s ∧
    s.kill .hangup = .entered true ∧ s.reports = [.finished, .starting] ∧
    s.reports.Pairwise (fun later earlier => earlier.rank ≤ later.rank) := by
  have run : ∃ s, Machine.Reach (Machine.Under (Step ⟨.windows, false, false, true⟩)
      fun s next => NotifiesInTime s next ∧ AsksAside s next) {} s ∧
      s.kill .hangup = .entered true ∧ s.reports = [.finished, .starting] :=
    -- The payload never begins, and the answers are asked for aside from the hangup.
    ⟨_, .head ⟨.start 0 (.retain rfl rfl rfl rfl), fun _ _ => rfl, fun _ _ => rfl⟩ <|
      .head ⟨.start 0 (.serve rfl), fun _ _ => rfl, fun _ _ => rfl⟩ <|
      .head ⟨.start 0 (.enter rfl rfl rfl), fun _ _ => rfl, fun _ _ => rfl⟩ <|
      .head ⟨.start 0 (.spawn rfl), fun _ _ => rfl, fun _ _ => rfl⟩ <|
      .head ⟨.start 0 (.bindPeer rfl nofun), fun _ _ => rfl, fun _ _ => rfl⟩ <|
      .head ⟨.start 0 (.monitor rfl), fun _ _ => rfl, fun _ _ => rfl⟩ <|
      .head ⟨.start 0 (.guard rfl), fun _ _ => rfl, fun _ _ => rfl⟩ <|
      .head ⟨.start 0 (.publish rfl), fun _ _ => rfl, fun _ _ => rfl⟩ <|
      .head ⟨.client (.getState rfl), fun _ _ => rfl, fun _ => nofun⟩ <|
      .head ⟨.hangup (.timeout rfl rfl), fun _ _ => rfl, fun _ _ => rfl⟩ <|
      .head ⟨.hangup (.alive rfl rfl), fun _ _ => rfl, fun _ _ => rfl⟩ <|
      .head ⟨.hangup (.update rfl), fun _ _ => rfl, fun _ _ => rfl⟩ <|
      .head ⟨.kill .hangup (.first rfl (fun _ => rfl) rfl rfl), fun _ _ => rfl, fun _ _ => rfl⟩ <|
      .head ⟨.client (.getState rfl), fun _ _ => rfl, nofun⟩ .refl, rfl, rfl⟩
  obtain ⟨s, reach, killed, reports⟩ := run
  obtain ⟨_, _, ordered⟩ := payload_forward_and_answers_ordered _ s reach
  exact ⟨s, reach, killed, reports, ordered⟩

/-- A payload that becomes ready between the timeout and the update is taken for hung, and
the answers around the stop that follows go from `DEAD` back to `FINISHED`. -/
theorem ready_payload_hangs_and_answers_go_back :
    (∃ s next, Reachable ⟨.windows, false, false, true⟩ s ∧
      Step ⟨.windows, false, false, true⟩ s next ∧ s.payload = .ready ∧ next.payload = .hangup) ∧
    ∃ s, Reachable ⟨.windows, false, false, true⟩ s ∧ s.reports = [.finished, .dead] := by
  constructor
  · exact ⟨_, _, .head (.start 0 (.retain rfl rfl rfl rfl)) <|
      .head (.start 0 (.serve rfl)) <|
      .head (.start 0 (.enter rfl rfl rfl)) <|
      .head (.start 0 (.spawn rfl)) <|
      .head (.start 0 (.bindPeer rfl nofun)) <|
      .head (.start 0 (.monitor rfl)) <|
      .head (.start 0 (.guard rfl)) <|
      .head (.start 0 (.publish rfl)) <|
      .head (.hangup (.timeout rfl rfl)) <|
      .head (.hangup (.alive rfl rfl)) <|
      .head (.outside (.notify .ready nofun)) .refl,
      .hangup (.update rfl), rfl, rfl⟩
  · exact ⟨_, .head (.start 0 (.retain rfl rfl rfl rfl)) <|
      .head (.start 0 (.serve rfl)) <|
      .head (.start 0 (.enter rfl rfl rfl)) <|
      .head (.start 0 (.spawn rfl)) <|
      .head (.start 0 (.bindPeer rfl nofun)) <|
      .head (.start 0 (.monitor rfl)) <|
      .head (.start 0 (.guard rfl)) <|
      .head (.start 0 (.publish rfl)) <|
      .head (.hangup (.timeout rfl rfl)) <|
      .head (.hangup (.alive rfl rfl)) <|
      .head (.hangup (.update rfl)) <|
      .head (.client (.getState rfl)) <|
      .head (.kill .hangup (.first rfl (fun _ => rfl) rfl rfl)) <|
      .head (.client (.getState rfl)) .refl, rfl⟩

end Bscp.Virtmgr
