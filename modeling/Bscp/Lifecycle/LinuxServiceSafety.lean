import Bscp.Lifecycle.LinuxService

/-!
Which signals and closes a Linux owner can make, whatever its processes do in
between. Most of its steps are quiet: they let processes go on and only note
that one is gone or has exited. Between two of the steps that are not quiet, a
verified identity check says that the recorded generation was still running at
some moment, so a handle taken before that moment and still in use refers to it.
-/

namespace Bscp.LinuxService

open Script Session Processes

def Event.calm : Event → Bool
  | .gone _ | .exitReported _ => true
  | _ => false

abbrev State.self (state : State) : Owner := state.data.self

abbrev State.processes (state : State) : Table Info := state.data.kernel.processes

abbrev State.descriptors (state : State) : Dict Fd Target := state.data.kernel.descriptors

structure SameOwner (old new : Owner) : Prop where
  owned : new.owned = old.owned
  serviceFds : new.serviceFds = old.serviceFds
  attempts : new.serviceTermAttempts = old.serviceTermAttempts
  closeUnknown : new.serviceCloseUnknown = old.serviceCloseUnknown

structure Quiet (old new : State) : Prop where
  self : SameOwner old.self new.self
  descriptors : new.descriptors = old.descriptors
  later : Later old.processes new.processes
  history : ∃ newer, new.history = newer ++ old.history ∧ ∀ event ∈ newer, event.calm = true

theorem Quiet.refl (state : State) : Quiet state state :=
  ⟨⟨rfl, rfl, rfl, rfl⟩, rfl, Later.refl _, [], rfl, nofun⟩

theorem Quiet.trans {old middle new : State} (first : Quiet old middle)
    (second : Quiet middle new) : Quiet old new := by
  obtain ⟨newer, grown, calm⟩ := first.history
  obtain ⟨newer', grown', calm'⟩ := second.history
  refine ⟨⟨second.self.owned.trans first.self.owned, second.self.serviceFds.trans first.self.serviceFds,
    second.self.attempts.trans first.self.attempts,
    second.self.closeUnknown.trans first.self.closeUnknown⟩,
    second.descriptors.trans first.descriptors, first.later.trans second.later,
    newer' ++ newer, by rw [grown', grown, List.append_assoc], ?_⟩
  intro event member
  rcases List.mem_append.mp member with recent | older
  · exact calm' event recent
  · exact calm event older

instance : IsPreorder State Quiet where
  refl := Quiet.refl
  trans _ _ _ := Quiet.trans

section QuietSteps

variable {platform : Platform}

theorem elapse_quiet : Within Quiet (elapse platform) := fun _ =>
  ⟨⟨rfl, rfl, rfl, rfl⟩, rfl, later_run _, [], rfl, nofun⟩

theorem consult_quiet {α : Type} (tape : Tape Fault α) :
    Within Quiet (consult tape : Run α) := by
  intro state
  unfold consult
  cases tape state.turn <;>
    exact ⟨⟨rfl, rfl, rfl, rfl⟩, rfl, Later.refl _, [], rfl, nofun⟩

theorem sense_quiet {α : Type} (tape : Nat → α) : Within Quiet (sense tape : Run α) := fun _ =>
  ⟨⟨rfl, rfl, rfl, rfl⟩, rfl, Later.refl _, [], rfl, nofun⟩

theorem self_quiet : Within Quiet self := fun state => Quiet.refl state

theorem kernel_quiet : Within Quiet kernel := fun state => Quiet.refl state

theorem require_quiet (ok : Bool) (text : String) : Within Quiet (require ok text : Run Unit) := by
  cases ok with
  | true => exact Within.ret ()
  | false => exact Within.raise _

theorem setSelf_quiet {change : Owner → Owner} (same : ∀ owner, SameOwner owner (change owner)) :
    Within Quiet (setSelf change) := fun state =>
  ⟨same state.self, rfl, Later.refl _, [], rfl, nofun⟩

theorem evidence_quiet (evidence : Option Evidence) :
    Within Quiet (setSelf fun self => { self with evidence }) :=
  setSelf_quiet fun _ => ⟨rfl, rfl, rfl, rfl⟩

theorem mark_quiet {event : Event} (calm : event.calm = true) :
    Within Quiet (mark event : Run Unit) := fun _ =>
  ⟨⟨rfl, rfl, rfl, rfl⟩, rfl, Later.refl _, [event], rfl, by simpa using calm⟩

theorem look_quiet {α : Type} (answer : Table Info → α) : Within Quiet (look platform answer) :=
  elapse_quiet.andThen fun _ => (consult_quiet _).andThen fun _ =>
    kernel_quiet.andThen fun _ => Within.ret _

theorem linuxAbsence_quiet (pid : Pid) : Within Quiet (linuxAbsence platform pid) := by
  refine (look_quiet _).andThen fun present => ?_
  cases present with
  | true => exact Within.raise _
  | false =>
      exact Within.andThen (consult_quiet _) fun _ => Within.andThen (evidence_quiet _) fun _ =>
        Within.andThen (mark_quiet rfl) fun _ => Within.ret _

theorem linuxRecheck_quiet (pid : Pid) (row : Row) :
    Within Quiet (linuxRecheck platform pid row) := by
  refine (look_quiet _).andThen fun after => ?_
  cases after with
  | none => exact linuxAbsence_quiet pid
  | some after =>
      exact Within.andThen (require_quiet _ _) fun _ => Within.andThen (evidence_quiet _) fun _ =>
        Within.ret _

theorem linuxConfirm_quiet (pid : Pid) (row : Row) (first : Stat) (exe cmd : Text) :
    Within Quiet (linuxConfirm platform pid row first exe cmd) := by
  refine (look_quiet _).andThen fun after => ?_
  cases after with
  | none => exact linuxAbsence_quiet pid
  | some after =>
      exact Within.andThen (require_quiet _ _) fun _ => Within.andThen (require_quiet _ _) fun _ =>
        Within.andThen (evidence_quiet _) fun _ => Within.ret _

theorem linuxLive_quiet (pid : Pid) (row : Row) : Within Quiet (linuxLive platform pid row) := by
  unfold linuxLive
  refine Within.andThen (evidence_quiet _) fun _ => Within.andThen (consult_quiet _) fun _ =>
    Within.andThen (look_quiet _) fun first => ?_
  cases first with
  | none => exact linuxAbsence_quiet pid
  | some first =>
      refine (require_quiet _ _).andThen fun _ => (look_quiet _).andThen fun exe => ?_
      cases exe with
      | none => exact linuxRecheck_quiet pid row
      | some exe =>
          refine (look_quiet _).andThen fun cmd => ?_
          cases cmd with
          | none => exact linuxRecheck_quiet pid row
          | some cmd => exact linuxConfirm_quiet pid row first exe cmd

theorem anyCrosvmLive_quiet (members : Dict Pid Member) :
    Within Quiet (anyCrosvmLive platform members) := by
  induction members with
  | nil => exact Within.ret _
  | cons entry rest next =>
      obtain ⟨pid, member⟩ := entry
      unfold anyCrosvmLive
      split
      · refine (linuxLive_quiet pid member.row).andThen fun alive => ?_
        cases alive with
        | true => exact Within.ret _
        | false => exact next
      · exact next

theorem selectReadable_quiet (fd : Fd) : Within Quiet (selectReadable platform fd) := by
  refine elapse_quiet.andThen fun _ => (consult_quiet _).andThen fun _ =>
    kernel_quiet.andThen fun kernel => ?_
  split
  · exact Within.raise _
  · exact Within.ret _
  · exact (mark_quiet rfl).andThen fun _ => Within.ret _

theorem setDeadline_quiet : Within Quiet (setDeadline platform) :=
  self_quiet.andThen fun _ => Within.given <| (sense_quiet _).andThen fun _ =>
    setSelf_quiet fun _ => ⟨rfl, rfl, rfl, rfl⟩

theorem verifiedLive_quiet (pid : Pid) (row : Row) :
    Within Quiet (verifiedLive platform pid row) :=
  (linuxLive_quiet pid row).andThen fun _ => self_quiet.andThen fun _ => Within.ret _

end QuietSteps

def Seen (pid : Pid) (state : State) : Prop := .gone pid ∈ since Event.begins state.history

def Ran (old new : State) (pid : Pid) (start : Nat) : Prop :=
  ∃ table, Later old.processes table ∧ Later table new.processes ∧ table.running pid start = true

def Met (old new : State) (pid : Pid) (start : Nat) : Prop :=
  ∃ table, Later old.processes table ∧ Later table new.processes ∧ start ≤ table.last pid ∧
    ∃ process, table.entry pid = some process ∧ process.exited = false

theorem since_append {marks : Event → Bool} {newer history : List Event}
    (plain : ∀ event ∈ newer, marks event = false) :
    since marks (newer ++ history) = newer ++ since marks history :=
  List.takeWhile_append_of_pos fun event member => by simp [plain event member]

theorem since_cons {marks : Event → Bool} {event : Event} {history : List Event}
    (plain : marks event = false) : since marks (event :: history) = event :: since marks history :=
  List.takeWhile_cons_of_pos (by simp [plain])

theorem Event.calm_begins {event : Event} (calm : event.calm = true) : event.begins = false := by
  cases event <;> first | rfl | cases calm

theorem Event.calm_opens {event : Event} (calm : event.calm = true) (fd : Fd) :
    event.opens fd = false := by
  cases event <;> first | rfl | cases calm

theorem Seen.quiet {pid : Pid} {old new : State} (seen : Seen pid old) (quiet : Quiet old new) :
    Seen pid new := by
  obtain ⟨newer, grown, calm⟩ := quiet.history
  rw [Seen, grown, since_append fun event member => Event.calm_begins (calm event member)]
  exact List.mem_append_right _ seen

theorem Ran.quiet {first old new : State} {pid : Pid} {start : Nat} (ran : Ran first old pid start)
    (quiet : Quiet old new) : Ran first new pid start := by
  obtain ⟨table, before, after, running⟩ := ran
  exact ⟨table, before, after.trans quiet.later, running⟩

theorem Met.quiet {first old new : State} {pid : Pid} {start : Nat} (met : Met first old pid start)
    (quiet : Quiet old new) : Met first new pid start := by
  obtain ⟨table, before, after, known, process⟩ := met
  exact ⟨table, before, after.trans quiet.later, known, process⟩

section Live

variable {platform : Platform} {old : State} {pid : Pid} {row : Row}

theorem look_spec {α : Type} {answer : Table Info → α} {p : State → Prop}
    (follows : ∀ state later, p state → Quiet state later → p later) :
    Triple p p (look platform answer) (fun value state => p state ∧ value = answer state.processes)
      (fun _ => p) := by
  unfold look
  refine Triple.andThen (elapse_quiet.triple follows) fun _ =>
    Triple.andThen ((consult_quiet _).triple follows) fun _ => ?_
  exact fun state holds => ⟨holds, rfl⟩

theorem linuxAbsence_spec : Triple (Quiet old) (Quiet old) (linuxAbsence platform pid)
    (fun alive state => Quiet old state ∧ alive = false ∧ Seen pid state) (fun _ => Quiet old) := by
  have follows : ∀ state later, Quiet old state → Quiet state later → Quiet old later :=
    fun _ _ => Quiet.trans
  unfold linuxAbsence
  refine Triple.andThen ((look_quiet _).triple follows) fun present => ?_
  cases present with
  | true => exact Triple.raise fun _ holds => holds
  | false =>
      refine Triple.andThen ((consult_quiet _).triple follows) fun _ =>
        Triple.andThen ((evidence_quiet _).triple follows) fun _ => ?_
      refine Triple.andThen (m := fun _ state => Quiet old state ∧ Seen pid state)
        (Triple.mark fun state holds => ?_) fun _ => Triple.ret fun _ holds => ⟨holds.1, rfl, holds.2⟩
      exact ⟨holds.trans (mark_quiet rfl state), List.mem_cons_self⟩

/-- What `linux_live` says: gone, or still there, and with the evidence LIVE the
recorded generation ran in the meantime. -/
def Told (old : State) (pid : Pid) (start : Nat) (alive : Bool) (state : State) : Prop :=
  Quiet old state ∧ (alive = false → Seen pid state) ∧
    (alive = true → state.self.evidence = some .live → Ran old state pid start)

theorem linuxAbsence_told {start : Nat} : Triple (Quiet old) (Quiet old)
    (linuxAbsence platform pid) (Told old pid start) (fun _ => Quiet old) := by
  refine linuxAbsence_spec.consequence (fun _ holds => holds) ?_ fun _ _ holds => holds
  rintro alive state ⟨quiet, rfl, seen⟩
  exact ⟨quiet, fun _ => seen, nofun⟩

theorem linuxRecheck_spec : Triple (Quiet old) (Quiet old) (linuxRecheck platform pid row)
    (Told old pid row.start) (fun _ => Quiet old) := by
  have follows : ∀ state later, Quiet old state → Quiet state later → Quiet old later :=
    fun _ _ => Quiet.trans
  unfold linuxRecheck
  refine Triple.andThen ((look_quiet _).triple follows) fun after => ?_
  cases after with
  | none => exact linuxAbsence_told
  | some after =>
      refine Triple.andThen ((require_quiet _ _).triple follows) fun _ => fun state holds => ?_
      exact ⟨holds.trans (evidence_quiet _ state), nofun, nofun⟩

theorem Stat.start_of_agrees {stat : Stat} (agrees : stat.agrees row = true) :
    stat.start = row.start := by
  simp only [Stat.agrees, Bool.and_eq_true, decide_eq_true_eq] at agrees
  exact agrees.1

theorem Met.ran {state : State} (met : Met old state pid row.start) {process : Process Info}
    (present : state.processes.entry pid = some process) (same : process.start = row.start) :
    Ran old state pid row.start := by
  obtain ⟨table, before, after, known, other, there, active⟩ := met
  refine ⟨table, before, after, running_iff.mpr ⟨other, there, ?_, active⟩⟩
  obtain ⟨earlier, here, named, _⟩ := after.back pid process present (by rw [same]; exact known)
  rw [there, Option.some.injEq] at here
  rw [here, named, same]

theorem linuxConfirm_spec {first : Stat} {exe cmd : Text} :
    Triple (Quiet old) (fun state => Quiet old state ∧ Met old state pid row.start)
      (linuxConfirm platform pid row first exe cmd) (Told old pid row.start) (fun _ => Quiet old) := by
  have follows : ∀ state later, Quiet old state ∧ Met old state pid row.start → Quiet state later →
      Quiet old later ∧ Met old later pid row.start :=
    fun _ _ known quiet => ⟨known.1.trans quiet, known.2.quiet quiet⟩
  unfold linuxConfirm linuxStat
  refine Triple.andThen (((look_spec follows).loosen fun _ holds => holds.1).consequence
    (fun _ holds => holds) (fun _ _ holds => holds) fun _ _ holds => holds.1) fun after => ?_
  cases after with
  | none => exact linuxAbsence_told.before fun _ holds => holds.1.1
  | some after =>
      refine Triple.requiring (fun _ _ holds => holds.1.1) fun agrees =>
        Triple.requiring (fun _ _ holds => holds.1.1) fun _ => fun state holds => ?_
      obtain ⟨⟨quiet, met⟩, read⟩ := holds
      obtain ⟨process, present, named⟩ := Option.map_eq_some_iff.mp read.symm
      have same : process.start = row.start := by
        rw [← Stat.start_of_agrees agrees, ← named]
      exact ⟨quiet.trans (evidence_quiet _ state), nofun, fun _ _ =>
        (met.ran present same).quiet (evidence_quiet _ state)⟩

theorem linuxLive_spec : Triple (Quiet old) (Quiet old) (linuxLive platform pid row)
    (Told old pid row.start) (fun _ => Quiet old) := by
  have follows : ∀ state later, Quiet old state → Quiet state later → Quiet old later :=
    fun _ _ => Quiet.trans
  unfold linuxLive linuxStat readExe readCmdline
  refine Triple.andThen ((evidence_quiet _).triple follows) fun _ =>
    Triple.andThen ((consult_quiet _).triple follows) fun _ =>
    Triple.andThen (look_spec follows) fun first => ?_
  cases first with
  | none => exact linuxAbsence_told.before fun _ holds => holds.1
  | some first =>
      refine Triple.requiring (fun _ _ holds => holds.1) fun agrees => ?_
      -- From here on the number has had a generation as young as the recorded one.
      let known : State → Prop := fun state => Quiet old state ∧ row.start ≤ state.processes.last pid
      have follows' : ∀ state later, known state → Quiet state later → known later :=
        fun _ _ holds quiet => ⟨holds.1.trans quiet, Nat.le_trans holds.2 (quiet.later.last pid)⟩
      have young : ∀ state, Quiet old state ∧ some first = (state.processes.entry pid).map
          (fun process => ⟨process.info.ppid, process.info.sid, process.start⟩) → known state := by
        rintro state ⟨quiet, read⟩
        obtain ⟨process, present, named⟩ := Option.map_eq_some_iff.mp read.symm
        refine ⟨quiet, ?_⟩
        have newest := state.processes.newest pid process present
        have recorded := Stat.start_of_agrees agrees
        rw [← named] at recorded
        exact Nat.le_of_eq (recorded.symm.trans newest)
      refine Triple.before (Triple.andThen (((look_spec follows').loosen
        fun _ holds => holds.1).consequence (fun _ holds => holds) (fun _ _ holds => holds)
        fun _ _ holds => holds.1) fun exe => ?_) young
      cases exe with
      | none => exact linuxRecheck_spec.before fun _ holds => holds.1.1
      | some exe =>
          have met : ∀ state, known state ∧ some exe = (state.processes.entry pid).bind
              (fun process => if process.exited then none else some process.info.exe) →
              Quiet old state ∧ Met old state pid row.start := by
            rintro state ⟨⟨quiet, young⟩, read⟩
            obtain ⟨process, present, shown⟩ := Option.bind_eq_some_iff.mp read.symm
            refine ⟨quiet, state.processes, quiet.later, Later.refl _, young, process, present, ?_⟩
            cases gone : process.exited with
            | true => simp [gone] at shown
            | false => rfl
          have follows'' : ∀ state later, Quiet old state ∧ Met old state pid row.start →
              Quiet state later → Quiet old later ∧ Met old later pid row.start :=
            fun _ _ holds quiet => ⟨holds.1.trans quiet, holds.2.quiet quiet⟩
          refine Triple.before (Triple.andThen ((((look_quiet _).triple follows'').loosen
            fun _ holds => holds.1).consequence (fun _ holds => holds) (fun _ _ holds => holds)
            fun _ _ holds => holds.1) fun cmd => ?_) met
          cases cmd with
          | none => exact linuxRecheck_spec.before fun _ holds => holds.1
          | some cmd => exact linuxConfirm_spec

theorem anyCrosvmLive_spec (members : Dict Pid Member) :
    Triple (Quiet old) (Quiet old) (anyCrosvmLive platform members)
      (fun alive state => Quiet old state ∧ (alive = false → ∀ entry ∈ members,
        entry.2.kind = .crosvm → Seen entry.1 state)) (fun _ => Quiet old) := by
  induction members with
  | nil => exact Triple.ret fun _ holds => ⟨holds, nofun⟩
  | cons entry rest next =>
      obtain ⟨pid, member⟩ := entry
      unfold anyCrosvmLive
      refine Triple.ite (fun crosvm => ?_) fun other => ?_
      · refine Triple.andThen linuxLive_spec fun alive => ?_
        cases alive with
        | true => exact Triple.ret fun _ holds => ⟨holds.1, nofun⟩
        | false =>
            -- What was seen gone stays seen while the rest is looked at.
            have kept := ((@anyCrosvmLive_quiet platform rest).triple
              (p := fun state => Quiet old state ∧ Seen pid state)
              fun _ _ holds quiet => ⟨holds.1.trans quiet, holds.2.quiet quiet⟩)
            refine ((next.both kept).consequence ?_ ?_ fun _ _ holds => holds.1)
            · exact fun _ holds => ⟨holds.1, holds.1, holds.2.1 rfl⟩
            · rintro alive state ⟨⟨quiet, seen⟩, _, here⟩
              refine ⟨quiet, fun none => ?_⟩
              simp only [List.mem_cons, forall_eq_or_imp]
              exact ⟨fun _ => here, seen none⟩
      · refine next.consequence (fun _ holds => holds) ?_ fun _ _ holds => holds
        rintro alive state ⟨quiet, seen⟩
        refine ⟨quiet, fun none => ?_⟩
        simp only [List.mem_cons, forall_eq_or_imp]
        exact ⟨fun crosvm => absurd crosvm other, seen none⟩

end Live

def Current (fd : Fd) (history : List Event) : Prop :=
  (∃ target, .opened fd target ∈ history) ∧ .closed fd ∉ since (Event.opens fd) history

/-- The descriptor is open on a generation of the number that is not older than
the recorded one. -/
structure Valid (state : State) (pid : Pid) (fd : Fd) (start : Nat) : Prop where
  opens : ∃ target, state.descriptors.find fd = some target ∧ target.pid = pid ∧
    start ≤ target.start ∧ target.start ≤ state.processes.last pid
  current : Current fd state.history

/-- A kept handle is valid, or its close has failed and its process is over. -/
def Kept (state : State) (pid : Pid) (fd : Fd) : Prop :=
  ∃ member, state.self.owned.find pid = some member ∧
    (Valid state pid fd member.row.start ∨
      (state.self.serviceCloseUnknown = true ∧ state.processes.Over pid member.row.start))

structure Core (state : State) : Prop where
  lawful : Lawful permitted state.history
  attempted : ∀ pid owned reached, .signalled pid owned reached ∈ state.history →
    pid ∈ state.self.serviceTermAttempts
  distinct : state.self.serviceFds.keys.Nodup
  recorded : state.self.owned.keys.Nodup

structure Sound (state : State) : Prop extends Core state where
  handles : ∀ pid fd, (pid, fd) ∈ state.self.serviceFds → Kept state pid fd

def Clear (state : State) : Prop :=
  .cleanup ∈ state.history ∧ ∀ pid member, (pid, member) ∈ state.self.owned →
    member.kind = .crosvm → Seen pid state

theorem lawful_calm {newer history : List Event} (calm : ∀ event ∈ newer, event.calm = true)
    (lawful : Lawful permitted history) : Lawful permitted (newer ++ history) := by
  induction newer with
  | nil => exact lawful
  | cons event rest next =>
      refine ⟨?_, next fun other member => calm other (List.mem_cons_of_mem _ member)⟩
      have plain := calm event List.mem_cons_self
      cases event <;> trivial

theorem Current.calm {fd : Fd} {newer history : List Event} (current : Current fd history)
    (calm : ∀ event ∈ newer, event.calm = true) : Current fd (newer ++ history) := by
  obtain ⟨⟨target, opened⟩, unclosed⟩ := current
  refine ⟨⟨target, List.mem_append_right _ opened⟩, ?_⟩
  rw [since_append fun event member => Event.calm_opens (calm event member) fd, List.mem_append]
  rintro (recent | older)
  · exact absurd (calm _ recent) nofun
  · exact unclosed older

section Invariant

variable {old new : State}

theorem Valid.quiet {pid : Pid} {fd : Fd} {start : Nat} (valid : Valid old pid fd start)
    (quiet : Quiet old new) : Valid new pid fd start := by
  obtain ⟨⟨target, found, named, young, known⟩, current⟩ := valid
  obtain ⟨newer, grown, calm⟩ := quiet.history
  refine ⟨⟨target, by rw [quiet.descriptors]; exact found, named, young,
    Nat.le_trans known (quiet.later.last pid)⟩, ?_⟩
  rw [grown]
  exact current.calm calm

theorem Core.quiet (core : Core old) (quiet : Quiet old new) : Core new := by
  obtain ⟨newer, grown, calm⟩ := quiet.history
  refine ⟨?_, ?_, ?_, ?_⟩
  · rw [grown]
    exact lawful_calm calm core.lawful
  · intro pid owned reached member
    rw [grown, List.mem_append] at member
    rw [quiet.self.attempts]
    rcases member with recent | older
    · exact absurd (calm _ recent) nofun
    · exact core.attempted pid owned reached older
  · rw [quiet.self.serviceFds]
    exact core.distinct
  · rw [quiet.self.owned]
    exact core.recorded

theorem Kept.quiet {pid : Pid} {fd : Fd} (kept : Kept old pid fd) (quiet : Quiet old new) :
    Kept new pid fd := by
  obtain ⟨member, found, valid | ⟨unknown, ended⟩⟩ := kept
  · exact ⟨member, by rw [quiet.self.owned]; exact found, .inl (valid.quiet quiet)⟩
  · exact ⟨member, by rw [quiet.self.owned]; exact found,
      .inr ⟨by rw [quiet.self.closeUnknown]; exact unknown, quiet.later.ended ended⟩⟩

theorem Sound.quiet (sound : Sound old) (quiet : Quiet old new) : Sound new where
  toCore := sound.toCore.quiet quiet
  handles pid fd member := by
    rw [quiet.self.serviceFds] at member
    exact (sound.handles pid fd member).quiet quiet

theorem Clear.quiet (clear : Clear old) (quiet : Quiet old new) : Clear new := by
  obtain ⟨newer, grown, _⟩ := quiet.history
  refine ⟨by rw [grown]; exact List.mem_append_right _ clear.1, fun pid member listed crosvm => ?_⟩
  rw [quiet.self.owned] at listed
  exact (clear.2 pid member listed crosvm).quiet quiet

end Invariant

section Release

variable {platform : Platform} {pid : Pid} {fd : Fd}

def Reported (fd : Fd) (state : State) : Prop :=
  .exitReported fd ∈ since (Event.opens fd) state.history ∧
    ∃ target, state.descriptors.find fd = some target ∧
      state.processes.running target.pid target.start = false

theorem selectReadable_spec {p : State → Prop}
    (follows : ∀ state later, p state → Quiet state later → p later) :
    Triple p p (selectReadable platform fd)
      (fun exited state => p state ∧ (exited = true → Reported fd state)) (fun _ => p) := by
  unfold selectReadable
  refine Triple.andThen (elapse_quiet.triple follows) fun _ =>
    Triple.andThen ((consult_quiet _).triple follows) fun _ => fun state holds => ?_
  simp only [bind_eq, andThen, kernel]
  cases found : state.data.kernel.readable fd with
  | none => exact holds
  | some exited =>
      cases exited with
      | false =>
          refine ⟨holds, fun exit => ?_⟩
          cases exit
      | true =>
          obtain ⟨target, opened, ended⟩ := Option.map_eq_some_iff.mp found
          refine ⟨follows state _ holds (mark_quiet rfl state), fun _ => ⟨?_, target, opened, ?_⟩⟩
          · exact List.mem_cons_self
          · simpa using ended

/-- A handle that has reported the exit belongs to a generation that is over. -/
theorem Valid.ended {state : State} {start : Nat} (valid : Valid state pid fd start)
    (reported : Reported fd state) : state.processes.Over pid start := by
  obtain ⟨⟨target, found, rfl, young, known⟩, _⟩ := valid
  obtain ⟨_, target', found', gone⟩ := reported
  rw [found, Option.some.injEq] at found'
  subst found'
  rcases Nat.lt_or_ge start target.start with older | same
  · exact over_of_older (Nat.lt_of_lt_of_le older known)
  · obtain rfl : start = target.start := Nat.le_antisymm young same
    exact ⟨known, gone⟩

structure Closing (pid : Pid) (state : State) : Prop extends Core state where
  known : state.self.serviceCloseUnknown = false
  others : ∀ other fd, (other, fd) ∈ state.self.serviceFds → other ≠ pid → Kept state other fd
  ended : ∃ member, state.self.owned.find pid = some member ∧
    state.processes.Over pid member.row.start

theorem Valid.apart {state : State} {other : Pid} {fd' : Fd} {start start' : Nat}
    (mine : Valid state pid fd start) (theirs : Valid state other fd' start') (differ : other ≠ pid) :
    fd' ≠ fd := by
  rintro rfl
  obtain ⟨⟨target, found, named, _⟩, _⟩ := mine
  obtain ⟨⟨target', found', named', _⟩, _⟩ := theirs
  rw [found, Option.some.injEq] at found'
  exact differ (by rw [← named', ← found', named])

theorem Current.closed_other {history : List Event} (current : Current fd history) {fd' : Fd}
    (differ : fd ≠ fd') : Current fd (.closed fd' :: history) := by
  obtain ⟨⟨target, opened⟩, unclosed⟩ := current
  refine ⟨⟨target, List.mem_cons_of_mem _ opened⟩, ?_⟩
  rw [since_cons rfl, List.mem_cons]
  rintro (same | older)
  · exact differ (Event.closed.inj same)
  · exact unclosed older

theorem Kept.valid {state : State} (kept : Kept state pid fd)
    (known : state.self.serviceCloseUnknown = false) : ∃ member,
    state.self.owned.find pid = some member ∧ Valid state pid fd member.row.start := by
  obtain ⟨member, found, valid | ⟨unknown, _⟩⟩ := kept
  · exact ⟨member, found, valid⟩
  · rw [known] at unknown
    cases unknown

structure Closable (pid : Pid) (fd : Fd) (state : State) : Prop extends Sound state where
  known : state.self.serviceCloseUnknown = false
  valid : ∃ member, state.self.owned.find pid = some member ∧ Valid state pid fd member.row.start
  reported : Reported fd state

theorem Closable.quiet {old new : State} (ready : Closable pid fd old) (quiet : Quiet old new) :
    Closable pid fd new := by
  obtain ⟨member, found, valid⟩ := ready.valid
  obtain ⟨newer, grown, calm⟩ := quiet.history
  refine ⟨ready.toSound.quiet quiet, by rw [quiet.self.closeUnknown]; exact ready.known,
    ⟨member, by rw [quiet.self.owned]; exact found, valid.quiet quiet⟩, ?_, ?_⟩
  · rw [grown, since_append fun event member => Event.calm_opens (calm event member) fd]
    exact List.mem_append_right _ ready.reported.1
  · obtain ⟨target, opened, gone⟩ := ready.reported.2
    obtain ⟨⟨target', opened', rfl, _, known⟩, _⟩ := valid
    rw [opened, Option.some.injEq] at opened'
    subst opened'
    exact ⟨target, by rw [quiet.descriptors]; exact opened, (quiet.later.ended ⟨known, gone⟩).2⟩

/-- The state right after the close call. -/
theorem Closable.close {state : State} (ready : Closable pid fd state) :
    Closing pid { state with
      history := .closed fd :: state.history
      data := { state.data with kernel := { state.data.kernel with
        descriptors := state.descriptors.remove fd } } } := by
  obtain ⟨member, found, valid⟩ := ready.valid
  refine ⟨⟨⟨⟨valid.current.1, ready.reported.1, valid.current.2⟩, ready.lawful⟩, ?_, ready.distinct,
    ready.recorded⟩, ready.known, ?_, member, found, valid.ended ready.reported⟩
  · intro other owned reached event
    exact ready.attempted other owned reached (by simpa using event)
  · intro other fd' listed differ
    obtain ⟨member', found', theirs⟩ := (ready.handles other fd' listed).valid ready.known
    have apart := valid.apart theirs differ
    obtain ⟨⟨target, opened, rest⟩, current⟩ := theirs
    refine ⟨member', found', .inl ⟨⟨target, ?_, rest⟩, current.closed_other apart⟩⟩
    exact (Dict.find_remove_of_ne _ apart).trans opened

theorem Closing.quiet {old new : State} (closing : Closing pid old) (quiet : Quiet old new) :
    Closing pid new := by
  obtain ⟨member, found, ended⟩ := closing.ended
  refine ⟨closing.toCore.quiet quiet, by rw [quiet.self.closeUnknown]; exact closing.known, ?_,
    member, by rw [quiet.self.owned]; exact found, quiet.later.ended ended⟩
  intro other fd listed differ
  rw [quiet.self.serviceFds] at listed
  exact (closing.others other fd listed differ).quiet quiet

theorem turned_quiet (state : State) (turn : Nat) : Quiet state { state with turn } :=
  ⟨⟨rfl, rfl, rfl, rfl⟩, rfl, Later.refl _, [], rfl, nofun⟩

theorem osClose_spec {open_ : State → Prop} (owner : Owner) :
    Triple open_ (fun state => Closable pid fd state ∧ state.self = owner) (osClose platform fd)
      (fun _ state => Closing pid state ∧ state.self = owner)
      (fun _ state => Closing pid state ∧ state.self = owner) := by
  unfold osClose
  refine Triple.andThen (m := fun _ state => Closable pid fd state ∧ state.self = owner)
    (fun state holds => ⟨holds.1.quiet (elapse_quiet state), holds.2⟩) fun _ => ?_
  have ends : Triple open_ (fun state => Closing pid state ∧ state.self = owner)
      (consult platform.failure) (fun _ state => Closing pid state ∧ state.self = owner)
      (fun _ state => Closing pid state ∧ state.self = owner) :=
    Triple.consult (fun state turn holds => ⟨holds.1.quiet (turned_quiet state turn), holds.2⟩)
      fun _ _ holds => holds
  exact fun state holds => ends _ ⟨holds.1.close, holds.2⟩

/-- A failed close leaves the handle in the table, marked as unknown. -/
theorem Closing.unknown {state : State} (closing : Closing pid state) :
    Sound { state with data := { state.data with
      self := { state.self with serviceCloseUnknown := true } } } where
  toCore := ⟨closing.lawful, closing.attempted, closing.distinct, closing.recorded⟩
  handles other fd listed := by
    by_cases same : other = pid
    · subst same
      obtain ⟨member, found, ended⟩ := closing.ended
      exact ⟨member, found, .inr ⟨rfl, ended⟩⟩
    · obtain ⟨member, found, valid⟩ := (closing.others other fd listed same).valid closing.known
      exact ⟨member, found, .inl ⟨valid.opens, valid.current⟩⟩

theorem Closing.removed {state : State} (closing : Closing pid state) :
    Sound { state with data := { state.data with
      self := { state.self with serviceFds := state.self.serviceFds.remove pid } } } where
  toCore := ⟨closing.lawful, closing.attempted, Dict.nodup_keys_remove closing.distinct pid,
    closing.recorded⟩
  handles other fd listed := by
    obtain ⟨listed, differ⟩ := Dict.mem_remove.mp listed
    obtain ⟨member, found, valid⟩ := (closing.others other fd listed differ).valid closing.known
    exact ⟨member, found, .inl ⟨valid.opens, valid.current⟩⟩

structure Releasing (items : Dict Pid Fd) (state : State) : Prop extends Sound state where
  known : state.self.serviceCloseUnknown = false
  listed : ∀ entry ∈ items, entry ∈ state.self.serviceFds
  fresh : items.keys.Nodup

theorem Releasing.quiet {items : Dict Pid Fd} {old new : State} (releasing : Releasing items old)
    (quiet : Quiet old new) : Releasing items new where
  toSound := releasing.toSound.quiet quiet
  known := by rw [quiet.self.closeUnknown]; exact releasing.known
  listed entry member := by rw [quiet.self.serviceFds]; exact releasing.listed entry member
  fresh := releasing.fresh

theorem releaseEach_sound (items : Dict Pid Fd) :
    Triple Sound (Releasing items) (releaseEach platform items) (fun _ => Sound) (fun _ => Sound) := by
  induction items with
  | nil => exact Triple.ret fun _ holds => holds.toSound
  | cons entry rest next =>
      obtain ⟨pid, fd⟩ := entry
      unfold releaseEach
      refine Triple.andThen (((selectReadable_spec fun _ _ => Releasing.quiet).loosen
        fun _ holds => holds.toSound).consequence (fun _ holds => holds) (fun _ _ holds => holds)
        fun _ _ holds => holds.toSound) fun exited => ?_
      cases exited with
      | false => exact Triple.ret fun _ holds => holds.1.toSound
      | true =>
          apply Triple.start
          rintro start ⟨releasing, reported⟩
          have closable : Closable pid fd start :=
            ⟨releasing.toSound, releasing.known,
              (releasing.handles pid fd (releasing.listed _ List.mem_cons_self)).valid releasing.known,
              reported rfl⟩
          have distinct := List.nodup_cons.mp releasing.fresh
          let closed : State → Prop := fun state => Closing pid state ∧ state.self = start.self
          have closes : Triple Sound (fun state => state = start) (osClose platform fd)
              (fun _ => closed) (fun _ => closed) := by
            refine (osClose_spec start.self).before ?_
            rintro state rfl
            exact ⟨closable, rfl⟩
          refine Triple.andThen (m := fun _ => closed)
            (Triple.handle (c := fun _ => closed) closes fun error => ?_) fun _ => ?_
          · exact fun state holds => holds.1.unknown
          · refine Triple.andThen (m := fun _ => Releasing rest) (fun state holds => ?_) fun _ => next
            refine ⟨holds.1.removed, holds.1.known, fun entry member => ?_, distinct.2⟩
            have listed := releasing.listed entry (List.mem_cons_of_mem _ member)
            rw [← holds.2] at listed
            refine Dict.mem_remove.mpr ⟨listed, fun same => ?_⟩
            exact distinct.1 (List.mem_map.mpr ⟨entry, member, same⟩)

/-- Reading the owner fixes it for what follows. -/
theorem reading_self {α : Type} {open_ pre : State → Prop} {next : Owner → Run α}
    {post : α → State → Prop} {fault : Fault → State → Prop}
    (rest : ∀ owner, Triple open_ (fun state => pre state ∧ state.self = owner) (next owner) post
      fault) : Triple open_ pre (andThen self next) post fault :=
  fun state holds => rest state.self state ⟨holds, rfl⟩

theorem releaseServiceHandles_sound :
    Triple Sound Sound (releaseServiceHandles platform) (fun _ => Sound) (fun _ => Sound) := by
  unfold releaseServiceHandles
  refine reading_self fun owner => Triple.requiring (fun _ _ holds => holds.1) fun _ =>
    Triple.requiring (fun _ _ holds => holds.1) fun known => (releaseEach_sound _).before ?_
  rintro state ⟨sound, rfl⟩
  exact ⟨sound, by simpa using known, fun _ member => member, sound.distinct⟩

end Release

section Signal

variable {platform : Platform} {pid : Pid} {fd : Fd} {member : Member}

structure Charge (pid : Pid) (member : Member) (state : State) : Prop extends Sound state where
  clear : Clear state
  owns : state.self.owned.find pid = some member
  virtmgr : member.kind = .virtmgr

theorem Charge.quiet {old new : State} (charge : Charge pid member old) (quiet : Quiet old new) :
    Charge pid member new where
  toSound := charge.toSound.quiet quiet
  clear := charge.clear.quiet quiet
  owns := by rw [quiet.self.owned]; exact charge.owns
  virtmgr := charge.virtmgr

structure Armed (pid : Pid) (member : Member) (state : State) : Prop extends
    Charge pid member state where
  fits : ∀ fd, state.self.serviceFds.find pid = some fd → Valid state pid fd member.row.start
  known : member.row.start ≤ state.processes.last pid

theorem Armed.quiet {old new : State} (armed : Armed pid member old) (quiet : Quiet old new) :
    Armed pid member new where
  toCharge := armed.toCharge.quiet quiet
  fits fd found := by
    rw [quiet.self.serviceFds] at found
    exact (armed.fits fd found).quiet quiet
  known := Nat.le_trans armed.known (quiet.later.last pid)

/-- A handle whose close has failed belongs to a process that is over, so it is
not the one that has just been seen running. -/
theorem Charge.armed {old new : State} (charge : Charge pid member old) (quiet : Quiet old new)
    (ran : Ran old new pid member.row.start) : Armed pid member new where
  toCharge := charge.quiet quiet
  fits fd found := by
    rw [quiet.self.serviceFds] at found
    obtain ⟨member', owns, valid | ⟨_, ended⟩⟩ := charge.handles pid fd (Dict.find_mem found)
    · rw [charge.owns, Option.some.injEq] at owns
      subst owns
      exact valid.quiet quiet
    · rw [charge.owns, Option.some.injEq] at owns
      subst owns
      obtain ⟨table, before, _, running⟩ := ran
      rw [(before.ended ended).2] at running
      cases running
  known := by
    obtain ⟨table, _, after, running⟩ := ran
    rw [← last_of_running running]
    exact after.last pid

structure Held (pid : Pid) (fd : Fd) (member : Member) (state : State) : Prop extends
    Charge pid member state where
  valid : Valid state pid fd member.row.start

theorem Held.quiet {old new : State} (held : Held pid fd member old) (quiet : Quiet old new) :
    Held pid fd member new :=
  ⟨held.toCharge.quiet quiet, held.valid.quiet quiet⟩

theorem freeFd_fresh (descriptors : Dict Fd Target) (proposed : Fd) :
    descriptors.find (freeFd descriptors proposed) = none := by
  rw [Dict.find_none_iff]
  unfold freeFd
  split
  · intro listed
    have bound := List.le_max?_getD_of_mem (k := 0) listed
    omega
  · assumption

theorem Valid.opened_other {state : State} {start : Nat} (valid : Valid state pid fd start)
    {new : Fd} {target : Target} (fresh : state.descriptors.find new = none) (owner : Owner) :
    Valid { state with
      history := .opened new target :: state.history
      data := ⟨owner, { state.data.kernel with
        descriptors := state.descriptors.put new target }⟩ } pid fd start := by
  obtain ⟨⟨target', found, rest⟩, ⟨target'', opened⟩, unclosed⟩ := valid
  have differ : new ≠ fd := by
    rintro rfl
    rw [fresh] at found
    cases found
  refine ⟨⟨target', ?_, rest⟩, ⟨target'', List.mem_cons_of_mem _ opened⟩, ?_⟩
  · simpa [State.descriptors, differ] using found
  · rw [since_cons (by simpa [Event.opens] using differ), List.mem_cons]
    rintro (same | older)
    · cases same
    · exact unclosed older

/-- The state right after `pidfd_open` and the assignment of its result. -/
theorem Armed.opens {state : State} (armed : Armed pid member state)
    (absent : state.self.serviceFds.find pid = none) {process : Process Info}
    (present : state.processes.entry pid = some process) {new : Fd}
    (fresh : state.descriptors.find new = none) :
    Held pid new member { state with
      history := .opened new ⟨pid, process.start⟩ :: state.history
      data := ⟨{ state.self with serviceFds := state.self.serviceFds.put pid new },
        { state.data.kernel with
          descriptors := state.descriptors.put new ⟨pid, process.start⟩ }⟩ } := by
  have newest := state.processes.newest pid process present
  have valid : Valid { state with
      history := .opened new ⟨pid, process.start⟩ :: state.history
      data := ⟨{ state.self with serviceFds := state.self.serviceFds.put pid new },
        { state.data.kernel with
          descriptors := state.descriptors.put new ⟨pid, process.start⟩ }⟩ }
      pid new member.row.start := by
    refine ⟨⟨⟨pid, process.start⟩, by simp [State.descriptors], rfl, ?_, Nat.le_of_eq newest⟩,
      ⟨_, List.mem_cons_self⟩, ?_⟩
    · rw [newest]
      exact armed.known
    · simp [since, Event.opens]
  refine ⟨⟨⟨⟨⟨trivial, armed.lawful⟩, ?_, ?_, armed.recorded⟩, ?_⟩, ?_, armed.owns, armed.virtmgr⟩,
    valid⟩
  · intro other owned reached event
    exact armed.attempted other owned reached (by simpa using event)
  · exact Dict.nodup_keys_put new armed.distinct absent
  · intro other fd listed
    have absent' := (Dict.find_none_iff _ _).mp absent
    simp only [State.self, Dict.put_fresh new absent', List.mem_append, List.mem_singleton] at listed
    rcases listed with older | added
    · obtain ⟨member', owns, kept⟩ := armed.handles other fd older
      refine ⟨member', owns, kept.imp_left fun valid => valid.opened_other fresh _⟩
    · cases added
      exact ⟨member, armed.owns, .inl valid⟩
  · refine ⟨List.mem_cons_of_mem _ armed.clear.1, fun other member' listed crosvm => ?_⟩
    rw [Seen, since_cons rfl]
    exact List.mem_cons_of_mem _ (armed.clear.2 other member' listed crosvm)

/-- A quiet step from a state that is sound for a reason that stays. -/
theorem calm {α : Type} {script : Run α} (within : Within Quiet script) {p : State → Prop}
    (follows : ∀ state later, p state → Quiet state later → p later)
    (sound : ∀ state, p state → Sound state) :
    Triple Sound p script (fun _ => p) (fun _ => Sound) :=
  ((within.triple follows).loosen sound).consequence (fun _ holds => holds)
    (fun _ _ holds => holds) fun _ => sound

theorem handleFor_spec : Triple Sound (Armed pid member) (handleFor platform pid)
    (fun fd => Held pid fd member) (fun _ => Sound) := by
  unfold handleFor
  refine reading_self fun owner => ?_
  cases found : owner.serviceFds.find pid with
  | some fd =>
      refine Triple.ret ?_
      rintro state ⟨armed, rfl⟩
      exact ⟨armed.toCharge, armed.fits fd found⟩
  | none =>
      let ready : State → Prop := fun state =>
        Armed pid member state ∧ state.self.serviceFds.find pid = none
      have follows : ∀ state later, ready state → Quiet state later → ready later :=
        fun _ _ holds quiet => ⟨holds.1.quiet quiet, by rw [quiet.self.serviceFds]; exact holds.2⟩
      have sound : ∀ state, ready state → Sound state := fun _ holds => holds.1.toSound
      unfold pidfdOpen
      simp only [bind_eq, andThen_assoc]
      refine Triple.before (Triple.andThen (calm elapse_quiet follows sound) fun _ =>
        Triple.andThen (calm (consult_quiet _) follows sound) fun _ => fun state holds => ?_)
        (fun state holds => (⟨holds.1, by rw [holds.2]; exact found⟩ : ready state))
      have armed := holds.1.quiet (turned_quiet state (state.turn + 1))
      cases present : state.data.kernel.processes.entry pid with
      | none =>
          simp only [andThen, kernel, sense, present, raise]
          exact armed.toSound
      | some process =>
          simp only [andThen, kernel, sense, present]
          exact armed.opens holds.2 present (freeFd_fresh _ _)

/-- The signal that goes out now can only reach the recorded generation, and
none has gone out for this number before. -/
structure Aimed (pid : Pid) (fd : Fd) (member : Member) (state : State) : Prop extends
    Held pid fd member state where
  first : ∀ owned reached, .signalled pid owned reached ∉ state.history
  reaches : ∀ target, state.data.kernel.reaches fd = some target →
    target = ⟨pid, member.row.start⟩

theorem reaches_iff {kernel : Kernel} {target : Target} : kernel.reaches fd = some target ↔
    kernel.descriptors.find fd = some target ∧
      ∃ process, kernel.processes.entry target.pid = some process ∧ process.start = target.start := by
  unfold Kernel.reaches
  cases found : kernel.descriptors.find fd with
  | none => simp
  | some other =>
      cases present : kernel.processes.entry other.pid with
      | none => simp_all; grind -ring -linarith
      | some process => simp_all; grind -ring -linarith

theorem Held.aimed {old new : State} (held : Held pid fd member old) (quiet : Quiet old new)
    (ran : Ran old new pid member.row.start)
    (first : ∀ owned reached, .signalled pid owned reached ∉ old.history) :
    Aimed pid fd member new where
  toHeld := held.quiet quiet
  first owned reached event := by
    obtain ⟨newer, grown, calm⟩ := quiet.history
    rw [grown, List.mem_append] at event
    rcases event with recent | older
    · exact absurd (calm _ recent) nofun
    · exact first owned reached older
  reaches target reached := by
    obtain ⟨found, process, present, named⟩ := reaches_iff.mp reached
    obtain ⟨⟨target', found', same, _, known⟩, _⟩ := held.valid
    rw [show new.data.kernel.descriptors = old.descriptors from quiet.descriptors, found',
      Option.some.injEq] at found
    subst found
    subst same
    obtain ⟨table, before, after, running⟩ := ran
    have start := after.same_generation running
      (Nat.le_trans known (before.last target'.pid)) present named
    rw [← start]

theorem Aimed.quiet {old new : State} (aimed : Aimed pid fd member old) (quiet : Quiet old new) :
    Aimed pid fd member new where
  toHeld := aimed.toHeld.quiet quiet
  first owned reached event := by
    obtain ⟨newer, grown, calm⟩ := quiet.history
    rw [grown, List.mem_append] at event
    rcases event with recent | older
    · exact absurd (calm _ recent) nofun
    · exact aimed.first owned reached older
  reaches target reached := by
    obtain ⟨found, process, present, named⟩ := reaches_iff.mp reached
    have found := (quiet.descriptors ▸ found : old.descriptors.find fd = some target)
    obtain ⟨⟨target', found', same, _, known⟩, _⟩ := aimed.valid
    rw [found, Option.some.injEq] at found'
    subst found'
    subst same
    -- Whatever the signal would reach now it would have reached before.
    obtain ⟨earlier, there, named', _⟩ := quiet.later.back target.pid process present
      (by rw [named]; exact known)
    exact aimed.reaches target (reaches_iff.mpr ⟨found, earlier, there, named'.trans named⟩)

theorem Aimed.signals {state : State} (aimed : Aimed pid fd member state)
    (attempted : pid ∈ state.self.serviceTermAttempts) :
    Sound { state with
      history := .signalled pid state.self.owned (state.data.kernel.reaches fd) :: state.history } := by
  refine ⟨⟨⟨⟨⟨member, aimed.owns, aimed.virtmgr, aimed.reaches⟩, aimed.first, aimed.clear⟩,
    aimed.lawful⟩, ?_, aimed.distinct, aimed.recorded⟩, ?_⟩
  · intro other owned reached event
    rcases List.mem_cons.mp event with same | older
    · cases same
      exact attempted
    · exact aimed.attempted other owned reached older
  · intro other fd' listed
    obtain ⟨member', owns, kept⟩ := aimed.handles other fd' listed
    refine ⟨member', owns, kept.imp_left fun valid => ⟨valid.opens, ?_, ?_⟩⟩
    · obtain ⟨target, opened⟩ := valid.current.1
      exact ⟨target, List.mem_cons_of_mem _ opened⟩
    · rw [since_cons rfl, List.mem_cons]
      rintro (same | older)
      · cases same
      · exact valid.current.2 older

theorem pidfdSendSignal_sound :
    Triple Sound (fun state => Aimed pid fd member state ∧ pid ∈ state.self.serviceTermAttempts)
      (pidfdSendSignal platform pid fd) (fun _ => Sound) (fun _ => Sound) := by
  unfold pidfdSendSignal
  refine Triple.andThen (calm elapse_quiet (fun _ _ holds quiet =>
    ⟨holds.1.quiet quiet, by rw [quiet.self.attempts]; exact holds.2⟩)
    fun _ holds => holds.1.toSound) fun _ => fun state holds => ?_
  exact (consult_quiet platform.failure).triple (fun _ _ => Sound.quiet) _ (holds.1.signals holds.2)

/-- The owner may record more members, attempts and doubts. -/
theorem Sound.grown {state : State} (sound : Sound state) (owner : Owner)
    (grows : ∀ pid member, state.self.owned.find pid = some member →
      owner.owned.find pid = some member)
    (recorded : owner.owned.keys.Nodup) (handles : owner.serviceFds = state.self.serviceFds)
    (attempts : ∀ pid ∈ state.self.serviceTermAttempts, pid ∈ owner.serviceTermAttempts)
    (unknown : state.self.serviceCloseUnknown = true → owner.serviceCloseUnknown = true) :
    Sound { state with data := { state.data with self := owner } } := by
  refine ⟨⟨sound.lawful, fun pid members reached event => attempts pid
    (sound.attempted pid members reached event), ?_, recorded⟩, ?_⟩
  · simpa [State.self, handles] using sound.distinct
  · intro pid fd listed
    obtain ⟨member, owns, kept⟩ := sound.handles pid fd (by simpa [State.self, handles] using listed)
    refine ⟨member, grows pid member owns, ?_⟩
    exact kept.imp (fun valid => ⟨valid.opens, valid.current⟩) fun known => ⟨unknown known.1, known.2⟩

theorem termOnce_sound : Triple Sound
    (fun state => Held pid fd member state ∧ pid ∉ state.self.serviceTermAttempts)
    (termOnce platform pid member.row fd) (fun _ => Sound) (fun _ => Sound) := by
  apply Triple.start
  rintro start ⟨held, fresh⟩
  have first : ∀ owned reached, .signalled pid owned reached ∉ start.history :=
    fun owned reached event => fresh (held.attempted pid owned reached event)
  have sound : ∀ state, Quiet start state → Sound state := fun _ => held.toSound.quiet
  unfold termOnce verifiedLive
  simp only [bind_eq, andThen_assoc]
  refine Triple.andThen (((linuxLive_spec.loosen sound).consequence ?_ (fun _ _ holds => holds)
    fun _ => sound)) fun alive => ?_
  · rintro state rfl
    exact Quiet.refl state
  refine reading_self fun owner => Triple.requiring (fun _ state holds => sound state holds.1.1)
    fun verified => ?_
  simp only [Bool.and_eq_true, decide_eq_true_eq] at verified
  refine Triple.andThen (m := fun _ state => Aimed pid fd member state ∧
    pid ∈ state.self.serviceTermAttempts) ?_ fun _ => ?_
  · rintro state ⟨⟨quiet, _, ran⟩, rfl⟩
    have aimed := held.aimed quiet (ran verified.1 verified.2) first
    have sound' := aimed.toSound.grown { state.self with
      serviceTermAttempts := pid :: state.self.serviceTermAttempts } (fun _ _ found => found)
      aimed.recorded rfl (fun _ listed => List.mem_cons_of_mem _ listed) id
    exact ⟨⟨⟨⟨sound', aimed.clear, aimed.owns, aimed.virtmgr⟩, ⟨aimed.valid.opens, aimed.valid.current⟩⟩,
      aimed.first, aimed.reaches⟩, List.mem_cons_self⟩
  · refine Triple.handle pidfdSendSignal_sound fun error => fun state holds => ?_
    exact holds.grown _ (fun _ _ found => found) holds.recorded rfl (fun _ member => member) id

theorem cleanupLive_sound (start : State) (charge : Charge pid member start) :
    Triple Sound (Told start pid member.row.start true) (cleanupLive platform pid member.row)
      (fun _ => Sound) (fun _ => Sound) := by
  have sound : ∀ state, Quiet start state → Sound state := fun _ => charge.toSound.quiet
  unfold cleanupLive
  refine reading_self fun owner => Triple.requiring (fun _ state holds => sound state holds.1.1)
    fun live => ?_
  have arms : ∀ state, Told start pid member.row.start true state ∧ state.self = owner →
      Armed pid member state := by
    rintro state ⟨⟨quiet, _, ran⟩, rfl⟩
    exact charge.armed quiet (ran rfl (by simpa using live))
  have armedSound : ∀ state, Armed pid member state → Sound state := fun _ holds => holds.toSound
  have heldSound : ∀ fd state, Held pid fd member state → Sound state := fun _ _ holds => holds.toSound
  have quiet : ∀ state later, Sound state → Quiet state later → Sound later := fun _ _ => Sound.quiet
  refine Triple.before (Triple.requiring (fun _ => armedSound) fun _ => Triple.andThen
    (calm setDeadline_quiet (fun _ _ => Armed.quiet) armedSound) fun _ => reading_self fun _ =>
    Triple.requiring (fun _ _ holds => holds.1.toSound) fun _ => Triple.andThen
    (handleFor_spec.before fun _ holds => holds.1) fun fd => ?_) arms
  refine Triple.andThen (calm (selectReadable_quiet fd) (fun _ _ => Held.quiet) (heldSound fd))
    fun exited => reading_self fun owner => Triple.andThen (m := fun _ => Sound)
      (Triple.given (fun taken => ?_) fun _ _ holds => holds.1.toSound) fun _ => ?_
  · refine termOnce_sound.before ?_
    rintro state ⟨held, rfl⟩
    simp only [Bool.and_eq_true, Bool.not_eq_true', decide_eq_true_eq] at taken
    exact ⟨held, taken.2⟩
  · exact Triple.andThen ((sense_quiet _).triple quiet) fun _ =>
      Triple.andThen ((selectReadable_quiet fd).triple quiet) fun _ =>
      Triple.requiring (fun _ _ holds => holds) fun _ => Triple.andThen releaseServiceHandles_sound
        fun _ => Triple.require fun _ _ holds => holds

theorem cleanupMember_sound (entry : Pid × Member) :
    Triple Sound (fun state => Sound state ∧ Clear state ∧ entry ∈ state.self.owned)
      (cleanupMember platform entry.1 entry.2) (fun _ => Sound) (fun _ => Sound) := by
  apply Triple.start
  rintro start ⟨sound, clear, listed⟩
  unfold cleanupMember
  refine Triple.given (fun virtmgr => ?_) fun _ state same => same ▸ sound
  have charge : Charge entry.1 entry.2 start :=
    ⟨sound, clear, Dict.find_of_mem sound.recorded listed, by simpa using virtmgr⟩
  have sounds : ∀ state, Quiet start state → Sound state := fun _ => sound.quiet
  refine Triple.andThen ((linuxLive_spec.loosen sounds).consequence ?_ (fun _ _ holds => holds)
    fun _ => sounds) fun alive => ?_
  · rintro state rfl
    exact Quiet.refl state
  · cases alive with
    | true => exact cleanupLive_sound start charge
    | false => exact Triple.ret fun state holds => sounds state holds.1

end Signal

/-- A part of `cleanup_services` keeps the owned members and adds to the history,
but does not begin anew. -/
structure Onward (old new : State) : Prop where
  owned : new.self.owned = old.self.owned
  history : ∃ newer, new.history = newer ++ old.history ∧ ∀ event ∈ newer, event.begins = false

theorem Onward.refl (state : State) : Onward state state := ⟨rfl, [], rfl, nofun⟩

theorem Onward.trans {old middle new : State} (first : Onward old middle)
    (second : Onward middle new) : Onward old new := by
  obtain ⟨newer, grown, plain⟩ := first.history
  obtain ⟨newer', grown', plain'⟩ := second.history
  refine ⟨second.owned.trans first.owned, newer' ++ newer, by rw [grown', grown, List.append_assoc],
    fun event member => ?_⟩
  rcases List.mem_append.mp member with recent | older
  · exact plain' event recent
  · exact plain event older

instance : IsPreorder State Onward where
  refl := Onward.refl
  trans _ _ _ := Onward.trans

theorem Quiet.onward {old new : State} (quiet : Quiet old new) : Onward old new := by
  obtain ⟨newer, grown, calm⟩ := quiet.history
  exact ⟨quiet.self.owned, newer, grown, fun event member => Event.calm_begins (calm event member)⟩

theorem Clear.onward {old new : State} (clear : Clear old) (onward : Onward old new) :
    Clear new := by
  obtain ⟨newer, grown, plain⟩ := onward.history
  refine ⟨by rw [grown]; exact List.mem_append_right _ clear.1, fun pid member listed crosvm => ?_⟩
  rw [onward.owned] at listed
  rw [Seen, grown, since_append plain]
  exact List.mem_append_right _ (clear.2 pid member listed crosvm)

section Onward

variable {platform : Platform}

theorem onward_of_quiet {α : Type} {script : Run α} (within : Within Quiet script) :
    Within Onward script := fun state => (within state).onward

theorem mark_onward {event : Event} (plain : event.begins = false) :
    Within Onward (mark event : Run Unit) := fun _ =>
  ⟨rfl, [event], rfl, by simpa using plain⟩

theorem setSelf_onward {change : Owner → Owner} (same : ∀ owner, (change owner).owned = owner.owned) :
    Within Onward (setSelf change) := fun state => ⟨same state.self, [], rfl, nofun⟩

theorem setDescriptors_onward (change : Dict Fd Target → Dict Fd Target) :
    Within Onward (setDescriptors change) := fun _ => ⟨rfl, [], rfl, nofun⟩

theorem osClose_onward (fd : Fd) : Within Onward (osClose platform fd) := by
  unfold osClose
  exact Within.andThen (onward_of_quiet elapse_quiet) fun _ => Within.andThen (mark_onward rfl)
    fun _ => Within.andThen (setDescriptors_onward _) fun _ => onward_of_quiet (consult_quiet _)

theorem releaseEach_onward (items : Dict Pid Fd) : Within Onward (releaseEach platform items) := by
  induction items with
  | nil => exact Within.ret _
  | cons entry rest next =>
      obtain ⟨pid, fd⟩ := entry
      unfold releaseEach
      refine Within.andThen (onward_of_quiet (selectReadable_quiet fd)) fun exited => ?_
      cases exited with
      | false => exact Within.ret _
      | true =>
          refine Within.andThen (Within.handle (osClose_onward fd) fun error => Within.andThen
            (setSelf_onward ?_) fun _ => Within.raise _) fun _ => Within.andThen
            (setSelf_onward ?_) fun _ => next <;> exact fun _ => rfl

theorem releaseServiceHandles_onward : Within Onward (releaseServiceHandles platform) := by
  unfold releaseServiceHandles
  exact Within.andThen (onward_of_quiet self_quiet) fun _ => Within.andThen
    (onward_of_quiet (require_quiet _ _)) fun _ => Within.andThen
    (onward_of_quiet (require_quiet _ _)) fun _ => releaseEach_onward _

theorem pidfdOpen_onward (pid : Pid) : Within Onward (pidfdOpen platform pid) := by
  unfold pidfdOpen
  refine Within.andThen (onward_of_quiet elapse_quiet) fun _ => Within.andThen
    (onward_of_quiet (consult_quiet _)) fun _ => Within.andThen (onward_of_quiet kernel_quiet)
    fun kernel => Within.andThen (onward_of_quiet (sense_quiet _)) fun proposed => ?_
  split
  · exact Within.raise _
  · exact Within.andThen (setDescriptors_onward _) fun _ => Within.andThen (mark_onward rfl)
      fun _ => Within.ret _

theorem handleFor_onward (pid : Pid) : Within Onward (handleFor platform pid) := by
  unfold handleFor
  refine Within.andThen (onward_of_quiet self_quiet) fun owner => ?_
  split
  · exact Within.ret _
  · refine Within.andThen (pidfdOpen_onward pid) fun _ => Within.andThen (setSelf_onward ?_) fun _ =>
      Within.ret _
    exact fun _ => rfl

theorem termOnce_onward (pid : Pid) (row : Row) (fd : Fd) :
    Within Onward (termOnce platform pid row fd) := by
  have sends : Within Onward (pidfdSendSignal platform pid fd) := by
    unfold pidfdSendSignal
    exact Within.andThen (onward_of_quiet elapse_quiet) fun _ => Within.andThen
      (onward_of_quiet kernel_quiet) fun _ => Within.andThen (onward_of_quiet self_quiet) fun _ =>
      Within.andThen (mark_onward rfl) fun _ => onward_of_quiet (consult_quiet _)
  unfold termOnce
  refine Within.andThen (onward_of_quiet (verifiedLive_quiet pid row)) fun _ => Within.andThen
    (onward_of_quiet (require_quiet _ _)) fun _ => Within.andThen (setSelf_onward ?_) fun _ =>
    Within.handle sends fun error => Within.andThen (setSelf_onward ?_) fun _ => Within.raise _
  all_goals exact fun _ => rfl

theorem cleanupMember_onward (pid : Pid) (member : Member) :
    Within Onward (cleanupMember platform pid member) := by
  unfold cleanupMember cleanupLive
  refine Within.given (Within.andThen (onward_of_quiet (linuxLive_quiet pid _)) fun _ => Within.given ?_)
  exact Within.andThen (onward_of_quiet self_quiet) fun _ =>
    Within.andThen (onward_of_quiet (require_quiet _ _)) fun _ =>
    Within.andThen (onward_of_quiet (require_quiet _ _)) fun _ =>
    Within.andThen (onward_of_quiet setDeadline_quiet) fun _ =>
    Within.andThen (onward_of_quiet self_quiet) fun _ =>
    Within.andThen (onward_of_quiet (require_quiet _ _)) fun _ =>
    Within.andThen (handleFor_onward pid) fun fd =>
    Within.andThen (onward_of_quiet (selectReadable_quiet fd)) fun _ =>
    Within.andThen (onward_of_quiet self_quiet) fun _ =>
    Within.andThen (Within.given (termOnce_onward pid _ fd)) fun _ =>
    Within.andThen (onward_of_quiet (sense_quiet _)) fun _ =>
    Within.andThen (onward_of_quiet (selectReadable_quiet fd)) fun _ =>
    Within.andThen (onward_of_quiet (require_quiet _ _)) fun _ =>
    Within.andThen releaseServiceHandles_onward fun _ => onward_of_quiet (require_quiet _ _)

end Onward

section Observe

variable {platform : Platform}

/-- `setdefault` never changes what was recorded for a number. -/
theorem Sound.owning {state : State} (sound : Sound state) (pid : Pid) (row : Row) (kind : Kind) :
    Sound (own pid row kind state).2 := by
  refine sound.grown _ (fun other member found => ?_) ?_ rfl (fun _ listed => listed) id
  · simp only
    split
    · exact found
    · next absent =>
        have differ : pid ≠ other := by
          rintro rfl
          exact absent (by rw [found]; rfl)
        simpa [differ] using found
  · simp only
    split
    · exact sound.recorded
    · next absent => exact Dict.nodup_keys_put _ sound.recorded (by simpa using absent)

theorem own_keeps (q : List Event → Prop) (pid : Pid) (row : Row) (kind : Kind) :
    Keeps (fun state => Sound state ∧ q state.history) (own pid row kind) :=
  fun _ holds => ⟨holds.1.owning pid row kind, holds.2⟩

theorem consult_keeps {α : Type} (q : List Event → Prop) (tape : Tape Fault α) :
    Keeps (fun state => Sound state ∧ q state.history) (consult tape : Run α) := by
  intro state holds
  refine ⟨holds.1.quiet (consult_quiet tape state), ?_⟩
  unfold consult
  cases tape state.turn <;> exact holds.2

theorem observe_keeps (q : List Event → Prop) :
    Keeps (fun state => Sound state ∧ q state.history) (observe platform) := by
  have consults : ∀ {α : Type} (tape : Tape Fault α), _ := fun tape =>
    keeps_iff.mp (consult_keeps q tape)
  have owns := fun pid row kind => keeps_iff.mp (own_keeps q pid row kind)
  rw [keeps_iff]
  unfold observe
  refine Triple.andThen (consults _) fun table => Triple.andThen (Triple.each (i := fun _ state =>
    Sound state ∧ q state.history) table fun entry _ => ?_) fun _ => Triple.andThen
    (Triple.each (i := fun _ state => Sound state ∧ q state.history) table fun entry _ => ?_) fun _ =>
    Triple.andThen (consults _) fun _ => Triple.andThen (consults _) fun _ =>
    Triple.require fun _ _ holds => holds
  · unfold observeVirtmgr
    exact Triple.given (fun _ => Triple.andThen (consults _) fun _ => Triple.given
      (fun _ => owns _ _ _) fun _ _ holds => holds) fun _ _ holds => holds
  · unfold observeCrosvm
    refine reading_self fun owner => ?_
    split
    · exact Triple.given (fun _ => (owns _ _ _).before fun _ holds => holds.1)
        fun _ _ holds => holds.1
    · exact Triple.ret fun _ holds => holds.1

/-- `guest_done` answers yes only if every owned crosvm was seen gone. -/
theorem guestDone_spec (q : List Event → Prop) :
    Triple Sound (fun state => Sound state ∧ q state.history) (guestDone platform)
      (fun done state => Sound state ∧ (done = true → (∃ earlier, q earlier ∧
        ∃ newer, state.history = newer ++ earlier) ∧ ∀ pid member,
        (pid, member) ∈ state.self.owned → member.kind = .crosvm → Seen pid state))
      (fun _ => Sound) := by
  unfold guestDone
  refine Triple.andThen (((keeps_iff.mp (observe_keeps q)).loosen fun _ holds => holds.1).consequence
    (fun _ holds => holds) (fun _ _ holds => holds) fun _ _ holds => holds.1) fun _ => ?_
  apply Triple.start
  rintro start ⟨sound, known⟩
  have sounds : ∀ state, Quiet start state → Sound state := fun _ => sound.quiet
  rintro state rfl
  refine Triple.ite (fun _ => ?_) (fun _ => Triple.ret fun _ same => ?_) state rfl
  · refine Triple.andThen ((((anyCrosvmLive_spec state.self.owned).loosen sounds).consequence
      (fun _ same => same ▸ Quiet.refl state) (fun _ _ holds => holds) fun _ => sounds))
      fun alive => Triple.ret fun later holds => ⟨sounds later holds.1, fun none => ?_⟩
    obtain ⟨newer, grown, _⟩ := holds.1.history
    refine ⟨⟨state.history, known, newer, grown⟩, fun pid member listed crosvm => ?_⟩
    rw [holds.1.self.owned] at listed
    exact holds.2 (by simpa using none) (pid, member) listed crosvm
  · exact same ▸ ⟨sound, nofun⟩

theorem guestDone_sound :
    Triple Sound Sound (guestDone platform) (fun _ => Sound) (fun _ => Sound) :=
  (guestDone_spec fun _ => True).consequence (fun _ holds => ⟨holds, trivial⟩)
    (fun _ _ holds => holds.1) fun _ _ holds => holds

theorem Sound.begins {state : State} (sound : Sound state) :
    Sound { state with history := .cleanup :: state.history } := by
  refine ⟨⟨⟨trivial, sound.lawful⟩, fun pid owned reached event =>
    sound.attempted pid owned reached (by simpa using event), sound.distinct, sound.recorded⟩, ?_⟩
  intro pid fd listed
  obtain ⟨member, owns, kept⟩ := sound.handles pid fd listed
  refine ⟨member, owns, kept.imp_left fun valid => ⟨valid.opens, ?_, ?_⟩⟩
  · obtain ⟨target, opened⟩ := valid.current.1
    exact ⟨target, List.mem_cons_of_mem _ opened⟩
  · rw [since_cons rfl, List.mem_cons]
    rintro (same | older)
    · cases same
    · exact valid.current.2 older

theorem cleanupServices_sound :
    Triple Sound Sound (cleanupServices platform) (fun _ => Sound) (fun _ => Sound) := by
  have quiet : ∀ state later, Sound state → Quiet state later → Sound later := fun _ _ => Sound.quiet
  unfold cleanupServices
  refine Triple.andThen (m := fun _ state => Sound state ∧ Event.cleanup ∈ state.history)
    (Triple.mark ?_) fun _ => Triple.andThen (guestDone_spec fun history => .cleanup ∈ history)
    fun done => Triple.requiring (fun _ _ holds => holds.1) fun yes => reading_self fun owner => ?_
  · exact fun state sound => ⟨sound.begins, List.mem_cons_self⟩
  · -- Every member finds the guest gone, since no part of the loop begins anew.
    have loop : Triple Sound (fun state => Sound state ∧ Clear state ∧ state.self.owned = owner.owned)
        (each owner.owned fun entry => cleanupMember platform entry.1 entry.2) (fun _ => Sound)
        (fun _ => Sound) := by
      let inside : Dict Pid Member → State → Prop := fun rest state => Sound state ∧ Clear state ∧
        state.self.owned = owner.owned ∧ ∀ entry ∈ rest, entry ∈ owner.owned
      refine ((Triple.each (i := inside) owner.owned fun entry rest => ?_).consequence ?_
        (fun _ _ holds => holds.1) fun _ _ holds => holds)
      · have onward := (@cleanupMember_onward platform entry.1 entry.2).triple
          (p := fun state => Clear state ∧ state.self.owned = owner.owned ∧
            ∀ entry ∈ rest, entry ∈ owner.owned)
          fun _ _ holds onward => ⟨holds.1.onward onward, onward.owned.trans holds.2.1, holds.2.2⟩
        refine ((cleanupMember_sound entry).both onward).consequence ?_ (fun _ _ holds => holds)
          fun _ _ holds => holds.1
        rintro state ⟨sound, clear, same, listed⟩
        have member := listed entry List.mem_cons_self
        exact ⟨⟨sound, clear, by rw [same]; exact member⟩, clear, same,
          fun other later => listed other (List.mem_cons_of_mem _ later)⟩
      · exact fun state holds => ⟨holds.1, holds.2.1, holds.2.2, fun _ listed => listed⟩
    refine Triple.andThen (loop.before ?_) fun _ => Triple.andThen ((consult_quiet _).triple quiet)
      fun _ => Triple.requiring (fun _ _ holds => holds) fun _ => Triple.andThen
      ((consult_quiet _).triple quiet) fun _ => Triple.requiring (fun _ _ holds => holds) fun _ =>
      Triple.andThen releaseServiceHandles_sound fun _ => Triple.requiring (fun _ _ holds => holds)
      fun _ => Triple.andThen ((consult_quiet _).triple quiet) fun _ => Triple.andThen
      (m := fun _ => Sound) (fun state holds => ?_) fun _ => (consult_quiet _).triple quiet
    · rintro state ⟨⟨sound, seen⟩, rfl⟩
      obtain ⟨⟨earlier, begun, newer, grown⟩, gone⟩ := seen yes
      refine ⟨sound, ⟨?_, gone⟩, rfl⟩
      rw [grown]
      exact List.mem_append_right _ begun
    · exact holds.grown _ (fun _ _ found => found) holds.recorded rfl (fun _ member => member) id

theorem finalizeIfTerminal_sound :
    Triple Sound Sound (finalizeIfTerminal platform) (fun _ => Sound) (fun _ => Sound) := by
  have quiet : ∀ state later, Sound state → Quiet state later → Sound later := fun _ _ => Sound.quiet
  have terminal : Triple Sound Sound
      (setSelf fun self => { self with ownerTerminal := true }) (fun _ => Sound) (fun _ => Sound) :=
    fun state holds =>
      holds.grown _ (fun _ _ found => found) holds.recorded rfl (fun _ member => member) id
  unfold finalizeIfTerminal
  refine Triple.andThen (self_quiet.triple quiet) fun owner => Triple.ite
    (fun _ => Triple.ret fun _ holds => holds) fun _ => Triple.andThen ((consult_quiet _).triple quiet)
    fun empty => Triple.ite (fun _ => Triple.andThen releaseServiceHandles_sound fun released =>
      Triple.ite (fun _ => ?_) fun _ => Triple.ret fun _ holds => holds) fun _ => ?_
  · exact Triple.andThen ((consult_quiet _).triple quiet) fun _ => Triple.andThen terminal fun _ =>
      Triple.ret fun _ holds => holds
  · refine Triple.andThen ((consult_quiet _).triple quiet) fun status => Triple.andThen
      (m := fun _ => Sound) (Triple.given (fun _ => ?_) fun _ _ holds => holds) fun _ =>
      Triple.andThen (self_quiet.triple quiet) fun _ => Triple.ret fun _ holds => holds
    exact Triple.andThen guestDone_sound fun done =>
      Triple.given (fun _ => cleanupServices_sound) fun _ _ holds => holds

theorem perform_sound (operation : Operation) : Keeps Sound (perform platform operation) := by
  rw [keeps_iff]
  cases operation with
  | observe =>
      refine ((keeps_iff.mp (observe_keeps fun _ => True)).loosen fun _ holds => holds.1).consequence
        (fun _ holds => ⟨holds, trivial⟩) (fun _ _ holds => holds.1) fun _ _ holds => holds.1
  | guestDone => exact Triple.andThen guestDone_sound fun _ => Triple.ret fun _ holds => holds
  | cleanupServices => exact cleanupServices_sound
  | releaseServiceHandles =>
      exact Triple.andThen releaseServiceHandles_sound fun _ => Triple.ret fun _ holds => holds
  | finalizeIfTerminal =>
      exact Triple.andThen finalizeIfTerminal_sound fun _ => Triple.ret fun _ holds => holds

/-- For every schedule of exits and reuses of process numbers and every answer
of the other calls, all signals and closes of a Linux owner are permitted,
however often the operations are repeated and whatever they raise. -/
theorem linux_signals_and_closes (platform : Platform) (processes : Table Info)
    (operations : List Operation) :
    Lawful permitted (operate platform operations { data := { kernel := { processes } } }).2.history := by
  have start : Sound { data := { kernel := { processes } } } :=
    ⟨⟨trivial, nofun, List.nodup_nil, List.nodup_nil⟩, nofun⟩
  exact (Keeps.rescued (fun operation => perform_sound operation) operations _ start).lawful

end Observe

end Bscp.LinuxService
