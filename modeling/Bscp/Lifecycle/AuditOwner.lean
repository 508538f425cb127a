import Bscp.Lifecycle.BoundOwnerSafety

/-!
`audit_owner.BoundInstance`, the macOS subclass. It asks the evidence of the
guest RPC endpoint before the service is signalled and again before any handle
is closed. It shares `bind`, `validate` and the observation with the base class.
-/

namespace Bscp.AuditOwner

open Script Session BoundOwner

/-- `next(p for p,r in self.expected.items() if r['role']==role)`. A role that
`__init__` has found is found again. -/
def memberOf (members : Members) (role : Role)
    (listed : ∃ row ∈ members.rows, row.2.role = role) : Pid :=
  ((members.rows.find? fun row => row.2.role = role).get
    (List.find?_isSome.mpr (by simpa using listed))).1

theorem listed_role (members : Members) {role : Role} (known : role ∈ [Role.guest, Role.virtmgr]) :
    ∃ row ∈ members.rows, row.2.role = role := by
  have listed : role ∈ members.rows.map fun row => row.2.role := members.roles.mem_iff.mpr known
  simpa using listed

def guest (members : Members) : Pid := memberOf members .guest (listed_role members (by simp))

def service (members : Members) : Pid := memberOf members .virtmgr (listed_role members (by simp))

section Model

variable {Snap : Type} [DecidableEq Snap] [EmptyCollection Snap]
variable (members : Members) (calls : Callbacks Snap)

def endpointRetired : Run Snap Bool := do
  let ready ← handle (query calls.retirementReady .retirementReady) fun exc => do
    note fun receipt => { receipt with
      identityObservationBlocked := true, errors := receipt.errors ++ [exc] }
    Script.raise exc
  if !ready then Script.ret false else do
    note fun receipt => { receipt with endpointRetired := true }
    Script.ret true

def logsAndEndpoint : Run Snap Bool := do
  let retired ← endpointRetired calls
  if retired then logsReleased calls else Script.ret false

def observeOnce : Run Snap (Receipt Snap) := do
  mark (.begin .observeOnce)
  observeWith members calls (logsAndEndpoint calls) (storageSnapshot calls)

def guestGone : Run Snap Bool := do
  let ready ← validate members calls
  if !ready then Script.ret false else do
    let handle ← handleOf (guest members)
    let gone ← exited calls handle
    if gone then endpointRetired calls else Script.ret false

/-- The live creator finishes its own endpoint before it may be terminated. -/
def signalService (deadline : Int) (fuel : Nat) : Run Snap Unit :=
  loop (do
    let now ← sense calls.clock
    if now < deadline then do
      let gone ← guestGone members calls
      if gone then do
        let _ ← signalOnce members calls deadline (service members)
        Script.ret (.leave ())
      else do
        let _ ← sense calls.clock
        Script.ret .again
    else Script.ret (.leave ())) fuel

def terminateBody (deadline : Int) (fuel : Nat) : Run Snap (Option (Receipt Snap)) := do
  let onward ← signalOnce members calls deadline (guest members)
  given onward (signalService members calls deadline fuel)
  observeUntil calls (observeWith members calls (logsAndEndpoint calls) (storageSnapshot calls))
    deadline fuel

def terminateOnce (authorized : Bool) (fuel : Nat) : Run Snap (Receipt Snap) := do
  mark (.begin (.terminateOnce authorized))
  terminateWith calls authorized fun deadline => terminateBody members calls deadline fuel

def methods (fuel : Nat) : Methods Snap where
  bind := BoundOwner.bind members calls
  terminateOnce authorized := terminateOnce members calls authorized fuel
  observeOnce := observeOnce members calls

end Model

section Statement

variable {Snap : Type}

def release : List (Event Snap) := [.logsReleased (.ok true), .retirementReady (.ok true)]

/-- In the termination under way the handle that was opened for the Guest has
reported its exit and the endpoint its retirement. -/
def GuestRetired (members : Members) (earlier : List (Event Snap)) : Prop :=
  ∃ (inside before : List (Event Snap)) (handle : Handle), earlier = inside ++ Event.begin (.terminateOnce true) :: before ∧
    (∀ operation, Event.begin operation ∉ inside) ∧ (guest members, handle) ∈ opened earlier ∧
    Event.exited handle (.ok true) ∈ inside ∧ Event.retirementReady (.ok true) ∈ inside

def MayTerm (members : Members) (earlier : List (Event Snap)) (pid : Pid) (handle : Handle) : Prop :=
  BoundOwner.MayTerm members earlier pid handle ∧
    (pid = service members → GuestRetired members earlier)

theorem GuestRetired.later {members : Members} {earlier : List (Event Snap)}
    (retired : GuestRetired members earlier) (newer : List (Event Snap))
    (same : ∀ operation, Event.begin operation ∉ newer) : GuestRetired members (newer ++ earlier) := by
  obtain ⟨inside, before, handle, split, calm, opens, gone, ready⟩ := retired
  refine ⟨newer ++ inside, before, handle, by rw [split, List.append_assoc], ?_, ?_,
    List.mem_append_right _ gone, List.mem_append_right _ ready⟩
  · intro operation member
    rcases List.mem_append.mp member with new | old
    · exact same operation new
    · exact calm operation old
  · rw [opened_append]
    exact List.mem_append_right _ opens

end Statement

section Proofs

variable {Snap : Type}

theorem memberOf_mem (members : Members) (role : Role)
    (listed : ∃ row ∈ members.rows, row.2.role = role) :
    ∃ identity, (memberOf members role listed, identity) ∈ members.rows ∧ identity.role = role := by
  have found : (members.rows.find? fun row => row.2.role = role).isSome :=
    List.find?_isSome.mpr (by simpa using listed)
  obtain ⟨row, first⟩ := Option.isSome_iff_exists.mp found
  refine ⟨row.2, ?_, by simpa using List.find?_some first⟩
  simpa [memberOf, first] using List.mem_of_find?_eq_some first

theorem guest_ne_service (members : Members) : guest members ≠ service members := by
  intro same
  obtain ⟨first, guestRow, guestRole⟩ := memberOf_mem members .guest (listed_role members (by simp))
  obtain ⟨second, serviceRow, serviceRole⟩ :=
    memberOf_mem members .virtmgr (listed_role members (by simp))
  have one := Dict.find_of_mem members.distinct guestRow
  have other := Dict.find_of_mem members.distinct serviceRow
  rw [show memberOf members .guest _ = memberOf members .virtmgr _ from same, other] at one
  simp_all

/-- A signal of the Guest asks for nothing more than the base class does. -/
theorem mayTerm_guest (members : Members) (earlier : List (Event Snap)) (handle : Handle)
    (may : BoundOwner.MayTerm members earlier (guest members) handle) :
    MayTerm members earlier (guest members) handle :=
  ⟨may, fun same => (guest_ne_service members same).elim⟩

variable [EmptyCollection Snap]
variable {allowed : List (Event Snap)} {mayTerm : List (Event Snap) → Pid → Handle → Prop}

/-- An error of the evidence blocks the instance before it goes on. -/
theorem endpointRetired_spec (calls : Callbacks Snap) (data : Bound Snap)
    (active : data.armed = true ∧ data.cleanupAttempted = true)
    (pending : data.receipt.resourceState ≠ .reaped) (history : List (Event Snap)) :
    Triple (Sound allowed mayTerm)
      (fun state => Sound allowed mayTerm state ∧ SameCore state.data data ∧
        state.history = history)
      (endpointRetired calls)
      (fun ready state => Sound allowed mayTerm state ∧ SameCore state.data data ∧
        state.history = .retirementReady (.ok ready) :: history)
      (fun _ state => Observing allowed mayTerm state ∧
        state.data.receipt.resourceState ≠ .reaped) := by
  rintro state ⟨sound, core, rfl⟩
  simp only [endpointRetired, bind_eq, Script.andThen, Script.handle, Session.query,
    Script.ofExcept]
  cases calls.retirementReady state.turn with
  | ok ready =>
      have asked : Sound allowed mayTerm
          ⟨state.data, state.turn + 1, .retirementReady (.ok ready) :: state.history⟩ :=
        sound.silent rfl _
      cases ready with
      | false => exact ⟨asked, core, rfl⟩
      | true => exact ⟨asked.remarked _ ⟨rfl, rfl, rfl, rfl, rfl, rfl, rfl⟩, core, rfl⟩
  | error error =>
      obtain ⟨_, _, _, armed, cleanup, resource, _⟩ := core
      have spent := cleanup.trans active.2
      have open_ : state.data.receipt.resourceState ≠ .reaped := resource ▸ pending
      refine ⟨⟨⟨⟨trivial, sound.lawful⟩, sound.keys, sound.handles, sound.fresh, sound.held,
        sound.unclosed, sound.early, fun unspent => ?_, sound.unsigned, fun isArmed => ?_,
        fun done => (open_ done).elim, fun _ => open_, fun _ _ => rfl⟩,
        armed.trans active.1, spent⟩, open_⟩
      · exact absurd (spent.symm.trans unspent) (by simp)
      · obtain ⟨since, before, split, unbegun⟩ := sound.armed isArmed
        refine ⟨.retirementReady (.error error) :: since, before, by rw [split]; rfl,
          fun unspent => ?_⟩
        exact absurd (spent.symm.trans unspent) (by simp)

theorem logsAndEndpoint_shows (calls : Callbacks Snap) :
    ShowsRelease release mayTerm (logsAndEndpoint calls) := by
  intro data history active pending
  refine Triple.andThen ((endpointRetired_spec calls data active pending history).consequence
    (fun _ holds => holds) (fun _ _ holds => holds) (fun _ _ holds => holds.1)) fun retired => ?_
  apply Triple.ite
  · rintro rfl
    apply Triple.query
    · rintro state ⟨sound, core, past⟩ released
      exact ⟨sound.silent rfl _, core, by rintro rfl; rw [past]; rfl⟩
    · rintro state ⟨sound, core, _⟩ error
      exact ⟨sound.silent rfl _, core.2.2.2.1.trans active.1, core.2.2.2.2.1.trans active.2⟩
  · exact fun _ => Triple.ret fun state holds => ⟨holds.1, holds.2.1, by simp⟩

/-- A true answer leaves the Guest's exit and the retirement in the history of
the same call. -/
theorem guestGone_spec (members : Members) (calls : Callbacks Snap) (data : Bound Snap)
    (active : data.armed = true ∧ data.cleanupAttempted = true)
    (unattempted : data.closeAttempts = []) (pending : data.receipt.resourceState ≠ .reaped)
    (sent : List Pid) :
    Triple (Sound allowed mayTerm)
      (fun state => Terminating allowed mayTerm data state ∧
        ∀ other ∈ terms state.history, other ∈ sent)
      (guestGone members calls)
      (fun gone state => Terminating allowed mayTerm data state ∧
        (∀ other ∈ terms state.history, other ∈ sent) ∧
        (gone = true → GuestRetired members state.history))
      (fun _ state => Observing allowed mayTerm state ∧
        state.data.receipt.resourceState ≠ .reaped) := by
  have still : ∀ state : State Snap, Sound allowed mayTerm state →
      SameCore state.data data → Observing allowed mayTerm state ∧
        state.data.receipt.resourceState ≠ .reaped := by
    rintro state sound ⟨_, _, _, armed, cleanup, resource, _⟩
    exact ⟨⟨sound, armed.trans active.1, cleanup.trans active.2⟩, resource ▸ pending⟩
  unfold guestGone
  apply Triple.start
  rintro start ⟨⟨sound, core, first⟩, listed⟩
  have polling : ∀ now (state : State Snap), Sound allowed mayTerm state →
      SameCore state.data data → Polled now start.history state.history →
      Terminating allowed mayTerm data state ∧ ∀ other ∈ terms state.history, other ∈ sent := by
    intro now state sound core polled
    obtain ⟨newer, past, quiet⟩ := polled.sameCall
    refine ⟨⟨sound, core, past ▸ first.later newer quiet⟩, ?_⟩
    rw [polled.sameTerms]
    exact listed
  refine Triple.andThen ((validate_spec members calls start.data start.history).consequence
    (by rintro state rfl; exact ⟨sound, rfl, rfl⟩) (fun _ _ holds => holds)
    (fun _ state holds => still state holds.1 (holds.2 ▸ core))) fun valid => ?_
  apply Triple.ite
  · refine fun _ => Triple.ret ?_
    rintro state ⟨sound, same, now, polled, _⟩
    obtain ⟨terminating, listed⟩ := polling now state sound (same ▸ core) polled
    exact ⟨terminating, listed, by simp⟩
  intro _
  refine Triple.andThen (handleOf_spec (guest members)
    fun _ state holds => still state holds.1 (holds.2.1 ▸ core)) fun handle => ?_
  refine Triple.andThen (m := fun gone state => Sound allowed mayTerm state ∧
      SameCore state.data data ∧ (guest members, handle) ∈ opened state.history ∧
      (∃ now, Polled now start.history state.history) ∧
      ∃ before, state.history = .exited handle (.ok gone) :: before)
    (Triple.query ?_ ?_) fun gone => ?_
  · rintro state ⟨⟨sound, same, now, polled, _⟩, found⟩ gone
    refine ⟨sound.silent rfl _, same ▸ core, ?_, ⟨now, polled.exited _ _⟩, _, rfl⟩
    exact (sound.held (by rw [same]; exact core.2.2.1.trans unattempted) _).mpr
      (Dict.find_mem found)
  · rintro state ⟨⟨sound, same, _⟩, _⟩ error
    exact still _ (sound.silent rfl _) (same ▸ core)
  apply Triple.ite
  · rintro rfl
    apply Triple.start
    rintro middle ⟨sound, core, opens, ⟨now, polled⟩, before, newest⟩
    obtain ⟨terminating, listed⟩ := polling now middle sound core polled
    refine (endpointRetired_spec calls data active pending middle.history).consequence
      (by rintro state rfl; exact ⟨sound, core, rfl⟩) ?_ (fun _ _ holds => holds)
    rintro ready state ⟨sound, core, past⟩
    refine ⟨⟨sound, core, ?_⟩, ?_, ?_⟩
    · rw [past]
      exact terminating.first.later [_] (by simp)
    · rw [past]
      exact listed
    · rintro rfl
      obtain ⟨inside, since, old, split, calm, _⟩ := terminating.first
      refine ⟨.retirementReady (.ok true) :: inside, since ++ .bound :: old, handle,
        by rw [past, split]; rfl, by simpa using calm, by rw [past]; exact opens, ?_, by simp⟩
      -- The exit report is the newest event before the retirement, so it is inside.
      rw [newest] at split
      cases inside with
      | nil => simp at split
      | cons event inside =>
          simp only [List.cons_append, List.cons.injEq] at split
          simp [← split.1]
  · refine fun _ => Triple.ret ?_
    rintro state ⟨sound, core, _, ⟨now, polled⟩, _⟩
    obtain ⟨terminating, listed⟩ := polling now state sound core polled
    exact ⟨terminating, listed, by simp⟩

theorem signalService_spec (members : Members) (calls : Callbacks Snap) (data : Bound Snap)
    (active : data.armed = true ∧ data.cleanupAttempted = true)
    (unattempted : data.closeAttempts = []) (pending : data.receipt.resourceState ≠ .reaped)
    (deadline : Int) (fuel : Nat) :
    Triple (Sound allowed (MayTerm members))
      (fun state => Terminating allowed (MayTerm members) data state ∧
        ∀ other ∈ terms state.history, other ∈ [guest members])
      (signalService members calls deadline fuel)
      (fun _ state => Sound allowed (MayTerm members) state ∧ SameCore state.data data)
      (fun _ state => Observing allowed (MayTerm members) state ∧
        state.data.receipt.resourceState ≠ .reaped) := by
  refine Triple.loop ?_ (fun _ holds => holds.1.sound) fuel
  refine Triple.sensing (fun state turn holds =>
    ⟨⟨holds.1.sound.turned turn, holds.1.core, holds.1.first⟩, holds.2⟩) fun now => ?_
  refine Triple.ite (fun _ => ?_)
    fun _ => Triple.ret fun _ holds => ⟨holds.1.sound, holds.1.core⟩
  refine Triple.andThen (guestGone_spec members calls data active unattempted pending _)
    fun gone => ?_
  apply Triple.ite
  · rintro rfl
    refine Triple.andThen ((signalOnce_spec members calls data active unattempted deadline
      (service members) (r := GuestRetired members)
      (fun newer _ quiet retired => retired.later newer quiet)
      (fun _ _ may retired => ⟨may, fun _ => retired⟩) [guest members]).consequence ?_
      (fun _ _ holds => holds) ?_) fun _ => Triple.ret fun _ holds => ⟨holds.1.sound, holds.1.core⟩
    · rintro state ⟨terminating, listed, retired⟩
      exact ⟨terminating, retired rfl, listed, by simpa using (guest_ne_service members).symm⟩
    · rintro error state ⟨sound, _, _, _, armed, cleanup, resource, _⟩
      exact ⟨⟨sound, armed.trans active.1, cleanup.trans active.2⟩, resource ▸ pending⟩
  · intro _
    refine Triple.sensing (fun state turn holds =>
      ⟨⟨holds.1.sound.turned turn, holds.1.core, holds.1.first⟩, holds.2⟩) fun _ => Triple.ret ?_
    exact fun state holds => ⟨holds.1, holds.2.1⟩

variable [DecidableEq Snap]

theorem terminateBody_spec (members : Members) (calls : Callbacks Snap) (deadline : Int)
    (fuel : Nat) (data : Bound Snap) (active : data.armed = true ∧ data.cleanupAttempted = true)
    (unattempted : data.closeAttempts = []) (pending : data.receipt.resourceState ≠ .reaped) :
    Triple (Sound release (MayTerm members))
      (fun state => Terminating release (MayTerm members) data state ∧ terms state.history = [])
      (terminateBody members calls deadline fuel)
      (fun _ => Observing release (MayTerm members))
      (fun _ state => Observing release (MayTerm members) state ∧
        state.data.receipt.resourceState ≠ .reaped) := by
  have still : ∀ state : State Snap, Sound release (MayTerm members) state →
      SameCore state.data data → Observing release (MayTerm members) state ∧
        state.data.receipt.resourceState ≠ .reaped := by
    rintro state sound ⟨_, _, _, armed, cleanup, resource, _⟩
    exact ⟨⟨sound, armed.trans active.1, cleanup.trans active.2⟩, resource ▸ pending⟩
  unfold terminateBody
  refine Triple.andThen ((signalOnce_spec members calls data active unattempted deadline
    (guest members) (fun _ _ _ holds => holds)
    (fun earlier handle may (_ : True) => mayTerm_guest members earlier handle may) []).consequence
    ?_ (fun _ _ holds => holds) (fun _ state holds => still state holds.1 holds.2)) fun onward => ?_
  · rintro state ⟨terminating, none_⟩
    exact ⟨terminating, trivial, by simp [none_], by simp⟩
  refine Triple.andThen (m := fun _ state => Sound release (MayTerm members) state ∧
    SameCore state.data data) (Triple.given (fun _ => ?_) fun _ => ?_) fun _ => ?_
  · refine (signalService_spec members calls data active unattempted pending deadline fuel).before ?_
    exact fun state holds => ⟨holds.1, fun other member => by simpa using holds.2.2 other member⟩
  · exact fun state holds => ⟨holds.1.sound, holds.1.core⟩
  · exact (observeUntil_spec calls (observeWith_spec (logsAndEndpoint_shows calls) members calls)
      deadline fuel).consequence (fun state holds => still state holds.1 holds.2)
      (fun _ _ holds => holds) (fun _ _ impossible => impossible.elim)

theorem methods_guarded (members : Members) (calls : Callbacks Snap) (fuel : Nat) :
    Guarded release (MayTerm members) (methods members calls fuel) where
  sound
    | .bind => keeps_iff.mpr (bind_spec members calls)
    | .terminateOnce authorized =>
        keeps_iff.mpr (Triple.andThen (terminateWith_spec calls authorized fun deadline data =>
          terminateBody_spec members calls deadline fuel data)
          fun _ => Triple.ret fun _ sound => sound)
    | .observeOnce =>
        keeps_iff.mpr (Triple.andThen (observeOnce_spec (logsAndEndpoint_shows calls) members calls)
          fun _ => Triple.ret fun _ sound => sound)
  settled data active final operation :=
    keeps_iff.mpr (perform_settled members calls data active final operation)

/-- The order of a macOS shutdown, over every sequence of calls and every
behaviour of the callbacks: Guest exit and endpoint retirement come before the
service's TERM, and the retirement before any handle is closed. -/
theorem audit_shutdown_order (members : Members) (calls : Callbacks Snap) (fuel : Nat)
    (operations : List Operation) :
    (∀ (later : List (Event Snap)) (pid : Pid) (handle : Handle) (answer : Except Fault Unit)
      (earlier : List (Event Snap)),
      ((methods members calls fuel).after operations).history =
        later ++ Event.term pid handle answer :: earlier →
      pid ∉ terms earlier ∧ (pid = service members → GuestRetired members earlier)) ∧
    (∀ (later : List (Event Snap)) (pid : Pid) (handle : Handle) (answer : Except Fault Unit)
      (earlier : List (Event Snap)),
      ((methods members calls fuel).after operations).history =
        later ++ Event.close pid handle answer :: earlier →
      Event.retirementReady (.ok true) ∈ earlier) ∧
    (((methods members calls fuel).after operations).data.receipt.resourceState = .reaped →
      Settled release ((methods members calls fuel).after operations).history) ∧
    ∀ error, Event.retirementReady (.error error) ∈
        ((methods members calls fuel).after operations).history →
      ∀ more, ((methods members calls fuel).after (operations ++ more)).data.receipt.resourceState ≠
        .reaped := by
  have guarded := methods_guarded members calls fuel
  have sound := guarded.after operations
  refine ⟨?_, ?_, sound.reaped, ?_⟩
  · intro later pid handle answer earlier split
    have permitted := Lawful.at (split ▸ sound.lawful)
    exact ⟨permitted.1, permitted.2.2⟩
  · intro later pid handle answer earlier split
    obtain ⟨_, closed, snapshot, polls, before, past, _⟩ := Lawful.at (split ▸ sound.lawful)
    rw [past]
    simp [release]
  · intro error refused more
    have blocked := sound.barred error refused
    rw [guarded.final operations more (Or.inr blocked)]
    exact sound.clear blocked

end Proofs

end Bscp.AuditOwner
