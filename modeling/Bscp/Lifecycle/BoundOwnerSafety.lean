import Bscp.Lifecycle.BoundOwner

/-!
Safety of a bound instance over any sequence of its public calls. One invariant,
`Sound`, relates the instance to the history of its callbacks; each method has a
specification over it, and the run of a whole session is the induction on calls.
-/

namespace Bscp.BoundOwner

open Script Session

section Invariant

variable {Snap : Type} [EmptyCollection Snap]
variable (release : List (Event Snap)) (mayTerm : List (Event Snap) → Pid → Handle → Prop)

abbrev State (Snap : Type) := Session (Bound Snap) (Event Snap)

structure Sound (state : State Snap) : Prop where
  lawful : Lawful (Permitted release mayTerm) state.history
  keys : state.data.fds.keys.Nodup
  handles : (opened state.history).map Prod.snd |>.Nodup
  fresh : ∀ entry ∈ opened state.history, entry.2 < state.data.opens
  held : state.data.closeAttempts = [] →
    ∀ entry, entry ∈ opened state.history ↔ entry ∈ state.data.fds
  unclosed : state.data.closeAttempts = [] → closes state.history = []
  early : state.data.armed = false → state.data.cleanupAttempted = false
  idle : state.data.cleanupAttempted = false → state.data.closeAttempts = [] ∧
    state.data.receipt.resourceState ≠ .reaped ∧
    state.data.receipt.identityObservationBlocked = false
  unsigned : state.data.cleanupAttempted = false → terms state.history = []
  armed : state.data.armed = true → ∃ since before : List (Event Snap), state.history = since ++ Event.bound :: before ∧
    (state.data.cleanupAttempted = false → Event.begin (.terminateOnce true) ∉ since)
  reaped : state.data.receipt.resourceState = .reaped → Settled release state.history
  clear : state.data.receipt.identityObservationBlocked = true →
    state.data.receipt.resourceState ≠ .reaped
  barred : ∀ error, Event.retirementReady (.error error) ∈ state.history →
    state.data.receipt.identityObservationBlocked = true

/-- Events that change none of the three views of a history and bar nothing. -/
def Event.silent : Event Snap → Bool
  | .inventory _ | .openFailed _ _ | .exited _ _ | .logsReleased _ | .storageSnapshot _
  | .retirementReady (.ok _) => true
  | _ => false

def SameCore (data other : Bound Snap) : Prop :=
  data.fds = other.fds ∧ data.opens = other.opens ∧ data.closeAttempts = other.closeAttempts ∧
    data.armed = other.armed ∧ data.cleanupAttempted = other.cleanupAttempted ∧
    data.receipt.resourceState = other.receipt.resourceState ∧
    data.receipt.identityObservationBlocked = other.receipt.identityObservationBlocked

def Observing (state : State Snap) : Prop :=
  Sound release mayTerm state ∧ state.data.armed = true ∧ state.data.cleanupAttempted = true

def Vacant (history : List (Event Snap)) : Prop :=
  ∃ polls before : List (Event Snap), history = polls ++ Event.inventory (.ok []) :: before ∧
    (∀ event ∈ polls, ∃ handle, event = Event.exited handle (.ok true)) ∧
    ∀ pid handle, (pid, handle) ∈ opened before → Event.exited handle (.ok true) ∈ polls

/-- The closing loop between two entries: `ready` is the history it started on,
`owned` the handles it was to close and `rest` those still to come. -/
structure Closing (ready : List (Event Snap)) (owned rest : Dict Pid Handle)
    (state : State Snap) : Prop where
  sound : Sound release mayTerm state
  active : state.data.armed = true ∧ state.data.cleanupAttempted = true
  pending : state.data.receipt.resourceState ≠ .reaped
  unblocked : state.data.receipt.identityObservationBlocked = false
  past : ∃ closed, state.history = closed ++ ready ∧ Closed closed ∧
    (∀ entry ∈ owned, entry ∈ rest ∨ .close entry.1 entry.2 (.ok ()) ∈ closed) ∧
    ∀ entry ∈ rest, entry.2 ∉ closes closed
  distinct : (rest.map Prod.snd).Nodup

/-- A log callback that keeps the invariant and, when it says the log is
released, has left exactly the events of `release`. -/
def ShowsRelease (logs : Run Snap Bool) : Prop :=
  ∀ (data : Bound Snap) (history : List (Event Snap)),
    data.armed = true ∧ data.cleanupAttempted = true → data.receipt.resourceState ≠ .reaped →
    Triple (Sound release mayTerm)
      (fun state => Sound release mayTerm state ∧ SameCore state.data data ∧
        state.history = history)
      logs
      (fun ok state => Sound release mayTerm state ∧ SameCore state.data data ∧
        (ok = true → state.history = release ++ history))
      (fun _ => Observing release mayTerm)

structure Terminating (data : Bound Snap) (state : State Snap) : Prop where
  sound : Sound release mayTerm state
  core : SameCore state.data data
  first : FirstTermination state.history

/-- The binding loop before the members in `rest`: nothing is armed yet and none
of them has a handle. -/
structure Binding (rest : List Pid) (state : State Snap) : Prop where
  sound : Sound release mayTerm state
  unarmed : state.data.armed = false
  distinct : rest.Nodup
  unbound : ∀ pid ∈ rest, pid ∉ state.data.fds.keys

variable {release mayTerm}

theorem Sound.silent {state : State Snap} (sound : Sound release mayTerm state)
    {event : Event Snap} (quiet : event.silent = true) (turn : Nat) :
    Sound release mayTerm ⟨state.data, turn, event :: state.history⟩ := by
  have views : opened (event :: state.history) = opened state.history ∧
      closes (event :: state.history) = closes state.history ∧
      terms (event :: state.history) = terms state.history := by
    cases event <;> simp_all [Event.silent, opened, closes, terms]
  have permitted : Permitted release mayTerm state.history event := by
    cases event <;> simp_all [Event.silent, Permitted]
  refine ⟨⟨permitted, sound.lawful⟩, sound.keys, ?_, ?_, ?_, ?_, sound.early, sound.idle, ?_, ?_,
    ?_, sound.clear, ?_⟩
  · simpa only [views.1] using sound.handles
  · simpa only [views.1] using sound.fresh
  · simpa only [views.1] using sound.held
  · simpa only [views.2.1] using sound.unclosed
  · simpa only [views.2.2] using sound.unsigned
  · intro armed
    obtain ⟨since, before, split, unbegun⟩ := sound.armed armed
    refine ⟨event :: since, before, by rw [split]; rfl, fun idle => ?_⟩
    have newest : event ≠ .begin (.terminateOnce true) := by
      rintro rfl
      simp [Event.silent] at quiet
    simpa [Ne.symm newest] using unbegun idle
  · exact fun done => (sound.reaped done).later event views.1
  · intro error member
    rcases List.mem_cons.mp member with rfl | old
    · simp [Event.silent] at quiet
    · exact sound.barred error old

/-- A public call begins. Only an authorized termination of an armed instance
has to reserve its one attempt with it. -/
theorem Sound.begun {state : State Snap} (sound : Sound release mayTerm state)
    (operation : Operation) (attempted : Bool) (turn : Nat)
    (unspent : attempted = false → state.data.cleanupAttempted = false ∧
      (state.data.armed = true → operation ≠ .terminateOnce true))
    (bound : state.data.armed = false → attempted = false) :
    Sound release mayTerm ⟨{ state.data with cleanupAttempted := attempted }, turn,
      .begin operation :: state.history⟩ := by
  refine ⟨⟨trivial, sound.lawful⟩, sound.keys, sound.handles, sound.fresh, sound.held,
    sound.unclosed, bound, fun idle => sound.idle (unspent idle).1,
    fun idle => sound.unsigned (unspent idle).1, ?_,
    fun done => (sound.reaped done).later _ rfl, sound.clear, ?_⟩
  · intro armed
    obtain ⟨since, before, split, unbegun⟩ := sound.armed armed
    refine ⟨.begin operation :: since, before, by rw [split]; rfl, fun idle => ?_⟩
    simp only [List.mem_cons, Event.begin.injEq, not_or]
    exact ⟨fun same => (unspent idle).2 armed same.symm, unbegun (unspent idle).1⟩
  · exact fun error member => sound.barred error (by simpa using member)

theorem Sound.turned {state : State Snap} (sound : Sound release mayTerm state) (turn : Nat) :
    Sound release mayTerm ⟨state.data, turn, state.history⟩ := { sound with }

/-- A change that may block the instance but not reap it. -/
theorem Sound.noted {state : State Snap} (sound : Sound release mayTerm state)
    (data : Bound Snap) (turn : Nat)
    (same : data.fds = state.data.fds ∧ data.opens = state.data.opens ∧
      data.closeAttempts = state.data.closeAttempts ∧ data.armed = state.data.armed ∧
      data.cleanupAttempted = state.data.cleanupAttempted ∧
      data.receipt.resourceState = state.data.receipt.resourceState)
    (clear : data.receipt.identityObservationBlocked = true →
      state.data.cleanupAttempted = true ∧ state.data.receipt.resourceState ≠ .reaped)
    (sticky : state.data.receipt.identityObservationBlocked = true →
      data.receipt.identityObservationBlocked = true) :
    Sound release mayTerm ⟨data, turn, state.history⟩ := by
  obtain ⟨fds, opens, closeAttempts, armed, cleanupAttempted, resourceState⟩ := same
  refine ⟨sound.lawful, ?_, sound.handles, ?_, ?_, ?_, ?_, ?_, ?_, ?_, ?_, ?_,
    fun error member => sticky (sound.barred error member)⟩
  · simpa only [fds] using sound.keys
  · simpa only [opens] using sound.fresh
  · simpa only [fds, closeAttempts] using sound.held
  · simpa only [closeAttempts] using sound.unclosed
  · simpa only [armed, cleanupAttempted] using sound.early
  · intro unspent
    rw [cleanupAttempted] at unspent
    refine ⟨closeAttempts.trans (sound.idle unspent).1,
      resourceState ▸ (sound.idle unspent).2.1, ?_⟩
    by_contra blocked
    simp [clear (by simpa using blocked)] at unspent
  · simpa only [cleanupAttempted] using sound.unsigned
  · simpa only [armed, cleanupAttempted] using sound.armed
  · simpa only [resourceState] using sound.reaped
  · intro blocked
    rw [resourceState]
    exact (clear blocked).2

/-- A change of the receipt that leaves the resource state and the block alone. -/
theorem Sound.remarked {state : State Snap} (sound : Sound release mayTerm state)
    (data : Bound Snap) (same : SameCore data state.data) :
    Sound release mayTerm ⟨data, state.turn, state.history⟩ := by
  obtain ⟨fds, opens, closeAttempts, armed, cleanupAttempted, resource, blocked⟩ := same
  refine sound.noted _ _ ⟨fds, opens, closeAttempts, armed, cleanupAttempted, resource⟩ ?_
    fun isBlocked => blocked.trans isBlocked
  intro isBlocked
  rw [blocked] at isBlocked
  refine ⟨?_, sound.clear isBlocked⟩
  by_contra unspent
  simp [(sound.idle (by simpa using unspent)).2.2] at isBlocked

/-- A callback that only asks: whatever the answer, one silent event is added. -/
theorem query_silent {α : Type} {tape : Tape Fault α} {event : Except Fault α → Event Snap}
    (quiet : ∀ answer, (event answer).silent = true) (data : Bound Snap)
    (history : List (Event Snap)) :
    Triple (Sound release mayTerm)
      (fun state => Sound release mayTerm state ∧ state.data = data ∧ state.history = history)
      (query tape event)
      (fun value state => Sound release mayTerm state ∧ state.data = data ∧
        state.history = event (.ok value) :: history)
      (fun _ state => Sound release mayTerm state ∧ state.data = data) := by
  apply Triple.query
  · rintro state ⟨sound, same, past⟩ value
    exact ⟨sound.silent (quiet _) _, same, by rw [past]⟩
  · rintro state ⟨sound, same, _⟩ error
    exact ⟨sound.silent (quiet _) _, same⟩

/-- Every handle asked has reported its exit if the answer is yes. -/
theorem allExited_spec (calls : Callbacks Snap) (data : Bound Snap) (asked : List Handle)
    (history : List (Event Snap)) :
    Triple (Sound release mayTerm)
      (fun state => Sound release mayTerm state ∧ state.data = data ∧ state.history = history)
      (allExited calls asked)
      (fun gone state => Sound release mayTerm state ∧ state.data = data ∧
        (gone = true → ∃ polls : List (Event Snap), state.history = polls ++ history ∧
          (∀ event ∈ polls, ∃ handle, event = Event.exited handle (.ok true)) ∧
          ∀ handle ∈ asked, Event.exited handle (.ok true) ∈ polls))
      (fun _ state => Sound release mayTerm state ∧ state.data = data) := by
  induction asked generalizing history with
  | nil =>
      apply Triple.ret
      rintro state ⟨sound, same, past⟩
      exact ⟨sound, same, fun _ => ⟨[], by simpa using past, by simp, by simp⟩⟩
  | cons handle rest ih =>
      apply Triple.andThen (query_silent (fun _ => rfl) data history)
      intro gone
      apply Triple.ite
      · intro yes
        subst yes
        refine (ih (.exited handle (.ok true) :: history)).consequence (fun _ holds => holds)
          ?_ (fun _ _ holds => holds)
        rintro value state ⟨sound, same, polled⟩
        refine ⟨sound, same, fun all => ?_⟩
        obtain ⟨polls, past, exits, covered⟩ := polled all
        refine ⟨polls ++ [.exited handle (.ok true)], by simp [past], ?_, ?_⟩
        · intro event member
          rcases List.mem_append.mp member with old | last
          · exact exits event old
          · exact ⟨handle, by simpa using last⟩
        · intro other member
          rcases List.mem_cons.mp member with same | later
          · simp [same]
          · exact List.mem_append_left _ (covered other later)
      · intro no
        apply Triple.ret
        rintro state ⟨sound, same, _⟩
        exact ⟨sound, same, fun yes => by simp at yes⟩

theorem note_spec {change : Receipt Snap → Receipt Snap} (data : Bound Snap)
    (history : List (Event Snap))
    (kept : (change data.receipt).resourceState = data.receipt.resourceState)
    (quiet : (change data.receipt).identityObservationBlocked =
      data.receipt.identityObservationBlocked) {fault : Fault → State Snap → Prop} :
    Triple (Sound release mayTerm)
      (fun state => Sound release mayTerm state ∧ state.data = data ∧ state.history = history)
      (note change)
      (fun _ state => Sound release mayTerm state ∧
        state.data = { data with receipt := change data.receipt } ∧ state.history = history)
      fault := by
  apply Triple.update
  rintro state ⟨sound, rfl, rfl⟩
  exact ⟨sound.remarked _ ⟨rfl, rfl, rfl, rfl, rfl, kept, quiet⟩, rfl, rfl⟩

theorem observeIdentity_spec (members : Members) (calls : Callbacks Snap) (data : Bound Snap)
    (active : data.armed = true ∧ data.cleanupAttempted = true)
    (unattempted : data.closeAttempts = []) (pending : data.receipt.resourceState ≠ .reaped) :
    Triple (Sound release mayTerm)
      (fun state => Sound release mayTerm state ∧ state.data = data)
      (observeIdentity members calls)
      (fun seen state => Sound release mayTerm state ∧ state.data = data ∧
        (seen.1 = [] → seen.2 = true → Vacant state.history))
      (fun _ => Observing release mayTerm) := by
  refine Triple.handle (c := fun _ state => Sound release mayTerm state ∧ state.data = data)
    ?_ fun exc => ?_
  · intro state holds
    refine Triple.andThen (query_silent (fun _ => rfl) data state.history) (fun now => ?_)
      state ⟨holds.1, holds.2, rfl⟩
    refine Triple.requiring (fun _ _ holds => ⟨holds.1, holds.2.1⟩) fun _ => ?_
    refine Triple.requiring (fun _ _ holds => ⟨holds.1, holds.2.1⟩) fun _ => ?_
    refine Triple.reading fun self later holds => ?_
    obtain ⟨holds, same⟩ := holds
    obtain rfl : data = self := holds.2.1.symm.trans same
    refine Triple.andThen (allExited_spec calls data _ _) (fun gone => ?_) later holds
    apply Triple.ret
    rintro last ⟨sound, same, polled⟩
    refine ⟨sound, same, fun empty all => ?_⟩
    obtain ⟨polls, past, exits, covered⟩ := polled all
    refine ⟨polls, state.history, by rw [past, show now = [] from empty], exits, ?_⟩
    intro pid handle member
    have listed : (pid, handle) ∈ opened last.history := by
      rw [past]
      simp only [opened, List.filterMap_append, List.mem_append]
      exact Or.inr (by simpa [opened] using member)
    have owned := (sound.held (by rw [same]; exact unattempted) _).mp listed
    rw [same] at owned
    exact covered handle (List.mem_map.mpr ⟨_, owned, rfl⟩)
  · refine Triple.andThen (m := fun _ => Observing release mayTerm) (Triple.update ?_)
      fun _ => Triple.raise fun _ holds => holds
    rintro state ⟨sound, same⟩
    refine ⟨sound.noted _ _ ⟨rfl, rfl, rfl, rfl, rfl, rfl⟩ (fun _ => ?_) (fun _ => rfl), ?_⟩
    · rw [same]
      exact ⟨active.2, pending⟩
    · simpa only [same] using active

theorem closeMember_spec {ready : List (Event Snap)} {owned : Dict Pid Handle}
    (released : ∀ closed, Closed closed → Released release (closed ++ ready))
    (unclosed : closes ready = []) (calls : Callbacks Snap)
    (entry : Pid × Handle) (rest : Dict Pid Handle) :
    Triple (Sound release mayTerm)
      (Closing release mayTerm ready owned (entry :: rest))
      (closeMember calls entry)
      (fun _ => Closing release mayTerm ready owned rest)
      (fun _ => Observing release mayTerm) := by
  obtain ⟨pid, handle⟩ := entry
  -- The close and its answer, on a state that has just reserved the attempt.
  have closedSound : ∀ state : State Snap,
      Closing release mayTerm ready owned ((pid, handle) :: rest) state →
      ∀ answer data turn, data.fds.keys.Nodup → data.opens = state.data.opens →
        data.closeAttempts ≠ [] → data.armed = true →
        data.cleanupAttempted = state.data.cleanupAttempted →
        data.receipt = state.data.receipt →
        Sound release mayTerm ⟨data, turn, .close pid handle answer :: state.history⟩ := by
    intro state closing answer data turn keys opens attempted armed cleanup receipt
    obtain ⟨closed, past, only, _, apart⟩ := closing.past
    have sound := closing.sound
    have fresh : handle ∉ closes state.history := by
      rw [past, closes_append, unclosed, List.append_nil]
      exact apart (pid, handle) List.mem_cons_self
    refine ⟨⟨⟨fresh, past ▸ released closed only⟩, sound.lawful⟩, keys, sound.handles,
      fun item member => opens ▸ sound.fresh item member, fun none => absurd none attempted,
      fun none => absurd none attempted, fun idle => by simp [armed] at idle, ?_, ?_, ?_, ?_, ?_,
      fun error member => ?_⟩
    · intro idle
      simp [cleanup, closing.active] at idle
    · intro idle
      exact sound.unsigned (cleanup ▸ idle)
    · intro _
      obtain ⟨since, before, split, unbegun⟩ := sound.armed closing.active.1
      refine ⟨.close pid handle answer :: since, before, by rw [split]; rfl, fun idle => ?_⟩
      simpa using unbegun (cleanup ▸ idle)
    · intro done
      rw [receipt] at done
      exact absurd done closing.pending
    · intro _
      rw [receipt]
      exact closing.pending
    · rw [receipt]
      exact sound.barred error (by simpa using member)
  intro state closing
  simp only [closeMember, bind_eq, Script.andThen, Session.update, Script.modify, Session.query]
  cases answer : calls.close handle state.turn with
  | error error =>
      exact ⟨closedSound state closing _ _ _ closing.sound.keys rfl (by simp) closing.active.1
        rfl rfl, closing.active⟩
  | ok value =>
      have keys : (Dict.remove state.data.fds pid).keys.Nodup :=
        closing.sound.keys.sublist (List.filter_sublist.map Prod.fst)
      refine ⟨closedSound state closing _ _ _ keys rfl (by simp) closing.active.1 rfl rfl,
        closing.active, closing.pending, closing.unblocked, ?_,
        (List.nodup_cons.mp closing.distinct).2⟩
      obtain ⟨closed, past, only, covered, apart⟩ := closing.past
      refine ⟨.close pid handle (.ok ()) :: closed, by simp [past], ?_, ?_, ?_⟩
      · intro event member
        rcases List.mem_cons.mp member with same | old
        · exact ⟨pid, handle, same⟩
        · exact only event old
      · intro item member
        rcases covered item member with here | gone
        · rcases List.mem_cons.mp here with same | later
          · exact Or.inr (by simp [same])
          · exact Or.inl later
        · exact Or.inr (List.mem_cons_of_mem _ gone)
      · intro item member
        have other : item.2 ≠ handle := by
          rintro rfl
          exact (List.nodup_cons.mp closing.distinct).1 (List.mem_map.mpr ⟨item, member, rfl⟩)
        simpa [closes, other] using apart item (List.mem_cons_of_mem _ member)

theorem Closing.reaped {ready : List (Event Snap)} {owned : Dict Pid Handle}
    (held : ∀ entry, entry ∈ opened ready → entry ∈ owned)
    (released : ∀ closed, Closed closed → Released release (closed ++ ready)) {state : State Snap}
    (closing : Closing release mayTerm ready owned [] state)
    (snapshot : Snap) :
    Sound release mayTerm ⟨{ state.data with receipt := { state.data.receipt with
      storageSnapshot := some snapshot, storageState := .released, storageReleased := some true,
      resourceState := .reaped, observationPending := some false } }, state.turn,
      state.history⟩ := by
  obtain ⟨closed, past, only, covered, _⟩ := closing.past
  have sound := closing.sound
  refine { sound with
    idle := fun unspent => ?_
    reaped := fun _ => ⟨[], state.history, rfl, past ▸ released closed only, ?_⟩
    clear := fun blocked => ?_ }
  · exact absurd (closing.active.2.symm.trans unspent) (by simp)
  · intro entry member
    have listed : entry ∈ opened ready := by
      simpa [past, opened_append, only.opened] using member
    have gone := (covered entry (held entry listed)).resolve_left (by simp)
    rw [past]
    exact List.mem_append_left _ gone
  · exact absurd (closing.unblocked.symm.trans blocked) (by simp)

theorem handleOf_spec {pre : State Snap → Prop} {fault : Fault → State Snap → Prop} (pid : Pid)
    (missing : ∀ error state, pre state → fault error state) :
    Triple (Sound release mayTerm) pre (handleOf pid)
      (fun handle state => pre state ∧ state.data.fds.find pid = some handle) fault := by
  intro state holds
  simp only [handleOf, bind_eq, Script.andThen, Session.read]
  cases found : state.data.fds.find pid with
  | none => exact missing _ _ holds
  | some handle => exact ⟨holds, found⟩

theorem compareMembers_spec (calls : Callbacks Snap) (now : Inventory) (data : Bound Snap)
    (history : List (Event Snap)) (rows : Inventory) (pending : Bool) :
    Triple (Sound release mayTerm)
      (fun state => Sound release mayTerm state ∧ state.data = data ∧
        Polled now history state.history)
      (compareMembers calls now rows pending)
      (fun _ state => (Sound release mayTerm state ∧ state.data = data ∧
        Polled now history state.history) ∧
        ∀ row ∈ rows, ∀ current, now.find row.1 = some current → current = row.2)
      (fun _ state => Sound release mayTerm state ∧ state.data = data) := by
  induction rows generalizing pending with
  | nil => exact Triple.ret fun state holds => ⟨holds, by simp⟩
  | cons row rest ih =>
      obtain ⟨pid, identity⟩ := row
      refine Triple.andThen (handleOf_spec pid fun _ _ holds => ⟨holds.1, holds.2.1⟩) fun handle => ?_
      refine Triple.andThen (m := fun _ state => Sound release mayTerm state ∧ state.data = data ∧
        Polled now history state.history) (Triple.query ?_ ?_) fun gone => ?_
      · rintro state ⟨⟨sound, same, polls, past, only⟩, _⟩ answer
        refine ⟨sound.silent rfl _, same, .exited handle (.ok answer) :: polls, by simp [past], ?_⟩
        intro event member
        rcases List.mem_cons.mp member with newest | old
        · exact ⟨_, _, newest⟩
        · exact only event old
      · rintro state ⟨⟨sound, same, _⟩, _⟩ error
        exact ⟨sound.silent rfl _, same⟩
      refine Triple.requiring (fun _ _ holds => ⟨holds.1, holds.2.1⟩) fun agrees => ?_
      refine (ih _).consequence (fun _ holds => holds) ?_ (fun _ _ holds => holds)
      rintro value state ⟨holds, others⟩
      refine ⟨holds, fun row member current listed => ?_⟩
      rcases List.mem_cons.mp member with rfl | later
      · simpa [listed] using agrees
      · exact others row later current listed

/-- `validate` raises unless the inventory it has just taken agrees with the members. -/
theorem validate_spec (members : Members) (calls : Callbacks Snap) (data : Bound Snap)
    (history : List (Event Snap)) :
    Triple (Sound release mayTerm)
      (fun state => Sound release mayTerm state ∧ state.data = data ∧ state.history = history)
      (validate members calls)
      (fun _ state => Sound release mayTerm state ∧ state.data = data ∧
        ∃ now, Polled now history state.history ∧ Agrees members now)
      (fun _ state => Sound release mayTerm state ∧ state.data = data) := by
  unfold validate
  refine Triple.andThen (query_silent (fun _ => rfl) data history) fun now => ?_
  refine Triple.requiring (fun _ _ holds => ⟨holds.1, holds.2.1⟩) fun owned => ?_
  refine Triple.andThen ((compareMembers_spec calls now data history members.rows false).before
    fun state holds => ⟨holds.1, holds.2.1, [], holds.2.2, by simp⟩) fun pending => ?_
  apply Triple.ret
  rintro state ⟨⟨sound, same, polled⟩, exact_⟩
  refine ⟨sound, same, now, polled, fun pid identity listed => ?_⟩
  have known : pid ∈ members.pids := by
    by_contra absent
    have outside : pid ∉ now.keys := fun member =>
      absent (by simpa using List.all_eq_true.mp owned pid member)
    simp [(Dict.find_none_iff now pid).mpr outside] at listed
  obtain ⟨row, member, rfl⟩ := List.mem_map.mp known
  rw [exact_ row member identity listed]
  exact Dict.find_of_mem members.distinct member

/-- A signal is sent once the caller has shown that it may be. -/
theorem signal_spec (calls : Callbacks Snap) (data : Bound Snap) (history : List (Event Snap))
    (active : data.armed = true ∧ data.cleanupAttempted = true) (pid : Pid) (handle : Handle)
    (first : pid ∉ terms history) (may : mayTerm history pid handle) :
    Triple (Sound release mayTerm)
      (fun state => Sound release mayTerm state ∧ SameCore state.data data ∧
        state.history = history)
      (signal calls pid handle)
      (fun _ state => Sound release mayTerm state ∧ SameCore state.data data ∧
        ∃ answer, state.history = .term pid handle answer :: history)
      (fun _ state => Sound release mayTerm state ∧ SameCore state.data data) := by
  unfold signal
  refine Triple.andThen (m := fun _ state => Sound release mayTerm state ∧
      SameCore state.data data ∧ state.history = history) (Triple.update ?_) fun _ => ?_
  · rintro state ⟨sound, core, past⟩
    exact ⟨sound.remarked _ ⟨rfl, rfl, rfl, rfl, rfl, rfl, rfl⟩, core, past⟩
  refine Triple.andThen (m := fun _ state => Sound release mayTerm state ∧
      SameCore state.data data ∧ state.history = history) (Triple.update ?_) fun _ => ?_
  · rintro state ⟨sound, core, past⟩
    exact ⟨sound.remarked _ ⟨rfl, rfl, rfl, rfl, rfl, rfl, rfl⟩, core, past⟩
  have sent : ∀ state : State Snap, Sound release mayTerm state → SameCore state.data data →
      state.history = history → ∀ answer turn,
      Sound release mayTerm ⟨state.data, turn, .term pid handle answer :: state.history⟩ := by
    rintro state sound ⟨_, _, _, _, cleanup, _⟩ rfl answer turn
    refine ⟨⟨⟨first, may⟩, sound.lawful⟩, sound.keys, sound.handles, sound.fresh, sound.held,
      sound.unclosed, sound.early, sound.idle, ?_, ?_, fun done => (sound.reaped done).later _ rfl,
      sound.clear, fun error member => sound.barred error (by simpa using member)⟩
    · intro unspent
      simp [cleanup, active] at unspent
    · intro armed
      obtain ⟨since, before, split, unbegun⟩ := sound.armed armed
      refine ⟨.term pid handle answer :: since, before, by rw [split]; rfl, fun unspent => ?_⟩
      simpa using unbegun unspent
  refine Triple.andThen (m := fun _ state => Sound release mayTerm state ∧
      SameCore state.data data ∧ ∃ answer, state.history = .term pid handle answer :: history)
    (Triple.query ?_ ?_) fun _ => Triple.update ?_
  · rintro state ⟨sound, core, past⟩ value
    exact ⟨sent state sound core past _ _, core, .ok value, by rw [past]⟩
  · rintro state ⟨sound, core, past⟩ error
    exact ⟨sent state sound core past _ _, core⟩
  · rintro state ⟨sound, core, past⟩
    exact ⟨sound.remarked _ ⟨rfl, rfl, rfl, rfl, rfl, rfl, rfl⟩, core, past⟩

/-- One `validate` and the exit poll after it leave a history on which a TERM of
the polled member may be sent. `r` is what the caller has shown of the call
before; it has to outlast the events of that call. -/
theorem signalOnce_spec (members : Members) (calls : Callbacks Snap) (data : Bound Snap)
    (active : data.armed = true ∧ data.cleanupAttempted = true)
    (unattempted : data.closeAttempts = []) (deadline : Int) (pid : Pid)
    {r : List (Event Snap) → Prop}
    (lasting : ∀ newer earlier, (∀ operation, .begin operation ∉ newer) → r earlier →
      r (newer ++ earlier))
    (may : ∀ earlier handle, MayTerm members earlier pid handle → r earlier →
      mayTerm earlier pid handle) (sent : List Pid) :
    Triple (Sound release mayTerm)
      (fun state => Terminating release mayTerm data state ∧ r state.history ∧
        (∀ other ∈ terms state.history, other ∈ sent) ∧ pid ∉ sent)
      (signalOnce members calls deadline pid)
      (fun _ state => Terminating release mayTerm data state ∧ r state.history ∧
        ∀ other ∈ terms state.history, other = pid ∨ other ∈ sent)
      (fun _ state => Sound release mayTerm state ∧ SameCore state.data data) := by
  unfold signalOnce
  refine Triple.sensing (fun state turn holds =>
    ⟨⟨holds.1.sound.turned turn, holds.1.core, holds.1.first⟩, holds.2⟩) fun now => ?_
  refine Triple.ite (fun _ => Triple.ret fun state holds =>
    ⟨holds.1, holds.2.1, fun other member => Or.inr (holds.2.2.1 other member)⟩) fun _ => ?_
  apply Triple.start
  rintro start ⟨⟨sound, core, first⟩, prepared, listed, unsent⟩
  -- What the polls of this turn leave is still the same call.
  have polling : ∀ now (state : State Snap), Sound release mayTerm state →
      state.data = start.data → Polled now start.history state.history →
      Terminating release mayTerm data state ∧ r state.history ∧
        ∀ other ∈ terms state.history, other ∈ sent := by
    intro now state sound same polled
    obtain ⟨newer, past, quiet⟩ := polled.sameCall
    refine ⟨⟨sound, same ▸ core, past ▸ first.later newer quiet⟩,
      past ▸ lasting newer _ quiet prepared, ?_⟩
    rw [polled.sameTerms]
    exact listed
  refine Triple.andThen ((validate_spec members calls start.data start.history).consequence
    (by rintro state rfl; exact ⟨sound, rfl, rfl⟩) (fun _ _ holds => holds)
    (fun _ state holds => ⟨holds.1, holds.2 ▸ core⟩)) fun valid => ?_
  apply Triple.ite
  · refine fun _ => Triple.ret ?_
    rintro state ⟨sound, same, now, polled, _⟩
    obtain ⟨terminating, prepared, listed⟩ := polling now state sound same polled
    exact ⟨terminating, prepared, fun other member => Or.inr (listed other member)⟩
  intro _
  refine Triple.andThen (handleOf_spec pid fun _ state holds => ⟨holds.1, holds.2.1 ▸ core⟩)
    fun handle => ?_
  refine Triple.andThen (m := fun _ state => Sound release mayTerm state ∧
      state.data = start.data ∧ start.data.fds.find pid = some handle ∧
      ∃ now, Polled now start.history state.history ∧ Agrees members now)
    (Triple.query ?_ ?_) fun gone => ?_
  · rintro state ⟨⟨sound, same, now, polled, agrees⟩, found⟩ answer
    exact ⟨sound.silent rfl _, same, same ▸ found, now, polled.exited _ _, agrees⟩
  · rintro state ⟨⟨sound, same, _⟩, _⟩ error
    exact ⟨sound.silent rfl _, same ▸ core⟩
  apply Triple.ite
  · refine fun _ => Triple.ret ?_
    rintro state ⟨sound, same, _, now, polled, _⟩
    obtain ⟨terminating, prepared, listed⟩ := polling now state sound same polled
    exact ⟨terminating, prepared, fun other member => Or.inr (listed other member)⟩
  intro _
  apply Triple.start
  rintro middle ⟨sound, same, found, now, polled, agrees⟩
  obtain ⟨terminating, prepared, listed⟩ := polling now middle sound same polled
  have held := (sound.held (by rw [same]; exact core.2.2.1.trans unattempted) (pid, handle)).mpr
    (by rw [same]; exact Dict.find_mem found)
  obtain ⟨polls, past, only⟩ := polled
  refine Triple.andThen ((signal_spec calls data middle.history active pid handle
    (fun member => unsent (listed pid member))
    (may _ _ ⟨held, ⟨polls, now, start.history, past, only, agrees⟩, terminating.first⟩
      prepared)).before ?_) fun _ => Triple.ret ?_
  · rintro state rfl
    exact ⟨sound, same ▸ core, rfl⟩
  · rintro state ⟨sound, core, answer, marked⟩
    refine ⟨⟨sound, core, ?_⟩, ?_, ?_⟩
    · rw [marked]
      exact terminating.first.later [_] (by simp)
    · rw [marked]
      exact lasting [_] _ (by simp) prepared
    · rw [marked]
      intro other member
      rcases List.mem_cons.mp member with newest | old
      · exact Or.inl newest
      · exact Or.inr (listed other old)

theorem signalEach_spec (members : Members) (calls : Callbacks Snap) (data : Bound Snap)
    (active : data.armed = true ∧ data.cleanupAttempted = true)
    (unattempted : data.closeAttempts = []) (deadline : Int) (pids sent : List Pid) :
    Triple (Sound release (MayTerm members))
      (fun state => Terminating release (MayTerm members) data state ∧
        (∀ other ∈ terms state.history, other ∈ sent) ∧ (pids ++ sent).Nodup)
      (signalEach members calls deadline pids)
      (fun _ state => Sound release (MayTerm members) state ∧ SameCore state.data data)
      (fun _ state => Sound release (MayTerm members) state ∧ SameCore state.data data) := by
  induction pids generalizing sent with
  | nil => exact Triple.ret fun state holds => ⟨holds.1.sound, holds.1.core⟩
  | cons pid rest ih =>
      apply Triple.start
      rintro start ⟨terminating, listed, distinct⟩
      have fresh := List.nodup_cons.mp distinct
      refine Triple.andThen ((signalOnce_spec members calls data active unattempted deadline pid
        (fun _ _ _ holds => holds) (fun _ _ may (_ : True) => may) sent).before ?_) fun onward => ?_
      · rintro state rfl
        exact ⟨terminating, trivial, listed, fun member => fresh.1 (List.mem_append_right _ member)⟩
      apply Triple.ite
      · refine fun _ => (ih (pid :: sent)).before ?_
        rintro state ⟨terminating, _, listed⟩
        refine ⟨terminating, fun other member => List.mem_cons.mpr (listed other member), ?_⟩
        exact List.nodup_middle.mpr distinct
      · exact fun _ => Triple.ret fun state holds => ⟨holds.1.sound, holds.1.core⟩

theorem retain_spec {fault : Fault → State Snap → Prop} :
    Triple (Sound release mayTerm) (Observing release mayTerm) (retain : Run Snap (Receipt Snap))
      (fun result state => Observing release mayTerm state ∧ result = state.data.receipt)
      fault := by
  rintro state ⟨sound, active⟩
  exact ⟨⟨sound.remarked _ ⟨rfl, rfl, rfl, rfl, rfl, rfl, rfl⟩, active⟩, rfl⟩

/-- Observations inside a termination: none of them raises, and the loop goes on
only while the receipt has not settled. -/
theorem observeUntil_spec (calls : Callbacks Snap) {observe : Run Snap (Receipt Snap)}
    (once : Triple (Sound release mayTerm) (Observing release mayTerm) observe
      (fun result state => Observing release mayTerm state ∧ result = state.data.receipt)
      (fun _ _ => False)) (deadline : Int) (fuel : Nat) :
    Triple (Sound release mayTerm)
      (fun state => Observing release mayTerm state ∧
        state.data.receipt.resourceState ≠ .reaped)
      (observeUntil calls observe deadline fuel)
      (fun _ => Observing release mayTerm)
      (fun _ _ => False) := by
  refine Triple.loop ?_ (fun _ holds => holds.1.1) fuel
  have turned : ∀ (state : State Snap) (turn : Nat), (Observing release mayTerm state ∧
      state.data.receipt.resourceState ≠ .reaped) →
      Observing release mayTerm { state with turn := turn } ∧
        state.data.receipt.resourceState ≠ .reaped :=
    fun state turn holds => ⟨⟨holds.1.1.turned turn, holds.1.2⟩, holds.2⟩
  refine Triple.sensing turned fun now => Triple.ite (fun _ => ?_) fun _ => ?_
  · refine Triple.andThen (once.before fun _ holds => holds.1) fun result => ?_
    apply Triple.ite
    · exact fun _ => Triple.ret fun _ holds => holds.1
    · intro neither
      simp only [not_or] at neither
      refine Triple.sensing (fun state turn holds => ⟨⟨holds.1.1.turned turn, holds.1.2⟩, holds.2⟩)
        fun _ => Triple.ret ?_
      rintro state ⟨observing, rfl⟩
      exact ⟨observing, neither.1⟩
  · exact Triple.ret fun _ holds => holds.1

/-- Both termination methods: their body runs on a fresh first termination, and
an error that escapes it finds no reaped receipt. -/
theorem terminateWith_spec (calls : Callbacks Snap) (authorized : Bool)
    {body : Int → Run Snap (Option (Receipt Snap))}
    (inner : ∀ deadline data, data.armed = true ∧ data.cleanupAttempted = true →
      data.closeAttempts = [] → data.receipt.resourceState ≠ .reaped →
      Triple (Sound release mayTerm)
        (fun state => Terminating release mayTerm data state ∧ terms state.history = [])
        (body deadline) (fun _ => Observing release mayTerm)
        (fun _ state => Observing release mayTerm state ∧
          state.data.receipt.resourceState ≠ .reaped)) :
    Triple (Sound release mayTerm) (Sound release mayTerm)
      (do
        mark (.begin (.terminateOnce authorized))
        terminateWith calls authorized body)
      (fun _ => Sound release mayTerm) (fun _ => Sound release mayTerm) := by
  apply Triple.start
  intro start sound
  have refusable : start.data.cleanupAttempted = true ∨ start.data.armed = false ∨
      authorized = false → Sound release mayTerm
        ⟨start.data, start.turn, .begin (.terminateOnce authorized) :: start.history⟩ := by
    intro reason
    refine { sound.begun (.terminateOnce authorized) start.data.cleanupAttempted start.turn
      (fun idle => ⟨idle, fun armed same => ?_⟩) sound.early with }
    simp_all
  refine Triple.andThen (m := fun _ state => state =
    ⟨start.data, start.turn, .begin (.terminateOnce authorized) :: start.history⟩)
    (Triple.mark (by rintro state rfl; rfl)) fun _ => ?_
  unfold terminateWith
  refine Triple.reading fun data => ?_
  apply Triple.start
  rintro marked ⟨rfl, rfl⟩
  refine Triple.requiring ?_ fun allowed => Triple.requiring ?_ fun first => ?_
  · rintro refused state rfl
    rcases Bool.and_eq_false_iff.mp refused with unauthorized | unarmed
    · exact refusable (Or.inr (Or.inr unauthorized))
    · exact refusable (Or.inr (Or.inl unarmed))
  · rintro refused state rfl
    exact refusable (Or.inl (by simpa using refused))
  simp only [Bool.and_eq_true] at allowed
  obtain ⟨rfl, armed⟩ := allowed
  have unspent : start.data.cleanupAttempted = false := by simpa using first
  refine Triple.andThen (m := fun _ state => Terminating release mayTerm
      { start.data with cleanupAttempted := true } state ∧ terms state.history = [])
    (Triple.update ?_) fun _ => ?_
  · rintro state rfl
    obtain ⟨since, before, split, unbegun⟩ := sound.armed armed
    refine ⟨⟨sound.begun (.terminateOnce true) true _ (by simp) (by simp [armed]),
      ⟨rfl, rfl, rfl, rfl, rfl, rfl, rfl⟩, [], since, before, by rw [split]; rfl, by simp,
      unbegun unspent⟩, ?_⟩
    simpa [terms] using sound.unsigned unspent
  have idle := sound.idle unspent
  refine Triple.sensing (fun state turn holds =>
    ⟨⟨holds.1.sound.turned turn, holds.1.core, holds.1.first⟩, holds.2⟩) fun now => ?_
  refine Triple.andThen (m := fun _ state => Terminating release mayTerm
      { start.data with cleanupAttempted := true } state ∧ terms state.history = [])
    (Triple.update ?_) fun _ => ?_
  · rintro state ⟨⟨sound, core, first⟩, none_⟩
    exact ⟨⟨sound.remarked _ ⟨rfl, rfl, rfl, rfl, rfl, rfl, rfl⟩, core, first⟩, none_⟩
  refine Triple.andThen (m := fun _ => Observing release mayTerm)
    (Triple.handle (c := fun _ state => Observing release mayTerm state ∧
        state.data.receipt.resourceState ≠ .reaped)
      (Triple.andThen (inner (now + 5) _ ⟨armed, rfl⟩ idle.1 idle.2.1) fun early => ?_)
      fun exc => ?_) fun early => ?_
  · cases early with
    | some receipt => exact Triple.ret fun _ holds => holds
    | none =>
        refine Triple.andThen (m := fun _ => Observing release mayTerm) (Triple.update ?_)
          fun _ => Triple.ret fun _ holds => holds
        rintro state ⟨sound, active⟩
        exact ⟨sound.remarked _ ⟨rfl, rfl, rfl, rfl, rfl, rfl, rfl⟩, active⟩
  · refine Triple.andThen (m := fun _ => Observing release mayTerm) (Triple.update ?_)
      fun _ => Triple.ret fun _ holds => holds
    rintro state ⟨⟨sound, active⟩, pending⟩
    exact ⟨sound.noted _ _ ⟨rfl, rfl, rfl, rfl, rfl, rfl⟩ (fun _ => ⟨active.2, pending⟩)
      (fun _ => rfl), active⟩
  · cases early with
    | some receipt => exact Triple.ret fun _ holds => holds.1
    | none =>
        exact retain_spec.consequence (fun _ holds => holds) (fun _ _ holds => holds.1.1)
          (fun _ _ (holds : Sound release mayTerm _) => holds)

theorem openMember_spec (calls : Callbacks Snap) (pid : Pid) (rest : List Pid) :
    Triple (Sound release mayTerm) (Binding release mayTerm (pid :: rest)) (openMember calls pid)
      (fun _ => Binding release mayTerm rest) (fun _ => Sound release mayTerm) := by
  rintro state ⟨sound, unarmed, distinct, unbound⟩
  simp only [openMember]
  cases calls.opened pid state.turn with
  | error error => exact sound.silent rfl _
  | ok _ =>
      have idle := sound.idle (sound.early unarmed)
      have absent : pid ∉ state.data.fds.keys := unbound pid List.mem_cons_self
      have grown := Dict.put_fresh state.data.opens absent
      have keys : (Dict.put state.data.fds pid state.data.opens).keys =
          state.data.fds.keys ++ [pid] := by
        rw [grown]; simp [Dict.keys]
      have seen : opened (.opened pid state.data.opens :: state.history) =
          (pid, state.data.opens) :: opened state.history := rfl
      refine ⟨⟨⟨trivial, sound.lawful⟩, ?_, ?_, ?_, ?_, sound.unclosed, sound.early, sound.idle,
        sound.unsigned, fun armed => by simp [unarmed] at armed,
        fun done => absurd done idle.2.1, sound.clear,
        fun error member => sound.barred error (by simpa using member)⟩, unarmed,
        (List.nodup_cons.mp distinct).2, ?_⟩
      · rw [keys]
        refine List.nodup_append.mpr ⟨sound.keys, List.nodup_singleton pid, ?_⟩
        intro key member other last same
        rw [List.mem_singleton.mp last] at same
        exact absent (same ▸ member)
      · rw [seen]
        refine List.nodup_cons.mpr ⟨fun member => ?_, sound.handles⟩
        obtain ⟨entry, listed, same⟩ := List.mem_map.mp member
        exact absurd same (Nat.ne_of_lt (sound.fresh entry listed))
      · rw [seen]
        intro entry member
        rcases List.mem_cons.mp member with rfl | old
        · exact Nat.lt_succ_self _
        · exact Nat.lt_succ_of_lt (sound.fresh entry old)
      · intro unattempted entry
        rw [seen, grown, List.mem_cons, List.mem_append, List.mem_singleton,
          sound.held unattempted entry, or_comm]
      · intro other member
        rw [keys, List.mem_append, List.mem_singleton, not_or]
        refine ⟨unbound other (List.mem_cons_of_mem _ member), ?_⟩
        rintro rfl
        exact (List.nodup_cons.mp distinct).1 member

theorem bindMember_spec (members : Members) (calls : Callbacks Snap) (pid : Pid)
    (rest : List Pid) :
    Triple (Sound release mayTerm) (Binding release mayTerm (pid :: rest))
      (bindMember members calls pid) (fun _ => Binding release mayTerm rest)
      (fun _ => Sound release mayTerm) := by
  have asked : ∀ {α : Type} {tape : Tape Fault α} {event : Except Fault α → Event Snap},
      (∀ answer, (event answer).silent = true) →
      Triple (Sound release mayTerm) (Binding release mayTerm rest) (query tape event)
        (fun _ => Binding release mayTerm rest) (fun _ => Sound release mayTerm) := by
    intro α tape event quiet
    apply Triple.query
    · exact fun state holds value =>
        ⟨holds.sound.silent (quiet _) _, holds.unarmed, holds.distinct, holds.unbound⟩
    · exact fun state holds error => holds.sound.silent (quiet _) _
  refine Triple.andThen (openMember_spec calls pid rest) fun handle => ?_
  refine Triple.andThen (asked fun _ => rfl) fun gone => ?_
  refine Triple.requiring (fun _ _ holds => holds.sound) fun _ => ?_
  refine Triple.andThen (asked fun _ => rfl) fun now => ?_
  exact Triple.require fun _ _ holds => holds.sound

theorem bind_spec (members : Members) (calls : Callbacks Snap) :
    Triple (Sound release mayTerm) (Sound release mayTerm) (bind members calls)
      (fun _ => Sound release mayTerm) (fun _ => Sound release mayTerm) := by
  unfold bind
  refine Triple.andThen (m := fun _ => Sound release mayTerm) (Triple.mark ?_) fun _ => ?_
  · exact fun state sound => { sound.begun .bind state.data.cleanupAttempted state.turn
      (fun idle => ⟨idle, by simp⟩) sound.early with }
  refine Triple.reading fun self => ?_
  refine Triple.requiring (fun _ _ holds => holds.1) fun fresh => ?_
  have clean : self.fds = [] ∧ self.armed = false := by simpa using fresh
  apply Triple.start
  rintro start ⟨sound, rfl⟩
  refine Triple.handle (c := fun _ => Sound release mayTerm) ?_ fun exc => ?_
  · refine Triple.andThen ((query_silent (fun _ => rfl) start.data start.history).consequence
      (by rintro state rfl; exact ⟨sound, rfl, rfl⟩) (fun _ _ holds => holds)
      (fun _ _ holds => holds.1)) fun now => ?_
    refine Triple.requiring (fun _ _ holds => holds.1) fun _ => ?_
    refine Triple.andThen ((Triple.each (i := Binding release mayTerm) _
      (bindMember_spec members calls)).before ?_) fun _ => ?_
    · rintro state ⟨sound, same, _⟩
      refine ⟨sound, same ▸ clean.2, ?_, fun pid _ => ?_⟩
      · exact (List.perm_insertionSort (· ≤ ·) members.pids).nodup_iff.mpr members.distinct
      · rw [same, clean.1]
        simp [Dict.keys]
    refine Triple.andThen (m := fun _ state => Binding release mayTerm [] state ∧
      ∃ before, state.history = .bound :: before) (Triple.mark ?_) fun _ => Triple.update ?_
    · rintro state ⟨sound, unarmed, distinct, unbound⟩
      refine ⟨⟨⟨⟨trivial, sound.lawful⟩, sound.keys, sound.handles, sound.fresh, sound.held,
        sound.unclosed, sound.early, sound.idle, sound.unsigned,
        fun armed => by simp [unarmed] at armed, fun done => (sound.reaped done).later _ rfl,
        sound.clear, fun error member => sound.barred error (by simpa using member)⟩, unarmed,
        distinct, unbound⟩, _, rfl⟩
    · rintro state ⟨⟨sound, unarmed, _, _⟩, before, past⟩
      exact { sound with
        early := fun armed => by simp at armed
        armed := fun _ => ⟨[], before, past, by simp⟩ }
  · refine Triple.andThen (m := fun _ => Sound release mayTerm) (Triple.update ?_)
      fun _ => Triple.raise fun _ sound => sound
    exact fun state sound => sound.remarked _ ⟨rfl, rfl, rfl, rfl, rfl, rfl, rfl⟩

theorem sound_new : Sound release mayTerm (⟨{}, 0, []⟩ : State Snap) := by
  refine ⟨trivial, List.nodup_nil, List.nodup_nil, ?_, ?_, ?_, ?_, ?_, ?_, ?_, ?_, ?_, ?_⟩ <;>
    simp [opened, closes, terms]

/-- What a session of calls has made of a new instance, for an instance whose
methods keep the invariant and leave a settled instance alone. -/
structure Guarded (release : List (Event Snap))
    (mayTerm : List (Event Snap) → Pid → Handle → Prop) (methods : Methods Snap) : Prop where
  sound : ∀ operation, Keeps (Sound release mayTerm) (methods.perform operation)
  settled : ∀ data : Bound Snap, data.armed = true ∧ data.cleanupAttempted = true →
    data.receipt.resourceState = .reaped ∨ data.receipt.identityObservationBlocked = true →
    ∀ operation, Keeps (fun state : State Snap => state.data = data) (methods.perform operation)

theorem Guarded.after {methods : Methods Snap} (guarded : Guarded release mayTerm methods)
    (operations : List Operation) : Sound release mayTerm (methods.after operations) := by
  simpa using Methods.after_keeps guarded.sound [] sound_new operations

/-- A reaped or blocked instance is left as it is by every later call. -/
theorem Guarded.final {methods : Methods Snap} (guarded : Guarded release mayTerm methods)
    (operations more : List Operation)
    (final : (methods.after operations).data.receipt.resourceState = .reaped ∨
      (methods.after operations).data.receipt.identityObservationBlocked = true) :
    (methods.after (operations ++ more)).data = (methods.after operations).data := by
  have sound := guarded.after operations
  have attempted : (methods.after operations).data.cleanupAttempted = true := by
    by_contra unspent
    have idle := (sound.idle (by simpa using unspent)).2
    rcases final with reaped | blocked
    · exact idle.1 reaped
    · simp [idle.2] at blocked
  have armed : (methods.after operations).data.armed = true := by
    by_contra unarmed
    simp [sound.early (by simpa using unarmed)] at attempted
  exact Methods.after_keeps (i := fun state => state.data = (methods.after operations).data)
    (guarded.settled _ ⟨armed, attempted⟩ final) operations rfl more

theorem logsReleased_shows (calls : Callbacks Snap) :
    ShowsRelease [.logsReleased (.ok true)] mayTerm (logsReleased calls) := by
  intro data history active pending
  apply Triple.query
  · rintro state ⟨sound, core, past⟩ released
    exact ⟨sound.silent rfl _, core, by rintro rfl; rw [past]; rfl⟩
  · rintro state ⟨sound, core, _⟩ error
    exact ⟨sound.silent rfl _, core.2.2.2.1.trans active.1, core.2.2.2.2.1.trans active.2⟩

variable [DecidableEq Snap]

theorem reap_spec {logs : Run Snap Bool}
    (shows : ShowsRelease release mayTerm logs)
    (calls : Callbacks Snap) (data : Bound Snap)
    (active : data.armed = true ∧ data.cleanupAttempted = true)
    (unattempted : data.closeAttempts = []) (pending : data.receipt.resourceState ≠ .reaped)
    (unblocked : data.receipt.identityObservationBlocked = false) :
    Triple (Sound release mayTerm)
      (fun state => Sound release mayTerm state ∧ state.data = data ∧ Vacant state.history)
      (reap calls logs (storageSnapshot calls))
      (fun _ => Observing release mayTerm) (fun _ => Observing release mayTerm) := by
  unfold reap
  apply Triple.start
  rintro start ⟨sound, same, vacant⟩
  refine Triple.andThen ((note_spec data start.history ?_ ?_).before ?_) fun _ => ?_
  · rfl
  · rfl
  · rintro state rfl
    exact ⟨sound, same, rfl⟩
  have stillActive : ∀ state : State Snap, Sound release mayTerm state →
      SameCore state.data data → Observing release mayTerm state := by
    intro state sound core
    exact ⟨sound, core.2.2.2.1.trans active.1, core.2.2.2.2.1.trans active.2⟩
  refine Triple.andThen ((shows data start.history active pending).consequence
    (fun state holds => ⟨holds.1, ?_, holds.2.2⟩) (fun _ _ holds => holds)
    (fun _ _ holds => holds)) fun released => ?_
  · rw [holds.2.1]
    exact ⟨rfl, rfl, rfl, rfl, rfl, rfl, rfl⟩
  refine Triple.requiring (fun _ _ holds => stillActive _ holds.1 holds.2.1) fun proven => ?_
  refine Triple.andThen (m := fun reply state => Sound release mayTerm state ∧
      SameCore state.data data ∧
      state.history = .storageSnapshot (.ok reply) :: (release ++ start.history))
    (Triple.query ?_ ?_) fun reply => ?_
  · rintro state ⟨sound, core, past⟩ reply
    exact ⟨sound.silent rfl _, core, by rw [past proven]⟩
  · rintro state ⟨sound, core, _⟩ error
    exact stillActive _ (sound.silent rfl _) core
  cases reply with
  | other => exact Triple.raise fun _ holds => stillActive _ holds.1 holds.2.1
  | value snapshot =>
    refine Triple.requiring (fun _ _ holds => stillActive _ holds.1 holds.2.1) fun nonempty => ?_
    refine Triple.reading fun self state holds => ?_
    obtain ⟨⟨sound, core, past⟩, rfl⟩ := holds
    have now := stillActive state sound core
    obtain ⟨_, _, closeAttempts, _, _, resource, blocked⟩ := core
    obtain ⟨polls, before, split, exits, covered⟩ := vacant
    have released : ∀ closed, Closed closed → Released release (closed ++ state.history) :=
      fun closed only => ⟨closed, snapshot, polls, before, by rw [past, split],
        by simpa using nonempty, only, exits, covered⟩
    have held := sound.held (closeAttempts.trans unattempted)
    have unclosed := sound.unclosed (closeAttempts.trans unattempted)
    have distinct : (state.data.fds.map Prod.snd).Nodup :=
      List.Nodup.map_on (fun left here right there equal =>
        List.inj_on_of_nodup_map sound.handles ((held left).mpr here) ((held right).mpr there) equal)
        (List.Nodup.of_map Prod.fst sound.keys)
    refine Triple.andThen (Triple.each (i := fun rest =>
        Closing release mayTerm state.history state.data.fds rest)
        state.data.fds fun entry rest => closeMember_spec released unclosed calls entry rest)
      (fun _ => ?_) state ⟨sound, now.2, resource ▸ pending,
        blocked.trans unblocked, ⟨[], rfl, by simp [Closed], by simp_all, by simp [closes]⟩, distinct⟩
    apply Triple.update
    intro last closing
    exact ⟨closing.reaped (fun entry member => (held entry).mp member) released snapshot, closing.active⟩

theorem observeBody_spec {logs : Run Snap Bool}
    (shows : ShowsRelease release mayTerm logs)
    (members : Members) (calls : Callbacks Snap) (data : Bound Snap)
    (active : data.armed = true ∧ data.cleanupAttempted = true)
    (pending : data.receipt.resourceState ≠ .reaped)
    (unblocked : data.receipt.identityObservationBlocked = false) :
    Triple (Sound release mayTerm)
      (fun state => Sound release mayTerm state ∧ state.data = data)
      (observeBody members calls logs (storageSnapshot calls))
      (fun _ => Observing release mayTerm) (fun _ => Observing release mayTerm) := by
  unfold observeBody
  refine Triple.reading fun self => ?_
  refine Triple.requiring (fun _ state holds => ⟨holds.1.1, by rw [holds.1.2]; exact active⟩)
    fun empty => ?_
  apply Triple.start
  rintro start ⟨⟨sound, same⟩, rfl⟩
  have unattempted : data.closeAttempts = [] := by simpa [same] using empty
  refine Triple.andThen ((observeIdentity_spec members calls data active unattempted pending).before
    (by rintro state rfl; exact ⟨sound, same⟩)) fun seen => ?_
  obtain ⟨now, gone⟩ := seen
  apply Triple.ite
  · intro _
    apply Triple.update
    rintro state ⟨sound, same, _⟩
    refine ⟨sound.remarked _ ⟨rfl, rfl, rfl, rfl, rfl, rfl, rfl⟩, ?_⟩
    simpa only [same] using active
  · intro settled
    have both : now = [] ∧ gone = true := by simpa using settled
    refine (reap_spec shows calls data active unattempted pending unblocked).before ?_
    rintro state ⟨sound, same, vacant⟩
    exact ⟨sound, same, vacant both.1 both.2⟩

/-- One observation, in any state in which it is allowed, cannot raise. -/
theorem observeWith_spec {logs : Run Snap Bool}
    (shows : ShowsRelease release mayTerm logs)
    (members : Members) (calls : Callbacks Snap) :
    Triple (Sound release mayTerm) (Observing release mayTerm)
      (observeWith members calls logs (storageSnapshot calls))
      (fun result state => Observing release mayTerm state ∧ result = state.data.receipt)
      (fun _ _ => False) := by
  unfold observeWith
  refine Triple.reading fun data => ?_
  refine Triple.requiring ?_ fun _ => ?_
  · rintro refused state ⟨⟨_, active⟩, rfl⟩
    simp [active] at refused
  apply Triple.ite
  · intro _
    apply Triple.ret
    rintro state ⟨observing, rfl⟩
    exact ⟨observing, rfl⟩
  · intro neither
    simp only [not_or, Bool.not_eq_true] at neither
    apply Triple.start
    rintro start ⟨⟨sound, active⟩, rfl⟩
    refine Triple.andThen ((note_spec start.data start.history ?_ ?_).before ?_) fun _ => ?_
    · rfl
    · rfl
    · rintro state rfl
      exact ⟨sound, rfl, rfl⟩
    refine Triple.andThen (m := fun _ => Observing release mayTerm)
      (Triple.handle (c := fun _ => Observing release mayTerm)
        ((observeBody_spec shows members calls { start.data with receipt :=
          { start.data.receipt with observationError := none } } active neither.1 neither.2).before ?_)
        fun exc => Triple.update ?_) fun _ => retain_spec
    · exact fun state holds => ⟨holds.1, holds.2.1⟩
    · rintro state ⟨sound, active⟩
      exact ⟨sound.remarked _ ⟨rfl, rfl, rfl, rfl, rfl, rfl, rfl⟩, active⟩

theorem terminateBody_spec (members : Members) (calls : Callbacks Snap)
    (shows : ShowsRelease release (MayTerm members) (logsReleased calls)) (deadline : Int)
    (fuel : Nat) (data : Bound Snap) (active : data.armed = true ∧ data.cleanupAttempted = true)
    (unattempted : data.closeAttempts = []) (pending : data.receipt.resourceState ≠ .reaped) :
    Triple (Sound release (MayTerm members))
      (fun state => Terminating release (MayTerm members) data state ∧ terms state.history = [])
      (terminateBody members calls deadline fuel)
      (fun _ => Observing release (MayTerm members))
      (fun _ state => Observing release (MayTerm members) state ∧
        state.data.receipt.resourceState ≠ .reaped) := by
  have still : ∀ state : State Snap, Sound release (MayTerm members) state →
      SameCore state.data data → Observing release (MayTerm members) state ∧
        state.data.receipt.resourceState ≠ .reaped := by
    rintro state sound ⟨_, _, _, armed, cleanup, resource, _⟩
    exact ⟨⟨sound, armed.trans active.1, cleanup.trans active.2⟩, resource ▸ pending⟩
  unfold terminateBody
  apply Triple.start
  rintro start ⟨⟨sound, core, first⟩, unsent⟩
  refine Triple.andThen ((validate_spec members calls start.data start.history).consequence
    (by rintro state rfl; exact ⟨sound, rfl, rfl⟩) (fun _ _ holds => holds)
    (fun _ state holds => still state holds.1 (holds.2 ▸ core))) fun ready => ?_
  refine Triple.reading fun self => ?_
  refine Triple.andThen ((signalEach_spec members calls data active unattempted deadline _ []).consequence
    ?_ (fun _ _ holds => holds) (fun _ state holds => still state holds.1 holds.2)) fun _ => ?_
  · rintro state ⟨⟨sound, same, now, polled, _⟩, rfl⟩
    obtain ⟨newer, past, quiet⟩ := polled.sameCall
    refine ⟨⟨sound, same ▸ core, past ▸ first.later newer quiet⟩, ?_, ?_⟩
    · rw [polled.sameTerms, unsent]
      simp
    · rw [List.append_nil]
      split
      · exact (List.perm_insertionSort (· ≤ ·) state.data.fds.keys).nodup_iff.mpr sound.keys
      · exact List.nodup_nil
  · exact (observeUntil_spec calls (observeWith_spec shows members calls) deadline fuel).consequence
      (fun state holds => still state holds.1 holds.2) (fun _ _ holds => holds)
      (fun _ _ impossible => impossible.elim)

/-- A public observation; outside an armed, attempted cleanup it only raises. -/
theorem observeOnce_spec {logs : Run Snap Bool} (shows : ShowsRelease release mayTerm logs)
    (members : Members) (calls : Callbacks Snap) :
    Triple (Sound release mayTerm) (Sound release mayTerm)
      (do
        mark (.begin .observeOnce)
        observeWith members calls logs (storageSnapshot calls))
      (fun _ => Sound release mayTerm) (fun _ => Sound release mayTerm) := by
  refine Triple.andThen (m := fun _ => Sound release mayTerm) (Triple.mark ?_) fun _ => ?_
  · exact fun state sound => { sound.begun .observeOnce state.data.cleanupAttempted state.turn
      (fun idle => ⟨idle, by simp⟩) sound.early with }
  apply Triple.start
  intro start sound
  by_cases active : start.data.armed = true ∧ start.data.cleanupAttempted = true
  · exact (observeWith_spec shows members calls).consequence (by rintro state rfl; exact ⟨sound, active⟩)
      (fun _ _ holds => holds.1.1) (fun _ _ impossible => impossible.elim)
  · unfold observeWith
    refine Triple.reading fun self => Triple.requiring ?_ fun allowed => ?_
    · rintro _ state ⟨rfl, _⟩
      exact sound
    · rintro state ⟨rfl, rfl⟩
      exact absurd (by simpa using allowed) active

/-- Once the receipt is reaped or blocked, no public call changes the instance. -/
theorem perform_settled (members : Members) (calls : Callbacks Snap) {logs : Run Snap Bool}
    {snapshots : Run Snap (Reply Snap)} {body : Int → Run Snap (Option (Receipt Snap))}
    (data : Bound Snap) (active : data.armed = true ∧ data.cleanupAttempted = true)
    (final : data.receipt.resourceState = .reaped ∨
      data.receipt.identityObservationBlocked = true) (operation : Operation) :
    Triple (fun state : State Snap => state.data = data) (fun state => state.data = data)
      (Methods.perform
        { bind := bind members calls
          terminateOnce := fun authorized => do
            mark (.begin (.terminateOnce authorized))
            terminateWith calls authorized body
          observeOnce := do
            mark (.begin .observeOnce)
            observeWith members calls logs snapshots } operation)
      (fun _ state => state.data = data) (fun _ state => state.data = data) := by
  cases operation with
  | bind =>
      rintro state rfl
      simp [Methods.perform, bind, Script.andThen, Session.mark, Script.modify, Session.read,
        require, active.1, Script.raise]
  | terminateOnce authorized =>
      rintro state rfl
      cases authorized <;>
        simp [Methods.perform, terminateWith, Script.andThen, Session.mark, Script.modify,
          Session.read, require, active, Script.raise, Script.ret]
  | observeOnce =>
      rintro state rfl
      simp [Methods.perform, observeWith, Script.andThen, Session.mark, Script.modify,
        Session.read, require, active, final, Script.ret]

end Invariant

section Contract

variable {Snap : Type} [DecidableEq Snap] [EmptyCollection Snap]

theorem methods_guarded (members : Members) (calls : Callbacks Snap) (fuel : Nat) :
    Guarded [.logsReleased (.ok true)] (MayTerm members) (methods members calls fuel) where
  sound
    | .bind => keeps_iff.mpr (bind_spec members calls)
    | .terminateOnce authorized =>
        keeps_iff.mpr (Triple.andThen (terminateWith_spec calls authorized fun deadline data =>
          terminateBody_spec members calls (logsReleased_shows calls) deadline fuel data)
          fun _ => Triple.ret fun _ sound => sound)
    | .observeOnce =>
        keeps_iff.mpr (Triple.andThen (observeOnce_spec (logsReleased_shows calls) members calls)
          fun _ => Triple.ret fun _ sound => sound)
  settled data active final operation :=
    keeps_iff.mpr (perform_settled members calls data active final operation)

end Contract

end Bscp.BoundOwner
