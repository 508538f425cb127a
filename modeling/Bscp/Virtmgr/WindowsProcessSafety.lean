import Bscp.Machine
import Bscp.Virtmgr.WindowsProcess
import Mathlib.Data.List.Nodup

/-!
Which handles a launch shows to the system, and for how long. A launch touches the entries of its
own handles only, so what is known about one launch is kept by the steps of all others; the gate
decides who may have inheritable duplicates at all.
-/

namespace Bscp.Virtmgr.WindowsProcess

open Bscp.Machine

variable {w next : World} {event : Event} {events : List Event} {launch other value : Nat}
  {place after : Place} {entry : Entry}

/-! The table after each operation. -/

namespace World

@[simp, grind =] theorem goes_place :
    (w.goes launch place).place other = if other = launch then place else w.place other := by
  unfold goes
  exact Function.update_apply ..

@[simp, grind =] theorem goes_table : (w.goes launch place).table = w.table := rfl

@[simp, grind =] theorem goes_gate : (w.goes launch place).gate = w.gate := rfl

@[simp, grind =] theorem goes_poisoned : (w.goes launch place).poisoned = w.poisoned := rfl

@[simp, grind =] theorem put_table {known : Option Entry} :
    (w.put value known).table other = if other = value then known else w.table other := by
  unfold put
  exact Function.update_apply ..

@[simp, grind =] theorem put_place {known : Option Entry} :
    (w.put value known).place = w.place := rfl

@[simp, grind =] theorem put_gate {known : Option Entry} :
    (w.put value known).gate = w.gate := rfl

@[simp, grind =] theorem put_poisoned {known : Option Entry} :
    (w.put value known).poisoned = w.poisoned := rfl

@[simp, grind =] theorem setGate_table {gate : Option Nat} :
    (w.setGate gate).table = w.table := rfl

@[simp, grind =] theorem setGate_place {gate : Option Nat} :
    (w.setGate gate).place = w.place := rfl

@[simp, grind =] theorem setGate_gate {gate : Option Nat} : (w.setGate gate).gate = gate := rfl

@[simp, grind =] theorem setGate_poisoned {gate : Option Nat} :
    (w.setGate gate).poisoned = w.poisoned := rfl

@[simp, grind =] theorem close_table {ok : Bool} : (w.close value ok).table other =
    if ok = true ∧ other = value then none else w.table other := by
  cases ok <;> simp [close]

@[simp, grind =] theorem close_place {ok : Bool} : (w.close value ok).place = w.place := by
  cases ok <;> rfl

@[simp, grind =] theorem close_gate {ok : Bool} : (w.close value ok).gate = w.gate := by
  cases ok <;> rfl

@[simp, grind =] theorem close_poisoned {ok : Bool} :
    (w.close value ok).poisoned = w.poisoned := by
  cases ok <;> rfl

@[simp, grind =] theorem create_table {process thread : Nat} :
    (w.create launch process thread).table value =
      if value = thread then some { owner := .thread launch }
      else if value = process then some { owner := .process launch } else w.table value := by
  simp [create]

@[simp, grind =] theorem create_place {process thread : Nat} :
    (w.create launch process thread).place = w.place := rfl

@[simp, grind =] theorem create_gate {process thread : Nat} :
    (w.create launch process thread).gate = w.gate := rfl

@[simp, grind =] theorem create_poisoned {process thread : Nat} :
    (w.create launch process thread).poisoned = w.poisoned := rfl

@[simp, grind =] theorem hand_place {result : Result} : (w.hand result).place = w.place := by
  cases result <;> rfl

@[simp, grind =] theorem hand_gate {result : Result} : (w.hand result).gate = w.gate := by
  cases result <;> rfl

@[simp, grind =] theorem hand_poisoned {result : Result} :
    (w.hand result).poisoned = w.poisoned := by
  cases result <;> rfl

end World

/-! What a launch has at each place. -/

namespace Place

def owned : Place → List Nat
  | .collecting copies | .looping _ _ copies | .checking _ _ copies | .calling _ copies
  | .adding _ _ copies | .building _ _ copies | .gating _ copies | .marking _ _ copies
  | .setting _ _ _ copies | .creating _ copies | .adopting copies _ _ | .querying copies _
  | .cleaning copies _ | .dropping copies _ => copies
  | .pushed _ copies _ copy | .refusing _ copies copy _ => copies ++ [copy]
  | .fresh | .unlocking _ | .returning _ | .gone => []

def process : Place → Option Nat
  | .adopting _ process _ | .querying _ process => some process
  | .cleaning _ (.child process _) | .unlocking (.child process _)
  | .dropping _ (.child process _) | .returning (.child process _) => some process
  | _ => none

def thread : Place → Option Nat
  | .adopting _ _ thread => some thread
  | _ => none

def gated : Place → Bool
  | .marking .. | .setting .. | .creating .. | .adopting .. | .querying .. | .cleaning ..
  | .unlocking _ => true
  | _ => false

def Marked (inherits : Nat → Bool) : Place → Prop
  | .marking todo _ copies => ∃ done, copies = done ++ todo ∧ ∀ copy ∈ done, inherits copy = true
  | .setting copy todo _ copies =>
      ∃ done, copies = done ++ copy :: todo ∧ ∀ copy ∈ done, inherits copy = true
  | .creating _ copies => ∀ copy ∈ copies, inherits copy = true
  | _ => True

end Place

namespace Moves

variable {inherits : Nat → Bool}

theorem owned (move : Moves inherits place after) : after.owned = place.owned := by
  cases move with
  | checks stage => cases stage <;> rfl
  | builds stage => cases stage <;> rfl
  | _ => rfl

theorem process (move : Moves inherits place after) : after.process = place.process := by
  cases move with
  | checks stage => cases stage <;> rfl
  | builds stage => cases stage <;> rfl
  | cleaned result => cases result <;> rfl
  | dropped result => cases result <;> rfl
  | _ => rfl

theorem gated (move : Moves inherits place after) : after.gated = place.gated := by
  cases move with
  | checks stage => cases stage <;> rfl
  | builds stage => cases stage <;> rfl
  | _ => rfl

theorem thread (move : Moves inherits place after) : after.thread = place.thread := by
  cases move with
  | checks stage => cases stage <;> rfl
  | builds stage => cases stage <;> rfl
  | _ => rfl

theorem marks (move : Moves inherits place after) (marked : place.Marked inherits) :
    after.Marked inherits := by
  cases move with
  | checks stage => cases stage <;> trivial
  | builds stage => cases stage <;> trivial
  | plain => exact marked
  | marked start copies =>
      obtain ⟨done, rfl, shown⟩ := marked
      simpa [Place.Marked] using shown
  | _ => trivial

end Moves

/-! One launch and the table. -/

def Owner.of (launch : Nat) : Owner → Prop
  | .outside => False
  | .duplicate who | .process who | .thread who => who = launch

def Touches (launch : Nat) (before after : Nat → Option Entry) : Prop :=
  ∀ value, after value = before value ∨
    (∀ entry ∈ before value, entry.owner.of launch) ∧
      ∀ entry ∈ after value, entry.owner.of launch ∨ entry.owner = .outside

def Spares (launch : Nat) (before after : Nat → Option Entry) : Prop :=
  ∀ value entry, entry.owner.of launch → (after value = some entry ↔ before value = some entry)

theorem Owner.of_unique {owner : Owner} (one : owner.of launch) (two : owner.of other) :
    launch = other := by
  cases owner <;> simp_all [Owner.of]

theorem Owner.not_outside {owner : Owner} (own : owner.of launch) : owner ≠ .outside := by
  rintro rfl
  exact own

theorem Touches.spares {before after : Nat → Option Entry} (touches : Touches launch before after)
    (away : other ≠ launch) : Spares other before after := by
  intro value entry own
  rcases touches value with same | ⟨old, new⟩
  · rw [same]
  · constructor
    · intro is
      rcases new entry is with mine | free
      · exact absurd (Owner.of_unique own mine) away
      · exact absurd free (Owner.not_outside own)
    · intro is
      exact absurd (Owner.of_unique own (old entry is)) away

structure Fits (launch : Nat) (events : List Event) (table : Nat → Option Entry)
    (place : Place) : Prop where
  mine : ∀ value ∈ place.owned, ∃ entry, table value = some entry ∧ entry.owner = .duplicate launch
  distinct : place.owned.Nodup
  whole : ∀ value entry, table value = some entry → entry.owner = .duplicate launch →
    value ∈ place.owned ∨ .closes launch value false ∈ events
  process : ∀ value, place.process = some value →
    ∃ entry, table value = some entry ∧ entry.owner = .process launch
  thread : ∀ value, place.thread = some value →
    ∃ entry, table value = some entry ∧ entry.owner = .thread launch
  shown : ∀ value entry, table value = some entry → entry.owner = .duplicate launch →
    entry.inheritable = true → place.gated = true ∨ .closes launch value false ∈ events
  marked : place.Marked fun value => (table value).any (·.inheritable)

namespace Fits

variable {before after : Nat → Option Entry}

/-- The marks of a launch depend on its own entries only. -/
theorem marked_of_spares (fits : Fits launch events before place)
    (spares : Spares launch before after) :
    place.Marked fun value => (after value).any (·.inheritable) := by
  have same : ∀ value ∈ place.owned, (after value).any (·.inheritable) =
      (before value).any (·.inheritable) := by
    intro value member
    obtain ⟨entry, is, owner⟩ := fits.mine value member
    rw [is, (spares value entry (by simp [owner, Owner.of])).mpr is]
  have marked := fits.marked
  cases place with
  | marking todo start copies =>
      obtain ⟨done, rfl, all⟩ := marked
      refine ⟨done, rfl, fun copy member => ?_⟩
      exact (same copy (List.mem_append_left _ member)).trans (all copy member)
  | setting copy todo start copies =>
      obtain ⟨done, rfl, all⟩ := marked
      refine ⟨done, rfl, fun copy member => ?_⟩
      exact (same copy (List.mem_append_left _ member)).trans (all copy member)
  | creating start copies =>
      intro copy member
      exact (same copy member).trans (marked copy member)
  | _ => trivial

theorem spared (fits : Fits launch events before place) (spares : Spares launch before after)
    {more : List Event} (longer : events ⊆ more) : Fits launch more after place where
  mine := by
    intro value member
    obtain ⟨entry, is, owner⟩ := fits.mine value member
    exact ⟨entry, (spares value entry (by simp [owner, Owner.of])).mpr is, owner⟩
  distinct := fits.distinct
  whole := by
    intro value entry is owner
    have old := (spares value entry (by simp [owner, Owner.of])).mp is
    exact (fits.whole value entry old owner).imp_right (longer ·)
  process := by
    intro value child
    obtain ⟨entry, is, owner⟩ := fits.process value child
    exact ⟨entry, (spares value entry (by simp [owner, Owner.of])).mpr is, owner⟩
  thread := by
    intro value child
    obtain ⟨entry, is, owner⟩ := fits.thread value child
    exact ⟨entry, (spares value entry (by simp [owner, Owner.of])).mpr is, owner⟩
  shown := by
    intro value entry is owner flag
    have old := (spares value entry (by simp [owner, Owner.of])).mp is
    exact (fits.shown value entry old owner flag).imp_right (longer ·)
  marked := fits.marked_of_spares spares

/-- A step that only moves the launch. -/
theorem moves (fits : Fits launch events before place) {moved : Place} {more : List Event}
    (longer : events ⊆ more) (owned : moved.owned = place.owned)
    (process : moved.process = place.process) (thread : moved.thread = place.thread)
    (gated : moved.gated = place.gated)
    (marked : moved.Marked fun value => (before value).any (·.inheritable)) :
    Fits launch more before moved where
  mine := by
    rw [owned]
    exact fits.mine
  distinct := by
    rw [owned]
    exact fits.distinct
  whole := by
    intro value entry is owner
    rw [owned]
    exact (fits.whole value entry is owner).imp_right (longer ·)
  process := by
    rw [process]
    exact fits.process
  thread := by
    rw [thread]
    exact fits.thread
  shown := by
    intro value entry is owner flag
    rw [gated]
    exact (fits.shown value entry is owner flag).imp_right (longer ·)
  marked := marked

/-- A new duplicate. -/
theorem gains (fits : Fits launch events w.table place) {moved : Place} {more : List Event}
    {copy : Nat} (longer : events ⊆ more) (new : w.table copy = none)
    (owned : moved.owned = place.owned ++ [copy])
    (process : moved.process = none) (thread : moved.thread = none)
    (outside : place.gated = false) (marked : ∀ inherits, moved.Marked inherits) :
    Fits launch more (w.put copy (some { owner := .duplicate launch })).table moved where
  mine := by
    intro value member
    rw [owned] at member
    rcases List.mem_append.mp member with old | fresh
    · obtain ⟨entry, is, owner⟩ := fits.mine value old
      have away : value ≠ copy := by
        rintro rfl
        simp [new] at is
      exact ⟨entry, by simpa [away] using is, owner⟩
    · obtain rfl := List.mem_singleton.mp fresh
      exact ⟨{ owner := .duplicate launch }, by simp, rfl⟩
  distinct := by
    rw [owned, List.nodup_append]
    refine ⟨fits.distinct, List.nodup_singleton copy, ?_⟩
    rintro value old fresh member rfl
    obtain rfl := List.mem_singleton.mp member
    obtain ⟨entry, is, _⟩ := fits.mine value old
    simp [new] at is
  whole := by
    intro value entry is owner
    rw [owned]
    by_cases same : value = copy
    · simp [same]
    · have old : w.table value = some entry := by simpa [same] using is
      rcases fits.whole value entry old owner with member | closed
      · exact .inl (List.mem_append_left _ member)
      · exact .inr (longer closed)
  process := by simp [process]
  thread := by simp [thread]
  shown := by
    intro value entry is owner flag
    by_cases same : value = copy
    · subst same
      rw [World.put_table, if_pos rfl] at is
      cases is
      cases flag
    · have old : w.table value = some entry := by simpa [same] using is
      rcases fits.shown value entry old owner flag with gated | closed
      · simp [outside] at gated
      · exact .inr (longer closed)
  marked := marked _

/-- A duplicate is closed, or is not. -/
theorem loses (fits : Fits launch events w.table place) {moved : Place} {copy : Nat}
    {front back : List Nat} (ok : Bool) (owned : place.owned = front ++ copy :: back)
    (rest : moved.owned = front ++ back) (process : moved.process = place.process)
    (thread : moved.thread = none) (gated : moved.gated = place.gated)
    (marked : ∀ inherits, moved.Marked inherits) :
    Fits launch (events ++ [Event.closes launch copy ok]) (w.close copy ok).table moved := by
  have once : copy ∉ front ++ back := by
    have distinct := fits.distinct
    rw [owned, List.nodup_middle, List.nodup_cons] at distinct
    exact distinct.1
  obtain ⟨entry, isCopy, copyOwner⟩ := fits.mine copy (by simp [owned])
  constructor
  case mine =>
      intro value member
      rw [rest] at member
      have away : value ≠ copy := fun same => once (same ▸ member)
      obtain ⟨entry, is, owner⟩ := fits.mine value (by
        rw [owned]
        exact List.mem_append.mpr ((List.mem_append.mp member).imp_right (List.mem_cons_of_mem _)))
      exact ⟨entry, by simpa [away] using is, owner⟩
  case distinct =>
      have distinct := fits.distinct
      rw [owned, List.nodup_middle, List.nodup_cons] at distinct
      rw [rest]
      exact distinct.2
  case whole =>
      intro value entry is owner
      rw [World.close_table] at is
      split at is
      case isTrue => cases is
      case isFalse kept =>
          rcases fits.whole value entry is owner with member | closed
          · by_cases same : value = copy
            · subst same
              cases ok with
              | true => exact absurd ⟨rfl, rfl⟩ kept
              | false => simp
            · left
              rw [owned] at member
              rw [rest]
              simpa [same] using member
          · exact .inr (List.mem_append_left _ closed)
  case process =>
      intro value child
      rw [process] at child
      obtain ⟨held, is, owner⟩ := fits.process value child
      have away : value ≠ copy := by
        rintro rfl
        rw [isCopy, Option.some.injEq] at is
        subst is
        simp [copyOwner] at owner
      exact ⟨held, by simpa [away] using is, owner⟩
  case thread => simp [thread]
  case shown =>
      intro value entry is owner flag
      rw [World.close_table] at is
      split at is
      case isTrue => cases is
      case isFalse =>
          rw [gated]
          exact (fits.shown value entry is owner flag).imp_right (List.mem_append_left _)
  case marked => exact marked _

/-- `SetHandleInformation` of the next duplicate. -/
theorem sets {copy start : Nat} {todo copies : List Nat}
    (fits : Fits launch events w.table (.setting copy todo start copies)) {more : List Event}
    (longer : events ⊆ more) :
    Fits launch more
      (w.put copy ((w.table copy).map fun entry => { entry with inheritable := true })).table
      (.marking todo start copies) := by
  obtain ⟨done, rfl, all⟩ := fits.marked
  obtain ⟨entry, isCopy, copyOwner⟩ := fits.mine copy (by simp [Place.owned])
  rw [isCopy, Option.map_some]
  have others : ∀ value, value ≠ copy → (w.put copy (some { entry with inheritable := true })).table
      value = w.table value := fun value away => by simp [away]
  have itself : (w.put copy (some { entry with inheritable := true })).table copy =
      some { entry with inheritable := true } := by simp
  constructor
  case mine =>
      intro value member
      by_cases same : value = copy
      · subst same
        exact ⟨_, itself, copyOwner⟩
      · rw [others value same]
        exact fits.mine value member
  case distinct => exact fits.distinct
  case whole =>
      intro value held is owner
      by_cases same : value = copy
      · exact .inl (by simp [Place.owned, same])
      · rw [others value same] at is
        exact (fits.whole value held is owner).imp_right (longer ·)
  case process => simp [Place.process]
  case thread => simp [Place.thread]
  case shown => exact fun _ _ _ _ _ => .inl rfl
  case marked =>
      refine ⟨done ++ [copy], by simp, fun value member => ?_⟩
      by_cases same : value = copy
      · simp [same]
      · have early : value ∈ done := by simpa [same] using member
        simpa [same] using all value early

/-- `CreateProcessW` succeeds. -/
theorem creates {process thread start : Nat} {copies : List Nat}
    (fits : Fits launch events w.table (.creating start copies)) {more : List Event}
    (longer : events ⊆ more)
    (new : w.table process = none ∧ w.table thread = none ∧ process ≠ thread) :
    Fits launch more (w.create launch process thread).table (.adopting copies process thread) := by
  obtain ⟨noProcess, noThread, apart⟩ := new
  have others : ∀ value entry, w.table value = some entry →
      (w.create launch process thread).table value = some entry := by
    intro value entry is
    have one : value ≠ process := by
      rintro rfl
      simp [noProcess] at is
    have two : value ≠ thread := by
      rintro rfl
      simp [noThread] at is
    simp [one, two, is]
  have back : ∀ value entry, (w.create launch process thread).table value = some entry →
      entry.owner = .duplicate launch → w.table value = some entry := by
    intro value entry is owner
    rw [World.create_table] at is
    split at is
    · cases is
      simp at owner
    · split at is
      · cases is
        simp at owner
      · exact is
  constructor
  case mine =>
      intro value member
      obtain ⟨entry, is, owner⟩ := fits.mine value member
      exact ⟨entry, others value entry is, owner⟩
  case distinct => exact fits.distinct
  case whole =>
      intro value entry is owner
      exact (fits.whole value entry (back value entry is owner) owner).imp_right (longer ·)
  case process =>
      rintro value child
      cases child
      exact ⟨{ owner := .process launch }, by simp [apart], rfl⟩
  case thread =>
      rintro value child
      cases child
      exact ⟨{ owner := .thread launch }, by simp, rfl⟩
  case shown => exact fun _ _ _ _ _ => .inl rfl
  case marked => trivial

/-- The first thread's handle is closed, or is not. -/
theorem dropsThread {process thread : Nat} {copies : List Nat}
    (fits : Fits launch events w.table (.adopting copies process thread)) {more : List Event}
    (longer : events ⊆ more) (ok : Bool) :
    Fits launch more (w.close thread ok).table (.querying copies process) := by
  obtain ⟨held, isThread, threadOwner⟩ := fits.thread thread rfl
  have others : ∀ value entry, w.table value = some entry → entry.owner ≠ .thread launch →
      (w.close thread ok).table value = some entry := by
    intro value entry is owner
    have away : value ≠ thread := by
      rintro rfl
      rw [isThread, Option.some.injEq] at is
      exact owner (is ▸ threadOwner)
    simp [away, is]
  have back : ∀ value entry, (w.close thread ok).table value = some entry →
      w.table value = some entry := by
    intro value entry is
    rw [World.close_table] at is
    split at is
    · cases is
    · exact is
  constructor
  case mine =>
      intro value member
      obtain ⟨entry, is, owner⟩ := fits.mine value member
      exact ⟨entry, others value entry is (by simp [owner]), owner⟩
  case distinct => exact fits.distinct
  case whole =>
      intro value entry is owner
      exact (fits.whole value entry (back value entry is) owner).imp_right (longer ·)
  case process =>
      rintro value child
      cases child
      obtain ⟨entry, is, owner⟩ := fits.process process rfl
      exact ⟨entry, others process entry is (by simp [owner]), owner⟩
  case thread => simp [Place.thread]
  case shown => exact fun _ _ _ _ _ => .inl rfl
  case marked => trivial

theorem locks {start : Nat} {copies : List Nat}
    (fits : Fits launch events before (.gating start copies)) {more : List Event}
    (longer : events ⊆ more) : Fits launch more before (.marking copies start copies) where
  mine := fits.mine
  distinct := fits.distinct
  whole := fun value entry is owner => (fits.whole value entry is owner).imp_right (longer ·)
  process := by simp [Place.process]
  thread := by simp [Place.thread]
  shown := fun _ _ _ _ _ => .inl rfl
  marked := ⟨[], rfl, by simp⟩

/-- Where a launch has nothing any more, only what could not be closed is left. -/
theorem leaves {result : Result} (fits : Fits launch events before (.unlocking result))
    {more : List Event} (longer : events ⊆ more) :
    Fits launch more before (.returning result) where
  mine := by simp [Place.owned]
  distinct := List.nodup_nil
  whole := fun value entry is owner => (fits.whole value entry is owner).imp_right (longer ·)
  process := fun value child => fits.process value (by cases result <;> exact child)
  thread := by simp [Place.thread]
  shown := by
    intro value entry is owner _
    rcases fits.whole value entry is owner with member | closed
    · simp [Place.owned] at member
    · exact .inr (longer closed)
  marked := trivial

theorem returns {result : Result} (fits : Fits launch events w.table (.returning result))
    {more : List Event} (longer : events ⊆ more) :
    Fits launch more (w.hand result).table .gone := by
  have back : ∀ value entry, (w.hand result).table value = some entry →
      entry.owner = .duplicate launch → w.table value = some entry := by
    intro value entry is owner
    cases result with
    | discarded => exact is
    | failed => exact is
    | child process creation =>
        rw [World.hand, World.put_table] at is
        split at is
        · cases is
          simp at owner
        · exact is
  constructor
  case mine => simp [Place.owned]
  case distinct => exact List.nodup_nil
  case whole =>
      intro value entry is owner
      exact (fits.whole value entry (back value entry is owner) owner).imp_right (longer ·)
  case process => simp [Place.process]
  case thread => simp [Place.thread]
  case shown =>
      intro value entry is owner flag
      exact (fits.shown value entry (back value entry is owner) owner flag).imp
        (fun gated => by simp [Place.gated] at gated) (longer ·)
  case marked => trivial

end Fits

/-! One step. -/

structure Acts (launch : Nat) (w : World) (events : List Event) (event : Event) (next : World) :
    Prop where
  place : ∀ other, other ≠ launch → next.place other = w.place other
  table : Touches launch w.table next.table
  fits : Fits launch (events ++ [event]) next.table (next.place launch)
  gate : next.gate = w.gate ∧ (next.place launch).gated = (w.place launch).gated ∨
    next.gate = some launch ∧ w.gate = none ∧ (next.place launch).gated = true ∨
    next.gate = none ∧ (w.place launch).gated = true ∧ (next.place launch).gated = false
  poisoned : next.poisoned = w.poisoned

structure Sound (events : List Event) (w : World) : Prop where
  fits : ∀ launch, Fits launch events w.table (w.place launch)
  gate : ∀ launch, w.gate = some launch ↔ (w.place launch).gated = true
  clean : w.poisoned = false

namespace Touches

theorem refl (launch : Nat) (table : Nat → Option Entry) : Touches launch table table :=
  fun _ => .inl rfl

theorem put {known : Option Entry} (old : ∀ entry ∈ w.table value, entry.owner.of launch)
    (new : ∀ entry ∈ known, entry.owner.of launch ∨ entry.owner = .outside) :
    Touches launch w.table (w.put value known).table := by
  intro other
  by_cases same : other = value
  · subst same
    exact .inr ⟨old, by simpa using new⟩
  · exact .inl (by simp [same])

theorem close (ok : Bool) (old : ∀ entry ∈ w.table value, entry.owner.of launch) :
    Touches launch w.table (w.close value ok).table := by
  cases ok with
  | true => exact put old (by simp)
  | false => exact refl _ _

theorem create {process thread : Nat}
    (new : w.table process = none ∧ w.table thread = none ∧ process ≠ thread) :
    Touches launch w.table (w.create launch process thread).table := by
  obtain ⟨noProcess, noThread, apart⟩ := new
  intro other
  by_cases isThread : other = thread
  · subst isThread
    exact .inr ⟨by simp [noThread], by simp [Owner.of]⟩
  · by_cases isProcess : other = process
    · subst isProcess
      exact .inr ⟨by simp [noProcess], by simp [apart, Owner.of]⟩
    · exact .inl (by simp [isThread, isProcess])

theorem hand {result : Result} (fits : Fits launch events w.table (.returning result)) :
    Touches launch w.table (w.hand result).table := by
  cases result with
  | discarded => exact refl _ _
  | failed => exact refl _ _
  | child process creation =>
      obtain ⟨entry, is, owner⟩ := fits.process process rfl
      refine put ?_ (by simp)
      intro held isHeld
      rw [is, Option.mem_some] at isHeld
      subst isHeld
      simp [owner, Owner.of]

end Touches

namespace Fits

/-- The entry of a duplicate is its launch's own. -/
theorem own {table : Nat → Option Entry} (fits : Fits launch events table place)
    (member : value ∈ place.owned) : ∀ entry ∈ table value, entry.owner.of launch := by
  obtain ⟨held, is, owner⟩ := fits.mine value member
  intro entry isEntry
  rw [is, Option.mem_some] at isEntry
  subst isEntry
  simp [owner, Owner.of]

theorem own_thread {table : Nat → Option Entry} (fits : Fits launch events table place)
    (thread : place.thread = some value) : ∀ entry ∈ table value, entry.owner.of launch := by
  obtain ⟨held, is, owner⟩ := fits.thread value thread
  intro entry isEntry
  rw [is, Option.mem_some] at isEntry
  subst isEntry
  simp [owner, Owner.of]

end Fits

/-- A step of a launch that leaves table and gate alone. -/
theorem acts_of_moves (fits : Fits launch events w.table (w.place launch))
    (owned : after.owned = (w.place launch).owned)
    (process : after.process = (w.place launch).process)
    (thread : after.thread = (w.place launch).thread)
    (gated : after.gated = (w.place launch).gated) (marked : after.Marked w.inherits) :
    Acts launch w events event (w.goes launch after) where
  place := fun other away => by simp [away]
  table := .refl _ _
  fits := by
    rw [World.goes_table, World.goes_place, if_pos rfl]
    exact fits.moves (List.subset_append_left ..) owned process thread gated marked
  gate := .inl ⟨rfl, by simpa using gated⟩
  poisoned := rfl

/-- A step of a launch that leaves the gate alone. -/
theorem acts_of_table {changed : World} (places : changed.place = w.place)
    (gate : changed.gate = w.gate) (poisoned : changed.poisoned = w.poisoned)
    (table : Touches launch w.table changed.table)
    (fits : Fits launch (events ++ [event]) changed.table after)
    (gated : after.gated = (w.place launch).gated) :
    Acts launch w events event (changed.goes launch after) where
  place := fun other away => by simp [away, places]
  table := table
  fits := by
    rw [World.goes_table, World.goes_place, if_pos rfl]
    exact fits
  gate := .inl ⟨gate, by simpa using gated⟩
  poisoned := poisoned

theorem Step.acts (sound : Sound events w) (step : Step w event next) :
    event = Event.outside ∨ ∃ launch, Acts launch w events event next := by
  have longer : events ⊆ events ++ [event] := List.subset_append_left ..
  cases step with
  | outside => exact .inl rfl
  | @moves launch place own =>
      have fits := sound.fits launch
      exact .inr ⟨launch, acts_of_moves fits own.owned own.process own.thread own.gated
        (own.marks fits.marked)⟩
  | @duplicates launch original copy copies here live new =>
      have fits := sound.fits launch
      rw [here] at fits
      refine .inr ⟨launch, acts_of_table rfl rfl rfl (.put (by simp [new]) (by simp [Owner.of]))
        (fits.gains longer new rfl rfl rfl rfl fun _ => trivial) (by simp [here, Place.gated])⟩
  | @duplicatesNext launch original copy rest copies standard here live new =>
      have fits := sound.fits launch
      rw [here] at fits
      refine .inr ⟨launch, acts_of_table rfl rfl rfl (.put (by simp [new]) (by simp [Owner.of]))
        (fits.gains longer new rfl rfl rfl rfl fun _ => trivial) (by simp [here, Place.gated])⟩
  | @adds launch original copy start rest copies here live new =>
      have fits := sound.fits launch
      rw [here] at fits
      refine .inr ⟨launch, acts_of_table rfl rfl rfl (.put (by simp [new]) (by simp [Owner.of]))
        (fits.gains longer new rfl rfl rfl rfl fun _ => trivial) (by simp [here, Place.gated])⟩
  | @pushes launch original copy mode copies here flag =>
      have fits := sound.fits launch
      refine .inr ⟨launch, acts_of_moves fits ?_ ?_ ?_ ?_ ?_⟩ <;>
        cases mode <;> simp [here, Mode.resume, Place.owned, Place.process, Place.thread,
          Place.gated, Place.Marked]
  | @begins launch copies here standard =>
      exact .inr ⟨launch, acts_of_moves (sound.fits launch) (by rw [here]; rfl) (by rw [here]; rfl)
        (by rw [here]; rfl) (by rw [here]; rfl) trivial⟩
  | @beginsSpawn launch standard copies here =>
      exact .inr ⟨launch, acts_of_moves (sound.fits launch) (by rw [here]; rfl) (by rw [here]; rfl)
        (by rw [here]; rfl) (by rw [here]; rfl) trivial⟩
  | @sees launch standard copies here =>
      exact .inr ⟨launch, acts_of_moves (sound.fits launch) (by rw [here]; rfl) (by rw [here]; rfl)
        (by rw [here]; rfl) (by rw [here]; rfl) trivial⟩
  | @seesFails launch standard copies here =>
      exact .inr ⟨launch, acts_of_moves (sound.fits launch) (by rw [here]; rfl) (by rw [here]; rfl)
        (by rw [here]; rfl) (by rw [here]; rfl) trivial⟩
  | @poisoned launch start copies here free poison =>
      exact .inr ⟨launch, acts_of_moves (sound.fits launch) (by rw [here]; rfl) (by rw [here]; rfl)
        (by rw [here]; rfl) (by rw [here]; rfl) trivial⟩
  | @refuses launch copy mode copies failure here ok =>
      have fits := sound.fits launch
      rw [here] at fits
      have gone : Fits launch (events ++ [Event.closes launch copy ok]) (w.close copy ok).table
          (mode.fail copies failure) :=
        fits.loses ok (show _ = copies ++ copy :: [] from rfl)
          (by cases mode <;> simp [Mode.fail, Place.owned]) (by cases mode <;> rfl)
          (by cases mode <;> rfl) (by cases mode <;> rfl)
          (by cases mode <;> exact fun _ => trivial)
      exact .inr ⟨launch, acts_of_table World.close_place World.close_gate World.close_poisoned
        (.close ok (fits.own (by simp [Place.owned]))) gone
        (by cases mode <;> simp [here, Mode.fail, Place.gated])⟩
  | @cleans launch copy copies result here ok =>
      have fits := sound.fits launch
      rw [here] at fits
      have gone : Fits launch (events ++ [Event.closes launch copy ok]) (w.close copy ok).table
          (.cleaning copies result) :=
        fits.loses ok (show _ = [] ++ copy :: copies from rfl) rfl (by cases result <;> rfl) rfl rfl
          fun _ => trivial
      exact .inr ⟨launch, acts_of_table World.close_place World.close_gate World.close_poisoned
        (.close ok (fits.own (by simp [Place.owned]))) gone (by simp [here, Place.gated])⟩
  | @drops launch copy copies result here ok =>
      have fits := sound.fits launch
      rw [here] at fits
      have gone : Fits launch (events ++ [Event.closes launch copy ok]) (w.close copy ok).table
          (.dropping copies result) :=
        fits.loses ok (show _ = [] ++ copy :: copies from rfl) rfl (by cases result <;> rfl) rfl rfl
          fun _ => trivial
      exact .inr ⟨launch, acts_of_table World.close_place World.close_gate World.close_poisoned
        (.close ok (fits.own (by simp [Place.owned]))) gone (by simp [here, Place.gated])⟩
  | @sets launch copy start todo copies here =>
      have fits := sound.fits launch
      rw [here] at fits
      have member : copy ∈ Place.owned (.setting copy todo start copies) := by
        obtain ⟨done, rfl, _⟩ := fits.marked
        simp [Place.owned]
      have own := fits.own member
      have still : ∀ entry ∈ (w.table copy).map fun entry => { entry with inheritable := true },
          entry.owner.of launch ∨ entry.owner = .outside := by
        intro entry isEntry
        obtain ⟨held, isHeld, rfl⟩ := Option.map_eq_some_iff.mp isEntry
        exact .inl (own held isHeld)
      exact .inr ⟨launch, acts_of_table rfl rfl rfl (.put own still) (fits.sets longer)
        (by simp [here, Place.gated])⟩
  | @creates launch process thread start copies here new =>
      have fits := sound.fits launch
      rw [here] at fits
      exact .inr ⟨launch, acts_of_table rfl rfl rfl (.create new) (fits.creates longer new)
        (by simp [here, Place.gated])⟩
  | @dropsThread launch process thread copies here ok =>
      have fits := sound.fits launch
      rw [here] at fits
      exact .inr ⟨launch, acts_of_table World.close_place World.close_gate World.close_poisoned
        (.close ok (fits.own_thread rfl)) (fits.dropsThread longer ok)
        (by simp [here, Place.gated])⟩
  | @returns launch result here =>
      have fits := sound.fits launch
      rw [here] at fits
      exact .inr ⟨launch, acts_of_table World.hand_place World.hand_gate World.hand_poisoned
        (.hand fits) (fits.returns longer) (by simp [here, Place.gated])⟩
  | @locks launch start copies here free clean =>
      have fits := sound.fits launch
      rw [here] at fits
      refine .inr ⟨launch, fun other away => by simp [away], .refl _ _, ?_, ?_, rfl⟩
      · simpa using fits.locks longer
      · exact .inr (.inl ⟨rfl, free, by simp [Place.gated]⟩)
  | @unlocks launch result here =>
      have fits := sound.fits launch
      rw [here] at fits
      refine .inr ⟨launch, fun other away => by simp [away], .refl _ _, ?_, ?_, rfl⟩
      · simpa using fits.leaves longer
      · exact .inr (.inr ⟨rfl, by simp [here, Place.gated], by simp [Place.gated]⟩)

namespace Sound

theorem acts (sound : Sound events w) (acts : Acts launch w events event next) :
    Sound (events ++ [event]) next where
  fits := by
    intro other
    by_cases same : other = launch
    · exact same ▸ acts.fits
    · rw [acts.place other same]
      exact (sound.fits other).spared (acts.table.spares same) (List.subset_append_left ..)
  gate := by
    intro other
    have before := sound.gate other
    have actor := sound.gate launch
    by_cases same : other = launch
    · subst same
      rcases acts.gate with ⟨gate, gated⟩ | ⟨gate, _, gated⟩ | ⟨gate, _, gated⟩
      · rw [gate, gated]
        exact before
      · simp [gate, gated]
      · simp [gate, gated]
    · rw [acts.place other same]
      rcases acts.gate with ⟨gate, _⟩ | ⟨gate, free, _⟩ | ⟨gate, held, _⟩
      · rw [gate]
        exact before
      · simpa [gate, free, Ne.symm same] using before
      · simpa [gate, actor.mpr held, Ne.symm same] using before
  clean := acts.poisoned.trans sound.clean

/-- The rest of the process leaves the launches' entries alone. -/
theorem outside (sound : Sound events w) (table : Nat → Option Entry)
    (own : ∀ value, table value = w.table value ∨
      (∀ entry ∈ w.table value, entry.owner = .outside) ∧
        ∀ entry ∈ table value, entry.owner = .outside) :
    Sound (events ++ [Event.outside]) { w with table := table } where
  fits := by
    intro launch
    refine (sound.fits launch).spared ?_ (List.subset_append_left ..)
    intro value entry mine
    rcases own value with same | ⟨old, new⟩
    · rw [← same]
    · constructor
      · exact fun is => absurd (new entry is) (Owner.not_outside mine)
      · exact fun is => absurd (old entry is) (Owner.not_outside mine)
  gate := sound.gate
  clean := sound.clean

theorem step (sound : Sound events w) (step : Step w event next) :
    Sound (events ++ [event]) next := by
  rcases step.acts sound with rfl | ⟨launch, acts⟩
  · cases step with
    | outside table own => exact sound.outside table own
  · exact sound.acts acts

end Sound

theorem sound_initial (handles : Nat → Option Bool) : Sound [] (initial handles) where
  fits := by
    intro launch
    constructor
    case mine => simp [initial, Place.owned]
    case distinct => exact List.nodup_nil
    case whole =>
        intro value entry is owner
        obtain ⟨_, _, rfl⟩ := Option.map_eq_some_iff.mp is
        cases owner
    case process => simp [initial, Place.process]
    case thread => simp [initial, Place.thread]
    case shown =>
        intro value entry is owner _
        obtain ⟨_, _, rfl⟩ := Option.map_eq_some_iff.mp is
        cases owner
    case marked => trivial
  gate := by simp [initial, Place.gated]
  clean := rfl

theorem run_sound {handles : Nat → Option Bool} (run : Trace Step (initial handles) events w) :
    Sound events w :=
  run.keeps (sound_initial handles) fun _ _ _ _ sound step => sound.step step

/-! What one launch has done, read from the events. -/

def Event.pushed (launch : Nat) : Event → Option Nat
  | .pushes who _ copy => if who = launch then some copy else none
  | _ => none

def Event.added (launch : Nat) : Event → Option (Nat × Nat)
  | .adds who original copy => if who = launch then some (original, copy) else none
  | _ => none

def prepared (launch : Nat) (events : List Event) : List Nat :=
  events.filterMap (Event.pushed launch)

def standards (launch : Nat) (events : List Event) : List (Nat × Nat) :=
  events.filterMap (Event.added launch)

@[simp] theorem prepared_snoc : prepared launch (events ++ [event]) =
    prepared launch events ++ (event.pushed launch).toList := by
  cases happens : event.pushed launch <;> simp [prepared, happens]

@[simp] theorem standards_snoc : standards launch (events ++ [event]) =
    standards launch events ++ (event.added launch).toList := by
  cases happens : event.added launch <;> simp [standards, happens]

/-- The callback has seen the prepared duplicates, and the standard handles up to the rest have
been added to them. -/
def Added (launch : Nat) (events : List Event) (rest : List Nat) (start : Nat)
    (copies : List Nat) : Prop :=
  ∃ standard, .begins launch standard ∈ events ∧ .sees launch (prepared launch events) ∈ events ∧
    (standards launch events).map Prod.fst ++ rest = standard.list ∧
    start = (prepared launch events).length ∧
    copies = prepared launch events ++ (standards launch events).map Prod.snd

def Story (launch : Nat) (events : List Event) : Place → Prop
  | .fresh => prepared launch events = [] ∧ standards launch events = []
  | .collecting copies | .looping _ _ copies | .pushed _ copies _ _ | .refusing _ copies _ _ =>
      prepared launch events = copies ∧ standards launch events = []
  | .checking _ standard copies | .calling standard copies =>
      prepared launch events = copies ∧ standards launch events = [] ∧
        .begins launch standard ∈ events
  | .adding rest start copies => Added launch events rest start copies
  | .building _ start copies | .gating start copies | .marking _ start copies
  | .setting _ _ start copies | .creating start copies => Added launch events [] start copies
  | _ => True

def Event.Quiet (launch : Nat) (event : Event) : Prop :=
  event.pushed launch = none ∧ event.added launch = none

theorem Added.mono {rest copies : List Nat} {start : Nat}
    (added : Added launch events rest start copies) (quiet : event.Quiet launch) :
    Added launch (events ++ [event]) rest start copies := by
  obtain ⟨standard, begins, sees, fits⟩ := added
  unfold Added
  rw [prepared_snoc, standards_snoc, quiet.1, quiet.2]
  exact ⟨standard, by simp [begins], by simp [sees], by simpa using fits⟩

namespace Story

theorem mono (story : Story launch events place) (quiet : event.Quiet launch) :
    Story launch (events ++ [event]) place := by
  have prepares : prepared launch (events ++ [event]) = prepared launch events := by
    simp [quiet.1]
  have adds : standards launch (events ++ [event]) = standards launch events := by
    simp [quiet.2]
  cases place <;> simp only [Story, prepares, adds] at * <;>
    first
      | exact story
      | exact story.mono quiet
      | exact ⟨story.1, story.2.1, List.mem_append_left _ story.2.2⟩

theorem moves {inherits : Nat → Bool} (story : Story launch events place)
    (move : Moves inherits place after) : Story launch events after := by
  cases move with
  | checks stage => cases stage <;> exact story
  | builds stage => cases stage <;> exact story
  | starts => exact story
  | spawns => exact story
  | pushFails => exact story
  | refusesUnknown => exact story
  | refusesInheritable => exact story
  | added => exact story
  | plain => exact story
  | marked => exact story
  | _ => trivial

/-- A step of one launch. -/
theorem goes {changed : World} (places : changed.place = w.place)
    (story : ∀ launch, Story launch events (w.place launch))
    (quiet : ∀ other, other ≠ launch → event.Quiet other)
    (own : Story launch (events ++ [event]) after) (other : Nat) :
    Story other (events ++ [event]) ((changed.goes launch after).place other) := by
  rw [World.goes_place, places]
  split
  case isTrue same => exact same ▸ own
  case isFalse away => exact (story other).mono (quiet other away)

theorem step (story : ∀ launch, Story launch events (w.place launch))
    (step : Step w event next) :
    ∀ launch, Story launch (events ++ [event]) (next.place launch) := by
  have here_story : ∀ {launch place}, w.place launch = place → Story launch events place :=
    fun {launch place} here => here ▸ story launch
  cases step with
  | outside => exact fun launch => (story launch).mono ⟨rfl, rfl⟩
  | @moves launch place own =>
      exact goes rfl story (fun _ _ => ⟨rfl, rfl⟩) (((story launch).moves own).mono ⟨rfl, rfl⟩)
  | duplicates here =>
      exact goes rfl story (fun _ _ => ⟨rfl, rfl⟩) ((here_story here).mono ⟨rfl, rfl⟩)
  | duplicatesNext here =>
      exact goes rfl story (fun _ _ => ⟨rfl, rfl⟩) ((here_story here).mono ⟨rfl, rfl⟩)
  | @pushes launch original copy mode copies here =>
      obtain ⟨prepares, none⟩ := here_story here
      refine goes rfl story (fun other away => ⟨by simp [Event.pushed, away.symm], rfl⟩) ?_
      cases mode <;> simp [Mode.resume, Story, prepares, none, Event.pushed, Event.added]
  | @refuses launch copy mode copies failure here ok =>
      have refused := here_story here
      refine goes World.close_place story (fun _ _ => ⟨rfl, rfl⟩) ?_
      cases mode with
      | prepared =>
          have kept : Story launch events (.collecting copies) := refused
          exact kept.mono ⟨rfl, rfl⟩
      | spawn => trivial
  | begins here standard =>
      obtain ⟨prepares, none⟩ := here_story here
      refine goes rfl story (fun _ _ => ⟨rfl, rfl⟩) ?_
      simp [Story, prepares, none, Event.pushed, Event.added]
  | beginsSpawn here =>
      obtain ⟨prepares, none⟩ := here_story here
      refine goes rfl story (fun _ _ => ⟨rfl, rfl⟩) ?_
      simp [Story, prepares, none, Event.pushed, Event.added]
  | @sees launch standard copies here =>
      obtain ⟨prepares, none, begins⟩ := here_story here
      refine goes rfl story (fun _ _ => ⟨rfl, rfl⟩) ⟨standard, ?_⟩
      simp [prepares, none, begins, Event.pushed, Event.added]
  | seesFails => exact goes rfl story (fun _ _ => ⟨rfl, rfl⟩) trivial
  | @adds launch original copy start rest copies here =>
      obtain ⟨standard, begins, sees, order, start, all⟩ := here_story here
      refine goes rfl story (fun other away => ⟨rfl, by simp [Event.added, away.symm]⟩) ?_
      refine ⟨standard, ?_⟩
      simp [begins, sees, order, start, all, Event.pushed, Event.added]
  | locks here =>
      exact goes rfl story (fun _ _ => ⟨rfl, rfl⟩) ((here_story here).mono ⟨rfl, rfl⟩)
  | poisoned => exact goes rfl story (fun _ _ => ⟨rfl, rfl⟩) trivial
  | sets here =>
      exact goes rfl story (fun _ _ => ⟨rfl, rfl⟩) ((here_story here).mono ⟨rfl, rfl⟩)
  | creates => exact goes rfl story (fun _ _ => ⟨rfl, rfl⟩) trivial
  | dropsThread => exact goes World.close_place story (fun _ _ => ⟨rfl, rfl⟩) trivial
  | cleans => exact goes World.close_place story (fun _ _ => ⟨rfl, rfl⟩) trivial
  | drops => exact goes World.close_place story (fun _ _ => ⟨rfl, rfl⟩) trivial
  | unlocks => exact goes rfl story (fun _ _ => ⟨rfl, rfl⟩) trivial
  | returns => exact goes World.hand_place story (fun _ _ => ⟨rfl, rfl⟩) trivial

end Story

theorem run_story {handles : Nat → Option Bool} (run : Trace Step (initial handles) events w) :
    ∀ launch, Story launch events (w.place launch) := by
  induction run with
  | nil => exact fun _ => ⟨rfl, rfl⟩
  | snoc _ step story => exact Story.step story step

/-! From the creation of a child to its return. -/

def Place.Launched (process : Nat) : Place → Prop
  | .adopting _ child _ | .querying _ child => child = process
  | .cleaning _ result | .unlocking result | .returning result =>
      ∃ creation, result = .child process creation
  | .gone => True
  | _ => False

theorem Moves.launched {inherits : Nat → Bool} {process : Nat} (move : Moves inherits place after)
    (launched : place.Launched process) : after.Launched process := by
  cases move with
  | queries copies child creation =>
      cases launched
      exact ⟨creation, rfl⟩
  | cleaned => exact launched
  | _ => exact launched.elim

theorem Moves.not_gone {inherits : Nat → Bool} (move : Moves inherits place after) :
    place ≠ .gone ∧ after ≠ .gone := by
  cases move with
  | checks stage => cases stage <;> simp [Check.pass, Check.next]
  | builds stage => cases stage <;> simp [Build.pass, Build.next]
  | _ => simp

def Event.Plain (launch : Nat) (event : Event) : Prop :=
  (∀ handles standard process, event ≠ .creates launch handles standard process) ∧
    ∀ result, event ≠ .returns launch result

structure Delivers (launch : Nat) (events : List Event) (place : Place) : Prop where
  launched : ∀ handles standard process, .creates launch handles standard process ∈ events →
    place.Launched process
  returned : ∀ result, .returns launch result ∈ events → place = .gone
  gone : place = .gone → ∃ result, .returns launch result ∈ events
  child : ∀ handles standard process result,
    .creates launch handles standard process ∈ events → .returns launch result ∈ events →
      ∃ creation, result = .child process creation

namespace Delivers

theorem plain (delivers : Delivers launch events place) (quiet : event.Plain launch)
    (launched : ∀ process, place.Launched process → after.Launched process)
    (stays : place = .gone ↔ after = .gone) : Delivers launch (events ++ [event]) after := by
  have creates_before : ∀ {handles standard process},
      .creates launch handles standard process ∈ events ++ [event] →
      .creates launch handles standard process ∈ events := by
    intro handles standard process member
    rcases List.mem_append.mp member with before | now
    · exact before
    · exact absurd (List.mem_singleton.mp now).symm (quiet.1 _ _ _)
  have returns_before : ∀ {result}, .returns launch result ∈ events ++ [event] →
      .returns launch result ∈ events := by
    intro result member
    rcases List.mem_append.mp member with before | now
    · exact before
    · exact absurd (List.mem_singleton.mp now).symm (quiet.2 _)
  constructor
  case launched =>
      intro handles standard process created
      exact launched process (delivers.launched handles standard process (creates_before created))
  case returned =>
      intro result returned
      exact stays.mp (delivers.returned result (returns_before returned))
  case gone =>
      intro gone
      obtain ⟨result, returned⟩ := delivers.gone (stays.mpr gone)
      exact ⟨result, List.mem_append_left _ returned⟩
  case child =>
      intro handles standard process result created returned
      exact delivers.child handles standard process result (creates_before created)
        (returns_before returned)

/-- A step of one launch. -/
theorem goes {changed : World} (places : changed.place = w.place)
    (delivers : ∀ launch, Delivers launch events (w.place launch))
    (quiet : ∀ other, other ≠ launch → event.Plain other)
    (own : Delivers launch (events ++ [event]) after) (other : Nat) :
    Delivers other (events ++ [event]) ((changed.goes launch after).place other) := by
  rw [World.goes_place, places]
  split
  case isTrue same => exact same ▸ own
  case isFalse away => exact (delivers other).plain (quiet other away) (fun _ => id) .rfl

theorem creates {start process : Nat} {copies standard : List Nat} (thread : Nat)
    (delivers : Delivers launch events (.creating start copies)) :
    Delivers launch (events ++ [.creates launch copies standard process])
      (.adopting copies process thread) := by
  -- nothing has been created or returned before
  have first : ∀ {handles standard process},
      .creates launch handles standard process ∉ events :=
    fun created => delivers.launched _ _ _ created
  have open_ : ∀ {result}, .returns launch result ∉ events := by
    intro result returned
    cases delivers.returned result returned
  constructor
  case launched =>
      intro handles standard child created
      rcases List.mem_append.mp created with before | now
      · exact (first before).elim
      · cases List.mem_singleton.mp now
        rfl
  case returned =>
      intro result returned
      simp [open_] at returned
  case gone => simp
  case child =>
      intro handles standard child result _ returned
      simp [open_] at returned

theorem returns {result : Result} (delivers : Delivers launch events (.returning result)) :
    Delivers launch (events ++ [.returns launch result]) .gone := by
  have open_ : ∀ {result}, .returns launch result ∉ events := by
    intro other returned
    cases delivers.returned other returned
  constructor
  case launched => exact fun _ _ _ _ => trivial
  case returned => exact fun _ _ => rfl
  case gone => exact fun _ => ⟨result, by simp⟩
  case child =>
      intro handles standard process other created returned
      have same : other = result := by simpa [open_] using returned
      subst same
      exact delivers.launched handles standard process (by simpa using created)

/-- A step of a launch that neither creates nor returns. -/
theorem goes_plain {changed : World} (places : changed.place = w.place)
    (delivers : ∀ launch, Delivers launch events (w.place launch))
    (quiet : ∀ launch, event.Plain launch) (here : w.place launch = place)
    (launched : ∀ process, place.Launched process → after.Launched process)
    (before : place ≠ .gone) (still : after ≠ .gone) (other : Nat) :
    Delivers other (events ++ [event]) ((changed.goes launch after).place other) := by
  refine goes places delivers (fun other _ => quiet other) ?_ other
  exact (here ▸ delivers launch).plain (quiet launch) launched (iff_of_false before still)

theorem step (delivers : ∀ launch, Delivers launch events (w.place launch))
    (step : Step w event next) :
    ∀ launch, Delivers launch (events ++ [event]) (next.place launch) := by
  cases step with
  | outside =>
      exact fun launch => (delivers launch).plain (by simp [Event.Plain]) (fun _ => id) .rfl
  | @moves launch place own =>
      refine goes rfl delivers (fun _ _ => by simp [Event.Plain]) ?_
      refine (delivers launch).plain (by simp [Event.Plain]) (fun _ => own.launched) ?_
      exact iff_of_false own.not_gone.1 own.not_gone.2
  | creates here new =>
      refine goes rfl delivers (fun other away => ?_) ((here ▸ delivers _).creates _)
      simp [Event.Plain, away.symm]
  | returns here =>
      refine goes World.hand_place delivers (fun other away => ?_) (here ▸ delivers _).returns
      simp [Event.Plain, away.symm]
  | @pushes _ _ _ mode _ here =>
      exact goes_plain rfl delivers (by simp [Event.Plain]) here (fun _ => False.elim) (by simp)
        (by cases mode <;> simp [Mode.resume])
  | @refuses _ _ mode _ _ here =>
      exact goes_plain World.close_place delivers (by simp [Event.Plain]) here
        (fun _ => False.elim) (by simp) (by cases mode <;> simp [Mode.fail])
  | dropsThread here =>
      exact goes_plain World.close_place delivers (by simp [Event.Plain]) here
        (fun _ => id) (by simp) (by simp)
  | cleans here =>
      exact goes_plain World.close_place delivers (by simp [Event.Plain]) here
        (fun _ => id) (by simp) (by simp)
  | drops here =>
      exact goes_plain World.close_place delivers (by simp [Event.Plain]) here
        (fun _ => False.elim) (by simp) (by simp)
  | unlocks here =>
      exact goes_plain rfl delivers (by simp [Event.Plain]) here (fun _ => id) (by simp) (by simp)
  | duplicates here | duplicatesNext here | begins here | beginsSpawn here | sees here
  | seesFails here | adds here | locks here | poisoned here | sets here =>
      exact goes_plain rfl delivers (by simp [Event.Plain]) here (fun _ => False.elim) (by simp)
        (by simp)

end Delivers

theorem run_delivers {handles : Nat → Option Bool} (run : Trace Step (initial handles) events w) :
    ∀ launch, Delivers launch events (w.place launch) := by
  induction run with
  | nil => exact fun _ => ⟨by simp, by simp, by simp [initial], by simp⟩
  | snoc _ step delivers => exact Delivers.step delivers step

theorem Step.moves_at (here : w.place launch = place) (own : Moves w.inherits place after) :
    Step w .silent (w.goes launch after) := by
  subst here
  exact .moves own

/-- A launch that has closed nothing yet can close everything and return. -/
theorem cleaning_returns {result : Result} {copies : List Nat} :
    ∀ {w : World}, w.place launch = .cleaning copies result →
      ∃ more next, Trace Step w more next ∧ .returns launch result ∈ more := by
  induction copies with
  | nil =>
      intro w here
      have cleaned := Trace.nil.snoc (Step.moves_at here (.cleaned result))
      have unlocked := cleaned.snoc (@Step.unlocks _ launch result (by simp))
      have returned := unlocked.snoc (@Step.returns _ launch result (by simp))
      exact ⟨_, _, returned, by simp⟩
  | cons copy copies held =>
      intro w here
      have closed := Trace.nil.snoc (Step.cleans here true)
      obtain ⟨more, next, rest, returned⟩ :=
        @held ((w.close copy true).goes launch (.cleaning copies result)) (by simp)
      exact ⟨_, next, closed.append rest, by simp [returned]⟩

theorem launched_returns {process : Nat} (launched : (w.place launch).Launched process)
    (open_ : w.place launch ≠ .gone) : ∃ more next creation,
      Trace Step w more next ∧ .returns launch (.child process creation) ∈ more := by
  have queries : ∀ {w : World} {copies : List Nat}, w.place launch = .querying copies process →
      ∃ more next creation, Trace Step w more next ∧
        .returns launch (.child process creation) ∈ more := by
    intro w copies here
    have asked := Trace.nil.snoc (Step.moves_at here (.queries copies process (.ok 0)))
    obtain ⟨more, next, rest, returned⟩ := @cleaning_returns launch (.child process (.ok 0)) copies
      (w.goes launch (.cleaning copies (.child process (.ok 0)))) (by simp)
    exact ⟨_, next, .ok 0, asked.append rest, by simp [returned]⟩
  cases here : w.place launch with
  | adopting copies child thread =>
      rw [here] at launched
      cases launched
      have dropped := Trace.nil.snoc (Step.dropsThread here true)
      obtain ⟨more, next, creation, rest, returned⟩ :=
        @queries ((w.close thread true).goes launch (.querying copies process)) copies (by simp)
      exact ⟨_, next, creation, dropped.append rest, by simp [returned]⟩
  | querying copies child =>
      rw [here] at launched
      cases launched
      exact queries here
  | cleaning copies result =>
      rw [here] at launched
      obtain ⟨creation, rfl⟩ := launched
      obtain ⟨more, next, rest, returned⟩ := cleaning_returns here
      exact ⟨more, next, creation, rest, returned⟩
  | unlocking result =>
      rw [here] at launched
      obtain ⟨creation, rfl⟩ := launched
      have unlocked := Trace.nil.snoc (Step.unlocks here)
      have returned := unlocked.snoc (@Step.returns _ launch (.child process creation) (by simp))
      exact ⟨_, _, creation, returned, by simp⟩
  | returning result =>
      rw [here] at launched
      obtain ⟨creation, rfl⟩ := launched
      exact ⟨_, _, creation, Trace.nil.snoc (Step.returns here), by simp⟩
  | gone => exact absurd here open_
  | _ =>
      rw [here] at launched
      exact launched.elim

/-! Whole runs. -/

def World.duplicateOf (w : World) (launch value : Nat) : Prop :=
  ∃ entry, w.table value = some entry ∧ entry.owner = .duplicate launch

structure Fenced (events : List Event) (w : World) : Prop where
  /-- A duplicate is inheritable only behind the gate of its own launch. -/
  shown : ∀ launch value, w.duplicateOf launch value → w.inherits value = true →
    w.gate = some launch ∨ .closes launch value false ∈ events
  /-- When a launch gives the gate back, and when it returns, its duplicates are closed. -/
  closed : ∀ launch event next, Step w event next →
    (event = .unlocks launch ∨ ∃ result, event = .returns launch result) →
    ∀ value, w.duplicateOf launch value → .closes launch value false ∈ events
  /-- No step of a launch changes what is not its own. -/
  originals : ∀ event next, Step w event next → event ≠ .outside →
    ∀ value entry, w.table value = some entry → entry.owner = .outside →
      next.table value = some entry
  /-- The list is what the callback has seen, and then the three standard handles. -/
  list : ∀ launch handles standard process next,
    Step w (.creates launch handles standard process) next →
    handles = prepared launch events ++ standard ∧
      .sees launch (prepared launch events) ∈ events ∧
      ∃ originals, .begins launch originals ∈ events ∧
        (standards launch events).map Prod.fst = originals.list ∧
        (standards launch events).map Prod.snd = standard
  /-- It has every duplicate of the launch once, behind the gate, and inheritable. -/
  exact : ∀ launch handles standard process next,
    Step w (.creates launch handles standard process) next →
    w.gate = some launch ∧ handles.Nodup ∧
      (∀ value ∈ handles, w.duplicateOf launch value ∧ w.inherits value = true) ∧
      ∀ value, w.duplicateOf launch value →
        value ∈ handles ∨ .closes launch value false ∈ events
  /-- The child inherits no duplicate of another launch. -/
  apart : ∀ launch handles standard process next,
    Step w (.creates launch handles standard process) next →
    ∀ other value, value ∈ handles → w.duplicateOf other value → other = launch
  /-- A launch that has created a child returns it. -/
  child : ∀ launch handles standard process result,
    .creates launch handles standard process ∈ events → .returns launch result ∈ events →
    ∃ creation, result = .child process creation
  returns : ∀ launch handles standard process,
    .creates launch handles standard process ∈ events →
    (∃ result, .returns launch result ∈ events) ∨ ∃ more next creation,
      Trace Step w more next ∧ .returns launch (.child process creation) ∈ more

namespace Sound

theorem shows (sound : Sound events w) (duplicate : w.duplicateOf launch value)
    (inherits : w.inherits value = true) :
    w.gate = some launch ∨ .closes launch value false ∈ events := by
  obtain ⟨entry, is, owner⟩ := duplicate
  have flag : entry.inheritable = true := by simpa [World.inherits, is] using inherits
  rw [sound.gate launch]
  exact (sound.fits launch).shown value entry is owner flag

/-- Where a launch owns nothing any more. -/
theorem closes (sound : Sound events w) (empty : (w.place launch).owned = [])
    (duplicate : w.duplicateOf launch value) : .closes launch value false ∈ events := by
  obtain ⟨entry, is, owner⟩ := duplicate
  rcases (sound.fits launch).whole value entry is owner with member | closed
  · simp [empty] at member
  · exact closed

theorem originals (sound : Sound events w) (step : Step w event next) (inside : event ≠ .outside)
    (is : w.table value = some entry) (owner : entry.owner = .outside) :
    next.table value = some entry := by
  rcases step.acts sound with outside | ⟨launch, acts⟩
  · exact absurd outside inside
  · rcases acts.table value with same | ⟨old, _⟩
    · exact same.trans is
    · exact absurd owner (Owner.not_outside (old entry is))

end Sound

theorem World.duplicateOf_unique (one : w.duplicateOf launch value)
    (two : w.duplicateOf other value) : other = launch := by
  obtain ⟨entry, is, owner⟩ := one
  obtain ⟨held, same, owner'⟩ := two
  rw [is, Option.some.injEq] at same
  subst same
  rw [owner, Owner.duplicate.injEq] at owner'
  exact owner'.symm

theorem launches_fenced {handles : Nat → Option Bool}
    (run : Trace Step (initial handles) events w) : Fenced events w := by
  have sound := run_sound run
  have story := run_story run
  have delivers := run_delivers run
  constructor
  case shown => exact fun launch value => sound.shows
  case closed =>
      intro launch event next step ends value
      apply sound.closes
      rcases ends with rfl | ⟨result, rfl⟩
      · cases step with
        | unlocks here => rw [here]; rfl
      · cases step with
        | returns here => rw [here]; rfl
  case originals =>
      intro event next step inside value entry
      exact sound.originals step inside
  case list =>
      intro launch handles standard process next step
      cases step with
      | creates here =>
          have added := story launch
          rw [here] at added
          obtain ⟨originals, begins, sees, order, rfl, rfl⟩ := added
          refine ⟨by simp, sees, originals, begins, by simpa using order, by simp⟩
  case exact =>
      intro launch handles standard process next step
      cases step with
      | creates here =>
          have fits := sound.fits launch
          rw [here] at fits
          refine ⟨(sound.gate launch).mpr (by simp [here, Place.gated]), fits.distinct, ?_, ?_⟩
          · exact fun value member => ⟨fits.mine value member, fits.marked value member⟩
          · exact fun value ⟨entry, is, owner⟩ => fits.whole value entry is owner
  case apart =>
      intro launch handles standard process next step other value member duplicate
      cases step with
      | creates here =>
          have fits := sound.fits launch
          rw [here] at fits
          exact World.duplicateOf_unique (fits.mine value member) duplicate
  case child =>
      intro launch handles standard process result created returned
      exact (delivers launch).child handles standard process result created returned
  case returns =>
      intro launch handles standard process created
      by_cases gone : w.place launch = .gone
      · exact .inl ((delivers launch).gone gone)
      · exact .inr (launched_returns ((delivers launch).launched _ _ _ created) gone)

/-! Two launches, each with one prepared handle. -/

def someHandles (value : Nat) : Option Bool := if value < 10 then some false else none

def someStandard : Standard := ⟨1, 2, 3⟩

/-- One launch gets up to the call of `CreateProcessW`, the other one up to the gate. -/
theorem reaches_creation : ∃ events w, Trace Step (initial someHandles) events w ∧
    w.place 0 = .creating 1 [10, 11, 12, 13] ∧ w.place 1 = .gating 1 [14, 15, 16, 17] ∧
    w.table 10 = some { owner := .duplicate 0, inheritable := true } ∧
    w.table 20 = none ∧ w.table 21 = none := by
  have spawned : Trace Step (initial someHandles) _ _ :=
    Trace.nil.snoc (@Step.moves _ 0 _ (.spawns [4] someStandard))
  have spawned1 := spawned.snoc (@Step.moves _ 1 _ (.spawns [5] someStandard))
  have copied := spawned1.snoc (@Step.duplicatesNext _ 0 4 10 _ _ _ rfl rfl rfl)
  have copied1 := copied.snoc (@Step.duplicatesNext _ 1 5 14 _ _ _ rfl rfl rfl)
  have pushed := copied1.snoc (@Step.pushes _ 0 4 10 _ _ rfl rfl)
  have begun := pushed.snoc (@Step.beginsSpawn _ 0 _ _ rfl)
  have pushed1 := begun.snoc (@Step.pushes _ 1 5 14 _ _ rfl rfl)
  have begun1 := pushed1.snoc (@Step.beginsSpawn _ 1 _ _ rfl)
  have absolute := begun1.snoc (@Step.moves _ 0 _ (.checks .absolute someStandard [10]))
  have locked := absolute.snoc (@Step.moves _ 0 _ (.checks .ancestors someStandard [10]))
  have opened := locked.snoc (@Step.moves _ 0 _ (.checks .image someStandard [10]))
  have known := opened.snoc (@Step.moves _ 0 _ (.checks .metadata someStandard [10]))
  have regular := known.snoc (@Step.moves _ 0 _ (.checks .regular someStandard [10]))
  have same := regular.snoc (@Step.moves _ 0 _ (.checks .identity someStandard [10]))
  have absolute1 := same.snoc (@Step.moves _ 1 _ (.checks .absolute someStandard [14]))
  have locked1 := absolute1.snoc (@Step.moves _ 1 _ (.checks .ancestors someStandard [14]))
  have opened1 := locked1.snoc (@Step.moves _ 1 _ (.checks .image someStandard [14]))
  have known1 := opened1.snoc (@Step.moves _ 1 _ (.checks .metadata someStandard [14]))
  have regular1 := known1.snoc (@Step.moves _ 1 _ (.checks .regular someStandard [14]))
  have same1 := regular1.snoc (@Step.moves _ 1 _ (.checks .identity someStandard [14]))
  have seen := same1.snoc (@Step.sees _ 0 _ _ rfl)
  have seen1 := seen.snoc (@Step.sees _ 1 _ _ rfl)
  have input := seen1.snoc (@Step.adds _ 0 1 11 _ _ _ rfl rfl rfl)
  have input1 := input.snoc (@Step.adds _ 1 1 15 _ _ _ rfl rfl rfl)
  have output := input1.snoc (@Step.adds _ 0 2 12 _ _ _ rfl rfl rfl)
  have output1 := output.snoc (@Step.adds _ 1 2 16 _ _ _ rfl rfl rfl)
  have error := output1.snoc (@Step.adds _ 0 3 13 _ _ _ rfl rfl rfl)
  have error1 := error.snoc (@Step.adds _ 1 3 17 _ _ _ rfl rfl rfl)
  have added := error1.snoc (@Step.moves _ 0 _ (.added 1 [10, 11, 12, 13]))
  have application := added.snoc (@Step.moves _ 0 _ (.builds .application 1 [10, 11, 12, 13]))
  have command := application.snoc (@Step.moves _ 0 _ (.builds .command 1 [10, 11, 12, 13]))
  have environment := command.snoc (@Step.moves _ 0 _ (.builds .environment 1 [10, 11, 12, 13]))
  have attributes := environment.snoc (@Step.moves _ 0 _ (.builds .attributes 1 [10, 11, 12, 13]))
  have gate := attributes.snoc (@Step.locks _ 0 _ _ rfl rfl rfl)
  -- the other launch waits for the gate
  have added1 := gate.snoc (@Step.moves _ 1 _ (.added 1 [14, 15, 16, 17]))
  have application1 := added1.snoc (@Step.moves _ 1 _ (.builds .application 1 [14, 15, 16, 17]))
  have command1 := application1.snoc (@Step.moves _ 1 _ (.builds .command 1 [14, 15, 16, 17]))
  have environment1 := command1.snoc (@Step.moves _ 1 _ (.builds .environment 1 [14, 15, 16, 17]))
  have attributes1 := environment1.snoc (@Step.moves _ 1 _ (.builds .attributes 1 [14, 15, 16, 17]))
  have plain_0 := attributes1.snoc (@Step.moves _ 0 _ (.plain [11, 12, 13] 1 [10, 11, 12, 13] rfl))
  have set_0 := plain_0.snoc (@Step.sets _ 0 10 _ _ _ rfl)
  have plain_1 := set_0.snoc (@Step.moves _ 0 _ (.plain [12, 13] 1 [10, 11, 12, 13] rfl))
  have set_1 := plain_1.snoc (@Step.sets _ 0 11 _ _ _ rfl)
  have plain_2 := set_1.snoc (@Step.moves _ 0 _ (.plain [13] 1 [10, 11, 12, 13] rfl))
  have set_2 := plain_2.snoc (@Step.sets _ 0 12 _ _ _ rfl)
  have plain_3 := set_2.snoc (@Step.moves _ 0 _ (.plain [] 1 [10, 11, 12, 13] rfl))
  have set_3 := plain_3.snoc (@Step.sets _ 0 13 _ _ _ rfl)
  have marked := set_3.snoc (@Step.moves _ 0 _ (.marked 1 [10, 11, 12, 13]))
  exact ⟨_, _, marked, rfl, rfl, rfl, rfl, rfl⟩

/-- The launch creates its child with its own four duplicates, while the other one waits. -/
theorem launches_fenced_two : ∃ events w next, Trace Step (initial someHandles) events w ∧
    w.place 1 = .gating 1 [14, 15, 16, 17] ∧
    Step w (.creates 0 [10, 11, 12, 13] [11, 12, 13] 20) next ∧ Fenced events w := by
  obtain ⟨events, w, run, here, waits, _, noProcess, noThread⟩ := reaches_creation
  have create := Step.creates here ⟨noProcess, noThread, by decide⟩
  exact ⟨events, w, _, run, waits, create, launches_fenced run⟩

/-- `CloseHandle` fails for one duplicate: it stays inheritable without the gate. -/
theorem unclosed_duplicate_stays_inheritable : ∃ events w,
    Trace Step (initial someHandles) events w ∧ .unlocks 0 ∈ events ∧ w.gate = none ∧
    w.duplicateOf 0 10 ∧ w.inherits 10 = true := by
  obtain ⟨events, w, run, here, -, is, noProcess, noThread⟩ := reaches_creation
  have created := run.snoc (Step.creates here ⟨noProcess, noThread, by decide⟩)
  have dropped := created.snoc (@Step.dropsThread _ 0 20 21 [10, 11, 12, 13] (by simp) true)
  have asked := dropped.snoc
    (@Step.moves_at _ 0 _ _ (by simp) (.queries [10, 11, 12, 13] 20 (.ok 0)))
  -- the first of the four is not closed
  have close0 := asked.snoc (@Step.cleans _ 0 10 [11, 12, 13] (.child 20 (.ok 0)) (by simp) false)
  have close1 := close0.snoc (@Step.cleans _ 0 11 [12, 13] (.child 20 (.ok 0)) (by simp) true)
  have close2 := close1.snoc (@Step.cleans _ 0 12 [13] (.child 20 (.ok 0)) (by simp) true)
  have close3 := close2.snoc (@Step.cleans _ 0 13 [] (.child 20 (.ok 0)) (by simp) true)
  have cleaned := close3.snoc
    (@Step.moves_at _ 0 _ _ (by simp) (.cleaned (.child 20 (.ok 0))))
  have unlocked := cleaned.snoc (@Step.unlocks _ 0 (.child 20 (.ok 0)) (by simp))
  refine ⟨_, _, unlocked, by simp, rfl, ⟨⟨.duplicate 0, true⟩, by simp [is], rfl⟩, ?_⟩
  simp [World.inherits, is]

end Bscp.Virtmgr.WindowsProcess
