import Bscp.LocalRpc.PipeRegistry
import Bscp.Machine

/-!
The life of a slot: the number is reserved, and its map entry stays, until the owner that was
registered under it has closed its handle and then the number. Whatever refers to an owner keeps
its handle open.
-/

namespace Bscp.LocalRpc.PipeRegistry

open Machine

/-- The owner is there, or kept for good. -/
def Phase.live (phase : Phase) : Prop := phase ≠ .unborn ∧ phase ≠ .deleted

structure Own (closes : List Nat) (o : Nat) (value : Owner) : Prop where
  fresh : value.phase = .unborn ∨ value.phase = .opened ∨ value.phase = .built →
    value.registered = false
  built : value.phase = .built → value.handle ≠ none
  shared : value.phase = .shared → value.handle ≠ none ∧ value.registered = true
  releasing : value.phase = .releasing → value.registered = true → value.handle ≠ none
  closed : value.phase = .closed → value.registered = true → value.handle = none ∧ o ∈ closes
  called : o ∈ closes →
    value.phase = .closed ∨ value.phase = .retained ∨ value.phase = .deleted

structure Refers (w : World) : Prop where
  active : ∀ fd o, w.pipes fd = some (some o) → (w.owner o).slot = fd ∧ (w.owner o).phase = .shared
  leased : ∀ o ∈ w.leases, (w.owner o).phase = .shared
  closing : ∀ pair ∈ w.closing, (w.owner pair.2).phase = .shared

structure Sound (w : World) : Prop where
  born : ∀ o, w.next ≤ o → (w.owner o).phase = .unborn
  own : ∀ o, Own w.closes o (w.owner o)
  refers : Refers w
  reserved : ∀ o, (w.owner o).phase.live → w.crt (w.owner o).slot = .pipe o
  pipe : ∀ fd o, w.crt fd = .pipe o → (w.owner o).slot = fd ∧ (w.owner o).phase.live
  entry : ∀ fd, w.pipes fd ≠ none → ∃ o, w.crt fd = .pipe o ∧ (w.owner o).registered = true
  registered : ∀ o, (w.owner o).registered = true → (w.owner o).phase.live →
    w.pipes (w.owner o).slot ≠ none
  once : w.closes.Nodup

theorem Sound.new : Sound {} where
  born := fun _ _ => rfl
  own := fun _ => ⟨fun _ => rfl, nofun, nofun, nofun, nofun, nofun⟩
  refers := ⟨nofun, nofun, nofun⟩
  reserved := fun _ live => absurd rfl live.1
  pipe := nofun
  entry := fun _ there => absurd rfl there
  registered := nofun
  once := List.nodup_nil

section Owners

variable {w : World} {o : Nat}

theorem held_false : w.held o = false ↔
    o ∉ w.leases ∧ (∀ pair ∈ w.closing, pair.2 ≠ o) ∧ w.pipes (w.owner o).slot ≠ some (some o) := by
  simp [World.held, and_assoc]

/-- What is not shared, nothing refers to. -/
theorem Sound.unheld (sound : Sound w) (other : (w.owner o).phase ≠ .shared) : w.held o = false := by
  refine held_false.mpr ⟨fun lease => ?_, fun pair mem same => ?_, fun active => ?_⟩
  · exact other (sound.refers.leased o lease)
  · exact other (same ▸ sound.refers.closing pair mem)
  · exact other (sound.refers.active _ o active).2

/-- One owner goes on, and keeps its slot. -/
theorem Sound.set (sound : Sound w) {value : Owner} {closes : List Nat}
    (slot : value.slot = (w.owner o).slot) (registered : value.registered = (w.owner o).registered)
    (before : (w.owner o).phase.live) (after : value.phase.live)
    (free : w.held o = false) (own : Own closes o value)
    (calls : closes = w.closes ∨ closes = o :: w.closes ∧ o ∉ w.closes) :
    Sound { w.setOwner o value with closes := closes } := by
  obtain ⟨unleased, unclosing, inactive⟩ := held_false.mp free
  have once : closes.Nodup := by
    rcases calls with rfl | ⟨rfl, fresh⟩
    · exact sound.once
    · exact List.nodup_cons.mpr ⟨fresh, sound.once⟩
  have grown : ∀ other, other ≠ o → (other ∈ closes ↔ other ∈ w.closes) := by
    intro other different
    rcases calls with rfl | ⟨rfl, fresh⟩
    · rfl
    · simp [different]
  constructor
  case once => exact once
  case born =>
    intro other late
    have unborn := sound.born other late
    have different : other ≠ o := fun same => before.1 (same ▸ unborn)
    simpa [different] using unborn
  case own =>
    intro other
    by_cases same : other = o
    · simpa [same] using own
    · have own := sound.own other
      simp only [World.setOwner_owner, if_neg same]
      exact ⟨own.fresh, own.built, own.shared, own.releasing,
        fun closed reg => ⟨(own.closed closed reg).1, (grown other same).mpr (own.closed closed reg).2⟩,
        fun mem => own.called ((grown other same).mp mem)⟩
  case refers =>
    constructor
    · intro fd other active
      have there := sound.refers.active fd other active
      have different : other ≠ o := by
        rintro rfl
        exact inactive (by rw [there.1]; exact active)
      simpa [different] using there
    · intro other mem
      have different : other ≠ o := fun same => unleased (same ▸ mem)
      simpa [different] using sound.refers.leased other mem
    · intro pair mem
      simpa [unclosing pair mem] using sound.refers.closing pair mem
  case reserved =>
    intro other
    by_cases same : other = o
    · simpa [same, slot] using fun _ => sound.reserved o before
    · simpa [same] using sound.reserved other
  case pipe =>
    intro fd other there
    have known := sound.pipe fd other there
    by_cases same : other = o
    · subst same
      simpa [slot] using ⟨known.1, after⟩
    · simpa [same] using known
  case entry =>
    intro fd there
    obtain ⟨other, reserved, known⟩ := sound.entry fd there
    refine ⟨other, reserved, ?_⟩
    by_cases same : other = o
    · subst same
      simpa [registered] using known
    · simpa [same] using known
  case registered =>
    intro other
    by_cases same : other = o
    · subst same
      simpa [slot, registered] using fun known _ => sound.registered other known before
    · simpa [same] using sound.registered other

/-- One owner goes on without a call of `CloseHandle`. -/
theorem Sound.advance (sound : Sound w) {value : Owner} (slot : value.slot = (w.owner o).slot)
    (registered : value.registered = (w.owner o).registered) (before : (w.owner o).phase.live)
    (after : value.phase.live) (free : w.held o = false) (own : Own w.closes o value) :
    Sound (w.setOwner o value) :=
  sound.set slot registered before after free own (.inl rfl)

/-- An owner in use has not been closed. -/
theorem Sound.unclosed (sound : Sound w) (open_ : (w.owner o).phase ≠ .closed ∧
    (w.owner o).phase ≠ .retained ∧ (w.owner o).phase ≠ .deleted) : o ∉ w.closes := by
  intro mem
  rcases (sound.own o).called mem with phase | phase | phase
  · exact open_.1 phase
  · exact open_.2.1 phase
  · exact open_.2.2 phase

theorem Sound.letGo (sound : Sound w) (shared : (w.owner o).phase = .shared) :
    Sound (w.letGo o) := by
  unfold World.letGo
  split
  · exact sound
  · rename_i free
    have own := (sound.own o).shared shared
    have unclosed : o ∉ w.closes := sound.unclosed (by rw [shared]; decide)
    apply sound.advance
    case slot => rfl
    case registered => rfl
    case before => rw [shared]; exact ⟨nofun, nofun⟩
    case after => exact ⟨nofun, nofun⟩
    case free => exact Bool.eq_false_iff.mpr free
    case own => exact ⟨nofun, nofun, nofun, fun _ _ => own.1, nofun, fun mem => absurd mem unclosed⟩

/-- What is given up in `registerOverlappedPipe`. -/
theorem Sound.gives (sound : Sound w)
    (here : (w.owner o).phase = .opened ∨ (w.owner o).phase = .built) :
    Sound (w.setOwner o { w.owner o with phase := .releasing }) := by
  have fresh := (sound.own o).fresh (.inr here)
  have phases : (w.owner o).phase ≠ .shared ∧ (w.owner o).phase.live ∧ o ∉ w.closes := by
    have unclosed : o ∉ w.closes := by
      apply sound.unclosed
      rcases here with here | here <;> rw [here] <;> decide
    rcases here with here | here
    · exact ⟨by rw [here]; nofun, by rw [here]; exact ⟨nofun, nofun⟩, unclosed⟩
    · exact ⟨by rw [here]; nofun, by rw [here]; exact ⟨nofun, nofun⟩, unclosed⟩
  apply sound.advance
  case slot => rfl
  case registered => rfl
  case before => exact phases.2.1
  case after => exact ⟨nofun, nofun⟩
  case free => exact sound.unheld phases.1
  case own =>
    exact ⟨nofun, nofun, nofun, fun _ known => absurd (fresh.symm.trans known) nofun, nofun,
      fun mem => absurd mem phases.2.2⟩

theorem Sound.lease (sound : Sound w) (shared : (w.owner o).phase = .shared) :
    Sound { w with leases := o :: w.leases } := by
  obtain ⟨born, own, ⟨active, leased, closing⟩, reserved, pipe, entry, registered, once⟩ := sound
  refine ⟨born, own, ⟨active, fun other mem => ?_, closing⟩, reserved, pipe, entry, registered, once⟩
  rcases List.mem_cons.mp mem with rfl | mem
  · exact shared
  · exact leased other mem

/-- Fewer references. -/
theorem Sound.fewer (sound : Sound w) {leases : List Nat} {closing waiting : List (Int × Nat)}
    (less : ∀ other ∈ leases, other ∈ w.leases) (ended : ∀ pair ∈ closing, pair ∈ w.closing) :
    Sound { w with leases := leases, closing := closing, waiting := waiting } := by
  obtain ⟨born, own, ⟨active, leased, taken⟩, reserved, pipe, entry, registered, once⟩ := sound
  exact ⟨born, own, ⟨active, fun other mem => leased other (less other mem),
    fun pair mem => taken pair (ended pair mem)⟩, reserved, pipe, entry, registered, once⟩

/-- A number that is no pipe's, before and after. -/
theorem Sound.file (sound : Sound w) {fd : Int} {value : Slot}
    (before : ∀ other, w.crt fd ≠ .pipe other) (after : ∀ other, value ≠ .pipe other) :
    Sound { w with crt := Function.update w.crt fd value } := by
  obtain ⟨born, own, refers, reserved, pipe, entry, registered, once⟩ := sound
  have kept : ∀ {number : Int} {other : Nat}, w.crt number = .pipe other →
      Function.update w.crt fd value number = .pipe other := by
    intro number other there
    rw [Function.update_of_ne]
    · exact there
    · rintro rfl
      exact before other there
  constructor
  case born => exact born
  case own => exact own
  case refers => exact ⟨refers.active, refers.leased, refers.closing⟩
  case reserved => exact fun other live => kept (reserved other live)
  case pipe =>
    intro number other there
    by_cases same : number = fd
    · subst same
      exact absurd ((Function.update_self ..).symm.trans there) (after other)
    · exact pipe number other ((Function.update_of_ne same ..).symm.trans there)
  case entry =>
    intro number there
    obtain ⟨other, reserved, known⟩ := entry number there
    exact ⟨other, kept reserved, known⟩
  case registered => exact registered
  case once => exact once

theorem Sound.reserves (sound : Sound w) {fd : Int} (free : w.crt fd = .free) :
    Sound { w.setOwner w.next { slot := fd, phase := .opened } with
      next := w.next + 1
      crt := Function.update w.crt fd (.pipe w.next) } := by
  have unborn := sound.born w.next (Nat.le_refl _)
  have unheld := held_false.mp (sound.unheld (by rw [unborn]; nofun))
  -- nobody refers to an owner that is not born
  have kept : ∀ {number : Int} {other : Nat}, w.crt number = .pipe other →
      number ≠ fd ∧ other ≠ w.next := by
    intro number other there
    constructor
    · rintro rfl
      exact absurd (free.symm.trans there) nofun
    · rintro rfl
      exact (sound.pipe number _ there).2.1 unborn
  constructor
  case once => exact sound.once
  case born =>
    intro other late
    have different : other ≠ w.next := Nat.ne_of_gt late
    simpa [different] using sound.born other (Nat.le_of_succ_le late)
  case own =>
    intro other
    by_cases same : other = w.next
    · have unclosed : w.next ∉ w.closes := sound.unclosed (by rw [unborn]; decide)
      simp only [World.setOwner_owner, same, if_true]
      exact ⟨fun _ => rfl, nofun, nofun, nofun, nofun, fun mem => absurd mem unclosed⟩
    · simpa [same] using sound.own other
  case refers =>
    constructor
    · intro number other active
      have there := sound.refers.active number other active
      have different : other ≠ w.next := by
        rintro rfl
        exact absurd (unborn.symm.trans there.2) nofun
      simpa [different] using there
    · intro other mem
      have different : other ≠ w.next := fun same => unheld.1 (same ▸ mem)
      simpa [different] using sound.refers.leased other mem
    · intro pair mem
      simpa [unheld.2.1 pair mem] using sound.refers.closing pair mem
  case reserved =>
    intro other
    by_cases same : other = w.next
    · simp [same]
    · simp only [World.setOwner_owner, if_neg same]
      intro live
      have there := sound.reserved other live
      rw [Function.update_of_ne (kept there).1]
      exact there
  case pipe =>
    intro number other there
    by_cases same : number = fd
    · subst same
      dsimp only at there
      rw [Function.update_self] at there
      obtain rfl := Slot.pipe.inj there
      simp [Phase.live]
    · dsimp only at there
      rw [Function.update_of_ne same] at there
      simpa [(kept there).2] using sound.pipe number other there
  case entry =>
    intro number there
    obtain ⟨other, reserved, known⟩ := sound.entry number there
    refine ⟨other, ?_, ?_⟩
    · dsimp only
      rw [Function.update_of_ne (kept reserved).1]
      exact reserved
    · simpa [(kept reserved).2] using known
  case registered =>
    intro other
    by_cases same : other = w.next
    · simp [same]
    · simpa [same] using sound.registered other

theorem Sound.publishes (sound : Sound w) (here : (w.owner o).phase = .built) :
    Sound { w.setOwner o { w.owner o with registered := true, phase := .shared } with
      pipes := Function.update w.pipes (w.owner o).slot (some (some o))
      leases := o :: w.leases } := by
  have live : (w.owner o).phase.live := by rw [here]; exact ⟨nofun, nofun⟩
  have unheld := held_false.mp (sound.unheld (by rw [here]; nofun))
  constructor
  case once => exact sound.once
  case born =>
    intro other late
    have unborn := sound.born other late
    have different : other ≠ o := fun same => live.1 (same ▸ unborn)
    simpa [different] using unborn
  case own =>
    intro other
    by_cases same : other = o
    · have unclosed : o ∉ w.closes := sound.unclosed (by rw [here]; decide)
      simp only [World.setOwner_owner, same, if_true]
      exact ⟨nofun, nofun, fun _ => ⟨(sound.own o).built here, rfl⟩, nofun, nofun,
        fun mem => absurd mem unclosed⟩
    · simpa [same] using sound.own other
  case refers =>
    constructor
    · intro fd other active
      dsimp only at active
      by_cases same : fd = (w.owner o).slot
      · subst same
        rw [Function.update_self] at active
        obtain rfl := Option.some.inj (Option.some.inj active)
        simp
      · rw [Function.update_of_ne same] at active
        have there := sound.refers.active fd other active
        have different : other ≠ o := fun eq => same (eq ▸ there.1.symm)
        simpa [different] using there
    · intro other mem
      rcases List.mem_cons.mp mem with rfl | mem
      · simp
      · have different : other ≠ o := fun same => unheld.1 (same ▸ mem)
        simpa [different] using sound.refers.leased other mem
    · intro pair mem
      simpa [unheld.2.1 pair mem] using sound.refers.closing pair mem
  case reserved =>
    intro other
    by_cases same : other = o
    · simpa [same] using fun _ => sound.reserved o live
    · simpa [same] using sound.reserved other
  case pipe =>
    intro fd other there
    have known := sound.pipe fd other there
    by_cases same : other = o
    · subst same
      simpa [Phase.live] using known.1
    · simpa [same] using known
  case entry =>
    intro fd there
    by_cases same : fd = (w.owner o).slot
    · exact ⟨o, same ▸ sound.reserved o live, by simp⟩
    · dsimp only at there
      rw [Function.update_of_ne same] at there
      obtain ⟨other, reserved, known⟩ := sound.entry fd there
      have different : other ≠ o := fun eq => same (eq ▸ (sound.pipe fd other reserved).1.symm)
      exact ⟨other, reserved, by simpa [different] using known⟩
  case registered =>
    intro other known alive
    dsimp only
    by_cases same : other = o
    · simp [same]
    · simp only [World.setOwner_owner, if_neg same] at known alive ⊢
      rw [Function.update_apply]
      split
      · exact nofun
      · exact sound.registered other known alive

theorem Sound.takes (sound : Sound w) {fd : Int} (there : w.pipes fd = some (some o)) :
    Sound (w.take fd o) := by
  obtain ⟨born, own, ⟨active, leased, closing⟩, reserved, pipe, entry, registered, once⟩ := sound
  have others : ∀ number, Function.update w.pipes fd (some none) number ≠ none ↔
      w.pipes number ≠ none := by
    intro number
    rw [Function.update_apply]
    split
    · rename_i same
      simp [same, there]
    · rfl
  constructor
  case born => exact born
  case own => exact own
  case refers =>
    refine ⟨fun number other taken => ?_, leased, fun pair mem => ?_⟩
    · dsimp only [World.take] at taken
      rw [Function.update_apply] at taken
      split at taken
      · exact absurd taken nofun
      · exact active number other taken
    · rcases List.mem_cons.mp mem with rfl | mem
      · exact (active fd o there).2
      · exact closing pair mem
  case reserved => exact reserved
  case pipe => exact pipe
  case entry => exact fun number there => entry number ((others number).mp there)
  case registered => exact fun other known live => (others _).mpr (registered other known live)
  case once => exact once

/-- The number is given back and its entry goes with it. -/
theorem Sound.closesSlot (sound : Sound w) (here : (w.owner o).phase = .closed) :
    Sound { w.setOwner o { w.owner o with phase := .deleted } with
      crt := Function.update w.crt (w.owner o).slot .free
      pipes :=
        if (w.owner o).registered then Function.update w.pipes (w.owner o).slot none
        else w.pipes } := by
  have live : (w.owner o).phase.live := by rw [here]; exact ⟨nofun, nofun⟩
  have mine := sound.reserved o live
  have unheld := held_false.mp (sound.unheld (by rw [here]; nofun))
  -- no other live owner has the number
  have apart : ∀ other, other ≠ o → (w.owner other).phase.live →
      (w.owner other).slot ≠ (w.owner o).slot := by
    intro other different alive same
    have theirs := sound.reserved other alive
    rw [same, mine] at theirs
    exact different (Slot.pipe.inj theirs).symm
  -- an owner that was not registered has no entry to erase
  have erased : (if (w.owner o).registered then Function.update w.pipes (w.owner o).slot none
      else w.pipes) = Function.update w.pipes (w.owner o).slot none := by
    split
    · rfl
    · rename_i unregistered
      symm
      rw [Function.update_eq_self_iff]
      by_contra there
      obtain ⟨other, reserved, known⟩ := sound.entry _ (Ne.symm there)
      rw [mine] at reserved
      exact unregistered (Slot.pipe.inj reserved ▸ known)
  rw [erased]
  constructor
  case once => exact sound.once
  case born =>
    intro other late
    have unborn := sound.born other late
    have different : other ≠ o := fun same => live.1 (same ▸ unborn)
    simpa [different] using unborn
  case own =>
    intro other
    by_cases same : other = o
    · simp only [World.setOwner_owner, same, if_true]
      exact ⟨nofun, nofun, nofun, nofun, nofun, fun _ => .inr (.inr rfl)⟩
    · simpa [same] using sound.own other
  case refers =>
    constructor
    · intro fd other active
      dsimp only at active
      rw [Function.update_apply] at active
      split at active
      · exact absurd active nofun
      · rename_i elsewhere
        have there := sound.refers.active fd other active
        have different : other ≠ o := fun eq => elsewhere (eq ▸ there.1.symm)
        simpa [different] using there
    · intro other mem
      have different : other ≠ o := fun same => unheld.1 (same ▸ mem)
      simpa [different] using sound.refers.leased other mem
    · intro pair mem
      simpa [unheld.2.1 pair mem] using sound.refers.closing pair mem
  case reserved =>
    intro other
    by_cases same : other = o
    · simp [same, Phase.live]
    · simp only [World.setOwner_owner, if_neg same]
      intro alive
      rw [Function.update_of_ne (apart other same alive)]
      exact sound.reserved other alive
  case pipe =>
    intro fd other there
    dsimp only at there
    rw [Function.update_apply] at there
    split at there
    · exact absurd there nofun
    · rename_i elsewhere
      have known := sound.pipe fd other there
      have different : other ≠ o := fun eq => elsewhere (eq ▸ known.1.symm)
      simpa [different] using known
  case entry =>
    intro fd there
    dsimp only at there ⊢
    rw [Function.update_apply] at there
    split at there
    · exact absurd rfl there
    · rename_i elsewhere
      obtain ⟨other, reserved, known⟩ := sound.entry fd there
      have different : other ≠ o :=
        fun eq => elsewhere (eq ▸ (sound.pipe fd other reserved).1.symm)
      refine ⟨other, ?_, by simpa [different] using known⟩
      rw [Function.update_of_ne elsewhere]
      exact reserved
  case registered =>
    intro other known alive
    dsimp only
    by_cases same : other = o
    · simp [same, Phase.live] at alive
    · simp only [World.setOwner_owner, if_neg same] at known alive ⊢
      rw [Function.update_of_ne (apart other same alive)]
      exact sound.registered other known alive

end Owners

theorem Sound.step {w next : World} {event : Option Event} (sound : Sound w)
    (step : Step w event next) : Sound next := by
  cases step with
  | refused => exact sound
  | acquiresNothing => exact sound
  | looks => exact sound
  | closeMissing => exact sound
  | closeRetired => exact sound
  | fileOpens fd free => exact sound.file (by rw [free]; nofun) nofun
  | fileCloses fd file => exact sound.file (by rw [file]; nofun) nofun
  | reserves fd valid free => exact sound.reserves free
  | @duplicates o here handle =>
      have fresh := (sound.own o).fresh (.inr (.inl here))
      have unclosed : o ∉ w.closes := sound.unclosed (by rw [here]; decide)
      apply sound.advance
      case slot => rfl
      case registered => rfl
      case before => rw [here]; exact ⟨nofun, nofun⟩
      case after => exact ⟨nofun, nofun⟩
      case free => exact sound.unheld (by rw [here]; nofun)
      case own =>
        exact ⟨fun _ => fresh, fun _ => nofun, nofun, nofun, nofun, fun mem => absurd mem unclosed⟩
  | gives here => exact sound.gives here
  | collides here => exact sound.gives (.inr here)
  | publishes here free => exact sound.publishes here
  | acquires there => exact sound.lease (sound.refers.active _ _ there).2
  | copies lease => exact sound.lease (sound.refers.leased _ lease)
  | @drops o lease =>
      apply Sound.letGo
      · exact sound.fewer (fun _ => List.mem_of_mem_erase) (fun _ => id)
      · exact sound.refers.leased o lease
  | closeTakes there => exact sound.takes there
  | @closeResets fd o taken =>
      apply Sound.letGo
      · exact sound.fewer (fun _ => id) (fun _ => List.mem_of_mem_erase)
      · exact sound.refers.closing (fd, o) taken
  | closeReturns reset still => exact sound.fewer (fun _ => id) (fun _ => id)
  | @closesNothing o here null =>
      have unclosed : o ∉ w.closes := sound.unclosed (by rw [here]; decide)
      have unregistered : (w.owner o).registered = false := by
        by_contra known
        exact (sound.own o).releasing here (by simpa using known) null
      apply sound.advance
      case slot => rfl
      case registered => rfl
      case before => rw [here]; exact ⟨nofun, nofun⟩
      case after => exact ⟨nofun, nofun⟩
      case free => exact sound.unheld (by rw [here]; nofun)
      case own =>
        exact ⟨nofun, nofun, nofun, nofun,
          fun _ known => absurd (unregistered.symm.trans known) nofun, fun _ => .inl rfl⟩
  | @closesHandle o here handle =>
      have unclosed : o ∉ w.closes := sound.unclosed (by rw [here]; decide)
      apply sound.set
      case slot => rfl
      case registered => rfl
      case before => rw [here]; exact ⟨nofun, nofun⟩
      case after => exact ⟨nofun, nofun⟩
      case free => exact sound.unheld (by rw [here]; nofun)
      case own =>
        exact ⟨nofun, nofun, nofun, nofun, fun _ _ => ⟨rfl, List.mem_cons_self⟩, fun _ => .inl rfl⟩
      case calls => exact .inr ⟨rfl, unclosed⟩
  | @closeHandleFails o here handle e =>
      have unclosed : o ∉ w.closes := sound.unclosed (by rw [here]; decide)
      apply sound.set
      case slot => rfl
      case registered => rfl
      case before => rw [here]; exact ⟨nofun, nofun⟩
      case after => exact ⟨nofun, nofun⟩
      case free => exact sound.unheld (by rw [here]; nofun)
      case own => exact ⟨nofun, nofun, nofun, nofun, nofun, fun _ => .inr (.inl rfl)⟩
      case calls => exact .inr ⟨rfl, unclosed⟩
  | closesSlot here => exact sound.closesSlot here
  | @closeSlotFails o here =>
      apply sound.advance
      case slot => rfl
      case registered => rfl
      case before => rw [here]; exact ⟨nofun, nofun⟩
      case after => exact ⟨nofun, nofun⟩
      case free => exact sound.unheld (by rw [here]; nofun)
      case own => exact ⟨nofun, nofun, nofun, nofun, nofun, fun _ => .inr (.inl rfl)⟩

/-! ### Runs -/

def Moves (w next : World) : Prop := ∃ event, Step w event next

def Quiet (fd : Int) (w next : World) : Prop :=
  ∃ event, Step w event next ∧ event ≠ some (.registered 0 fd)

theorem reach_sound {w : World} (reach : Reach Moves {} w) : Sound w :=
  reach_keeps Sound.new (fun _ _ sound ⟨_, step⟩ => sound.step step) reach

section Runs

variable {w next : World} {event : Option Event}

/-- Only a registration makes an entry active. -/
theorem Step.retired {fd : Int} (step : Step w event next) (quiet : event ≠ some (.registered 0 fd))
    (retired : ∀ o, w.pipes fd ≠ some (some o)) : ∀ o, next.pipes fd ≠ some (some o) := by
  cases step with
  | @publishes o here free =>
      have elsewhere : fd ≠ (w.owner o).slot := by
        rintro rfl
        exact quiet rfl
      simpa [Function.update_of_ne elsewhere] using retired
  | @closeTakes number o there =>
      intro other
      dsimp only [World.take]
      rw [Function.update_apply]
      split
      · exact nofun
      · exact retired other
  | @closesSlot o here =>
      intro other
      dsimp only
      split
      · rw [Function.update_apply]
        split
        · exact nofun
        · exact retired other
      · exact retired other
  | @drops o lease =>
      unfold World.letGo
      split
      · exact retired
      · exact retired
  | @closeResets number o taken =>
      unfold World.letGo
      split
      · exact retired
      · exact retired
  | _ => exact retired

/-- An entry goes with the number, after the handle. -/
theorem Step.erases {fd : Int} (sound : Sound w) (step : Step w event next)
    (there : w.pipes fd ≠ none) (gone : next.pipes fd = none) :
    ∃ o, (w.owner o).slot = fd ∧ (w.owner o).registered = true ∧ (w.owner o).handle = none ∧
      o ∈ w.closes ∧ w.crt fd = .pipe o ∧ next.crt fd = .free := by
  cases step with
  | @publishes o here free =>
      dsimp only at gone
      rw [Function.update_apply] at gone
      split at gone
      · exact absurd gone nofun
      · exact absurd gone there
  | @closeTakes number o active =>
      dsimp only [World.take] at gone
      rw [Function.update_apply] at gone
      split at gone
      · exact absurd gone nofun
      · exact absurd gone there
  | @closesSlot o here =>
      dsimp only at gone
      split at gone
      · rename_i known
        rw [Function.update_apply] at gone
        split at gone
        · rename_i same
          subst same
          obtain ⟨null, called⟩ := (sound.own o).closed here known
          have reserved := sound.reserved o (by rw [here]; exact ⟨nofun, nofun⟩)
          exact ⟨o, rfl, known, null, called, reserved, Function.update_self ..⟩
        · exact absurd gone there
      · exact absurd gone there
  | @drops o lease =>
      unfold World.letGo at gone
      split at gone
      · exact absurd gone there
      · exact absurd gone there
  | @closeResets number o taken =>
      unfold World.letGo at gone
      split at gone
      · exact absurd gone there
      · exact absurd gone there
  | _ => exact absurd gone there

def Past (h : Option Nat) (value : Owner) : Prop :=
  value.phase ≠ .unborn ∧ value.phase ≠ .opened ∧ value.phase ≠ .built ∧
    (value.phase = .shared → value.handle = h)

theorem Step.past {o : Nat} {h : Option Nat} (sound : Sound w) (step : Step w event next)
    (past : Past h (w.owner o)) : Past h (next.owner o) := by
  -- a step of one owner: where it is this one, its phase tells which steps are left
  have moved : ∀ {mover : Nat} {value : Owner}, (mover = o → Past h value) →
      Past h (if o = mover then value else w.owner o) := by
    intro mover value mine
    split
    · rename_i same
      exact mine same.symm
    · exact past
  obtain ⟨unborn, opened, built, handle⟩ := id past
  cases step with
  | reserves =>
      rw [World.setOwner_owner]
      apply moved
      rintro rfl
      exact absurd (sound.born w.next (Nat.le_refl _)) unborn
  | duplicates here =>
      rw [World.setOwner_owner]
      apply moved
      rintro rfl
      exact absurd here opened
  | gives here =>
      rw [World.setOwner_owner]
      apply moved
      rintro rfl
      exact here.elim (absurd · opened) (absurd · built)
  | collides here =>
      rw [World.setOwner_owner]
      apply moved
      rintro rfl
      exact absurd here built
  | publishes here =>
      rw [World.setOwner_owner]
      apply moved
      rintro rfl
      exact absurd here built
  | drops =>
      unfold World.letGo
      split
      · exact past
      · rw [World.setOwner_owner]
        exact moved fun _ => ⟨nofun, nofun, nofun, nofun⟩
  | closeResets =>
      unfold World.letGo
      split
      · exact past
      · rw [World.setOwner_owner]
        exact moved fun _ => ⟨nofun, nofun, nofun, nofun⟩
  | closesNothing =>
      rw [World.setOwner_owner]
      exact moved fun _ => ⟨nofun, nofun, nofun, nofun⟩
  | closesHandle =>
      rw [World.setOwner_owner]
      exact moved fun _ => ⟨nofun, nofun, nofun, nofun⟩
  | closeHandleFails =>
      rw [World.setOwner_owner]
      exact moved fun _ => ⟨nofun, nofun, nofun, nofun⟩
  | closesSlot =>
      rw [World.setOwner_owner]
      exact moved fun _ => ⟨nofun, nofun, nofun, nofun⟩
  | closeSlotFails =>
      rw [World.setOwner_owner]
      exact moved fun _ => ⟨nofun, nofun, nofun, nofun⟩
  | _ => exact past

/-- While a lease of it is there, an owner has the handle that it had when the lease was given. -/
theorem leased_handle {o : Nat} (sound : Sound w) (shared : (w.owner o).phase = .shared)
    {later : World} (run : Reach Moves w later) :
    Sound later ∧ Past (w.owner o).handle (later.owner o) := by
  have start : Sound w ∧ Past (w.owner o).handle (w.owner o) := by
    refine ⟨sound, ?_, ?_, ?_, fun _ => rfl⟩
    all_goals rw [shared]; nofun
  induction run with
  | refl => exact start
  | tail _ move held =>
      obtain ⟨event, step⟩ := move
      exact ⟨held.1.step step, step.past held.1 held.2⟩

/-- In every state that any interleaving reaches: a handle is closed once at most, when nothing
refers to its owner; an entry is erased with its number, after the handle, and until then the
number is reserved for the owner; no two owners have one number; once a close has taken a slot,
a close answers EBADF while the entry is there and returns false after that, and there is
nothing to acquire, until the number is registered anew; and a lease borrows the handle that is
registered under its number. -/
theorem registry_is_sound {w : World} (reach : Reach Moves {} w) :
    (w.closes.Nodup ∧ ∀ o ∈ w.closes, w.held o = false) ∧
    (∀ event next fd, Step w event next → w.pipes fd ≠ none → next.pipes fd = none →
      ∃ o, (w.owner o).slot = fd ∧ (w.owner o).registered = true ∧ (w.owner o).handle = none ∧
        o ∈ w.closes ∧ w.crt fd = .pipe o ∧ next.crt fd = .free) ∧
    (∀ fd, w.pipes fd ≠ none → ∃ o, w.crt fd = .pipe o ∧ (w.owner o).registered = true) ∧
    (∀ o other, (w.owner o).phase.live → (w.owner other).phase.live →
      (w.owner o).slot = (w.owner other).slot → o = other) ∧
    (∀ fd o, w.pipes fd = some (some o) →
      ∀ later, Reach (Quiet fd) (w.take fd o) later → ∀ event next, Step later event next →
        (∀ lease, event = some (.acquired fd lease) → lease = none) ∧
        (∀ result, event = some (.closed fd result) →
          later.pipes fd = some none ∧ result = some (-ebadf) ∨
            later.pipes fd = none ∧ result = none)) ∧
    (∀ fd o next, Step w (some (.acquired fd (some o))) next →
      w.pipes fd = some (some o) ∧ (w.owner o).slot = fd ∧ (w.owner o).handle ≠ none ∧
        ∀ later, Reach Moves next later → o ∈ later.leases →
          (later.owner o).handle = (w.owner o).handle) := by
  have sound := reach_sound reach
  refine ⟨⟨sound.once, fun o mem => ?_⟩, fun event next fd step => step.erases sound, sound.entry,
    fun o other live alive same => ?_, fun fd o there later run => ?_,
    fun fd o next step => ?_⟩
  · apply sound.unheld
    rcases (sound.own o).called mem with phase | phase | phase <;> rw [phase] <;> nofun
  · have mine := sound.reserved o live
    rw [same, sound.reserved other alive] at mine
    exact (Slot.pipe.inj mine).symm
  · have inactive : ∀ o, later.pipes fd ≠ some (some o) := by
      induction run with
      | refl =>
          intro other
          dsimp only [World.take]
          rw [Function.update_self]
          nofun
      | tail _ move held =>
          obtain ⟨event, step, quiet⟩ := move
          exact step.retired quiet held
    intro event next step
    cases step with
    | @acquires number other active =>
        refine ⟨fun lease eq => ?_, nofun⟩
        obtain ⟨rfl, rfl⟩ := Event.acquired.inj (Option.some.inj eq)
        exact absurd active (inactive other)
    | acquiresNothing =>
        refine ⟨fun lease eq => ?_, nofun⟩
        exact (Event.acquired.inj (Option.some.inj eq)).2.symm
    | closeMissing number absent =>
        refine ⟨nofun, fun result eq => ?_⟩
        obtain ⟨rfl, rfl⟩ := Event.closed.inj (Option.some.inj eq)
        exact .inr ⟨absent, rfl⟩
    | closeRetired number retired =>
        refine ⟨nofun, fun result eq => ?_⟩
        obtain ⟨rfl, rfl⟩ := Event.closed.inj (Option.some.inj eq)
        exact .inl ⟨retired, rfl⟩
    | _ => exact ⟨nofun, nofun⟩
  · cases step with
    | acquires there =>
        obtain ⟨slot, shared⟩ := sound.refers.active fd o there
        refine ⟨there, slot, ((sound.own o).shared shared).1, fun later run mem => ?_⟩
        obtain ⟨later_sound, past⟩ := leased_handle (sound.lease shared) shared run
        exact past.2.2.2 (later_sound.refers.leased o mem)

end Runs

def onePipe : World :=
  { next := 1
    owner := Function.update (fun _ => {}) 0
      { handle := some 7, slot := 3, registered := true, phase := .shared }
    pipes := Function.update (fun _ => none) 3 (some (some 0))
    crt := Function.update (fun _ => .free) 3 (.pipe 0) }

theorem onePipe_reached : Reach Moves {} onePipe := by
  let opened : World :=
    { next := 1
      owner := Function.update (fun _ => {}) 0 { slot := 3, phase := .opened }
      crt := Function.update (fun _ => .free) 3 (.pipe 0) }
  let built := opened.setOwner 0 { opened.owner 0 with handle := some 7, phase := .built }
  have reserved : Moves {} opened := ⟨none, .reserves 3 (by decide) rfl⟩
  have duplicated : Moves opened built := ⟨none, .duplicates (o := 0) rfl 7⟩
  have published : Moves built { onePipe with leases := [0] } := by
    have step := Step.publishes (w := built) (o := 0) rfl rfl
    have eq : { built.setOwner 0 { built.owner 0 with registered := true, phase := .shared } with
        pipes := Function.update built.pipes (built.owner 0).slot (some (some 0))
        leases := 0 :: built.leases } = { onePipe with leases := [0] } := by
      simp [built, opened, onePipe, World.setOwner]
    exact ⟨_, eq ▸ step⟩
  have dropped : Moves { onePipe with leases := [0] } onePipe := ⟨none, .drops (o := 0) List.mem_cons_self⟩
  exact (((Relation.ReflTransGen.single reserved).tail duplicated).tail published).tail dropped

/-- With a lease that outlives the close, the number is retired: its closes answer EBADF. -/
theorem retired_number_answers : ∃ w later, Reach Moves {} w ∧ w.pipes 3 = some (some 0) ∧
    Reach (Quiet 3) (w.take 3 0) later ∧ Step later (some (.closed 3 (some (-ebadf)))) later ∧
    later.pipes 3 = some none ∧ w.closes.Nodup := by
  let leased : World := { onePipe with leases := [0] }
  let retired : World := { leased.take 3 0 with closing := [], waiting := [(3, 0)] }
  have acquired : Moves onePipe leased := ⟨_, @Step.acquires _ 3 0 rfl⟩
  have reset : Quiet 3 (leased.take 3 0) retired :=
    ⟨none, @Step.closeResets _ 3 0 List.mem_cons_self, nofun⟩
  have refused : Step retired (some (.closed 3 (some (-ebadf)))) retired := .closeRetired 3 rfl
  have sound := registry_is_sound (onePipe_reached.tail acquired)
  have answers := sound.2.2.2.2.1 3 0 rfl retired (.single reset) _ _ refused
  refine ⟨leased, retired, onePipe_reached.tail acquired, rfl, .single reset, refused, ?_, sound.1.1⟩
  rcases answers.2 _ rfl with ⟨entry, -⟩ | ⟨-, result⟩
  · exact entry
  · exact absurd result nofun

/-- Once the entry is erased, a further close of the number returns false. -/
theorem further_close_returns_false : ∃ w later, Reach Moves {} w ∧ w.pipes 3 = some (some 0) ∧
    Reach (Quiet 3) (w.take 3 0) later ∧ Step later (some (.closed 3 none)) later := by
  let reset : World := { onePipe.take 3 0 with closing := [], waiting := [(3, 0)] }
  let releasing := reset.setOwner 0 { reset.owner 0 with phase := .releasing }
  let closed : World :=
    { releasing.setOwner 0 { releasing.owner 0 with handle := none, phase := .closed } with
      closes := [0] }
  let erased : World :=
    { closed.setOwner 0 { closed.owner 0 with phase := .deleted } with
      crt := Function.update closed.crt 3 .free
      pipes := Function.update closed.pipes 3 none }
  have resets : Quiet 3 (onePipe.take 3 0) releasing :=
    ⟨none, @Step.closeResets _ 3 0 List.mem_cons_self, nofun⟩
  have closes : Quiet 3 releasing closed := ⟨none, .closesHandle (o := 0) rfl nofun, nofun⟩
  have frees : Quiet 3 closed erased := ⟨none, .closesSlot (o := 0) rfl, nofun⟩
  refine ⟨onePipe, erased, onePipe_reached, rfl, ?_, .closeMissing 3 rfl⟩
  exact ((Relation.ReflTransGen.single resets).tail closes).tail frees

end Bscp.LocalRpc.PipeRegistry
