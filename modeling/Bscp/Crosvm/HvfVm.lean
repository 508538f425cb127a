import Bscp.Machine
import Mathlib.Data.List.AList
import Mathlib.Data.List.Nodup
import Mathlib.Data.List.Range
import Mathlib.Algebra.Ring.Nat

/-!
The memory regions and I/O events of an HVF virtual machine (`hypervisor/src/hvf/vm.rs`). Clones
share the tables behind their locks, and every call holds the locks that it needs to its end, so
the calls on all clones are one sequence. Whether each call into the hypervisor and each clone of
an event succeeds is given with the call.
-/

namespace Bscp.Crosvm.HvfVm

open Bscp.Machine

inductive Failure where
  /-- `EOVERFLOW`. -/
  | overflow
  /-- `ENOSPC`: the range meets guest memory. -/
  | noSpace
  /-- `EIO`: a call into the hypervisor failed. -/
  | native
  /-- `ENOENT`. -/
  | noEntry
  /-- `EEXIST`. -/
  | exists
  /-- The event could not be cloned. -/
  | clone
  deriving DecidableEq, Repr

abbrev Range := Nat × Nat

structure Region where
  range : Range
  memory : Nat
  deriving DecidableEq, Repr

inductive IoEventAddress where
  | pio (address : Nat)
  | mmio (address : Nat)
  deriving DecidableEq, Repr

structure Guest where
  memory : List Range := []
  pageSize : Nat := 16384

namespace Guest

def numRegions (g : Guest) : Nat := g.memory.length

def rangeOverlap (g : Guest) (first last : Nat) : Bool :=
  g.memory.any fun region => region.1 < last && first < region.1 + region.2

def wholePages (g : Guest) (size : Nat) : Nat :=
  (size + g.pageSize - 1) % 2 ^ 64 / g.pageSize * g.pageSize

end Guest

structure Tables where
  memRegions : AList fun _ : Nat => Region := ∅
  memSlotGaps : List Nat := []
  ioevents : AList fun _ : IoEventAddress => Nat := ∅
  /-- The ranges that the hypervisor maps because of these calls. -/
  mapped : List Range := []

namespace Tables

def slots (t : Tables) : List Nat := t.memRegions.keys

def recorded (t : Tables) : List Range := t.memRegions.entries.map fun entry => entry.2.range

end Tables

structure Native where
  map : Bool := true
  protect : Bool := true
  /-- The unmap after a failed protect. -/
  unmap : Bool := true
  deriving DecidableEq, Repr

inductive Answer where
  | slot (slot : Nat)
  | memory (memory : Nat)
  | done
  deriving DecidableEq, Repr

abbrev Result := Except Failure Answer

/-- The slot that a new region gets, and the gaps without it. -/
def takeSlot (g : Guest) (t : Tables) : Nat × List Nat :=
  match t.memSlotGaps.min? with
  | some slot => (slot, t.memSlotGaps.erase slot)
  | none => ((t.slots.length + g.numRegions) % 2 ^ 32, [])

def addMemoryRegion (g : Guest) (t : Tables) (address size memory : Nat) (readOnly : Bool)
    (native : Native) : Result × Tables :=
  let size := g.wholePages size
  if 2 ^ 64 ≤ address + size then (.error .overflow, t)
  else if g.rangeOverlap address (address + size) then (.error .noSpace, t)
  else
    let (slot, gaps) := takeSlot g t
    if !native.map then (.error .native, { t with memSlotGaps := slot :: gaps })
    else
      let mapped := (address, size) :: t.mapped
      if readOnly && !native.protect then
        (.error .native,
          { t with
            memSlotGaps := slot :: gaps
            mapped := if native.unmap then mapped.erase (address, size) else mapped })
      else
        (.ok (.slot slot),
          { t with
            memRegions := t.memRegions.insert slot ⟨(address, size), memory⟩
            memSlotGaps := gaps
            mapped := mapped })

def removeMemoryRegion (t : Tables) (slot : Nat) (unmap : Bool) : Result × Tables :=
  match t.memRegions.lookup slot with
  | none => (.error .noEntry, t)
  | some region =>
      let left :=
        { t with memRegions := t.memRegions.erase slot, memSlotGaps := slot :: t.memSlotGaps }
      -- the tables are changed before the hypervisor is asked
      if unmap then (.ok (.memory region.memory), { left with mapped := t.mapped.erase region.range })
      else (.error .native, left)

def registerIoevent (t : Tables) (address : IoEventAddress) (event : Nat) (clone : Bool) :
    Result × Tables :=
  if !clone then (.error .clone, t)
  else
    let after := { t with ioevents := t.ioevents.insert address event }
    if address ∈ t.ioevents then (.error .exists, after) else (.ok .done, after)

def unregisterIoevent (t : Tables) (address : IoEventAddress) : Result × Tables :=
  (.ok .done, { t with ioevents := t.ioevents.erase address })

inductive Call where
  | addMemoryRegion (address size memory : Nat) (readOnly : Bool) (native : Native)
  | removeMemoryRegion (slot : Nat) (unmap : Bool)
  | registerIoevent (address : IoEventAddress) (event : Nat) (clone : Bool)
  | unregisterIoevent (address : IoEventAddress)
  deriving DecidableEq, Repr

def call (g : Guest) (t : Tables) : Call → Result × Tables
  | .addMemoryRegion address size memory readOnly native =>
      addMemoryRegion g t address size memory readOnly native
  | .removeMemoryRegion slot unmap => removeMemoryRegion t slot unmap
  | .registerIoevent address event clone => registerIoevent t address event clone
  | .unregisterIoevent address => unregisterIoevent t address

def initial : Tables := {}

/-! What the tables should keep to. -/

def SlotsExact (g : Guest) (t : Tables) : Prop :=
  (t.slots ++ t.memSlotGaps).Perm
    (List.range' g.numRegions (t.slots.length + t.memSlotGaps.length))

def MappedExact (t : Tables) : Prop := t.mapped.Perm t.recorded

def FailureKeeps (g : Guest) (t : Tables) (c : Call) : Prop :=
  ∀ failure, (call g t c).1 = .error failure →
    (call g t c).2.memRegions = t.memRegions ∧ (call g t c).2.mapped = t.mapped ∧
      (call g t c).2.ioevents = t.ioevents

def FreshSlot (g : Guest) (t : Tables) : Call → Prop
  | .addMemoryRegion address size memory readOnly native =>
      ∀ slot, (addMemoryRegion g t address size memory readOnly native).1 = .ok (.slot slot) →
        slot ∉ t.slots
  | _ => True

structure Consistent (g : Guest) (t : Tables) : Prop where
  slots : SlotsExact g t
  mapped : MappedExact t

/-! When a call meets it. -/

def RollsBack : Call → Prop
  | .addMemoryRegion _ _ _ readOnly native =>
      readOnly = true → native.map = true → native.protect = false → native.unmap = true
  | _ => True

/-- The number of a new slot fits its 32 bits, a region that is removed is unmapped, and an event
is registered only at a free address. -/
def Meets (g : Guest) (t : Tables) : Call → Prop
  | .addMemoryRegion .. => t.memSlotGaps = [] → t.slots.length + g.numRegions < 2 ^ 32
  | .removeMemoryRegion slot unmap => slot ∈ t.slots → unmap = true
  | .registerIoevent address _ clone => address ∈ t.ioevents → clone = false
  | .unregisterIoevent _ => True

section Slots

variable {g : Guest} {t : Tables}

/-- The slot that is taken extends the interval, or was one of its gaps. -/
theorem takeSlot_exact (exact : SlotsExact g t)
    (fits : t.memSlotGaps = [] → t.slots.length + g.numRegions < 2 ^ 32) :
    (t.slots ++ (takeSlot g t).1 :: (takeSlot g t).2).Perm
      (List.range' g.numRegions (t.slots.length + ((takeSlot g t).2.length + 1))) := by
  unfold takeSlot
  cases least : t.memSlotGaps.min? with
  | some slot =>
      have member : slot ∈ t.memSlotGaps := List.min?_mem least
      have split := List.perm_cons_erase member
      have length : t.memSlotGaps.length = (t.memSlotGaps.erase slot).length + 1 := split.length_eq
      simp only
      rw [← length]
      exact ((List.Perm.append_left t.slots split).symm).trans exact
  | none =>
      have none : t.memSlotGaps = [] := List.min?_eq_none_iff.mp least
      have whole : t.slots.Perm (List.range' g.numRegions t.slots.length) := by
        simpa [SlotsExact, none] using exact
      have next : t.slots.length + g.numRegions < 2 ^ 32 := fits none
      simp only [List.length_nil, Nat.zero_add]
      rw [Nat.mod_eq_of_lt next, List.range'_concat, Nat.one_mul, Nat.add_comm t.slots.length]
      exact whole.append_right _

theorem takeSlot_fresh (exact : SlotsExact g t)
    (fits : t.memSlotGaps = [] → t.slots.length + g.numRegions < 2 ^ 32) :
    (takeSlot g t).1 ∉ t.slots := by
  have nodup := (takeSlot_exact exact fits).nodup_iff.mpr List.nodup_range'
  intro inside
  exact List.disjoint_of_nodup_append nodup inside List.mem_cons_self

end Slots

/-! One lemma for each call. -/

section Calls

variable {g : Guest} {t : Tables}

/-- What `add_memory_region` can do. -/
theorem addMemoryRegion_cases (g : Guest) (t : Tables) (address size memory : Nat)
    (readOnly : Bool) (native : Native) (rollsBack : RollsBack
      (.addMemoryRegion address size memory readOnly native)) :
    (∃ failure, addMemoryRegion g t address size memory readOnly native = (.error failure, t)) ∨
    addMemoryRegion g t address size memory readOnly native = (.error .native,
      { t with memSlotGaps := (takeSlot g t).1 :: (takeSlot g t).2 }) ∨
    ∃ range, addMemoryRegion g t address size memory readOnly native =
      (.ok (.slot (takeSlot g t).1),
        { t with
          memRegions := t.memRegions.insert (takeSlot g t).1 ⟨range, memory⟩
          memSlotGaps := (takeSlot g t).2
          mapped := range :: t.mapped }) := by
  unfold addMemoryRegion
  dsimp only
  split
  case isTrue => exact .inl ⟨_, rfl⟩
  case isFalse =>
      split
      case isTrue => exact .inl ⟨_, rfl⟩
      case isFalse =>
          right
          cases map : native.map with
          | false => exact .inl rfl
          | true =>
              cases protect : readOnly && !native.protect with
              | false => exact .inr ⟨_, rfl⟩
              | true =>
                  simp only [Bool.and_eq_true, Bool.not_eq_true'] at protect
                  have unmap := rollsBack protect.1 map protect.2
                  left
                  simp [unmap]

theorem add_keeps {address size memory : Nat} {readOnly : Bool} {native : Native}
    (held : Consistent g t)
    (rollsBack : RollsBack (.addMemoryRegion address size memory readOnly native))
    (fits : t.memSlotGaps = [] → t.slots.length + g.numRegions < 2 ^ 32) :
    Consistent g (addMemoryRegion g t address size memory readOnly native).2 := by
  rcases addMemoryRegion_cases g t address size memory readOnly native rollsBack with
    ⟨failure, same⟩ | failed | ⟨range, added⟩
  · rw [same]
    exact held
  · rw [failed]
    exact ⟨takeSlot_exact held.slots fits, held.mapped⟩
  · rw [added]
    have fresh : (takeSlot g t).1 ∉ t.memRegions := takeSlot_fresh held.slots fits
    have keys := takeSlot_exact held.slots fits
    constructor
    case slots =>
        simp only [SlotsExact, Tables.slots, AList.insert_of_notMem fresh, AList.keys,
          List.keys_cons, List.length_cons, List.cons_append] at keys ⊢
        rw [Nat.add_right_comm, Nat.add_assoc]
        exact List.perm_middle.symm.trans keys
    case mapped =>
        simp only [MappedExact, Tables.recorded, AList.insert_of_notMem fresh, List.map_cons]
        exact held.mapped.cons range

/-- A region that is in the table, and the entries without it. -/
theorem entries_erase {slot : Nat} {region : Region}
    (found : t.memRegions.lookup slot = some region) :
    t.memRegions.entries.Perm (⟨slot, region⟩ :: (t.memRegions.erase slot).entries) := by
  have inside : slot ∈ t.memRegions.entries.keys :=
    AList.lookup_isSome.mp (by rw [found]; rfl)
  obtain ⟨other, first, last, away, whole, rest⟩ := List.exists_of_kerase inside
  have same : other = region := by
    have here : t.memRegions.lookup slot = some other := by
      rw [AList.lookup, whole, List.dlookup_append, List.dlookup_eq_none.mpr away]
      simp
    simpa [found] using here.symm
  have left : (t.memRegions.erase slot).entries = first ++ last := rest
  rw [left, whole, same]
  exact List.perm_middle

theorem remove_keeps {slot : Nat} {unmap : Bool} (held : Consistent g t)
    (unmaps : slot ∈ t.slots → unmap = true) :
    Consistent g (removeMemoryRegion t slot unmap).2 := by
  unfold removeMemoryRegion
  cases found : t.memRegions.lookup slot with
  | none => exact held
  | some region =>
      have inside : slot ∈ t.slots := AList.lookup_isSome.mp (by rw [found]; rfl)
      have entries := entries_erase found
      have keys : t.slots.Perm (slot :: (t.memRegions.erase slot).keys) := entries.map Sigma.fst
      have ranges : t.recorded.Perm
          (region.range :: (t.memRegions.erase slot).entries.map fun entry => entry.2.range) := by
        simpa [Tables.recorded] using entries.map fun entry => entry.2.range
      rw [unmaps inside]
      constructor
      case slots =>
          have length := keys.length_eq
          have exact := held.slots
          simp only [SlotsExact, Tables.slots, List.length_cons] at length exact ⊢
          rw [length, Nat.add_assoc, Nat.add_comm 1] at exact
          exact List.perm_middle.trans ((keys.append_right _).symm.trans exact)
      case mapped =>
          have erased := (held.mapped.trans ranges).erase region.range
          simpa [MappedExact, Tables.recorded] using erased

theorem call_keeps {c : Call} (held : Consistent g t) (rollsBack : RollsBack c)
    (meets : Meets g t c) : Consistent g (call g t c).2 := by
  cases c with
  | addMemoryRegion => exact add_keeps held rollsBack meets
  | removeMemoryRegion => exact remove_keeps held meets
  | registerIoevent address event clone =>
      simp only [call, registerIoevent]
      split
      case isTrue => exact held
      case isFalse => split <;> exact ⟨held.slots, held.mapped⟩
  | unregisterIoevent => exact ⟨held.slots, held.mapped⟩

theorem failure_keeps {c : Call} (rollsBack : RollsBack c) (meets : Meets g t c) :
    FailureKeeps g t c := by
  intro failure failed
  cases c with
  | addMemoryRegion address size memory readOnly native =>
      simp only [call] at failed ⊢
      rcases addMemoryRegion_cases g t address size memory readOnly native rollsBack with
        ⟨failure, same⟩ | refused | ⟨range, added⟩
      · rw [same]
        exact ⟨rfl, rfl, rfl⟩
      · rw [refused]
        exact ⟨rfl, rfl, rfl⟩
      · rw [added] at failed
        cases failed
  | removeMemoryRegion slot unmap =>
      simp only [call, removeMemoryRegion] at failed ⊢
      cases found : t.memRegions.lookup slot with
      | none => exact ⟨rfl, rfl, rfl⟩
      | some region =>
          have inside : slot ∈ t.slots := AList.lookup_isSome.mp (by rw [found]; rfl)
          simp [found, meets inside] at failed
  | registerIoevent address event clone =>
      simp only [call, registerIoevent] at failed ⊢
      cases cloned : clone with
      | false => exact ⟨rfl, rfl, rfl⟩
      | true =>
          have free : address ∉ t.ioevents := by
            intro taken
            exact Bool.noConfusion (cloned.symm.trans (meets taken))
          simp [cloned, free] at failed
  | unregisterIoevent address => cases failed

theorem slot_fresh {c : Call} (held : Consistent g t) (rollsBack : RollsBack c)
    (meets : Meets g t c) : FreshSlot g t c := by
  cases c with
  | addMemoryRegion address size memory readOnly native =>
      intro slot handed
      rcases addMemoryRegion_cases g t address size memory readOnly native rollsBack with
        ⟨failure, same⟩ | refused | ⟨range, added⟩
      · simp [same] at handed
      · simp [refused] at handed
      · simp only [added, Except.ok.injEq, Answer.slot.injEq] at handed
        exact handed ▸ takeSlot_fresh held.slots meets
  | removeMemoryRegion => trivial
  | registerIoevent => trivial
  | unregisterIoevent => trivial

end Calls

def Does (g : Guest) (condition : Tables → Call → Prop) (t : Tables) (c : Call) (after : Tables) :
    Prop :=
  RollsBack c ∧ condition t c ∧ after = (call g t c).2

theorem initial_consistent (g : Guest) : Consistent g initial := by
  constructor
  case slots => simp [SlotsExact, Tables.slots, initial]
  case mapped => simp [MappedExact, Tables.recorded, initial]

/-- In every run of calls that meet the condition, the tables and the hypervisor agree, and a
failed call changes nothing. -/
theorem hvf_tables_consistent {g : Guest} {calls : List Call} {t : Tables}
    (run : Trace (Does g (Meets g)) initial calls t) :
    Consistent g t ∧ ∀ c, RollsBack c → Meets g t c → FailureKeeps g t c ∧ FreshSlot g t c := by
  have held : Consistent g t := by
    induction run with
    | nil => exact initial_consistent g
    | snoc _ step held =>
        obtain ⟨rollsBack, meets, rfl⟩ := step
        exact call_keeps held rollsBack meets
  exact ⟨held, fun c rollsBack meets =>
    ⟨failure_keeps rollsBack meets, slot_fresh held rollsBack meets⟩⟩

/-- A region is added and removed again. -/
theorem hvf_tables_after_remove :
    ∃ t, Trace (Does {} (Meets {})) initial
      [.addMemoryRegion 0x80000000 100 7 true {}, .removeMemoryRegion 0 true] t ∧
      t.mapped = [] ∧ Consistent {} t := by
  have added : Trace (Does {} (Meets {})) initial [.addMemoryRegion 0x80000000 100 7 true {}] _ :=
    Trace.nil.snoc ⟨by simp [RollsBack], fun _ => by decide, rfl⟩
  have removed : Trace (Does {} (Meets {})) initial
      ([.addMemoryRegion 0x80000000 100 7 true {}] ++ [.removeMemoryRegion 0 true]) _ :=
    added.snoc ⟨trivial, fun _ => rfl, rfl⟩
  exact ⟨_, removed, by decide, (hvf_tables_consistent removed).1⟩

/-- A failed unmap leaves the guest a range whose memory is gone from the table; a second event
at one address replaces the first, although the call fails. -/
theorem hvf_failed_calls_change_tables :
    (¬∀ (g : Guest) (calls : List Call) (t : Tables),
      Trace (Does g fun _ _ => True) initial calls t → MappedExact t) ∧
    ¬∀ (g : Guest) (calls : List Call) (t : Tables),
      Trace (Does g fun _ _ => True) initial calls t → ∀ c, RollsBack c → FailureKeeps g t c := by
  constructor
  · intro all
    have added : Trace (Does {} fun _ _ => True) initial
        [.addMemoryRegion 0x80000000 100 7 true {}] _ :=
      Trace.nil.snoc ⟨by simp [RollsBack], trivial, rfl⟩
    have removed : Trace (Does {} fun _ _ => True) initial
        ([.addMemoryRegion 0x80000000 100 7 true {}] ++ [.removeMemoryRegion 0 false]) _ :=
      added.snoc ⟨trivial, trivial, rfl⟩
    exact absurd (all {} _ _ removed).length_eq (by decide)
  · intro all
    have registered : Trace (Does {} fun _ _ => True) initial
        [.registerIoevent (.mmio 0x1000) 1 true] _ :=
      Trace.nil.snoc ⟨trivial, trivial, rfl⟩
    have kept := all {} _ _ registered (.registerIoevent (.mmio 0x1000) 2 true) trivial
    have events := (kept .exists (by decide)).2.2
    have looked := congrArg (AList.lookup (.mmio 0x1000)) events
    exact absurd looked (by decide)

end Bscp.Crosvm.HvfVm
