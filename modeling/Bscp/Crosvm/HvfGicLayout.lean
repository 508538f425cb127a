import Bscp.Align
import Bscp.Crosvm.HvfRegisters

/-!
Where the interrupt controller lies in the guest's address space: `checked_gic_layout` of
`hypervisor/src/hvf/vm.rs`. A subtraction or a remainder that the source does not check panics
where it has no result.
-/

namespace Bscp.Crosvm.HvfGicLayout

open Align (down)
open Hvf (Errno EINVAL)

def EOVERFLOW : Errno := 84

inductive Stop where
  | panicked
  | failed (errno : Errno)
  deriving DecidableEq, Repr

/-- `[distributor, dist, redist, region]`. -/
structure Layout where
  distributor : UInt64
  dist : UInt64
  redist : UInt64
  region : UInt64
  deriving DecidableEq, Repr

def AARCH64_AXI_BASE : UInt64 := 0x4000_0000

def AARCH64_GIC_DIST_SIZE : UInt64 := 0x1_0000

def AARCH64_GIC_REDIST_SIZE : UInt64 := 0x2_0000

def legacyEnd : UInt64 := 0x0400_0000

def isPowerOfTwo (value : UInt64) : Bool := (List.range 64).any (2 ^ · == value.toNat)

def checkedMul (left right : UInt64) : Option UInt64 :=
  if left.toNat * right.toNat < 2 ^ 64 then some (left * right) else none

def checkedSub (left right : UInt64) : Option UInt64 :=
  if right ≤ left then some (left - right) else none

def okOrElse (errno : Errno) (value : Option UInt64) : Except Stop UInt64 :=
  value.elim (.error (.failed errno)) .ok

def minus (left right : UInt64) : Except Stop UInt64 :=
  (checkedSub left right).elim (.error .panicked) .ok

def rem (left right : UInt64) : Except Stop UInt64 :=
  if right = 0 then .error .panicked else .ok (left % right)

def checkedGicLayout (cpus dist region single da ra : UInt64) : Except Stop Layout :=
  if cpus = 0 ∨ dist ≠ AARCH64_GIC_DIST_SIZE ∨ single ≠ AARCH64_GIC_REDIST_SIZE ∨ region = 0 then
    .error (.failed EINVAL)
  else do
    -- the remainder is only taken where `||` has got so far
    if (← rem region single) ≠ 0 ∨ isPowerOfTwo da = false ∨ isPowerOfTwo ra = false then
      .error (.failed EINVAL)
    else
      let used ← okOrElse EOVERFLOW (checkedMul single cpus)
      if used > region then .error (.failed EINVAL)
      else
        let redist :=
          (← okOrElse EOVERFLOW (checkedSub AARCH64_AXI_BASE region)) &&& ~~~(← minus ra 1)
        let distributor := (← okOrElse EOVERFLOW (checkedSub redist dist)) &&& ~~~(← minus da 1)
        if distributor < legacyEnd then .error (.failed EINVAL)
        else return ⟨distributor, dist, redist, region⟩

@[simp] theorem okOrElse_some {errno : Errno} {value : UInt64} :
    okOrElse errno (some value) = .ok value := rfl

@[simp] theorem okOrElse_none {errno : Errno} : okOrElse errno none = .error (.failed errno) := rfl

@[simp] theorem ok_bind {α β : Type} (value : α) (next : α → Except Stop β) :
    Except.ok value >>= next = next value := rfl

@[simp] theorem error_bind {α β : Type} (stop : Stop) (next : α → Except Stop β) :
    Except.error stop >>= next = .error stop := rfl

/-! What is checked. -/

structure Accepts (cpus dist region single da ra : UInt64) : Prop where
  some_cpu : cpus ≠ 0
  dist_size : dist = AARCH64_GIC_DIST_SIZE
  redist_size : single = AARCH64_GIC_REDIST_SIZE
  reserved : region ≠ 0
  whole : region % single = 0
  dist_power : isPowerOfTwo da = true
  redist_power : isPowerOfTwo ra = true
  room : single.toNat * cpus.toNat ≤ region.toNat

theorem isPowerOfTwo_iff {value : UInt64} :
    isPowerOfTwo value = true ↔ ∃ bits, value.toNat = 2 ^ bits := by
  simp only [isPowerOfTwo, List.any_eq_true, List.mem_range, beq_iff_eq]
  constructor
  · rintro ⟨bits, -, same⟩
    exact ⟨bits, same.symm⟩
  · rintro ⟨bits, same⟩
    have small : 2 ^ bits < 2 ^ 64 := same ▸ value.toNat_lt
    exact ⟨bits, (Nat.pow_lt_pow_iff_right (by decide)).1 small, same.symm⟩

theorem one_le_of_power {value : UInt64} (power : isPowerOfTwo value = true) : 1 ≤ value := by
  obtain ⟨bits, same⟩ := isPowerOfTwo_iff.1 power
  rw [UInt64.le_iff_toNat_le, same]
  exact Nat.one_le_two_pow

/-- A subtraction that is checked, and a mask. -/
def rounded (left right alignment : UInt64) : Option UInt64 :=
  (checkedSub left right).map (· &&& ~~~(alignment - 1))

theorem rounded_eq_some {left right alignment result : UInt64}
    (power : isPowerOfTwo alignment = true) :
    rounded left right alignment = some result ↔
      right.toNat ≤ left.toNat ∧
        result.toNat = down alignment.toNat (left.toNat - right.toNat) := by
  obtain ⟨bits, same⟩ := isPowerOfTwo_iff.1 power
  simp only [rounded, checkedSub]
  by_cases below : right ≤ left
  · have masked := @Align.toNat_mask (left - right) _ _ same
    rw [UInt64.toNat_sub_of_le _ _ below] at masked
    simp only [below, if_true, Option.map_some, Option.some.injEq, ← masked,
      UInt64.le_iff_toNat_le.1 below, true_and, UInt64.toNat_inj]
    exact eq_comm
  · have above : ¬right.toNat ≤ left.toNat := fun le => below (UInt64.le_iff_toNat_le.2 le)
    simp [below, above]

def place (dist region da ra : UInt64) : Except Stop Layout :=
  match rounded AARCH64_AXI_BASE region ra with
  | none => .error (.failed EOVERFLOW)
  | some redist =>
      match rounded redist dist da with
      | none => .error (.failed EOVERFLOW)
      | some distributor =>
          if distributor < legacyEnd then .error (.failed EINVAL)
          else .ok ⟨distributor, dist, redist, region⟩

theorem minus_one {value : UInt64} (power : isPowerOfTwo value = true) :
    minus value 1 = .ok (value - 1) := by
  simp [minus, checkedSub, one_le_of_power power]

theorem checkedMul_of_room {left right bound : UInt64}
    (room : left.toNat * right.toNat ≤ bound.toNat) :
    checkedMul left right = some (left * right) ∧ left * right ≤ bound := by
  have small := room.trans_lt bound.toNat_lt
  refine ⟨if_pos small, ?_⟩
  rw [UInt64.le_iff_toNat_le, UInt64.toNat_mul, Nat.mod_eq_of_lt small]
  exact room

theorem checkedMul_or {left right bound : UInt64}
    (short : ¬left.toNat * right.toNat ≤ bound.toNat) :
    checkedMul left right = none ∨
      checkedMul left right = some (left * right) ∧ bound < left * right := by
  by_cases small : left.toNat * right.toNat < 2 ^ 64
  · refine .inr ⟨if_pos small, ?_⟩
    rw [UInt64.lt_iff_toNat_lt, UInt64.toNat_mul, Nat.mod_eq_of_lt small]
    exact Nat.lt_of_not_le short
  · exact .inl (if_neg small)

section

variable {cpus dist region single da ra : UInt64}

theorem checkedGicLayout_of_accepts (accepted : Accepts cpus dist region single da ra) :
    checkedGicLayout cpus dist region single da ra = place dist region da ra := by
  obtain ⟨used, fits⟩ := checkedMul_of_room accepted.room
  have nonzero : single ≠ 0 := by
    rw [accepted.redist_size]
    decide
  have passed : ¬(cpus = 0 ∨ dist ≠ AARCH64_GIC_DIST_SIZE ∨ single ≠ AARCH64_GIC_REDIST_SIZE ∨
      region = 0) := by
    simp [accepted.some_cpu, accepted.dist_size, accepted.redist_size, accepted.reserved]
  simp only [checkedGicLayout, if_neg passed, rem, if_neg nonzero, accepted.whole,
    accepted.dist_power, accepted.redist_power, used, minus_one accepted.dist_power,
    minus_one accepted.redist_power, place, rounded, ok_bind, okOrElse_some]
  rw [if_neg (by decide), if_neg (UInt64.not_lt.2 fits)]
  cases checkedSub AARCH64_AXI_BASE region with
  | none => rfl
  | some top =>
      cases below : checkedSub (top &&& ~~~(ra - 1)) dist with
      | none => simp [below]
      | some middle => simp [below, pure, Except.pure]

/-- What is not accepted is refused, with an error of its own. -/
theorem checkedGicLayout_of_not_accepts (refused : ¬Accepts cpus dist region single da ra) :
    ∃ errno, checkedGicLayout cpus dist region single da ra = .error (.failed errno) := by
  unfold checkedGicLayout
  split
  · exact ⟨EINVAL, rfl⟩
  rename_i passed
  simp only [not_or, ne_eq, Decidable.not_not] at passed
  obtain ⟨some_cpu, dist_size, redist_size, reserved⟩ := passed
  have nonzero : single ≠ 0 := by
    rw [redist_size]
    decide
  simp only [rem, if_neg nonzero, ok_bind]
  split
  · exact ⟨EINVAL, rfl⟩
  rename_i aligned
  simp only [not_or, ne_eq, Decidable.not_not, Bool.not_eq_false] at aligned
  have short : ¬single.toNat * cpus.toNat ≤ region.toNat := fun room =>
    refused ⟨some_cpu, dist_size, redist_size, reserved, aligned.1, aligned.2.1, aligned.2.2, room⟩
  rcases checkedMul_or short with overflows | ⟨used, above⟩
  · exact ⟨EOVERFLOW, by rw [overflows]; rfl⟩
  · rw [used, okOrElse_some, ok_bind, if_pos above]
    exact ⟨EINVAL, rfl⟩

end

/-! Where it is placed. -/

structure Placement (dist region da ra distributor redist : Nat) : Prop where
  dist_aligned : da ∣ distributor
  redist_aligned : ra ∣ redist
  apart : distributor + dist ≤ redist
  below : redist + region ≤ AARCH64_AXI_BASE.toNat

theorem place_never_panics {dist region da ra : UInt64} :
    place dist region da ra ≠ .error .panicked := by
  unfold place
  split
  · nofun
  · split
    · nofun
    · split <;> nofun

section

variable {dist region da ra : UInt64} {layout : Layout} {distributor redist : Nat}
variable (dist_power : isPowerOfTwo da = true) (redist_power : isPowerOfTwo ra = true)

include dist_power redist_power

theorem place_ok (placed : place dist region da ra = .ok layout) :
    layout.dist = dist ∧ layout.region = region ∧ legacyEnd.toNat ≤ layout.distributor.toNat ∧
      Placement dist.toNat region.toNat da.toNat ra.toNat layout.distributor.toNat
        layout.redist.toNat := by
  unfold place at placed
  split at placed
  · cases placed
  rename_i redist found
  obtain ⟨inside, redist_eq⟩ := (rounded_eq_some redist_power).1 found
  split at placed
  · cases placed
  rename_i distributor found
  obtain ⟨above, distributor_eq⟩ := (rounded_eq_some dist_power).1 found
  split at placed
  · cases placed
  rename_i clear
  cases placed
  have redist_le := @Align.down_le ra.toNat (AARCH64_AXI_BASE.toNat - region.toNat)
  have distributor_le := @Align.down_le da.toNat (redist.toNat - dist.toNat)
  have apart : distributor.toNat + dist.toNat ≤ redist.toNat := by omega
  have ends : redist.toNat + region.toNat ≤ AARCH64_AXI_BASE.toNat := by omega
  exact ⟨rfl, rfl, UInt64.le_iff_toNat_le.1 (UInt64.not_lt.1 clear),
    distributor_eq ▸ Align.dvd_down, redist_eq ▸ Align.dvd_down, apart, ends⟩

/-- The two subtractions succeed where anything can be placed at all, and nothing is placed
higher. -/
theorem placement_le
    (other : Placement dist.toNat region.toNat da.toNat ra.toNat distributor redist) :
    ∃ high low, rounded AARCH64_AXI_BASE region ra = some high ∧ rounded high dist da = some low ∧
      redist ≤ high.toNat ∧ distributor ≤ low.toNat := by
  have ends := other.below
  have apart := other.apart
  have inside : region ≤ AARCH64_AXI_BASE := UInt64.le_iff_toNat_le.2 (by omega)
  obtain ⟨high, found⟩ : ∃ high, rounded AARCH64_AXI_BASE region ra = some high := by
    simp [rounded, checkedSub, inside]
  have high_eq := ((rounded_eq_some redist_power).1 found).2
  have redist_le : redist ≤ high.toNat := by
    rw [high_eq]
    exact Align.le_down other.redist_aligned (by omega)
  have above : dist ≤ high := UInt64.le_iff_toNat_le.2 (by omega)
  obtain ⟨low, next⟩ : ∃ low, rounded high dist da = some low := by
    simp [rounded, checkedSub, above]
  have low_eq := ((rounded_eq_some dist_power).1 next).2
  refine ⟨high, low, found, next, redist_le, ?_⟩
  rw [low_eq]
  exact Align.le_down other.dist_aligned (by omega)

/-- A placement that stays clear of the legacy windows is enough, and what is returned is then the
highest of all. -/
theorem place_of_placement
    (other : Placement dist.toNat region.toNat da.toNat ra.toNat distributor redist)
    (clear : legacyEnd.toNat ≤ distributor) :
    ∃ layout, place dist region da ra = .ok layout := by
  obtain ⟨high, low, found, next, -, above⟩ := placement_le dist_power redist_power other
  have enough : ¬low < legacyEnd := fun below =>
    absurd (UInt64.lt_iff_toNat_lt.1 below) (Nat.not_lt.2 (clear.trans above))
  exact ⟨⟨low, dist, high, region⟩, by rw [place, found]; simp only [next]; rw [if_neg enough]⟩

theorem place_highest (placed : place dist region da ra = .ok layout)
    (other : Placement dist.toNat region.toNat da.toNat ra.toNat distributor redist) :
    distributor ≤ layout.distributor.toNat ∧ redist ≤ layout.redist.toNat := by
  obtain ⟨high, low, found, next, redist_le, distributor_le⟩ :=
    placement_le dist_power redist_power other
  rw [place, found] at placed
  simp only [next] at placed
  split at placed
  · cases placed
  · cases placed
    exact ⟨distributor_le, redist_le⟩

end

/-- Whatever the framework supplies, nothing is computed that does not exist. A layout that is
returned is aligned, keeps the distributor clear of the legacy windows and the redistributors
clear of the distributor and of the platform's window, has room for all CPUs, and is the highest
such placement, so that the number of CPUs has no part in it; and one is returned for whatever is
accepted and can be placed. -/
theorem gic_layout (cpus dist region single da ra : UInt64) :
    checkedGicLayout cpus dist region single da ra ≠ .error .panicked ∧
      (∀ layout, checkedGicLayout cpus dist region single da ra = .ok layout →
        ((∃ bits, da.toNat = 2 ^ bits) ∧ ∃ bits, ra.toNat = 2 ^ bits) ∧
          layout.dist = dist ∧ layout.region = region ∧
          Placement layout.dist.toNat layout.region.toNat da.toNat ra.toNat
            layout.distributor.toNat layout.redist.toNat ∧
          64 * 2 ^ 20 ≤ layout.distributor.toNat ∧
          0 < layout.region.toNat ∧ single.toNat ∣ layout.region.toNat ∧
          single.toNat * cpus.toNat ≤ layout.region.toNat ∧
          (∀ others other, checkedGicLayout others dist region single da ra = .ok other →
            other = layout) ∧
          ∀ distributor redist,
            Placement dist.toNat region.toNat da.toNat ra.toNat distributor redist →
              distributor ≤ layout.distributor.toNat ∧ redist ≤ layout.redist.toNat) ∧
      ((∃ layout, checkedGicLayout cpus dist region single da ra = .ok layout) ↔
        Accepts cpus dist region single da ra ∧
          ∃ distributor redist, 64 * 2 ^ 20 ≤ distributor ∧
            Placement dist.toNat region.toNat da.toNat ra.toNat distributor redist) := by
  have accepted_of_ok {others : UInt64} {layout : Layout}
      (returned : checkedGicLayout others dist region single da ra = .ok layout) :
      Accepts others dist region single da ra ∧ place dist region da ra = .ok layout := by
    by_cases accepted : Accepts others dist region single da ra
    · exact ⟨accepted, checkedGicLayout_of_accepts accepted ▸ returned⟩
    · obtain ⟨errno, failed⟩ := checkedGicLayout_of_not_accepts accepted
      cases failed.symm.trans returned
  refine ⟨fun panicked => ?_, fun layout returned => ?_, ?_, ?_⟩
  · by_cases accepted : Accepts cpus dist region single da ra
    · rw [checkedGicLayout_of_accepts accepted] at panicked
      exact place_never_panics panicked
    · obtain ⟨errno, failed⟩ := checkedGicLayout_of_not_accepts accepted
      cases failed.symm.trans panicked
  · obtain ⟨accepted, placed⟩ := accepted_of_ok returned
    obtain ⟨dist_eq, region_eq, clear, placement⟩ :=
      place_ok accepted.dist_power accepted.redist_power placed
    have whole : region.toNat % single.toNat = 0 := by
      rw [← UInt64.toNat_mod, accepted.whole]
      rfl
    have reserved : region.toNat ≠ 0 := fun none => accepted.reserved (UInt64.toNat_inj.1 none)
    rw [dist_eq, region_eq]
    exact ⟨⟨isPowerOfTwo_iff.1 accepted.dist_power, isPowerOfTwo_iff.1 accepted.redist_power⟩,
      rfl, rfl, placement, clear, Nat.pos_of_ne_zero reserved, Nat.dvd_of_mod_eq_zero whole,
      accepted.room,
      fun _ _ other => Except.ok.inj ((accepted_of_ok other).2.symm.trans placed),
      fun _ _ => place_highest accepted.dist_power accepted.redist_power placed⟩
  · rintro ⟨layout, returned⟩
    obtain ⟨accepted, placed⟩ := accepted_of_ok returned
    obtain ⟨-, -, clear, placement⟩ :=
      place_ok accepted.dist_power accepted.redist_power placed
    exact ⟨accepted, _, _, clear, placement⟩
  · rintro ⟨accepted, distributor, redist, clear, placement⟩
    rw [checkedGicLayout_of_accepts accepted]
    exact place_of_placement accepted.dist_power accepted.redist_power placement clear

theorem gic_layout_sample :
    checkedGicLayout 8 0x10000 0x2000000 0x20000 0x10000 0x10000 =
        .ok ⟨0x3dff0000, 0x10000, 0x3e000000, 0x2000000⟩ ∧
      Placement 0x10000 0x2000000 0x10000 0x10000 0x3dff0000 0x3e000000 := by
  have returned : checkedGicLayout 8 0x10000 0x2000000 0x20000 0x10000 0x10000 =
      .ok ⟨0x3dff0000, 0x10000, 0x3e000000, 0x2000000⟩ := by decide
  exact ⟨returned,
    ((gic_layout 8 0x10000 0x2000000 0x20000 0x10000 0x10000).2.1 _ returned).2.2.2.1⟩

end Bscp.Crosvm.HvfGicLayout
