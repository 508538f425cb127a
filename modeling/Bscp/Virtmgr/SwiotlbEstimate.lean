import Bscp.Align
import Mathlib.Tactic.Ring
import Mathlib.GroupTheory.GroupAction.Ring

/-!
`estimate_swiotlb_usage_mib` of `virtmgr/src/crosvm.rs`. The arithmetic is that of `u32`; what
overflows has no result. Beside it stands what the estimate sets out to count, in pages and in
bytes without a bound.
-/

namespace Bscp.Virtmgr.SwiotlbEstimate

open Align (up)

def CONSOLE_RX_QUEUE_SIZE : UInt32 := 2

def CONSOLE_TX_QUEUE_SIZE : UInt32 := 32

structure Inputs where
  guestPageSize : UInt32
  blockCount : UInt32
  consoleCount : UInt32
  balloon : Bool
  deriving DecidableEq, Repr

/-- A `u32`, if nothing on the way to it has overflowed. -/
abbrev Checked := Option UInt32

def add : Checked → Checked → Checked
  | some left, some right =>
      if left.toNat + right.toNat < 2 ^ 32 then some (left + right) else none
  | _, _ => none

def mul : Checked → Checked → Checked
  | some left, some right =>
      if left.toNat * right.toNat < 2 ^ 32 then some (left * right) else none
  | _, _ => none

def sum (values : List Checked) : Checked := values.foldl add (some 0)

def align (x alignment : Checked) : Checked :=
  match add x alignment, alignment with
  | some total, some mask => some (total &&& mask)
  | _, _ => none

def virtqSize (guestPageSize entries : UInt32) : Checked :=
  align
    (add
      (add (align (mul (some 16) (some entries)) (some 16))
        (align (add (some 6) (mul (some 2) (some entries))) (some 2)))
      (align (add (some 6) (mul (some 8) (some entries))) (some 4)))
    (some guestPageSize)

def divCeil (value unit : UInt32) : UInt32 := (value.toNat ⌈/⌉ unit.toNat).toUInt32

def estimateSwiotlbUsageMib (inputs : Inputs) : Checked :=
  let page := inputs.guestPageSize
  -- virtio vsock: event queue, tx queue, rx queue, and the requests that Linux eagerly fills in
  let total := add (some 0) (sum [virtqSize page 256, virtqSize page 256, virtqSize page 256,
    mul (some 256) (some page)])
  -- virtio console
  let total := add total (mul (some inputs.consoleCount)
    (sum [virtqSize page CONSOLE_TX_QUEUE_SIZE, virtqSize page CONSOLE_RX_QUEUE_SIZE,
      mul (some CONSOLE_RX_QUEUE_SIZE) (some page)]))
  -- virtio block
  let total := add total (mul (some inputs.blockCount) (sum [mul (some 16) (virtqSize page 256)]))
  -- virtio balloon: inflate, deflate, stats, reporting
  let total := if inputs.balloon then add total (mul (some 4) (virtqSize page 128)) else total
  -- peak memory needs
  let total := add total (mul (mul (some 4) (some 1024)) (some 1024))
  total.map (divCeil · (1024 * 1024))

example : estimateSwiotlbUsageMib ⟨4096, 3, 3, true⟩ = some 6 := by decide
example : estimateSwiotlbUsageMib ⟨16 * 1024, 3, 3, true⟩ = some 10 := by decide

/-! What is to be counted. -/

/-- The descriptor table, the available ring and the used ring, each up to its alignment. -/
def queueBytes (entries : Nat) : Nat :=
  up 16 (16 * entries) + up 2 (6 + 2 * entries) + up 4 (6 + 8 * entries)

namespace Inputs

variable (inputs : Inputs)

/-- The pages of all devices, where each queue has those that `queue` gives for its entries. -/
def pages (queue : Nat → Nat) : Nat :=
  3 * queue 256 + 256 +
    inputs.consoleCount.toNat * (queue CONSOLE_TX_QUEUE_SIZE.toNat +
      queue CONSOLE_RX_QUEUE_SIZE.toNat + CONSOLE_RX_QUEUE_SIZE.toNat) +
    inputs.blockCount.toNat * (16 * queue 256) + if inputs.balloon then 4 * queue 128 else 0

/-- What the estimate sets out to count, in bytes. -/
def needed : Nat :=
  inputs.guestPageSize.toNat *
      inputs.pages (fun entries => queueBytes entries ⌈/⌉ inputs.guestPageSize.toNat) +
    4 * 2 ^ 20

/-- A queue is counted as one page, whatever its entries, and where pages have 16 bytes as
nothing. -/
def counted : Nat := inputs.pages fun _ => if inputs.guestPageSize.toNat = 16 then 0 else 1

def missing : Nat :=
  inputs.pages (fun entries => queueBytes entries ⌈/⌉ inputs.guestPageSize.toNat) - inputs.counted

def lot : Nat := 2 ^ 20 / inputs.guestPageSize.toNat

/-- What is missing fits into the rest of the last MiB that the counted pages begin. -/
def Spare : Prop :=
  8192 ≤ inputs.guestPageSize.toNat ∨
    inputs.counted % inputs.lot ≠ 0 ∧ inputs.counted % inputs.lot + inputs.missing ≤ inputs.lot

instance : Decidable inputs.Spare := inferInstanceAs (Decidable (_ ∨ _))

end Inputs

/-! What is counted. -/

def Value (checked : Checked) (n : Nat) : Prop := ∃ value, checked = some value ∧ value.toNat = n

namespace Value

variable {left right : Checked} {m n : Nat}

theorem of_eq (first : Value left m) (same : m = n) : Value left n := same ▸ first

theorem word (value : UInt32) : Value (some value) value.toNat := ⟨value, rfl, rfl⟩

theorem add (first : Value left m) (second : Value right n) (fits : m + n < 2 ^ 32) :
    Value (SwiotlbEstimate.add left right) (m + n) := by
  obtain ⟨left, rfl, rfl⟩ := first
  obtain ⟨right, rfl, rfl⟩ := second
  exact ⟨left + right, if_pos fits, by rw [UInt32.toNat_add, Nat.mod_eq_of_lt fits]⟩

theorem mul (first : Value left m) (second : Value right n) (fits : m * n < 2 ^ 32) :
    Value (SwiotlbEstimate.mul left right) (m * n) := by
  obtain ⟨left, rfl, rfl⟩ := first
  obtain ⟨right, rfl, rfl⟩ := second
  exact ⟨left * right, if_pos fits, by rw [UInt32.toNat_mul, Nat.mod_eq_of_lt fits]⟩

theorem foldl {values : List Checked} {numbers : List Nat}
    (valued : List.Forall₂ Value values numbers) :
    ∀ {start : Checked} {first : Nat}, Value start first → first + numbers.sum < 2 ^ 32 →
      Value (values.foldl SwiotlbEstimate.add start) (first + numbers.sum) := by
  induction valued with
  | nil => exact fun started _ => started
  | cons value rest ih =>
      intro start first started fits
      rw [List.sum_cons, ← Nat.add_assoc] at fits ⊢
      exact ih (started.add value (by omega)) fits

theorem sum {values : List Checked} {numbers : List Nat}
    (valued : List.Forall₂ Value values numbers) (fits : numbers.sum < 2 ^ 32) :
    Value (SwiotlbEstimate.sum values) numbers.sum := by
  have started : Value (some 0) 0 := word 0
  have folded := foldl valued started (by rwa [Nat.zero_add])
  rwa [Nat.zero_add] at folded

theorem divCeil (first : Value left m) {unit : UInt32} (positive : 0 < unit.toNat) :
    Value (left.map (SwiotlbEstimate.divCeil · unit)) (m ⌈/⌉ unit.toNat) := by
  obtain ⟨left, rfl, rfl⟩ := first
  have fewer : left.toNat ⌈/⌉ unit.toNat ≤ left.toNat := by
    rw [ceilDiv_le_iff_le_smul positive, smul_eq_mul]
    exact Nat.le_mul_of_pos_left _ positive
  exact ⟨_, rfl, UInt32.toNat_ofNat_of_lt' (fewer.trans_lt left.toNat_lt)⟩

end Value

/-- A queue's size is that of a page, for all the queues there are. -/
theorem virtqSize_page :
    ∀ bits < 24, ∀ entries ∈ [256, CONSOLE_TX_QUEUE_SIZE, CONSOLE_RX_QUEUE_SIZE, 128],
      virtqSize (UInt32.ofNat (2 ^ bits)) entries =
        some (if bits = 4 then 0 else UInt32.ofNat (2 ^ bits)) := by
  have each : ∀ bits < 24, [256, CONSOLE_TX_QUEUE_SIZE, CONSOLE_RX_QUEUE_SIZE, 128].all
      (fun entries => virtqSize (UInt32.ofNat (2 ^ bits)) entries =
        some (if bits = 4 then 0 else UInt32.ofNat (2 ^ bits))) = true := by
    decide
  intro bits small entries known
  exact of_decide_eq_true (List.all_eq_true.mp (each bits small) entries known)

namespace Inputs

variable {inputs : Inputs}

theorem pages_grow {fewer more : Nat → Nat} (le : ∀ entries, fewer entries ≤ more entries) :
    inputs.pages fewer + 3 * (more 256 - fewer 256) ≤ inputs.pages more := by
  have event := le 256
  have reporting := le 128
  have console := Nat.mul_le_mul_left inputs.consoleCount.toNat
    (Nat.add_le_add_right (Nat.add_le_add (le CONSOLE_TX_QUEUE_SIZE.toNat)
      (le CONSOLE_RX_QUEUE_SIZE.toNat)) CONSOLE_RX_QUEUE_SIZE.toNat)
  have block := Nat.mul_le_mul_left inputs.blockCount.toNat (Nat.mul_le_mul_left 16 event)
  unfold pages
  split <;> omega

/-- Where a queue is counted as a page, it is not counted as more than it needs. -/
theorem counted_le_queue (positive : 0 < inputs.guestPageSize.toNat) (entries : Nat) :
    (if inputs.guestPageSize.toNat = 16 then 0 else 1) ≤
      queueBytes entries ⌈/⌉ inputs.guestPageSize.toNat := by
  have filled : 0 < queueBytes entries := by
    have used : 6 + 8 * entries ≤ up 4 (6 + 8 * entries) := Align.le_up (by decide)
    unfold queueBytes
    omega
  have begun : 0 < queueBytes entries ⌈/⌉ inputs.guestPageSize.toNat := by
    by_contra none
    have bound := (ceilDiv_le_iff_le_smul positive).1 (Nat.le_of_not_lt none)
    rw [smul_zero] at bound
    omega
  split
  · exact Nat.zero_le _
  · exact begun

theorem counted_le (positive : 0 < inputs.guestPageSize.toNat) :
    inputs.counted ≤
      inputs.pages fun entries => queueBytes entries ⌈/⌉ inputs.guestPageSize.toNat :=
  Nat.le_of_add_right_le (pages_grow (counted_le_queue positive))

theorem needed_eq (positive : 0 < inputs.guestPageSize.toNat) :
    inputs.needed =
      inputs.guestPageSize.toNat * (inputs.counted + inputs.missing) + 4 * 2 ^ 20 := by
  rw [missing, Nat.add_sub_cancel' (counted_le positive)]
  rfl

end Inputs

/-- Nothing overflows where all queues have one size. -/
theorem estimate_of_size {inputs : Inputs} {size : UInt32}
    (sized : ∀ entries ∈ [256, CONSOLE_TX_QUEUE_SIZE, CONSOLE_RX_QUEUE_SIZE, 128],
      virtqSize inputs.guestPageSize entries = some size)
    {bytes : Nat}
    (bytes_eq : bytes = 3 * size.toNat + 256 * inputs.guestPageSize.toNat +
      inputs.consoleCount.toNat * (2 * size.toNat + 2 * inputs.guestPageSize.toNat) +
      inputs.blockCount.toNat * (16 * size.toNat) +
      (if inputs.balloon then 4 * size.toNat else 0) + 4 * 2 ^ 20)
    (size_le : size.toNat ≤ inputs.guestPageSize.toNat) (fits : bytes < 2 ^ 32) :
    Value (estimateSwiotlbUsageMib inputs) (bytes ⌈/⌉ (1024 * 1024)) := by
  have queue (entries : UInt32)
      (known : entries ∈ [256, CONSOLE_TX_QUEUE_SIZE, CONSOLE_RX_QUEUE_SIZE, 128]) :
      Value (virtqSize inputs.guestPageSize entries) size.toNat := ⟨size, sized entries known, rfl⟩
  have event := queue 256 (by decide)
  have tx := queue CONSOLE_TX_QUEUE_SIZE (by decide)
  have rx := queue CONSOLE_RX_QUEUE_SIZE (by decide)
  have reporting := queue 128 (by decide)
  have page := Value.word inputs.guestPageSize
  unfold estimateSwiotlbUsageMib
  generalize inputs.guestPageSize = size_of_page at *
  have filled : Value (mul (some 256) (some size_of_page)) (256 * size_of_page.toNat) :=
    .mul ⟨256, rfl, rfl⟩ page (by omega)
  have received : Value (mul (some CONSOLE_RX_QUEUE_SIZE) (some size_of_page))
      (2 * size_of_page.toNat) := .mul ⟨2, rfl, rfl⟩ page (by omega)
  have vsock : Value _ (3 * size.toNat + 256 * size_of_page.toNat) :=
    (Value.sum (.cons event (.cons event (.cons event (.cons filled .nil))))
      (by simp only [List.sum_cons, List.sum_nil]; omega)).of_eq
      (by simp only [List.sum_cons, List.sum_nil]; omega)
  have console : Value _ (2 * size.toNat + 2 * size_of_page.toNat) :=
    (Value.sum (.cons tx (.cons rx (.cons received .nil)))
      (by simp only [List.sum_cons, List.sum_nil]; omega)).of_eq
      (by simp only [List.sum_cons, List.sum_nil]; omega)
  have queues : Value (mul (some 16) (virtqSize size_of_page 256)) (16 * size.toNat) :=
    .mul ⟨16, rfl, rfl⟩ event (by omega)
  have block : Value _ (16 * size.toNat) :=
    (Value.sum (.cons queues .nil)
      (by simp only [List.sum_cons, List.sum_nil]; omega)).of_eq
      (by simp only [List.sum_cons, List.sum_nil]; omega)
  have started : Value (some 0) 0 := ⟨0, rfl, rfl⟩
  have first := (started.add vsock (by omega)).of_eq (Nat.zero_add _)
  have second := first.add (.mul (.word inputs.consoleCount) console (by omega)) (by omega)
  have third := second.add (.mul (.word inputs.blockCount) block (by omega)) (by omega)
  have spare : Value (mul (mul (some 4) (some 1024)) (some 1024)) (4 * 2 ^ 20) :=
    ⟨4194304, by decide, by decide⟩
  cases balloon : inputs.balloon with
  | false =>
      rw [balloon] at bytes_eq
      simp only [Bool.false_eq_true, if_false, Nat.add_zero] at bytes_eq ⊢
      have total := (third.add spare (by omega)).of_eq bytes_eq.symm
      exact @Value.divCeil _ _ total (1024 * 1024) (by decide)
  | true =>
      rw [balloon] at bytes_eq
      simp only [if_true] at bytes_eq ⊢
      have queues : Value (mul (some 4) (virtqSize size_of_page 128)) (4 * size.toNat) :=
        .mul ⟨4, rfl, rfl⟩ reporting (by omega)
      have fourth := third.add queues (by omega)
      have total := (fourth.add spare (by omega)).of_eq bytes_eq.symm
      exact @Value.divCeil _ _ total (1024 * 1024) (by decide)

/-- Nothing overflows, and the estimate is the counted pages and 4 MiB, up to a MiB. -/
theorem estimate_value {inputs : Inputs} {bits : Nat}
    (power : inputs.guestPageSize.toNat = 2 ^ bits) (bounded : inputs.needed < 2 ^ 32) :
    Value (estimateSwiotlbUsageMib inputs)
      ((inputs.guestPageSize.toNat * inputs.counted + 4 * 2 ^ 20) ⌈/⌉ (1024 * 1024)) := by
  have positive : 0 < inputs.guestPageSize.toNat := power ▸ Nat.two_pow_pos bits
  have fits : inputs.guestPageSize.toNat * inputs.counted + 4 * 2 ^ 20 < 2 ^ 32 := by
    rw [Inputs.needed_eq positive, Nat.mul_add] at bounded
    omega
  have small : bits < 24 := by
    have filled : 256 ≤ inputs.counted := by
      unfold Inputs.counted Inputs.pages
      omega
    have below : 2 ^ bits * 256 < 2 ^ 32 := by
      have := Nat.mul_le_mul_left (2 ^ bits) filled
      rw [power] at fits
      omega
    exact (Nat.pow_lt_pow_iff_right (a := 2) (by decide)).1 (by omega)
  have page_word : inputs.guestPageSize = UInt32.ofNat (2 ^ bits) := by
    rw [← power, UInt32.ofNat_toNat]
  have sixteen : inputs.guestPageSize.toNat = 16 ↔ bits = 4 := by
    rw [power, show 16 = 2 ^ 4 from rfl]
    exact Nat.pow_right_inj (by decide)
  have size_eq : (if bits = 4 then 0 else inputs.guestPageSize).toNat =
      inputs.guestPageSize.toNat * if inputs.guestPageSize.toNat = 16 then 0 else 1 := by
    by_cases four : bits = 4
    · simp [sixteen, four]
    · simp [sixteen, four]
  apply @estimate_of_size _ (if bits = 4 then 0 else inputs.guestPageSize)
  · intro entries known
    rw [page_word]
    exact virtqSize_page bits small entries known
  · have rx : CONSOLE_RX_QUEUE_SIZE.toNat = 2 := rfl
    rw [size_eq]
    simp only [Inputs.counted, Inputs.pages, rx]
    cases inputs.balloon <;> simp only [if_true, Bool.false_eq_true, if_false] <;> ring
  · rw [size_eq]
    split <;> omega
  · exact fits

/-! Whether it is enough. -/

namespace Inputs

variable {inputs : Inputs}

/-- With large pages each queue needs one. -/
theorem missing_of_large (large : 8192 ≤ inputs.guestPageSize.toNat) : inputs.missing = 0 := by
  have one : ∀ entries ∈ [256, CONSOLE_TX_QUEUE_SIZE.toNat, CONSOLE_RX_QUEUE_SIZE.toNat, 128],
      queueBytes entries ⌈/⌉ inputs.guestPageSize.toNat = 1 := by
    intro entries known
    have bounds : 0 < queueBytes entries ∧ queueBytes entries ≤ 8192 := by
      revert entries
      decide
    rw [Nat.ceilDiv_eq_add_pred_div]
    exact Nat.div_eq_of_lt_le (by omega) (by omega)
  have wide : inputs.guestPageSize.toNat ≠ 16 := by omega
  simp only [missing, counted, pages, if_neg wide, one 256 (by decide), one 128 (by decide),
    one CONSOLE_TX_QUEUE_SIZE.toNat (by decide), one CONSOLE_RX_QUEUE_SIZE.toNat (by decide),
    Nat.sub_self]

/-- With others a queue of 256 entries needs more than one. -/
theorem missing_pos {bits : Nat} (power : inputs.guestPageSize.toNat = 2 ^ bits)
    (few : bits < 13) : 0 < inputs.missing := by
  have positive : 0 < inputs.guestPageSize.toNat := power ▸ Nat.two_pow_pos bits
  have small : inputs.guestPageSize.toNat ≤ 2 ^ 12 :=
    power ▸ Nat.pow_le_pow_right (by decide) (by omega)
  have two : 1 < queueBytes 256 ⌈/⌉ inputs.guestPageSize.toNat := by
    by_contra one
    have bound := (ceilDiv_le_iff_le_smul positive).1 (Nat.le_of_not_lt one)
    rw [smul_eq_mul, Nat.mul_one, show queueBytes 256 = 6670 by decide] at bound
    omega
  have grow := @pages_grow inputs _ _ (counted_le_queue positive)
  have less : (if inputs.guestPageSize.toNat = 16 then 0 else 1) ≤ 1 := by
    split <;> omega
  unfold missing counted
  omega

/-- A MiB is `lot` pages. -/
theorem lot_eq {bits : Nat} (power : inputs.guestPageSize.toNat = 2 ^ bits) (few : bits < 13) :
    inputs.guestPageSize.toNat * inputs.lot = 1024 * 1024 ∧ 0 < inputs.lot := by
  have split : 2 ^ 20 = 2 ^ bits * 2 ^ (20 - bits) := by
    rw [← Nat.pow_add, Nat.add_sub_cancel' (by omega)]
  have lot_eq : inputs.lot = 2 ^ (20 - bits) := by
    rw [lot, power, split, Nat.mul_div_cancel_left _ (Nat.two_pow_pos bits)]
  rw [lot_eq, power, ← split]
  exact ⟨rfl, Nat.two_pow_pos _⟩

end Inputs

/-- The estimate suffices exactly where the pages that are not counted find room in the last MiB
of those that are. -/
theorem estimate_suffices_iff (inputs : Inputs)
    (power : ∃ bits, inputs.guestPageSize.toNat = 2 ^ bits) (bounded : inputs.needed < 2 ^ 32) :
    (∃ mib, estimateSwiotlbUsageMib inputs = some mib ∧
        inputs.needed ⌈/⌉ (1024 * 1024) ≤ mib.toNat) ↔ inputs.Spare := by
  obtain ⟨bits, power⟩ := power
  have positive : 0 < inputs.guestPageSize.toNat := power ▸ Nat.two_pow_pos bits
  obtain ⟨mib, estimated, mib_eq⟩ := estimate_value power bounded
  have enough : (∃ mib, estimateSwiotlbUsageMib inputs = some mib ∧
      inputs.needed ⌈/⌉ (1024 * 1024) ≤ mib.toNat) ↔
        inputs.needed ⌈/⌉ (1024 * 1024) ≤
          (inputs.guestPageSize.toNat * inputs.counted + 4 * 2 ^ 20) ⌈/⌉ (1024 * 1024) := by
    rw [← mib_eq]
    constructor
    · rintro ⟨other, same, le⟩
      cases estimated.symm.trans same
      exact le
    · exact fun le => ⟨mib, estimated, le⟩
  rw [enough, Inputs.needed_eq positive]
  by_cases few : bits < 13
  · obtain ⟨mib_pages, some_pages⟩ := Inputs.lot_eq power few
    have small : ¬8192 ≤ inputs.guestPageSize.toNat := by
      have less : 2 ^ bits < 2 ^ 13 := Nat.pow_lt_pow_right (by decide) few
      omega
    have missing := Inputs.missing_pos power few
    have rounded (pages : Nat) :
        (inputs.guestPageSize.toNat * pages + 4 * 2 ^ 20) ⌈/⌉ (1024 * 1024) =
          pages ⌈/⌉ inputs.lot + 4 := by
      have bytes : inputs.guestPageSize.toNat * pages + 4 * 2 ^ 20 =
          inputs.guestPageSize.toNat * (pages + inputs.lot * 4) := by
        rw [Nat.mul_add, ← Nat.mul_assoc, mib_pages]
        omega
      rw [bytes, ← mib_pages, Align.mul_ceilDiv_mul positive some_pages,
        Align.add_mul_ceilDiv some_pages]
    rw [rounded, rounded, Nat.add_le_add_iff_right, Align.ceilDiv_add_le_iff some_pages,
      Inputs.Spare]
    constructor
    · rintro (none | room)
      · omega
      · exact .inr room
    · rintro (large | room)
      · exact absurd large small
      · exact .inr room
  · have large : 8192 ≤ inputs.guestPageSize.toNat := by
      have grown : 2 ^ 13 ≤ 2 ^ bits := Nat.pow_le_pow_right (by decide) (by omega)
      omega
    rw [Inputs.missing_of_large large, Nat.add_zero]
    exact ⟨fun _ => .inl large, fun _ => le_refl _⟩

def eightDisks : Inputs := ⟨4096, 8, 3, true⟩

theorem estimate_short :
    ¬∀ inputs : Inputs, (∃ bits, inputs.guestPageSize.toNat = 2 ^ bits) → inputs.needed < 2 ^ 32 →
      ∃ mib, estimateSwiotlbUsageMib inputs = some mib ∧
        inputs.needed ⌈/⌉ (1024 * 1024) ≤ mib.toNat := by
  intro enough
  obtain ⟨mib, estimated, le⟩ := enough eightDisks ⟨12, by decide⟩ (by decide)
  have six : estimateSwiotlbUsageMib eightDisks = some 6 := by decide
  cases six.symm.trans estimated
  revert le
  decide

theorem estimate_suffices_microdroid :
    ∃ mib, estimateSwiotlbUsageMib ⟨4096, 3, 3, true⟩ = some mib ∧
      (⟨4096, 3, 3, true⟩ : Inputs).needed ⌈/⌉ (1024 * 1024) ≤ mib.toNat :=
  (estimate_suffices_iff ⟨4096, 3, 3, true⟩ ⟨12, by decide⟩ (by decide)).2 (by decide)

end Bscp.Virtmgr.SwiotlbEstimate
