import Bscp.Python
import Mathlib.Data.List.Induction
import Mathlib.Tactic.Common
import Mathlib.Algebra.Ring.Nat

/-!
Numbers as bytes, as `struct` and `bytes` write them: the low bytes first, and an error for a
number that does not fit.
-/

namespace Bscp

abbrev Bytes := List UInt8

namespace Struct

/-- The bytes of a number, the low ones first. -/
def le : Nat → Nat → Bytes
  | 0, _ => []
  | width + 1, value => UInt8.ofNat value :: le width (value / 256)

def ofLe : Bytes → Nat
  | [] => 0
  | byte :: rest => byte.toNat + 256 * ofLe rest

/-- `data[start:stop]`. -/
def slice (data : Bytes) (start stop : Nat) : Bytes := (data.take stop).drop start

def fields (values : List (Nat × Nat)) : Bytes := values.flatMap fun field => le field.1 field.2

/-- `struct.pack` with a little-endian format. -/
def pack (values : List (Nat × Nat)) : Except Fault Bytes :=
  if values.all fun field => decide (field.2 < 256 ^ field.1) then .ok (fields values)
  else .error ⟨.other, "argument out of range"⟩

/-- `bytes` of a tuple of numbers. -/
def bytes (values : List Nat) : Except Fault Bytes :=
  if values.all fun value => decide (value < 256) then .ok (values.map UInt8.ofNat)
  else .error ⟨.valueError, "bytes must be in range(0, 256)"⟩

@[simp] theorem le_length (width value : Nat) : (le width value).length = width := by
  induction width generalizing value with
  | zero => rfl
  | succ width next => simp [le, next]

theorem ofLe_lt (data : Bytes) : ofLe data < 256 ^ data.length := by
  induction data with
  | nil => exact Nat.one_pos
  | cons byte rest next =>
      have low : byte.toNat < 256 := byte.toNat_lt
      have wider : 256 ^ (byte :: rest).length = 256 * 256 ^ rest.length := by
        rw [List.length_cons, Nat.pow_succ, Nat.mul_comm]
      rw [wider]
      simp only [ofLe]
      omega

theorem ofLe_lt_of_le {data : Bytes} {width : Nat} (size : data.length ≤ width) :
    ofLe data < 256 ^ width :=
  Nat.lt_of_lt_of_le (ofLe_lt data) (Nat.pow_le_pow_right (by decide) size)

theorem slice_length_le (data : Bytes) (start stop : Nat) :
    (slice data start stop).length ≤ stop - start := by
  simp only [slice, List.length_drop, List.length_take]
  omega

theorem slice_middle (front data back : Bytes) {stop : Nat}
    (size : stop = front.length + data.length) :
    slice (front ++ data ++ back) front.length stop = data := by
  rw [slice, size, ← List.length_append, List.take_left, List.drop_left]

theorem slice_length {data : Bytes} {start stop : Nat} (within : stop ≤ data.length) :
    (slice data start stop).length = stop - start := by
  rw [slice, List.length_drop, List.length_take_of_le within]

theorem slice_append (data : Bytes) {start middle stop : Nat} (first : start ≤ middle)
    (second : middle ≤ stop) :
    slice data start middle ++ slice data middle stop = slice data start stop := by
  have whole : data.take stop = data.take middle ++ slice data middle stop := by
    rw [slice, ← List.take_append_drop middle (data.take stop), List.take_take,
      Nat.min_eq_left second, List.drop_append]
    by_cases long : middle ≤ data.length
    · simp [List.length_take_of_le long]
    · simp [show (data.take stop).drop middle = [] from by simp; omega]
  conv => rhs; rw [slice, whole, List.drop_append]
  by_cases long : start ≤ (data.take middle).length
  · rw [Nat.sub_eq_zero_of_le long, List.drop_zero, slice]
  · have none : slice data middle stop = [] := by
      rw [List.length_take] at long
      apply List.drop_eq_nil_of_le
      rw [List.length_take]
      omega
    rw [none, List.drop_nil, List.append_nil, List.append_nil, slice]

theorem slice_append_right (front data : Bytes) (start stop : Nat) :
    slice (front ++ data) (front.length + start) (front.length + stop) = slice data start stop := by
  rw [slice, slice, List.take_length_add_append, List.drop_length_add_append]

theorem slice_append_left {front : Bytes} (back : Bytes) {start stop : Nat}
    (within : stop ≤ front.length) : slice (front ++ back) start stop = slice front start stop := by
  rw [slice, List.take_append_of_le_length within, slice]

theorem slice_slice (data : Bytes) {start stop first last : Nat} (within : start + last ≤ stop) :
    slice (slice data start stop) first last = slice data (start + first) (start + last) := by
  simp only [slice, List.drop_take, List.take_take, List.drop_drop]
  congr 1
  omega

/-- One of several parts that stand behind each other. -/
theorem slice_flatten {parts : List Bytes} (index : Nat) {start stop : Nat} {part : Bytes}
    (here : parts[index]? = some part) (front : ((parts.take index).map List.length).sum = start)
    (size : start + part.length = stop) : slice parts.flatten start stop = part := by
  obtain ⟨within, rfl⟩ := List.getElem?_eq_some_iff.mp here
  have whole : parts.flatten = (parts.take index).flatten ++ parts[index] ++
      (parts.drop (index + 1)).flatten := by
    conv_lhs => rw [← List.take_append_drop index parts, List.drop_eq_getElem_cons within]
    rw [List.flatten_append, List.flatten_cons, List.append_assoc]
  have begins : (parts.take index).flatten.length = start := by rw [List.length_flatten, front]
  rw [whole, ← begins]
  exact slice_middle _ _ _ (by omega)

theorem slice_rest (data : Bytes) (stop : Nat) : slice data 0 stop ++ data.drop stop = data :=
  List.take_append_drop stop data

theorem ofLe_le {width value : Nat} (fits : value < 256 ^ width) :
    ofLe (le width value) = value := by
  induction width generalizing value with
  | zero =>
      have zero : value = 0 := Nat.lt_one_iff.mp fits
      rw [zero]
      rfl
  | succ width next =>
      have high : value / 256 < 256 ^ width := by
        rw [Nat.pow_succ, Nat.mul_comm] at fits
        exact Nat.div_lt_of_lt_mul fits
      have low : (UInt8.ofNat value).toNat = value % 256 := UInt8.toNat_ofNat'
      simp only [le, ofLe, next high, low]
      exact Nat.mod_add_div value 256

theorem toNat_ofNat {value : Nat} (fits : value < 256) : (UInt8.ofNat value).toNat = value := by
  rw [UInt8.toNat_ofNat']
  exact Nat.mod_eq_of_lt fits

theorem le_ofLe (data : Bytes) : le data.length (ofLe data) = data := by
  induction data with
  | nil => rfl
  | cons byte rest next =>
      have low : byte.toNat < 256 := byte.toNat_lt
      have head : UInt8.ofNat (byte.toNat + 256 * ofLe rest) = byte := by
        apply UInt8.toNat_inj.mp
        rw [UInt8.toNat_ofNat']
        omega
      have tail : (byte.toNat + 256 * ofLe rest) / 256 = ofLe rest := by omega
      rw [List.length_cons, le, ofLe, head, tail, next]

/-- A number is told by its bytes. -/
theorem le_eq {data : Bytes} {width : Nat} (size : data.length = width) :
    le width (ofLe data) = data := by
  rw [← size, le_ofLe]

section Pair

variable {first second : Nat} (body : Bytes)

/-- A header of two words, read back. -/
theorem pair_first (fits : first < 256 ^ 4) :
    ofLe (slice (le 4 first ++ le 4 second ++ body) 0 4) = first := by
  have middle : slice ([] ++ le 4 first ++ (le 4 second ++ body)) 0 4 = le 4 first :=
    slice_middle [] (le 4 first) _ rfl
  rw [List.append_assoc]
  exact (congrArg ofLe middle).trans (ofLe_le fits)

theorem pair_second (fits : second < 256 ^ 4) :
    ofLe (slice (le 4 first ++ le 4 second ++ body) 4 8) = second := by
  have middle : slice (le 4 first ++ le 4 second ++ body) 4 8 = le 4 second :=
    slice_middle (le 4 first) (le 4 second) _ rfl
  exact (congrArg ofLe middle).trans (ofLe_le fits)

end Pair

theorem bytes_ok {values : List Nat} (small : ∀ value ∈ values, value < 256) :
    bytes values = .ok (values.map UInt8.ofNat) :=
  if_pos (List.all_eq_true.mpr fun value member => decide_eq_true (small value member))

theorem pack_ok {values : List (Nat × Nat)} (fits : ∀ field ∈ values, field.2 < 256 ^ field.1) :
    pack values = .ok (fields values) :=
  if_pos (List.all_eq_true.mpr fun field member => decide_eq_true (fits field member))

/-- What comes after a step that did not fail. -/
theorem bind_inv {ε α β : Type} {first : Except ε α} {next : α → Except ε β} {result : β}
    (made : first >>= next = .ok result) : ∃ value, first = .ok value ∧ next value = .ok result := by
  cases first with
  | error fault => cases made
  | ok value => exact ⟨value, rfl, made⟩

/-- Numbers that were packed fit their fields. -/
theorem pack_inv {values : List (Nat × Nat)} {data : Bytes} (packed : pack values = .ok data) :
    data = fields values ∧ ∀ field ∈ values, field.2 < 256 ^ field.1 := by
  unfold pack at packed
  split at packed
  · next fits =>
      cases packed
      exact ⟨rfl, fun field member => of_decide_eq_true (List.all_eq_true.mp fits field member)⟩
  · cases packed

end Struct

end Bscp
