import Bscp.Decimal
import Bscp.Lifecycle.ComputeProtocol
import Bscp.Struct

/-!
What `compute_protocol` accepts: the commands that are written from a count and two vectors, and
the responses that are written from what a line tells.
-/

namespace Bscp.ComputeProtocol

open Decimal (digits)

/-! ### Numbers -/

theorem isDigit_eq (char : Char) : isDigit char = char.isDigit := by
  simp [isDigit, Char.isDigit, Char.le_def, Bool.decide_and]

theorem number_eq (text : Text) : number text = Decimal.value text := by
  unfold number Decimal.value
  rw [Nat.ofDigitChars_eq_foldl]
  congr 1
  funext sofar char
  rw [Nat.mul_comm]
  rfl

theorem number_digits (n : Nat) : number (digits n) = n := by
  rw [number_eq, Decimal.value_digits]

theorem isPositive_iff {limit : Nat} {text : Text} :
    isPositive limit text = true ↔
      Decimal.Canonical text ∧ text ≠ ['0'] ∧ text.length ≤ limit + 1 := by
  cases text with
  | nil => simp [isPositive, Decimal.Canonical]
  | cons first rest =>
      simp only [isPositive, isDigit_eq, Bool.and_eq_true, decide_eq_true_eq, List.all_eq_true,
        Decimal.Canonical, List.forall_mem_cons, List.head?_cons, List.length_cons,
        Nat.add_le_add_iff_right, ne_eq, reduceCtorEq, not_false_eq_true, true_and,
        Option.some.injEq]
      constructor
      · rintro ⟨⟨⟨leading, digit⟩, digits⟩, short⟩
        exact ⟨⟨⟨digit, digits⟩, fun zero => absurd zero leading⟩,
          fun alone => leading (List.cons.inj alone).1, short⟩
      · rintro ⟨⟨⟨digit, digits⟩, zero⟩, proper, short⟩
        exact ⟨⟨⟨fun leading => proper (zero leading), digit⟩, digits⟩, short⟩

/-- The expression for a number with the comparison that follows it. -/
theorem isUint_iff {text : Text} :
    (isUint text = true ∧ number text ≤ word) ↔ ∃ n ≤ word, text = digits n := by
  constructor
  · rintro ⟨shape, small⟩
    refine ⟨number text, small, ?_⟩
    rw [number_eq]
    refine (Decimal.digits_of_canonical ?_).symm
    simp only [isUint, Bool.or_eq_true, decide_eq_true_eq] at shape
    rcases shape with rfl | positive
    · exact Decimal.canonical_digits 0
    · exact (isPositive_iff.mp positive).1
  · rintro ⟨n, small, rfl⟩
    rw [number_digits]
    refine ⟨?_, small⟩
    simp only [isUint, Bool.or_eq_true, decide_eq_true_eq, isPositive_iff]
    by_cases zero : digits n = ['0']
    · exact .inl zero
    · have few : n < 10 ^ 10 := Nat.lt_of_le_of_lt small (by decide)
      exact .inr ⟨Decimal.canonical_digits n, zero,
        (Decimal.length_digits_le_iff (by decide)).mpr few⟩

theorem isUint_digits {n : Nat} (small : n ≤ word) : isUint (digits n) = true :=
  (isUint_iff.mpr ⟨n, small, rfl⟩).1

theorem not_mem_number {n : Nat} {char : Char} (other : char.isDigit = false) : char ∉ digits n :=
  Decimal.not_mem_digits other

/-- Texts of numbers, all of them in range. -/
theorem uints_iff {texts : List Text} :
    (texts.all isUint = true ∧ ∀ n ∈ texts.map number, n ≤ word) ↔
      (∀ n ∈ texts.map number, n ≤ word) ∧ texts = (texts.map number).map digits := by
  induction texts with
  | nil => simp
  | cons text rest more =>
      simp only [List.all_cons, Bool.and_eq_true, List.map_cons, List.forall_mem_cons,
        List.cons.injEq]
      have one := @isUint_iff text
      constructor
      · rintro ⟨⟨shape, shapes⟩, small, smalls⟩
        obtain ⟨n, -, same⟩ := one.mp ⟨shape, small⟩
        refine ⟨⟨small, smalls⟩, ?_, (more.mp ⟨shapes, smalls⟩).2⟩
        rw [same, number_digits]
      · rintro ⟨⟨small, smalls⟩, same, sames⟩
        exact ⟨⟨(one.mpr ⟨_, small, same⟩).1, (more.mpr ⟨smalls, sames⟩).1⟩, small, smalls⟩

/-! ### Commands -/

def render (n : Nat) (a b : List Nat) : Text :=
  [' '].intercalate ("VADD".toList :: digits n :: (a ++ b).map digits)

structure Operands (n : Nat) (a b : List Nat) : Prop where
  count : 1 ≤ n ∧ n ≤ 4
  first : a.length = n
  second : b.length = n
  small : ∀ value ∈ a ++ b, value ≤ word

theorem counts {n : Nat} (count : 1 ≤ n ∧ n ≤ 4) :
    digits n ∈ [['1'], ['2'], ['3'], ['4']] := by
  obtain ⟨low, high⟩ := count
  have all : ∀ n ≤ 4, 1 ≤ n → digits n ∈ [['1'], ['2'], ['3'], ['4']] := by decide
  exact all n high low

theorem counted {text : Text} (listed : text ∈ [['1'], ['2'], ['3'], ['4']]) :
    (1 ≤ number text ∧ number text ≤ 4) ∧ text = digits (number text) := by
  have all : ∀ text ∈ [['1'], ['2'], ['3'], ['4']],
      (1 ≤ number text ∧ number text ≤ 4) ∧ text = digits (number text) := by decide
  exact all text listed

theorem splitOn_render (n : Nat) (a b : List Nat) :
    (render n a b).splitOn ' ' = "VADD".toList :: digits n :: (a ++ b).map digits := by
  refine List.splitOn_intercalate ' ' ?_ (by simp)
  simp only [List.forall_mem_cons, List.forall_mem_map]
  exact ⟨by decide, not_mem_number rfl, fun _ _ => not_mem_number rfl⟩

theorem parse_render {n : Nat} {a b : List Nat} (operands : Operands n a b) :
    parse (render n a b) = .ok (n, a, b) := by
  have length : (a ++ b).length = 2 * n := by
    rw [List.length_append, operands.first, operands.second]
    omega
  have values : ((a ++ b).map digits).map number = a ++ b := by
    rw [List.map_map]
    exact List.map_id'' (fun n => number_digits n) _
  have shapes : ((a ++ b).map digits).all isUint = true := by
    simp only [List.all_map, List.all_eq_true]
    exact fun value given => isUint_digits (operands.small value given)
  have small : ((a ++ b).any (decide <| word < ·)) = false := by
    simp only [List.any_eq_false, decide_eq_true_eq, Nat.not_lt]
    exact operands.small
  have low := operands.count.1
  have high := operands.count.2
  simp only [parse, splitOn_render, values, number_digits, List.length_map, length,
    counts operands.count, shapes, small]
  rw [if_pos ⟨trivial, trivial, by omega, by omega, trivial⟩, if_neg (by simp),
    List.take_left' operands.first, List.drop_left' operands.first]

/-- A command is accepted exactly if it is written from what is returned. -/
theorem parse_eq_ok {command : Text} {n : Nat} {a b : List Nat} :
    parse command = .ok (n, a, b) ↔ Operands n a b ∧ command = render n a b := by
  constructor
  · intro accepted
    have whole : [' '].intercalate (command.splitOn ' ') = command := List.intercalate_splitOn ' '
    unfold parse at accepted
    split at accepted
    · rename_i name count tokens shape
      split at accepted
      · rename_i grammar
        obtain ⟨named, listed, -, -, shapes⟩ := grammar
        simp only at accepted
        split at accepted
        · cases accepted
        · rename_i fits
          cases accepted
          simp only [not_or, Bool.not_eq_true, List.any_eq_false, decide_eq_true_eq, Nat.not_lt,
            ne_eq, not_not] at fits
          obtain ⟨length, small⟩ := fits
          obtain ⟨count_range, count_text⟩ := counted listed
          refine ⟨⟨count_range, ?_, ?_, ?_⟩, ?_⟩
          · rw [List.length_take, length]
            omega
          · rw [List.length_drop, length]
            omega
          · rw [List.take_append_drop]
            exact small
          · rw [render, List.take_append_drop, ← count_text, ← (uints_iff.mp ⟨shapes, small⟩).2,
              ← named, ← shape, whole]
      · cases accepted
    · cases accepted
  · rintro ⟨operands, rfl⟩
    exact parse_render operands

/-! ### Fields -/

theorem drop_key (key : String) (text : Text) :
    (key.toList ++ '=' :: text).drop (key.length + 1) = text := by
  rw [← String.length_toList, List.append_cons]
  exact List.drop_left' (by simp)

theorem field_eq_ok {key : String} {part text : Text} :
    field key part = .ok text ↔ part = key.toList ++ '=' :: text := by
  unfold field
  constructor
  · intro found
    split at found
    · rename_i starts
      cases found
      obtain ⟨rest, rfl⟩ := List.isPrefixOf_iff_prefix.mp starts
      rw [List.append_assoc, List.singleton_append, drop_key]
    · cases found
  · rintro rfl
    rw [if_pos (List.isPrefixOf_iff_prefix.mpr ⟨text, by simp⟩), drop_key]

def keyed (keys : List String) (texts : List Text) : List Text :=
  List.zipWith (fun key text => key.toList ++ '=' :: text) keys texts

theorem fields_eq_ok {keys : List String} {parts texts : List Text}
    (length : parts.length = keys.length) :
    (keys.zip parts).mapM (fun pair => field pair.1 pair.2) = .ok texts ↔
      texts.length = keys.length ∧ parts = keyed keys texts := by
  induction keys generalizing parts texts with
  | nil =>
      cases List.eq_nil_of_length_eq_zero length
      cases texts <;> simp [keyed, pure, Except.pure]
  | cons key keys more =>
      cases parts with
      | nil => simp at length
      | cons part parts =>
          simp only [List.length_cons, Nat.add_right_cancel_iff] at length
          rw [List.zip_cons_cons, List.mapM_cons]
          constructor
          · intro found
            obtain ⟨text, first, found⟩ := Struct.bind_inv found
            obtain ⟨later, others, found⟩ := Struct.bind_inv found
            cases found
            obtain ⟨count, same⟩ := (more length).mp others
            rw [field_eq_ok] at first
            simp only at first
            exact ⟨by simp [count], by rw [first, same]; rfl⟩
          · rintro ⟨count, same⟩
            cases texts with
            | nil => simp at count
            | cons text later =>
                simp only [keyed, List.zipWith_cons_cons, List.cons.injEq] at same
                simp only [List.length_cons, Nat.add_right_cancel_iff] at count
                rw [(@field_eq_ok _ part _).mpr same.1, (more length).mpr ⟨count, same.2⟩]
                rfl

theorem numeric_eq_ok {text : Text} {n : Nat} :
    numeric text = .ok n ↔ n ≤ word ∧ text = digits n := by
  unfold numeric
  constructor
  · intro found
    split at found
    · rename_i shape
      cases found
      obtain ⟨n, small, rfl⟩ := isUint_iff.mp shape
      rw [number_digits]
      exact ⟨small, rfl⟩
    · cases found
  · rintro ⟨small, rfl⟩
    rw [if_pos (isUint_iff.mpr ⟨n, small, rfl⟩), number_digits]

def joined (values : List Nat) : Text := [','].intercalate (values.map digits)

theorem splitOn_joined {values : List Nat} (some : values ≠ []) :
    (joined values).splitOn ',' = values.map digits :=
  List.splitOn_intercalate ',' (by simpa using fun _ _ => not_mem_number rfl) (by simpa using some)

theorem vector_eq_ok {count : Nat} {text : Text} {values : List Nat} (some : 0 < count) :
    vector count text = .ok values ↔
      values.length = count ∧ (∀ value ∈ values, value ≤ word) ∧ text = joined values := by
  unfold vector
  constructor
  · intro found
    split at found
    · rename_i shapes
      simp only at found
      split at found
      · cases found
      · rename_i fits
        cases found
        simp only [not_or, Bool.not_eq_true, List.any_eq_false, decide_eq_true_eq, Nat.not_lt,
          ne_eq, not_not] at fits
        refine ⟨fits.1, fits.2, ?_⟩
        rw [joined, ← (uints_iff.mp ⟨shapes, fits.2⟩).2]
        exact (List.intercalate_splitOn ',').symm
    · cases found
  · rintro ⟨length, small, rfl⟩
    have present : values ≠ [] := by
      rintro rfl
      exact absurd length (Nat.ne_of_lt some)
    have read : (values.map digits).map number = values := by
      rw [List.map_map]
      exact List.map_id'' (fun n => number_digits n) _
    have shapes : (values.map digits).all isUint = true := by
      simp only [List.all_map, List.all_eq_true]
      exact fun value given => isUint_digits (small value given)
    have fits : (values.any (decide <| word < ·)) = false := by
      simp only [List.any_eq_false, decide_eq_true_eq, Nat.not_lt]
      exact small
    simp [splitOn_joined present, shapes, read, fits, length]

def pair (byte : UInt8) : Text :=
  [Nat.digitChar (byte.toNat / 16), Nat.digitChar (byte.toNat % 16)]

theorem hexDigit_digitChar {n : Nat} (small : n < 16) : hexDigit (Nat.digitChar n) = some n := by
  have all : ∀ n < 16, hexDigit (Nat.digitChar n) = some n := by decide
  exact all n small

theorem hexDigit_eq_some {char : Char} {n : Nat} (found : hexDigit char = some n) :
    n < 16 ∧ char = Nat.digitChar n := by
  have all : ∀ n < 16, Nat.digitChar n = Char.ofNat (if n < 10 then 48 + n else 87 + n) := by decide
  unfold hexDigit at found
  split at found
  · rename_i digit
    cases found
    have range : 48 ≤ char.toNat ∧ char.toNat ≤ 57 := by
      simpa [isDigit, Char.le_def, UInt32.le_iff_toNat_le] using digit
    refine ⟨by omega, ?_⟩
    rw [all _ (by omega), if_pos (by omega), show 48 + (char.toNat - 48) = char.toNat by omega,
      Char.ofNat_toNat]
  · split at found
    · rename_i letter
      cases found
      have range : 97 ≤ char.toNat ∧ char.toNat ≤ 102 := by
        simpa [Char.le_def, UInt32.le_iff_toNat_le] using letter
      refine ⟨by omega, ?_⟩
      rw [all _ (by omega), if_neg (by omega), show 87 + (char.toNat - 87) = char.toNat by omega,
        Char.ofNat_toNat]
    · cases found

theorem fromHex_pairs (bytes : List UInt8) : fromHex (bytes.flatMap pair) = some bytes := by
  induction bytes with
  | nil => rfl
  | cons byte rest more =>
      have bound := byte.toNat_lt
      have whole : 16 * (byte.toNat / 16) + byte.toNat % 16 = byte.toNat := by omega
      simp only [List.flatMap_cons, pair, List.cons_append, List.nil_append, fromHex,
        hexDigit_digitChar (show byte.toNat / 16 < 16 by omega),
        hexDigit_digitChar (show byte.toNat % 16 < 16 by omega), more, Option.bind_eq_bind,
        Option.bind_some, whole, UInt8.ofNat_toNat]

theorem fromHex_eq_some {text : Text} {bytes : List UInt8} :
    fromHex text = some bytes ↔ text = bytes.flatMap pair := by
  constructor
  · intro found
    induction text using fromHex.induct generalizing bytes with
    | case1 =>
        cases found
        rfl
    | case2 high low rest more =>
        simp only [fromHex, Option.bind_eq_bind, Option.bind_eq_some_iff,
          Option.some.injEq] at found
        obtain ⟨first, high_is, second, low_is, others, later, rfl⟩ := found
        obtain ⟨high_small, rfl⟩ := hexDigit_eq_some high_is
        obtain ⟨low_small, rfl⟩ := hexDigit_eq_some low_is
        have byte : (UInt8.ofNat (16 * first + second)).toNat = 16 * first + second := by
          rw [UInt8.toNat_ofNat']
          omega
        rw [List.flatMap_cons, pair, byte, ← more later,
          show (16 * first + second) / 16 = first by omega,
          show (16 * first + second) % 16 = second by omega]
        rfl
    | case3 => cases found
  · rintro rfl
    exact fromHex_pairs bytes

def hex (name : String) : Text := name.toByteArray.data.toList.flatMap pair

theorem deviceName_eq_ok {text name : Text} :
    deviceName text = .ok name ↔ ∃ device : String, text = hex device ∧
      (1 ≤ device.utf8ByteSize ∧ device.utf8ByteSize ≤ 255) ∧ name = device.toList := by
  unfold deviceName
  constructor
  · intro found
    split at found
    · rename_i bytes read
      split at found
      · rename_i size
        split at found
        · rename_i device decoded
          cases found
          unfold String.fromUTF8? at decoded
          split at decoded
          · rename_i valid
            cases decoded
            have same : (String.fromUTF8 ⟨bytes.toArray⟩ valid).utf8ByteSize = bytes.length := rfl
            exact ⟨_, fromHex_eq_some.mp read, same ▸ size, rfl⟩
          · cases decoded
        · cases found
      · cases found
    · cases found
  · rintro ⟨device, rfl, size, rfl⟩
    rw [hex, fromHex_pairs]
    have decoded : String.fromUTF8? ⟨device.toByteArray.data.toList.toArray⟩ = some device := by
      unfold String.fromUTF8?
      rw [Array.toArray_toList, dif_pos device.isValidUTF8]
      rfl
    simp only
    rw [if_pos (by simpa using size), decoded]

end Bscp.ComputeProtocol
