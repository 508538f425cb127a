import Bscp.Lifecycle.ComputeProtocolGrammar
import Mathlib.Data.List.Nodup

/-!
The responses that `compute_protocol.validate_response` gives an outcome for: a line that is written
from what it tells, or a refusal; the outcome is a success exactly if the line has the sums.
-/

namespace Bscp.ComputeProtocol

open Decimal (digits)

/-- What an `OK` line tells beside the count and the fixed fields. -/
structure Line where
  values : List Nat
  device : String
  vendor : Nat
  deviceid : Nat
  type : Nat
  queue : Nat
  memory : List Nat
  flags : List Nat

/-- Every number in its range; a discrete or an integrated device; the memory of each of the three
buffers is host-visible and coherent. -/
structure Line.Formed (line : Line) (n : Nat) : Prop where
  values : line.values.length = n ∧ ∀ value ∈ line.values, value ≤ word
  named : 1 ≤ line.device.utf8ByteSize ∧ line.device.utf8ByteSize ≤ 255
  plain : '\x00' ∉ line.device.toList
  vendor : line.vendor ≤ word
  deviceid : line.deviceid ≤ word
  type : line.type = 1 ∨ line.type = 2
  queue : line.queue ≤ word
  memory : line.memory.length = 3 ∧ ∀ index ∈ line.memory, index < 32
  flags : line.flags.length = 3 ∧ ∀ flag ∈ line.flags, flag ≤ word ∧ flag &&& 6 = 6

namespace Line

def texts (line : Line) (n : Nat) : List Text :=
  [digits n, joined line.values, hex line.device, digits line.vendor, digits line.deviceid,
    digits line.type, digits line.queue, joined line.memory, joined line.flags, digits 1, digits 0,
    shaderSha256]

def parts (line : Line) (n : Nat) : List Text := keyed fields (line.texts n)

end Line

def okLine (parts : List Text) : Text :=
  [' '].intercalate ("VADD".toList :: "OK".toList :: parts) ++ ['\n']

def Line.text (line : Line) (n : Nat) : Text := okLine (line.parts n)

def sums (a b : List Nat) : List Nat := List.zipWith (fun x y => (x + y) % 2 ^ 32) a b

def Line.task (line : Line) (a b : List Nat) : Task where
  outcome := if sums a b = line.values then .success else .failed
  referenceChecked := true
  expected := sums a b
  actual := line.values
  device := line.device.toList

section Fields

variable {n : Nat} {a b : List Nat} {parts : List Text} {task : Task} {line : Line}

theorem validateFields_of_line (positive : 0 < n) (small : n ≤ word) (formed : line.Formed n) :
    validateFields n a b shaderSha256 (line.parts n) = .ok (line.task a b) := by
  have read := (@fields_eq_ok fields (line.parts n) (line.texts n)
    (by simp [Line.parts, keyed, Line.texts, fields])).mpr ⟨rfl, rfl⟩
  have number {value : Nat} (small : value ≤ word) : numeric (digits value) = .ok value :=
    numeric_eq_ok.mpr ⟨small, rfl⟩
  have type_small : line.type ≤ word := by
    rcases formed.type with one | two <;> simp [*, word]
  have sums_read := (vector_eq_ok positive).mpr ⟨formed.values.1, formed.values.2, rfl⟩
  have memory_read := (vector_eq_ok (by decide)).mpr ⟨formed.memory.1,
    fun index given => Nat.le_of_lt_succ (Nat.lt_of_lt_of_le (formed.memory.2 index given)
      (by decide : 32 ≤ word + 1)), rfl⟩
  have flags_read := (vector_eq_ok (by decide)).mpr
    ⟨formed.flags.1, fun flag given => (formed.flags.2 flag given).1, rfl⟩
  have device_read := deviceName_eq_ok.mpr ⟨line.device, rfl, formed.named, rfl⟩
  have memory_range : line.memory.any (32 ≤ ·) = false := by
    simpa using formed.memory.2
  have coherent : line.flags.any (fun flag => flag &&& 6 ≠ 6) = false := by
    simpa using fun flag given => (formed.flags.2 flag given).2
  have type_listed : line.type ∈ [1, 2] := by simpa using formed.type
  unfold validateFields
  rw [read]
  simp only [Line.texts, bind, Except.bind, number small, number formed.vendor,
    number formed.deviceid, number type_small, number formed.queue,
    number (show 1 ≤ word by decide), number (show 0 ≤ word by decide), sums_read, memory_read,
    flags_read, device_read, formed.plain, memory_range, coherent, type_listed]
  simp only [Line.task, sums, ne_eq, not_true_eq_false, or_self, if_false, Bool.false_eq_true]
  rfl

theorem line_of_validateFields (positive : 0 < n) (length : parts.length = fields.length)
    (found : validateFields n a b shaderSha256 parts = .ok task) :
    ∃ line : Line, line.Formed n ∧ parts = line.parts n ∧ task = line.task a b := by
  unfold validateFields at found
  obtain ⟨texts, read, found⟩ := Struct.bind_inv found
  obtain ⟨-, parts_are⟩ := (fields_eq_ok length).mp read
  split at found
  · rename_i count sums_text device vendor deviceid type queue memory flags dispatch fence built
    obtain ⟨count_n, count_is, found⟩ := Struct.bind_inv found
    obtain ⟨vendor_n, vendor_is, found⟩ := Struct.bind_inv found
    obtain ⟨deviceid_n, deviceid_is, found⟩ := Struct.bind_inv found
    obtain ⟨type_n, type_is, found⟩ := Struct.bind_inv found
    obtain ⟨queue_n, queue_is, found⟩ := Struct.bind_inv found
    obtain ⟨dispatch_n, dispatch_is, found⟩ := Struct.bind_inv found
    obtain ⟨fence_n, fence_is, found⟩ := Struct.bind_inv found
    obtain ⟨values, values_are, found⟩ := Struct.bind_inv found
    obtain ⟨memory_ns, memory_are, found⟩ := Struct.bind_inv found
    obtain ⟨flag_ns, flags_are, found⟩ := Struct.bind_inv found
    obtain ⟨name, name_is, found⟩ := Struct.bind_inv found
    simp only [numeric_eq_ok]
      at count_is vendor_is deviceid_is type_is queue_is dispatch_is fence_is
    rw [vector_eq_ok positive] at values_are
    rw [vector_eq_ok (by decide)] at memory_are flags_are
    obtain ⟨device_name, device_is, named, name_text⟩ := deviceName_eq_ok.mp name_is
    split at found
    · cases found
    · rename_i identity
      simp only [not_or, not_not] at identity
      obtain ⟨plain, counted, typed, dispatched, fenced, shader⟩ := identity
      split at found
      · cases found
      · rename_i range
        cases found
        simp only [not_or, Bool.not_eq_true, List.any_eq_false, decide_eq_true_eq, Nat.not_le,
          not_not] at range
        refine ⟨⟨values, device_name, vendor_n, deviceid_n, type_n, queue_n, memory_ns, flag_ns⟩,
          ⟨⟨values_are.1, values_are.2.1⟩, named, name_text ▸ plain, vendor_is.1, deviceid_is.1,
            ?_, queue_is.1, ⟨memory_are.1, range.2⟩, flags_are.1, fun flag given =>
              ⟨flags_are.2.1 flag given, range.1 flag given⟩⟩, ?_, by rw [name_text]; rfl⟩
        · simpa using typed
        · rw [parts_are, count_is.2, values_are.2.2, device_is, vendor_is.2, deviceid_is.2,
            type_is.2, queue_is.2, memory_are.2.2, flags_are.2.2, dispatch_is.2, fence_is.2,
            counted, dispatched, fenced, shader]
          rfl
  · cases found

end Fields

/-! ### Lines -/

section Lines

variable {n : Nat} {a b : List Nat} {parts : List Text} {line : Line}

def Quiet (text : Text) : Prop := ' ' ∉ text ∧ '\n' ∉ text

theorem quiet_digits (n : Nat) : Quiet (digits n) :=
  ⟨not_mem_number rfl, not_mem_number rfl⟩

theorem quiet_joined (values : List Nat) : Quiet (joined values) := by
  have only : ∀ char ∈ joined values, char = ',' ∨ char.isDigit = true := by
    intro char given
    unfold joined at given
    induction values with
    | nil => simp at given
    | cons first rest more =>
        cases rest with
        | nil =>
            simp only [List.map_cons, List.map_nil, List.intercalate_singleton] at given
            exact .inr (Decimal.isDigit_of_mem_digits given)
        | cons second rest =>
            simp only [List.map_cons, List.intercalate_cons_cons, List.append_assoc,
              List.mem_append, List.mem_singleton] at given more
            rcases given with one | comma | others
            · exact .inr (Decimal.isDigit_of_mem_digits one)
            · exact .inl comma
            · exact more others
  exact ⟨fun blank => by rcases only _ blank with comma | digit <;> contradiction,
    fun newline => by rcases only _ newline with comma | digit <;> contradiction⟩

theorem quiet_hex (name : String) : Quiet (hex name) := by
  have digit : ∀ n < 16, Nat.digitChar n ≠ ' ' ∧ Nat.digitChar n ≠ '\n' := by decide
  have only : ∀ char ∈ hex name, char ≠ ' ' ∧ char ≠ '\n' := by
    intro char given
    obtain ⟨byte, -, given⟩ := List.mem_flatMap.mp given
    have bound := byte.toNat_lt
    simp only [pair, List.mem_cons, List.not_mem_nil, or_false] at given
    rcases given with rfl | rfl
    · exact digit _ (by omega)
    · exact digit _ (by omega)
  exact ⟨fun blank => (only _ blank).1 rfl, fun newline => (only _ newline).2 rfl⟩

theorem mem_keyed {keys : List String} {texts : List Text} {part : Text}
    (given : part ∈ keyed keys texts) :
    ∃ key ∈ keys, ∃ text ∈ texts, part = key.toList ++ '=' :: text := by
  rw [keyed, ← List.map_uncurry_zip_eq_zipWith] at given
  obtain ⟨⟨key, text⟩, both, rfl⟩ := List.mem_map.mp given
  exact ⟨key, (List.of_mem_zip both).1, text, (List.of_mem_zip both).2, rfl⟩

theorem quiet_parts (line : Line) (n : Nat) : ∀ part ∈ line.parts n, Quiet part := by
  have one {key : String} {text : Text} (name : Quiet key.toList) (value : Quiet text) :
      Quiet (key.toList ++ '=' :: text) := by
    simp only [Quiet, List.mem_append, List.mem_cons, not_or] at *
    exact ⟨⟨name.1, by decide, value.1⟩, name.2, by decide, value.2⟩
  have names : ∀ key ∈ fields, Quiet key.toList := by unfold Quiet; decide +kernel
  have shader : Quiet shaderSha256 := by unfold Quiet; decide +kernel
  have texts : ∀ text ∈ line.texts n, Quiet text := by
    simp only [Line.texts, List.forall_mem_cons, quiet_digits, quiet_joined, quiet_hex, shader]
    simp
  intro part given
  obtain ⟨key, name, text, value, rfl⟩ := mem_keyed given
  exact one (names key name) (texts text value)

theorem dropLast_okLine : (okLine parts).dropLast =
    [' '].intercalate ("VADD".toList :: "OK".toList :: parts) := List.dropLast_concat

theorem splitOn_okLine (quiet : ∀ part ∈ parts, Quiet part) :
    (okLine parts).dropLast.splitOn ' ' = "VADD".toList :: "OK".toList :: parts := by
  rw [dropLast_okLine]
  refine List.splitOn_intercalate ' ' ?_ (by simp)
  simp only [List.forall_mem_cons]
  exact ⟨by decide, by decide, fun part given => (quiet part given).1⟩

theorem okLine_head (parts : List Text) : ∃ rest, okLine parts = "VADD OK".toList ++ rest := by
  unfold okLine
  rw [List.intercalate_cons_cons]
  cases parts with
  | nil => exact ⟨['\n'], rfl⟩
  | cons part parts =>
      rw [List.intercalate_cons_cons]
      exact ⟨_, rfl⟩

/-- A refusal begins otherwise. -/
theorem refusal_head {response : Text} (refusal : isRefusal response = true) :
    ∃ rest, response = "VADD ERR ".toList ++ rest := by
  simp only [isRefusal, Bool.or_eq_true, decide_eq_true_eq, List.any_eq_true, Bool.and_eq_true]
    at refusal
  rcases refusal with ((rfl | rfl) | ⟨reason, -, rfl⟩) | ⟨starts, -⟩
  · exact ⟨_, rfl⟩
  · exact ⟨_, rfl⟩
  · exact ⟨_, rfl⟩
  · obtain ⟨rest, rfl⟩ := List.isPrefixOf_iff_prefix.mp starts
    exact ⟨_, rfl⟩

theorem okLine_not_refusal : isRefusal (okLine parts) = false := by
  refine Bool.eq_false_iff.mpr fun refusal => ?_
  obtain ⟨rest, head⟩ := okLine_head parts
  obtain ⟨other, begins⟩ := refusal_head refusal
  have same := congrArg (List.take 6) (head.symm.trans begins)
  exact absurd same (by simp)

theorem okLine_not_unknown : "VADD UNKNOWN ".toList.isPrefixOf (okLine parts) = false := by
  refine Bool.eq_false_iff.mpr fun unknown => ?_
  obtain ⟨rest, head⟩ := okLine_head parts
  obtain ⟨other, begins⟩ := List.isPrefixOf_iff_prefix.mp unknown
  have same := congrArg (List.take 6) (head.symm.trans begins.symm)
  exact absurd same (by simp)

theorem okLine_singleLine (quiet : ∀ part ∈ parts, Quiet part) :
    singleLine (okLine parts) = true := by
  have words : ∀ words : List Text, (∀ word ∈ words, '\n' ∉ word) →
      '\n' ∉ [' '].intercalate words := by
    intro words none
    induction words with
    | nil => simp
    | cons first rest more =>
        have others := more fun word given => none word (.tail _ given)
        cases rest with
        | nil => simpa using none first (.head _)
        | cons second rest =>
            rw [List.intercalate_cons_cons]
            simp only [List.mem_append, List.mem_singleton, not_or]
            exact ⟨⟨none first (.head _), by decide⟩, others⟩
  have inside := words ("VADD".toList :: "OK".toList :: parts) (by
    simp only [List.forall_mem_cons]
    exact ⟨by decide, by decide, fun part given => (quiet part given).2⟩)
  simp only [singleLine, okLine, decide_eq_true_eq, List.getLast?_append, List.getLast?_singleton,
    Option.some_or, true_and, List.count_append, List.count_eq_zero_of_not_mem inside,
    List.count_singleton_self, Nat.zero_add]

end Lines

/-! ### Outcomes -/

section Outcomes

variable {n : Nat} {a b : List Nat} {command response : Text} {task : Task} {line : Line}

def refused : Task := { outcome := .failed, referenceChecked := false }

/-- Who gets an outcome, and which. -/
theorem validateResponse_eq_ok (accepted : parse command = .ok (n, a, b)) :
    validateResponse command response = .ok task ↔
      response.length ≤ 2048 ∧
        ((singleLine response = true ∧ isRefusal response = true ∧ task = refused) ∨
          ∃ line : Line, line.Formed n ∧ response = line.text n ∧ task = line.task a b) := by
  obtain ⟨low, high⟩ := (parse_eq_ok.mp accepted).1.count
  have small : n ≤ word := Nat.le_trans high (by decide)
  constructor
  · intro found
    obtain ⟨parsed, again, found⟩ := Struct.bind_inv found
    rw [accepted] at again
    cases again
    simp only at found
    split at found
    · cases found
    · rename_i shape
      simp only [not_or, Nat.not_lt, not_not] at shape
      obtain ⟨short, single⟩ := shape
      refine ⟨short, ?_⟩
      split at found
      · rename_i refusal
        cases found
        exact .inl ⟨single, refusal, rfl⟩
      · split at found
        · cases found
        · split at found
          · rename_i first second parts words
            split at found
            · rename_i form
              obtain ⟨rfl, rfl, length⟩ := form
              obtain ⟨line, formed, rfl, task_is⟩ := line_of_validateFields low length found
              refine .inr ⟨line, formed, ?_, task_is⟩
              have last : response.getLast? = some '\n' := by
                simp only [singleLine, decide_eq_true_eq] at single
                exact single.1
              obtain ⟨front, rfl⟩ := List.getLast?_eq_some_iff.mp last
              rw [List.dropLast_concat] at words
              rw [Line.text, okLine, ← words, List.intercalate_splitOn]
            · cases found
          · cases found
  · rintro ⟨short, ⟨single, refusal, rfl⟩ | ⟨line, formed, rfl, rfl⟩⟩
    · rw [validateResponse, accepted]
      simp only [bind, Except.bind]
      rw [if_neg (by simp [single, short]), if_pos refusal]
      rfl
    · have quiet := quiet_parts line n
      rw [validateResponse, accepted]
      simp only [bind, Except.bind]
      unfold Line.text at short ⊢
      rw [if_neg (by simp [okLine_singleLine quiet, short]), if_neg (by simp [okLine_not_refusal]),
        if_neg (Bool.eq_false_iff.mp okLine_not_unknown), splitOn_okLine quiet]
      simp only
      rw [if_pos ⟨trivial, trivial, by simp [Line.parts, keyed, Line.texts, fields]⟩]
      exact validateFields_of_line low small formed

theorem singleLine_of_ok (accepted : parse command = .ok (n, a, b))
    (found : validateResponse command response = .ok task) : singleLine response = true := by
  obtain ⟨-, ⟨single, -⟩ | ⟨line, -, rfl, -⟩⟩ := (validateResponse_eq_ok accepted).mp found
  · exact single
  · exact okLine_singleLine (quiet_parts line n)

/-- Nothing can be put behind a single line. -/
theorem singleLine_append {more : Text} (single : singleLine response = true) (some : more ≠ []) :
    singleLine (response ++ more) = false := by
  refine Bool.eq_false_iff.mpr fun longer => ?_
  simp only [singleLine, decide_eq_true_eq, List.count_append] at single longer
  have last : more.getLast? = Option.some '\n' := by
    rw [List.getLast?_append_of_ne_nil _ some] at longer
    exact longer.1
  have listed : '\n' ∈ more := List.mem_of_getLast? last
  have counted := List.count_pos_iff.mpr listed
  omega

def keyOf (part : Text) : Text := part.takeWhile (· ≠ '=')

theorem keyOf_keyed {keys : List String} {texts : List Text} (length : texts.length = keys.length)
    (plain : ∀ key ∈ keys, '=' ∉ key.toList) :
    (keyed keys texts).map keyOf = keys.map String.toList := by
  induction keys generalizing texts with
  | nil => simp [keyed]
  | cons key keys more =>
      cases texts with
      | nil => simp at length
      | cons text texts =>
          simp only [List.forall_mem_cons] at plain
          have others := more (by simpa using length) plain.2
          have first : keyOf (key.toList ++ '=' :: text) = key.toList := by
            rw [keyOf, List.takeWhile_append_of_pos]
            · simp
            · intro char given
              simp only [ne_eq, decide_not, Bool.not_eq_eq_eq_not, Bool.not_true,
                decide_eq_false_iff_not]
              rintro rfl
              exact plain.1 given
          simp only [keyed, List.zipWith_cons_cons, List.map_cons, first]
          exact congrArg _ others

/-- Lists with the same keys, each of them once, are the same if their members are. -/
theorem eq_of_perm_of_keys {α β : Type} {key : α → β} {first second : List α}
    (order : first.Perm second) (same : first.map key = second.map key)
    (once : (second.map key).Nodup) : first = second := by
  refine List.ext_getElem order.length_eq fun index left right => ?_
  have keys : key first[index] = key second[index] := by
    have pointwise := congrArg (·[index]?) same
    simpa [List.getElem?_eq_getElem left, List.getElem?_eq_getElem right] using pointwise
  exact List.inj_on_of_nodup_map once (order.mem_iff.mp (List.getElem_mem left))
    (List.getElem_mem right) keys

/-- The fields of a line in another order have no outcome. -/
theorem reordered (accepted : parse command = .ok (n, a, b)) {parts : List Text}
    (order : parts.Perm (line.parts n)) (other : parts ≠ line.parts n) :
    validateResponse command (okLine parts) ≠ .ok task := by
  intro found
  obtain ⟨-, ⟨-, refusal, -⟩ | ⟨second, -, same, -⟩⟩ := (validateResponse_eq_ok accepted).mp found
  · rw [okLine_not_refusal] at refusal
    cases refusal
  · have quiet : ∀ part ∈ parts, Quiet part := fun part given =>
      quiet_parts line n part (order.mem_iff.mp given)
    have words := congrArg (fun text : Text => text.dropLast.splitOn ' ') same
    simp only [Line.text, splitOn_okLine quiet, splitOn_okLine (quiet_parts second n),
      List.cons.injEq, true_and] at words
    subst words
    have plain : ∀ key ∈ fields, '=' ∉ key.toList := by decide +kernel
    have keys (line : Line) : (line.parts n).map keyOf = fields.map String.toList :=
      keyOf_keyed rfl plain
    refine other (eq_of_perm_of_keys order ((keys second).trans (keys line).symm) ?_)
    rw [keys]
    decide +kernel

/-- `parse` reads what is rendered and nothing else; the outcome of a response is a success for the
line with the sums, a checked failure for a line with other values, and there is none for a text
that goes on where another with an outcome ends, or has its fields in another order. -/
theorem parse_validateResponse :
    (∀ command n a b, parse command = .ok (n, a, b) ↔ Operands n a b ∧ command = render n a b) ∧
    (∀ n a b, Operands n a b → parse (render n a b) = .ok (n, a, b)) ∧
    ∀ command n a b, parse command = .ok (n, a, b) → ∀ response,
      ((∃ task, validateResponse command response = .ok task ∧ task.outcome = .success) ↔
        response.length ≤ 2048 ∧ ∃ line : Line, line.Formed n ∧ response = line.text n ∧
          line.values = sums a b) ∧
      ((∃ task, validateResponse command response = .ok task ∧ task.outcome = .failed ∧
          task.referenceChecked = true) ↔
        response.length ≤ 2048 ∧ ∃ line : Line, line.Formed n ∧ response = line.text n ∧
          line.values ≠ sums a b) ∧
      (∀ task, validateResponse command response = .ok task →
        response.length ≤ 2048 ∧ singleLine response = true ∧
        (isRefusal response = true ∨ ∃ line : Line, line.Formed n ∧ response = line.text n) ∧
        ∀ more ≠ [], ∀ other, validateResponse command (response ++ more) ≠ .ok other) ∧
      ∀ (line : Line) (parts : List Text), parts.Perm (line.parts n) → parts ≠ line.parts n →
        ∀ task, validateResponse command (okLine parts) ≠ .ok task := by
  refine ⟨fun _ _ _ _ => parse_eq_ok, fun _ _ _ => parse_render,
    fun command n a b accepted response => ⟨?_, ?_, fun task found => ?_, ?_⟩⟩
  · constructor
    · rintro ⟨task, found, success⟩
      obtain ⟨short, ⟨-, -, rfl⟩ | ⟨line, formed, text, rfl⟩⟩ :=
        (validateResponse_eq_ok accepted).mp found
      · cases success
      · refine ⟨short, line, formed, text, ?_⟩
        by_contra differ
        simp [Line.task, Ne.symm differ] at success
    · rintro ⟨short, line, formed, text, same⟩
      exact ⟨line.task a b,
        (validateResponse_eq_ok accepted).mpr ⟨short, .inr ⟨line, formed, text, rfl⟩⟩,
        by simp [Line.task, same]⟩
  · constructor
    · rintro ⟨task, found, failed, checked⟩
      obtain ⟨short, ⟨-, -, rfl⟩ | ⟨line, formed, text, rfl⟩⟩ :=
        (validateResponse_eq_ok accepted).mp found
      · cases checked
      · refine ⟨short, line, formed, text, fun same => ?_⟩
        simp [Line.task, same] at failed
    · rintro ⟨short, line, formed, text, differ⟩
      exact ⟨line.task a b,
        (validateResponse_eq_ok accepted).mpr ⟨short, .inr ⟨line, formed, text, rfl⟩⟩,
        by simp [Line.task, Ne.symm differ], rfl⟩
  · have single := singleLine_of_ok accepted found
    obtain ⟨short, form⟩ := (validateResponse_eq_ok accepted).mp found
    refine ⟨short, single, ?_, fun more some other again => ?_⟩
    · exact form.imp (fun refusal => refusal.2.1)
        fun ⟨line, formed, text, _⟩ => ⟨line, formed, text⟩
    · have longer := singleLine_of_ok accepted again
      rw [singleLine_append single some] at longer
      cases longer
  · exact fun line parts order other task => reordered accepted order other

def sampleLine : Line where
  values := [4]
  device := "A"
  vendor := 4318
  deviceid := 7
  type := 2
  queue := 0
  memory := [1, 1, 1]
  flags := [6, 6, 14]

theorem parse_validateResponse_sample :
    ∃ task, validateResponse (render 1 [5] [0xffffffff]) (sampleLine.text 1) = .ok task ∧
      task.outcome = .success := by
  have operands : Operands 1 [5] [0xffffffff] := ⟨by decide, rfl, rfl, by decide⟩
  have formed : sampleLine.Formed 1 :=
    ⟨by decide, by decide +kernel, by decide +kernel, by decide, by decide, by decide, by decide,
      by decide, by decide⟩
  exact (parse_validateResponse.2.2 _ _ _ _ (parse_validateResponse.2.1 _ _ _ operands) _).1.mpr
    ⟨by decide +kernel, sampleLine, formed, rfl, by decide⟩

end Outcomes

end Bscp.ComputeProtocol
