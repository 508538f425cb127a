import Mathlib.Data.List.Basic
import Mathlib.Data.List.TakeDrop
import Mathlib.Tactic.Common

/-!
A reader of JSON texts as `json.loads` has them, with the two strict rules that a
key stands once in an object and that a number is finite, and a writer of flat
objects without blanks. A lone surrogate is no character and is refused; a
number with a fraction or an exponent is kept as it is spelled.
-/

namespace Bscp

inductive Json where
  | null
  | bool (value : Bool)
  | int (value : Int)
  | float (spelling : List Char)
  | string (value : List Char)
  | array (items : List Json)
  | object (members : List (List Char × Json))

namespace Json

def isBlank (char : Char) : Bool := char == ' ' || char == '\t' || char == '\n' || char == '\r'

def skip (text : List Char) : List Char := text.dropWhile isBlank

/-- `0|[1-9][0-9]*`. -/
def whole : List Char → Option (List Char × List Char)
  | [] => none
  | char :: rest =>
      if char == '0' then some (['0'], rest)
      else if char.isDigit then
        some (char :: rest.takeWhile Char.isDigit, rest.dropWhile Char.isDigit)
      else none

/-- `\.[0-9]+`, or nothing. -/
def fraction : List Char → List Char × List Char
  | '.' :: digit :: rest =>
      if digit.isDigit then
        ('.' :: digit :: rest.takeWhile Char.isDigit, rest.dropWhile Char.isDigit)
      else ([], '.' :: digit :: rest)
  | rest => ([], rest)

/-- `[eE][+-]?[0-9]+`, or nothing. -/
def exponent (text : List Char) : List Char × List Char :=
  match text with
  | mark :: rest =>
      if mark == 'e' || mark == 'E' then
        let sign := rest.takeWhile fun char => char == '+' || char == '-'
        let digits := (rest.drop sign.length).takeWhile Char.isDigit
        if sign.length ≤ 1 ∧ digits ≠ [] then
          (mark :: sign ++ digits, rest.drop (sign.length + digits.length))
        else ([], text)
      else ([], text)
  | [] => ([], [])

def number (text : List Char) : Option (Json × List Char) :=
  let (minus, unsigned) := match text with
    | '-' :: rest => (['-'], rest)
    | _ => ([], text)
  (whole unsigned).map fun (digits, rest) =>
    let (behind, rest) := fraction rest
    let (power, rest) := exponent rest
    let value : Int := Nat.ofDigitChars 10 digits 0
    if behind = [] ∧ power = [] then (.int (if minus = [] then value else -value), rest)
    else (.float (minus ++ digits ++ behind ++ power), rest)

def hexValue (char : Char) : Option Nat :=
  if char.isDigit then some (char.toNat - '0'.toNat)
  else if 'a'.toNat ≤ char.toNat ∧ char.toNat ≤ 'f'.toNat then some (char.toNat - 'a'.toNat + 10)
  else if 'A'.toNat ≤ char.toNat ∧ char.toNat ≤ 'F'.toNat then some (char.toNat - 'A'.toNat + 10)
  else none

def hexUnit : List Char → Option (Nat × List Char)
  | a :: b :: c :: d :: rest => do
      let a ← hexValue a
      let b ← hexValue b
      let c ← hexValue c
      let d ← hexValue d
      some (((a * 16 + b) * 16 + c) * 16 + d, rest)
  | _ => none

def escape : List Char → Option (Char × List Char)
  | '"' :: rest => some ('"', rest)
  | '\\' :: rest => some ('\\', rest)
  | '/' :: rest => some ('/', rest)
  | 'b' :: rest => some ('\x08', rest)
  | 'f' :: rest => some ('\x0c', rest)
  | 'n' :: rest => some ('\n', rest)
  | 'r' :: rest => some ('\r', rest)
  | 't' :: rest => some ('\t', rest)
  | 'u' :: rest => do
      let (unit, rest) ← hexUnit rest
      if 0xD800 ≤ unit ∧ unit < 0xDC00 then
        match rest with
        | '\\' :: 'u' :: more => do
            let (low, more) ← hexUnit more
            if 0xDC00 ≤ low ∧ low < 0xE000 then
              some (Char.ofNat (0x10000 + (unit - 0xD800) * 0x400 + (low - 0xDC00)), more)
            else none
        | _ => none
      else if 0xDC00 ≤ unit ∧ unit < 0xE000 then none
      else some (Char.ofNat unit, rest)
  | _ => none

def quoted : Nat → List Char → Option (List Char × List Char)
  | 0, _ => none
  | _, [] => none
  | fuel + 1, char :: rest =>
      if char == '"' then some ([], rest)
      else if char == '\\' then do
        let (char, rest) ← escape rest
        let (chars, rest) ← quoted fuel rest
        some (char :: chars, rest)
      else if char.toNat < 32 then none
      else do
        let (chars, rest) ← quoted fuel rest
        some (char :: chars, rest)

def literal (word : List Char) (value : Json) (text : List Char) : Option (Json × List Char) :=
  if word.isPrefixOf text then some (value, text.drop word.length) else none

mutual

def value : Nat → List Char → Option (Json × List Char)
  | 0, _ => none
  | fuel + 1, text =>
      match text with
      | [] => none
      | char :: rest =>
          if char == '"' then do
            let (chars, rest) ← quoted (rest.length + 1) rest
            some (.string chars, rest)
          else if char == '{' then
            match skip rest with
            | '}' :: rest => some (.object [], rest)
            | rest => members fuel [] rest
          else if char == '[' then
            match skip rest with
            | ']' :: rest => some (.array [], rest)
            | rest => elements fuel [] rest
          else if char == 'n' then literal "null".toList .null text
          else if char == 't' then literal "true".toList (.bool true) text
          else if char == 'f' then literal "false".toList (.bool false) text
          else number text

/-- The members of an object from a key on; those before it are in `earlier`,
newest first. -/
def members : Nat → List (List Char × Json) → List Char → Option (Json × List Char)
  | 0, _, _ => none
  | fuel + 1, earlier, text =>
      match text with
      | '"' :: rest => do
          let (key, rest) ← quoted (rest.length + 1) rest
          match skip rest with
          | ':' :: rest => do
              let (found, rest) ← value fuel (skip rest)
              if key ∈ earlier.map Prod.fst then none
              else match skip rest with
                | ',' :: rest => members fuel ((key, found) :: earlier) (skip rest)
                | '}' :: rest => some (.object ((key, found) :: earlier).reverse, rest)
                | _ => none
          | _ => none
      | _ => none

def elements : Nat → List Json → List Char → Option (Json × List Char)
  | 0, _, _ => none
  | fuel + 1, earlier, text => do
      let (found, rest) ← value fuel text
      match skip rest with
      | ',' :: rest => elements fuel (found :: earlier) (skip rest)
      | ']' :: rest => some (.array (found :: earlier).reverse, rest)
      | _ => none

end

def loads (text : List Char) : Option Json :=
  match value (text.length + 1) (skip text) with
  | some (found, rest) => if skip rest = [] then some found else none
  | none => none

inductive Field where
  | nat (value : Nat)
  | word (value : List Char)
  deriving DecidableEq, Repr

def Field.json : Field → Json
  | .nat value => .int value
  | .word value => .string value

def Field.render : Field → List Char
  | .nat value => Nat.toDigits 10 value
  | .word value => '"' :: value ++ ['"']

def renderMembers : List (List Char × Field) → List Char
  | [] => []
  | [(key, field)] => '"' :: key ++ '"' :: ':' :: field.render
  | (key, field) :: rest => '"' :: key ++ '"' :: ':' :: field.render ++ ',' :: renderMembers rest

def renderFlat (fields : List (List Char × Field)) : List Char :=
  '{' :: renderMembers fields ++ ['}']

section RoundTrip

def plain (char : Char) : Prop := char ≠ '"' ∧ char ≠ '\\' ∧ 32 ≤ char.toNat

def Field.plain : Field → Prop
  | .nat _ => True
  | .word value => ∀ char ∈ value, Json.plain char

theorem quoted_plain {chars rest : List Char} (easy : ∀ char ∈ chars, plain char) {fuel : Nat}
    (enough : chars.length < fuel) : quoted fuel (chars ++ '"' :: rest) = some (chars, rest) := by
  induction chars generalizing fuel with
  | nil =>
      cases fuel with
      | zero => cases enough
      | succ fuel => simp [quoted]
  | cons char chars next =>
      cases fuel with
      | zero => cases enough
      | succ fuel =>
          obtain ⟨quote, back, printable⟩ := easy char List.mem_cons_self
          have rest' := next (fun other member => easy other (List.mem_cons_of_mem _ member))
            (Nat.lt_of_succ_lt_succ enough)
          simp [quoted, quote, back, Nat.not_lt.mpr printable, rest']

def ends (rest : List Char) : Prop := ∃ tail, rest = ',' :: tail ∨ rest = '}' :: tail

theorem takeWhile_digits {digits rest : List Char} (all : ∀ char ∈ digits, char.isDigit = true)
    (stop : ends rest) : (digits ++ rest).takeWhile Char.isDigit = digits ∧
      (digits ++ rest).dropWhile Char.isDigit = rest := by
  have stopped : rest.takeWhile Char.isDigit = [] ∧ rest.dropWhile Char.isDigit = rest := by
    obtain ⟨tail, rfl | rfl⟩ := stop <;> exact ⟨rfl, rfl⟩
  rw [List.takeWhile_append_of_pos all, List.dropWhile_append_of_pos all, stopped.1, stopped.2,
    List.append_nil]
  exact ⟨rfl, rfl⟩

theorem head_toDigits {n : Nat} (positive : 0 < n) {char : Char} {rest : List Char}
    (split : Nat.toDigits 10 n = char :: rest) : char ≠ '0' := by
  induction n using Nat.strongRecOn generalizing rest with
  | ind n next =>
      by_cases small : n < 10
      · rw [Nat.toDigits_of_lt_base small] at split
        obtain ⟨rfl, _⟩ := List.cons.inj split
        have digits : ∀ digit < 10, 0 < digit → digit.digitChar ≠ '0' := by decide
        exact digits n small positive
      · rw [Nat.toDigits_of_base_le (by decide) (Nat.not_lt.mp small)] at split
        cases front : Nat.toDigits 10 (n / 10) with
        | nil => exact absurd front Nat.toDigits_ne_nil
        | cons first others =>
            rw [front, List.cons_append] at split
            obtain ⟨rfl, _⟩ := List.cons.inj split
            exact next (n / 10) (by omega) (by omega) front

theorem digit_toDigits {n : Nat} {char : Char} (member : char ∈ Nat.toDigits 10 n) :
    char.isDigit = true := Nat.isDigit_of_mem_toDigits (by decide) (by decide) member

theorem whole_toDigits (n : Nat) {rest : List Char} (stop : ends rest) :
    whole (Nat.toDigits 10 n ++ rest) = some (Nat.toDigits 10 n, rest) := by
  by_cases zero : n = 0
  · subst zero
    rw [Nat.toDigits_zero]
    rfl
  · cases digits : Nat.toDigits 10 n with
    | nil => exact absurd digits Nat.toDigits_ne_nil
    | cons char others =>
        have first := head_toDigits (Nat.pos_of_ne_zero zero) digits
        have all : ∀ other ∈ char :: others, other.isDigit = true := fun other member =>
          digit_toDigits (by rw [digits]; exact member)
        have split := takeWhile_digits (fun other member =>
          all other (List.mem_cons_of_mem _ member)) stop
        simp [whole, first, all char List.mem_cons_self, split.1, split.2]

/-- A digit is none of the characters by which a value of another kind begins. -/
theorem digit_ne {char : Char} (digit : char.isDigit = true) (other : Char)
    (mark : other.isDigit = false) : char ≠ other := by
  rintro rfl
  rw [digit] at mark
  cases mark

theorem number_toDigits (n : Nat) {rest : List Char} (stop : ends rest) :
    number (Nat.toDigits 10 n ++ rest) = some (.int n, rest) := by
  have unsigned : (match Nat.toDigits 10 n ++ rest with
      | '-' :: rest => (['-'], rest)
      | _ => ([], Nat.toDigits 10 n ++ rest)) = ([], Nat.toDigits 10 n ++ rest) := by
    cases digits : Nat.toDigits 10 n with
    | nil => exact absurd digits Nat.toDigits_ne_nil
    | cons char others =>
        have first : char ≠ '-' :=
          digit_ne (digit_toDigits (by rw [digits]; exact List.mem_cons_self)) '-' (by decide)
        simp [first]
  have noFraction : fraction rest = ([], rest) := by
    obtain ⟨tail, rfl | rfl⟩ := stop <;> rfl
  have noExponent : exponent rest = ([], rest) := by
    obtain ⟨tail, rfl | rfl⟩ := stop <;> rfl
  simp only [number]
  rw [unsigned]
  simp [whole_toDigits n stop, noFraction, noExponent, Nat.ofDigitChars_ten_toDigits]

theorem value_render (field : Field) (easy : field.plain) {rest : List Char} (stop : ends rest)
    (fuel : Nat) : value (fuel + 1) (field.render ++ rest) = some (field.json, rest) := by
  cases field with
  | word chars =>
      have read : quoted (chars.length + (rest.length + 1) + 1) (chars ++ '"' :: rest) =
          some (chars, rest) := quoted_plain easy (by omega)
      simp only [Field.render, List.cons_append, List.append_assoc, List.nil_append, value]
      simp [read, Field.json]
  | nat n =>
      have read := number_toDigits n stop
      cases digits : Nat.toDigits 10 n with
      | nil => exact absurd digits Nat.toDigits_ne_nil
      | cons char others =>
          have digit : char.isDigit = true :=
            digit_toDigits (by rw [digits]; exact List.mem_cons_self)
          rw [digits] at read
          simp only [Field.render, digits, List.cons_append, value] at read ⊢
          simp [digit_ne digit '"' (by decide), digit_ne digit '{' (by decide),
            digit_ne digit '[' (by decide), digit_ne digit 'n' (by decide),
            digit_ne digit 't' (by decide), digit_ne digit 'f' (by decide), read, Field.json]

/-- The keys of a flat object are distinct and no key or word needs an escape. -/
structure Flat (fields : List (List Char × Field)) : Prop where
  distinct : (fields.map Prod.fst).Nodup
  keys : ∀ entry ∈ fields, ∀ char ∈ entry.1, plain char
  words : ∀ entry ∈ fields, entry.2.plain

theorem Flat.tail {entry : List Char × Field} {fields : List (List Char × Field)}
    (flat : Flat (entry :: fields)) : Flat fields where
  distinct := (List.nodup_cons.mp flat.distinct).2
  keys other member := flat.keys other (List.mem_cons_of_mem _ member)
  words other member := flat.words other (List.mem_cons_of_mem _ member)

def memberOf (entry : List Char × Field) : List Char × Json := (entry.1, entry.2.json)

theorem skip_render (field : Field) (rest : List Char) :
    skip (field.render ++ rest) = field.render ++ rest := by
  cases field with
  | word chars => rfl
  | nat n =>
      cases digits : Nat.toDigits 10 n with
      | nil => exact absurd digits Nat.toDigits_ne_nil
      | cons char others =>
          have digit : char.isDigit = true :=
            digit_toDigits (by rw [digits]; exact List.mem_cons_self)
          have solid : isBlank char = false := by
            simp [isBlank, digit_ne digit ' ' (by decide), digit_ne digit '\t' (by decide),
              digit_ne digit '\n' (by decide), digit_ne digit '\r' (by decide)]
          simp [Field.render, digits, skip, solid]

section Members

variable {entry : List Char × Field} (easy : ∀ char ∈ entry.1, plain char) (word : entry.2.plain)
variable {earlier : List (List Char × Json)} (fresh : entry.1 ∉ earlier.map Prod.fst)

include easy in
theorem quoted_key (rest : List Char) :
    quoted ((entry.1 ++ '"' :: ':' :: (entry.2.render ++ rest)).length + 1)
      (entry.1 ++ '"' :: ':' :: (entry.2.render ++ rest)) =
        some (entry.1, ':' :: (entry.2.render ++ rest)) :=
  quoted_plain easy (by rw [List.length_append, List.length_cons]; omega)

include easy word fresh

theorem members_last (rest : List Char) (fuel : Nat) :
    members (fuel + 2) earlier ('"' :: entry.1 ++ '"' :: ':' :: entry.2.render ++ '}' :: rest) =
      some (.object (memberOf entry :: earlier).reverse, rest) := by
  have key := quoted_key easy ('}' :: rest)
  have found := value_render entry.2 word ⟨rest, .inr rfl⟩ fuel
  have colon : skip (':' :: (entry.2.render ++ '}' :: rest)) =
      ':' :: (entry.2.render ++ '}' :: rest) := rfl
  have brace : skip ('}' :: rest) = '}' :: rest := rfl
  simp only [List.cons_append, List.append_assoc, members, key]
  simp [colon, skip_render, found, fresh, brace, memberOf]

theorem members_next (rest : List Char) (fuel : Nat) :
    members (fuel + 2) earlier ('"' :: entry.1 ++ '"' :: ':' :: entry.2.render ++ ',' :: rest) =
      members (fuel + 1) (memberOf entry :: earlier) (skip rest) := by
  have key := quoted_key easy (',' :: rest)
  have found := value_render entry.2 word ⟨rest, .inl rfl⟩ fuel
  have colon : skip (':' :: (entry.2.render ++ ',' :: rest)) =
      ':' :: (entry.2.render ++ ',' :: rest) := rfl
  have comma : skip (',' :: rest) = ',' :: rest := rfl
  simp only [List.cons_append, List.append_assoc]
  rw [members]
  simp only [key, Option.bind_eq_bind, Option.bind_some, colon, skip_render, found, fresh,
    ↓reduceIte, comma, memberOf]

end Members

theorem members_renderMembers (fields : List (List Char × Field)) (nonempty : fields ≠ [])
    (flat : Flat fields) {earlier : List (List Char × Json)}
    (fresh : ∀ entry ∈ fields, entry.1 ∉ earlier.map Prod.fst) (rest : List Char) {fuel : Nat}
    (enough : fields.length < fuel) :
    members fuel earlier (renderMembers fields ++ '}' :: rest) =
      some (.object (earlier.reverse ++ fields.map memberOf), rest) := by
  induction fields generalizing earlier fuel with
  | nil => exact absurd rfl nonempty
  | cons entry fields next =>
      obtain ⟨fuel, rfl⟩ : ∃ less, fuel = less + 2 := ⟨fuel - 2, by simp at enough; omega⟩
      have easy := flat.keys entry List.mem_cons_self
      have word := flat.words entry List.mem_cons_self
      have new := fresh entry List.mem_cons_self
      cases fields with
      | nil =>
          have last := members_last easy word new rest fuel
          simpa [renderMembers] using last
      | cons other fields =>
          have step := members_next easy word new (renderMembers (other :: fields) ++ '}' :: rest)
            fuel
          have quote : skip (renderMembers (other :: fields) ++ '}' :: rest) =
              renderMembers (other :: fields) ++ '}' :: rest := by
            cases fields <;> rfl
          have others : ∀ later ∈ other :: fields,
              later.1 ∉ (memberOf entry :: earlier).map Prod.fst := by
            intro later member
            rw [List.map_cons, List.mem_cons, not_or]
            refine ⟨fun same => ?_, fresh later (List.mem_cons_of_mem _ member)⟩
            exact (List.nodup_cons.mp flat.distinct).1
              (List.mem_map.mpr ⟨later, member, same⟩)
          have shorter : (other :: fields).length < fuel + 1 := by
            simp only [List.length_cons] at enough ⊢
            omega
          have tail := next (by simp) flat.tail others shorter
          rw [quote, tail] at step
          simpa [renderMembers] using step

theorem length_renderMembers (fields : List (List Char × Field)) :
    fields.length ≤ (renderMembers fields).length := by
  induction fields with
  | nil => exact Nat.zero_le _
  | cons entry fields next =>
      cases fields with
      | nil => simp [renderMembers]
      | cons other fields =>
          simp only [renderMembers, List.length_cons, List.length_append] at next ⊢
          omega

/-- What is written is read back, member by member. -/
theorem loads_renderFlat {fields : List (List Char × Field)} (nonempty : fields ≠ [])
    (flat : Flat fields) : loads (renderFlat fields) = some (.object (fields.map memberOf)) := by
  have quote : ∃ more, renderMembers fields = '"' :: more := by
    match fields, nonempty with
    | [_], _ => exact ⟨_, rfl⟩
    | _ :: _ :: _, _ => exact ⟨_, rfl⟩
  obtain ⟨more, starts⟩ := quote
  have enough : fields.length < (renderFlat fields).length := by
    have bound := length_renderMembers fields
    simp only [renderFlat, List.length_cons, List.length_append]
    omega
  have unseen : ∀ entry ∈ fields, entry.1 ∉ ([] : List (List Char × Json)).map Prod.fst := by
    simp
  have read := members_renderMembers fields nonempty flat unseen [] enough
  have brace : skip (renderFlat fields) = '{' :: (renderMembers fields ++ ['}']) := rfl
  have solid : skip (renderMembers fields ++ ['}']) = renderMembers fields ++ ['}'] := by
    rw [starts]
    rfl
  have object : value ((renderFlat fields).length + 1) (skip (renderFlat fields)) =
      some (.object (fields.map memberOf), []) := by
    rw [brace, value]
    simp only [solid]
    rw [starts] at read ⊢
    simpa using read
  rw [loads, object]
  rfl

end RoundTrip

end Json

end Bscp
