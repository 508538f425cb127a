import Bscp.Argv
import Mathlib.Data.List.Basic
import Mathlib.Tactic.Common

/-!
Windows paths as the standard library of Rust reads them: a path is a text of UTF-16 units, and
its components are found by parsing it. A text that is pushed behind a path replaces it if it has
a prefix of its own, and starts again at the root if it has one.
-/

namespace Bscp.WindowsPath

open Argv

def DOT : Unit16 := 0x2e
def SLASH : Unit16 := 0x2f
def COLON : Unit16 := 0x3a
def QUESTION : Unit16 := 0x3f

def isSepByte (unit : Unit16) : Bool := unit = SLASH || unit = BACKSLASH

/-- A verbatim path is divided by backslashes only. -/
def separator (verbatim : Bool) (unit : Unit16) : Bool :=
  if verbatim then unit = BACKSLASH else isSepByte unit

/-! ### Prefixes -/

inductive Prefix where
  | verbatim (name : Wide)
  | verbatimUnc (server share : Wide)
  | verbatimDisk (letter : Unit16)
  | deviceNs (name : Wide)
  | unc (server share : Wide)
  | disk (letter : Unit16)
  deriving DecidableEq

namespace Prefix

/-- A share is counted with the separator before it. -/
def shareLength (share : Wide) : Nat := if share = [] then 0 else share.length + 1

def length : Prefix → Nat
  | .verbatim name | .deviceNs name => 4 + name.length
  | .verbatimUnc server share => 8 + server.length + shareLength share
  | .verbatimDisk _ => 6
  | .unc server share => 2 + server.length + shareLength share
  | .disk _ => 2

def isVerbatim : Prefix → Bool
  | .verbatim _ | .verbatimUnc .. | .verbatimDisk _ => true
  | .deviceNs _ | .unc .. | .disk _ => false

def isDrive : Prefix → Bool
  | .disk _ => true
  | _ => false

def hasImplicitRoot (parsed : Prefix) : Bool := !parsed.isDrive

end Prefix

def isValidDriveLetter (unit : Unit16) : Bool :=
  (0x41 ≤ unit && unit ≤ 0x5a) || (0x61 ≤ unit && unit ≤ 0x7a)

def toAsciiUppercase (unit : Unit16) : Unit16 :=
  if 0x61 ≤ unit ∧ unit ≤ 0x7a then unit - 0x20 else unit

def parseDrive : Wide → Option Unit16
  | letter :: second :: _ =>
      if isValidDriveLetter letter = true ∧ second = COLON then some (toAsciiUppercase letter)
      else none
  | _ => none

def parseDriveExact (text : Wide) : Option Unit16 :=
  if text[2]?.all isSepByte then parseDrive text else none

def parseNextComponent (verbatim : Bool) (text : Wide) : Wide × Wide :=
  (text.takeWhile fun unit => !separator verbatim unit,
    (text.dropWhile fun unit => !separator verbatim unit).tail)

def backslashed (unit : Unit16) : Unit16 := if unit = SLASH then BACKSLASH else unit

/-- One step of the parser of prefixes, which takes a slash for a backslash. -/
def parserStrip (pattern text : Wide) : Option Wide :=
  if pattern.isPrefixOf (text.map backslashed) then some (text.drop pattern.length) else none

/-- Behind `\\`. -/
def parseUnc (text : Wide) : Option Prefix :=
  let (server, more) := parseNextComponent false text
  let (share, _) := parseNextComponent false more
  if server ≠ [] ∧ share ≠ [] then some (.unc server share) else none

/-- Behind `\\?\`. -/
def parseVerbatim (text : Wide) : Prefix :=
  match parserStrip [0x55, 0x4e, 0x43, BACKSLASH] text with
  | some text =>
      let (server, more) := parseNextComponent true text
      .verbatimUnc server (parseNextComponent true more).1
  | none => match parseDriveExact text with
    | some letter => .verbatimDisk letter
    | none => .verbatim (parseNextComponent true text).1

def parsePrefix (text : Wide) : Option Prefix :=
  match parserStrip [BACKSLASH, BACKSLASH] text with
  | none => (parseDrive text).map .disk
  | some more =>
      match if SLASH ∈ text.take 4 then none else parserStrip [QUESTION, BACKSLASH] more with
      | some more => some (parseVerbatim more)
      | none => match parserStrip [DOT, BACKSLASH] more with
        | some more => some (.deviceNs (parseNextComponent false more).1)
        | none => parseUnc more

/-! ### Components -/

inductive Component where
  /-- The text of the prefix, and what it is. -/
  | pre (raw : Wide) (parsed : Prefix)
  | rootDir
  | curDir
  | parentDir
  | normal (name : Wide)
  deriving DecidableEq

def Component.same : Component → Component → Bool
  | .pre _ one, .pre _ two => one = two
  | one, two => one = two

def parseSingleComponent (verbatim : Bool) (piece : Wide) : Option Component :=
  if piece = [] then none
  else if piece = [DOT] then (if verbatim then some .curDir else none)
  else if piece = [DOT, DOT] then some .parentDir
  else some (.normal piece)

def body (verbatim : Bool) (text : Wide) : List Component :=
  (text.splitOnP (separator verbatim)).filterMap (parseSingleComponent verbatim)

def prefixLength (text : Wide) : Nat := (parsePrefix text).elim 0 Prefix.length

def prefixVerbatim (text : Wide) : Bool := (parsePrefix text).any Prefix.isVerbatim

def hasPhysicalRoot (text : Wide) : Bool := (text.drop (prefixLength text)).head?.any isSepByte

def hasRoot (text : Wide) : Bool :=
  hasPhysicalRoot text || (parsePrefix text).any Prefix.hasImplicitRoot

def isAbsolute (text : Wide) : Bool := hasRoot text && (parsePrefix text).isSome

def includeCurDir (text : Wide) : Bool := text[0]? = some DOT && text[1]?.all isSepByte

def startDir (text : Wide) : List Component :=
  if hasPhysicalRoot text then [.rootDir]
  else match parsePrefix text with
    | some parsed => if parsed.hasImplicitRoot && !parsed.isVerbatim then [.rootDir] else []
    | none => if includeCurDir text then [.curDir] else []

def components (text : Wide) : List Component :=
  ((parsePrefix text).map (.pre (text.take (prefixLength text)))).toList ++ startDir text ++
    body (prefixVerbatim text)
      (text.drop (prefixLength text + if hasPhysicalRoot text then 1 else 0))

/-! ### Paths of components -/

def Component.text : Component → Wide
  | .pre raw _ => raw
  | .rootDir => [BACKSLASH]
  | .curDir => [DOT]
  | .parentDir => [DOT, DOT]
  | .normal name => name

def Component.separated : Component → Bool
  | .rootDir => false
  | .pre _ parsed => !parsed.isDrive && 0 < parsed.length
  | _ => true

def appendComponents : Wide → Bool → List Component → Wide
  | text, _, [] => text
  | text, needSep, component :: rest =>
      appendComponents
        (text ++ (if needSep && component ≠ .rootDir then [BACKSLASH] else []) ++ component.text)
        component.separated rest

def collect (path : List Component) : Wide := appendComponents [] false path

def absorb (buffer : List Component) : Component → List Component
  | .rootDir => buffer.take 1 ++ [.rootDir]
  | .curDir => buffer
  | .parentDir => match buffer.getLast? with
    | some (.normal _) => buffer.dropLast
    | _ => buffer
  | component => buffer ++ [component]

def needSep (buffer : Wide) : Bool :=
  buffer.getLast?.any (!isSepByte ·) &&
    !((parsePrefix buffer).any Prefix.isDrive && prefixLength buffer = buffer.length)

def push (buffer path : Wide) : Wide :=
  if isAbsolute path || (parsePrefix path).isSome then path
  else if prefixVerbatim buffer && path ≠ [] then
    collect ((components path).foldl absorb (components buffer))
  else if hasRoot path then buffer.take (prefixLength buffer) ++ path
  else if needSep buffer then buffer ++ [BACKSLASH] ++ path
  else buffer ++ path

def join (path more : Wide) : Wide := push path more

def iterAfter : List Component → List Component → Option (List Component)
  | path, [] => some path
  | [], _ :: _ => none
  | one :: path, two :: base => if one.same two then iterAfter path base else none

/-- The path of the components that are left, which are divided by backslashes. -/
def stripPrefix (path base : Wide) : Option Wide :=
  (iterAfter (components path) (components base)).map collect

/-! ### Bodies -/

structure Name (verbatim : Bool) (name : Wide) : Prop where
  nonempty : name ≠ []
  whole : ∀ unit ∈ name, separator verbatim unit = false
  not_dot : name ≠ [DOT]
  not_dots : name ≠ [DOT, DOT]

section Bodies

variable {verbatim : Bool} {text more name : Wide} {names : List Wide}

theorem separator_backslash (verbatim : Bool) : separator verbatim BACKSLASH = true := by
  cases verbatim <;> rfl

/-- Backslashes divide every path. -/
theorem Name.in_verbatim (good : Name false name) : Name true name where
  nonempty := good.nonempty
  whole unit given := by
    have apart := good.whole unit given
    simp only [separator, isSepByte, Bool.false_eq_true, ↓reduceIte, Bool.or_eq_false_iff] at apart
    simpa only [separator, ↓reduceIte] using apart.2
  not_dot := good.not_dot
  not_dots := good.not_dots

theorem parseSingleComponent_name (good : Name verbatim name) :
    parseSingleComponent verbatim name = some (.normal name) := by
  simp only [parseSingleComponent, good.nonempty, good.not_dot, good.not_dots, ↓reduceIte]

@[simp] theorem body_nil : body verbatim [] = [] := by
  simp [body, parseSingleComponent]

theorem body_append {unit : Unit16} (divides : separator verbatim unit = true) :
    body verbatim (text ++ unit :: more) = body verbatim text ++ body verbatim more := by
  rw [body, List.splitOnP_append_cons _ _ divides, List.filterMap_append]
  rfl

theorem body_name (good : Name verbatim name) : body verbatim name = [.normal name] := by
  rw [body, List.splitOnP_eq_singleton good.whole]
  simp [parseSingleComponent_name good]

/-- Names behind a text, each after a backslash. -/
theorem body_names (good : ∀ name ∈ names, Name verbatim name) :
    body verbatim (text ++ names.flatMap (BACKSLASH :: ·)) =
      body verbatim text ++ names.map .normal := by
  induction names generalizing text with
  | nil => simp
  | cons name names more =>
      simp only [List.forall_mem_cons] at good
      rw [List.flatMap_cons, ← List.append_assoc, more good.2,
        body_append (separator_backslash verbatim), body_name good.1]
      simp

theorem not_separator_of_mem_splitOnP {divides : Unit16 → Bool} {piece : Wide}
    (given : piece ∈ text.splitOnP divides) : ∀ unit ∈ piece, divides unit = false := by
  induction text generalizing piece with
  | nil =>
      simp only [List.splitOnP_nil, List.mem_singleton] at given
      simp [given]
  | cons first rest more =>
      rw [List.splitOnP_cons_eq_if_modifyHead] at given
      split at given
      · rcases List.mem_cons.mp given with rfl | later
        · simp
        · exact more later
      · rename_i other
        obtain ⟨head, tail, pieces⟩ := List.exists_cons_of_ne_nil (List.splitOnP_ne_nil divides rest)
        rw [pieces] at given more
        rcases List.mem_cons.mp given with rfl | later
        · exact List.forall_mem_cons.mpr ⟨Bool.eq_false_iff.mpr other, more (.head _)⟩
        · exact more (.tail _ later)

/-- What parsing finds parses as itself. -/
theorem name_of_mem_body (given : .normal name ∈ body verbatim text) : Name verbatim name := by
  obtain ⟨piece, among, parsed⟩ := List.mem_filterMap.mp given
  have whole := not_separator_of_mem_splitOnP among
  unfold parseSingleComponent at parsed
  split at parsed
  · cases parsed
  · split at parsed
    · split at parsed <;> cases parsed
    · split at parsed
      · cases parsed
      · cases parsed
        exact ⟨by assumption, whole, by assumption, by assumption⟩

/-- In a path that is not verbatim, there are names and parents. -/
theorem mem_body_plain {component : Component} (given : component ∈ body false text) :
    component = .parentDir ∨ ∃ name, component = .normal name ∧ Name false name := by
  obtain ⟨piece, -, parsed⟩ := List.mem_filterMap.mp given
  cases component with
  | parentDir => exact .inl rfl
  | normal name => exact .inr ⟨name, rfl, name_of_mem_body given⟩
  | pre | rootDir | curDir =>
      unfold parseSingleComponent at parsed
      split at parsed <;> (try split at parsed) <;> (try split at parsed) <;> simp_all

theorem rootDir_notMem_body : .rootDir ∉ body verbatim text := by
  intro given
  obtain ⟨piece, -, parsed⟩ := List.mem_filterMap.mp given
  unfold parseSingleComponent at parsed
  split at parsed <;> (try split at parsed) <;> (try split at parsed) <;> cases parsed

end Bodies

/-! ### Texts with a prefix, and texts without one -/

section Prefixes

variable {unit second letter : Unit16} {text more : Wide}

theorem parserStrip_pair (one two : Unit16) :
    parserStrip [one, two] text = some more ↔
      ∃ first second, text = first :: second :: more ∧
        backslashed first = one ∧ backslashed second = two := by
  rcases text with _ | ⟨first, _ | ⟨second, text⟩⟩
  · simp [parserStrip]
  · simp [parserStrip]
  · simp only [parserStrip, List.map_cons, List.isPrefixOf_cons_cons, List.isPrefixOf_nil_left,
      Bool.and_true, Bool.and_eq_true, beq_iff_eq, List.length_cons, List.length_nil,
      List.drop_succ_cons, List.drop_zero, List.cons.injEq]
    constructor
    · intro stripped
      split at stripped
      · rename_i same
        cases stripped
        exact ⟨first, second, ⟨rfl, rfl, rfl⟩, same.1.symm, same.2.symm⟩
      · cases stripped
    · rintro ⟨_, _, ⟨rfl, rfl, rfl⟩, rfl, rfl⟩
      simp

theorem backslashed_eq_backslash : backslashed unit = BACKSLASH ↔ isSepByte unit = true := by
  unfold backslashed isSepByte
  split
  · rename_i slash
    simp [slash]
  · rename_i other
    simp [other]

theorem not_valid_of_isSepByte (divides : isSepByte unit = true) :
    isValidDriveLetter unit = false := by
  simp only [isSepByte, Bool.or_eq_true, decide_eq_true_eq] at divides
  rcases divides with rfl | rfl <;> rfl

/-- Nothing before the first component: the text has the prefix of a drive, or none. -/
theorem parsePrefix_unrooted (inside : text.head?.any isSepByte = false) :
    parsePrefix text = (parseDrive text).map .disk := by
  have stripped : parserStrip [BACKSLASH, BACKSLASH] text = none := by
    refine Option.eq_none_iff_forall_not_mem.mpr fun more stripped => ?_
    obtain ⟨first, second, rfl, first_slash, -⟩ := (parserStrip_pair _ _).mp stripped
    rw [List.head?_cons, Option.any_some, backslashed_eq_backslash.mp first_slash] at inside
    cases inside
  rw [parsePrefix, stripped]

/-- One separator and a component. -/
theorem parsePrefix_rooted (divides : isSepByte unit = true)
    (inside : text.head?.any isSepByte = false) : parsePrefix (unit :: text) = none := by
  have stripped : parserStrip [BACKSLASH, BACKSLASH] (unit :: text) = none := by
    refine Option.eq_none_iff_forall_not_mem.mpr fun more stripped => ?_
    obtain ⟨first, second, same, -, second_slash⟩ := (parserStrip_pair _ _).mp stripped
    cases same
    rw [List.head?_cons, Option.any_some, backslashed_eq_backslash.mp second_slash] at inside
    cases inside
  rw [parsePrefix, stripped]
  have letter := not_valid_of_isSepByte divides
  cases text with
  | nil => rfl
  | cons second text => simp [parseDrive, letter]

theorem parseDrive_eq_some {drive : Unit16} : parseDrive text = some drive ↔
    ∃ letter more, text = letter :: COLON :: more ∧ isValidDriveLetter letter = true ∧
      toAsciiUppercase letter = drive := by
  rcases text with _ | ⟨first, _ | ⟨second, text⟩⟩
  · simp [parseDrive]
  · simp [parseDrive]
  · simp only [parseDrive, List.cons.injEq]
    constructor
    · intro found
      split at found
      · rename_i both
        cases found
        exact ⟨first, text, ⟨rfl, both.2, rfl⟩, both.1, rfl⟩
      · cases found
    · rintro ⟨_, _, ⟨rfl, rfl, rfl⟩, valid, rfl⟩
      rw [if_pos ⟨valid, rfl⟩]

theorem parsePrefix_disk (valid : isValidDriveLetter letter = true) :
    parsePrefix (letter :: COLON :: more) = some (.disk (toAsciiUppercase letter)) := by
  have inside : isSepByte letter = false := by
    refine Bool.eq_false_iff.mpr fun divides => ?_
    rw [not_valid_of_isSepByte divides] at valid
    cases valid
  rw [parsePrefix_unrooted (by rw [List.head?_cons, Option.any_some, inside]),
    parseDrive_eq_some.mpr ⟨letter, more, rfl, valid, rfl⟩]
  rfl

theorem disk_of_parsePrefix {drive : Unit16} (parsed : parsePrefix text = some (.disk drive)) :
    ∃ letter more, text = letter :: COLON :: more ∧ isValidDriveLetter letter = true ∧
      toAsciiUppercase letter = drive := by
  unfold parsePrefix at parsed
  split at parsed
  · obtain ⟨found, drives, same⟩ := Option.map_eq_some_iff.mp parsed
    cases same
    exact parseDrive_eq_some.mp drives
  · split at parsed
    · unfold parseVerbatim at parsed
      split at parsed
      · cases parsed
      · split at parsed <;> cases parsed
    · split at parsed
      · cases parsed
      · simp only [parseUnc] at parsed
        split at parsed <;> cases parsed

def verbatimDrive (letter : Unit16) : Wide :=
  [BACKSLASH, BACKSLASH, QUESTION, BACKSLASH, letter, COLON]

theorem parsePrefix_verbatimDisk (valid : isValidDriveLetter letter = true)
    (ends : more.head?.all isSepByte = true) :
    parsePrefix (verbatimDrive letter ++ more) =
      some (.verbatimDisk (toAsciiUppercase letter)) := by
  have start : parserStrip [BACKSLASH, BACKSLASH] (verbatimDrive letter ++ more) =
      some (QUESTION :: BACKSLASH :: letter :: COLON :: more) :=
    (parserStrip_pair _ _).mpr ⟨BACKSLASH, BACKSLASH, rfl, rfl, rfl⟩
  have question : parserStrip [QUESTION, BACKSLASH]
      (QUESTION :: BACKSLASH :: letter :: COLON :: more) = some (letter :: COLON :: more) :=
    (parserStrip_pair _ _).mpr ⟨QUESTION, BACKSLASH, rfl, rfl, rfl⟩
  have exact_units : SLASH ∉ (verbatimDrive letter ++ more).take 4 :=
    show SLASH ∉ [BACKSLASH, BACKSLASH, QUESTION, BACKSLASH] by decide
  have not_unc : parserStrip [0x55, 0x4e, 0x43, BACKSLASH] (letter :: COLON :: more) = none := by
    simp [parserStrip, backslashed, COLON, SLASH]
  have drive : parseDriveExact (letter :: COLON :: more) = some (toAsciiUppercase letter) := by
    have third : (letter :: COLON :: more)[2]? = more.head? := by simp [List.head?_eq_getElem?]
    rw [parseDriveExact, third, if_pos ends, parseDrive_eq_some.mpr ⟨_, _, rfl, valid, rfl⟩]
  rw [parsePrefix, start]
  simp only [if_neg exact_units, question, parseVerbatim, not_unc, drive]

theorem verbatimDisk_of_parsePrefix {drive : Unit16}
    (parsed : parsePrefix text = some (.verbatimDisk drive)) :
    ∃ letter more, text = verbatimDrive letter ++ more ∧ isValidDriveLetter letter = true ∧
      more.head?.all isSepByte = true ∧ toAsciiUppercase letter = drive := by
  unfold parsePrefix at parsed
  split at parsed
  · obtain ⟨found, -, same⟩ := Option.map_eq_some_iff.mp parsed
    cases same
  · rename_i behind start
    obtain ⟨first, second, rfl, one, two⟩ := (parserStrip_pair _ _).mp start
    split at parsed
    · rename_i rest verbatim
      split at verbatim
      · cases verbatim
      · rename_i exact_units
        obtain ⟨third, fourth, rfl, three, four⟩ := (parserStrip_pair _ _).mp verbatim
        simp only [List.take_succ_cons, List.take_zero, List.mem_cons, not_or] at exact_units
        obtain ⟨first_whole, second_whole, third_whole, fourth_whole, -⟩ := exact_units
        simp only [backslashed, Ne.symm first_whole, Ne.symm second_whole, Ne.symm third_whole,
          Ne.symm fourth_whole, ↓reduceIte] at one two three four
        subst one two three four
        rw [Option.some.injEq] at parsed
        unfold parseVerbatim at parsed
        split at parsed
        · cases parsed
        · split at parsed
          · rename_i found drives
            cases parsed
            unfold parseDriveExact at drives
            split at drives
            · rename_i ends
              obtain ⟨letter, more, rfl, valid, upper⟩ := parseDrive_eq_some.mp drives
              refine ⟨letter, more, rfl, valid, ?_, upper⟩
              simpa [List.head?_eq_getElem?] using ends
            · cases drives
          · cases parsed
    · split at parsed
      · cases parsed
      · simp only [parseUnc] at parsed
        split at parsed <;> cases parsed

theorem components_disk (valid : isValidDriveLetter letter = true)
    (divides : isSepByte unit = true) :
    components (letter :: COLON :: unit :: more) =
      [Component.pre [letter, COLON] (.disk (toAsciiUppercase letter)), .rootDir] ++ body false more := by
  have parsed := @parsePrefix_disk letter (unit :: more) valid
  simp [components, startDir, hasPhysicalRoot, prefixLength, prefixVerbatim, parsed,
    Prefix.length, Prefix.isVerbatim, divides]

theorem components_verbatimDisk (valid : isValidDriveLetter letter = true)
    (divides : isSepByte unit = true) :
    components (verbatimDrive letter ++ unit :: more) =
      [Component.pre (verbatimDrive letter) (.verbatimDisk (toAsciiUppercase letter)), .rootDir] ++
        body true more := by
  have parsed := @parsePrefix_verbatimDisk letter (unit :: more) valid divides
  have behind : (verbatimDrive letter ++ unit :: more).drop 6 = unit :: more := rfl
  have before : (verbatimDrive letter ++ unit :: more).take 6 = verbatimDrive letter := rfl
  have further : (verbatimDrive letter ++ unit :: more).drop 7 = more := rfl
  simp [components, startDir, hasPhysicalRoot, prefixLength, prefixVerbatim, parsed,
    Prefix.length, Prefix.isVerbatim, behind, before, further, divides]

theorem components_rooted (divides : isSepByte unit = true)
    (inside : text.head?.any isSepByte = false) :
    components (unit :: text) = .rootDir :: body false text := by
  have parsed := parsePrefix_rooted divides inside
  simp [components, startDir, hasPhysicalRoot, prefixLength, prefixVerbatim, parsed, divides]

/-- No root, no prefix, and no current directory at the start. -/
theorem components_relative (inside : text.head?.any isSepByte = false)
    (no_drive : parseDrive text = none) (started : includeCurDir text = false) :
    components text = body false text := by
  have parsed : parsePrefix text = none := by rw [parsePrefix_unrooted inside, no_drive]; rfl
  simp [components, startDir, hasPhysicalRoot, prefixLength, prefixVerbatim, parsed, inside,
    started]

end Prefixes

/-! ### Names that are joined -/

section Joined

variable {buffer path name text : Wide} {names : List Wide}

theorem appendComponents_names : appendComponents text true (names.map .normal) =
    text ++ names.flatMap (BACKSLASH :: ·) := by
  induction names generalizing text with
  | nil => simp [appendComponents]
  | cons name names more =>
      simp [appendComponents, Component.text, Component.separated, more]

theorem collect_names : collect ((name :: names).map .normal) =
    name ++ names.flatMap (BACKSLASH :: ·) := by
  rw [collect, List.map_cons, appendComponents]
  simp [Component.text, Component.separated, appendComponents_names]

theorem appendComponents_collect : appendComponents text false (names.map .normal) =
    text ++ collect (names.map .normal) := by
  cases names with
  | nil => simp [collect, appendComponents]
  | cons name names =>
      rw [collect_names, List.map_cons, appendComponents]
      simp [Component.text, Component.separated, appendComponents_names]

/-- A verbatim drive, its root and names behind it. -/
theorem collect_verbatim {raw : Wide} {letter : Unit16} :
    collect (.pre raw (.verbatimDisk letter) :: .rootDir :: names.map .normal) =
      raw ++ BACKSLASH :: collect (names.map .normal) := by
  rw [collect, appendComponents, appendComponents]
  simp [Component.text, Component.separated, appendComponents_collect]

theorem absorb_names {path : List Component} :
    (names.map .normal).foldl absorb path = path ++ names.map .normal := by
  induction names generalizing path with
  | nil => simp
  | cons name names more => simp [absorb, more]

theorem parseDrive_append (nonempty : name ≠ []) :
    parseDrive (name ++ BACKSLASH :: text) = parseDrive name := by
  rcases name with _ | ⟨first, _ | ⟨second, name⟩⟩
  · exact absurd rfl nonempty
  · simp [parseDrive, BACKSLASH, COLON]
  · rfl

theorem parseDrive_names (nonempty : name ≠ []) :
    parseDrive (name ++ names.flatMap (BACKSLASH :: ·)) = parseDrive name := by
  cases names with
  | nil => simp
  | cons second names => exact parseDrive_append nonempty

theorem Name.head (good : Name false name) : (name ++ text).head?.any isSepByte = false := by
  cases name with
  | nil => exact absurd rfl good.nonempty
  | cons unit name => exact good.whole unit (.head _)

theorem Name.not_curDir (good : Name false name) :
    includeCurDir (name ++ names.flatMap (BACKSLASH :: ·)) = false := by
  refine Bool.eq_false_iff.mpr fun started => ?_
  rcases name with _ | ⟨first, _ | ⟨second, name⟩⟩
  · exact good.nonempty rfl
  · simp only [includeCurDir, Bool.and_eq_true, decide_eq_true_eq] at started
    exact good.not_dot (congrArg (fun unit => [unit]) (Option.some.inj started.1))
  · simp only [includeCurDir, Bool.and_eq_true] at started
    have divides : isSepByte second = true := started.2
    have apart : isSepByte second = false := good.whole second (.tail _ (.head _))
    rw [apart] at divides
    cases divides

theorem body_collect {verbatim : Bool} (good : ∀ name ∈ names, Name verbatim name) :
    body verbatim (collect (names.map .normal)) = names.map .normal := by
  cases names with
  | nil => simp [collect, appendComponents]
  | cons name names =>
      rw [collect_names, body_names fun name given => good name (.tail _ given),
        body_name (good name (.head _))]
      rfl

/-- Names are found again in the path of them, unless the first one is taken for a drive. -/
theorem components_collect (good : ∀ name ∈ names, Name false name)
    (no_drive : ∀ name ∈ names, parseDrive name = none) :
    components (collect (names.map .normal)) = names.map .normal := by
  cases names with
  | nil => rfl
  | cons name names =>
      have first := good name (.head _)
      have parts := body_collect good
      rw [collect_names] at parts ⊢
      rw [components_relative first.head
        ((parseDrive_names first.nonempty).trans (no_drive name (.head _))) first.not_curDir, parts]

theorem parsePrefix_collect (good : ∀ name ∈ names, Name false name)
    (no_drive : ∀ name ∈ names, parseDrive name = none) :
    parsePrefix (collect (names.map .normal)) = none := by
  cases names with
  | nil => rfl
  | cons name names =>
      have first := good name (.head _)
      rw [collect_names, parsePrefix_unrooted first.head, parseDrive_names first.nonempty,
        no_drive name (.head _)]
      rfl

theorem hasRoot_collect (good : ∀ name ∈ names, Name false name)
    (no_drive : ∀ name ∈ names, parseDrive name = none) :
    hasRoot (collect (names.map .normal)) = false := by
  have parsed := parsePrefix_collect good no_drive
  cases names with
  | nil => rfl
  | cons name names =>
      rw [hasRoot, hasPhysicalRoot, prefixLength, parsed, Option.elim_none, List.drop_zero,
        collect_names, (good name (.head _)).head]
      rfl

/-- What is pushed goes behind the path, with a separator if there is none. -/
theorem push_names (plain : prefixVerbatim buffer = false ∨ names = [])
    (good : ∀ name ∈ names, Name false name)
    (no_drive : ∀ name ∈ names, parseDrive name = none) :
    push buffer (collect (names.map .normal)) =
      if needSep buffer then buffer ++ [BACKSLASH] ++ collect (names.map .normal)
      else buffer ++ collect (names.map .normal) := by
  have not_verbatim :
      ¬(prefixVerbatim buffer && collect (names.map .normal) ≠ []) = true := by
    rcases plain with plain | rfl
    · simp [plain]
    · simp [collect, appendComponents]
  rw [push, if_neg (by simp [isAbsolute, parsePrefix_collect good no_drive]), if_neg not_verbatim,
    if_neg (by simp [hasRoot_collect good no_drive])]

/-- The separator that is put behind a path stands for no component. -/
theorem body_separated {start : Wide} {unit : Unit16} {verbatim : Bool}
    (divides : isSepByte unit = true) (buffer_text : buffer = start ++ unit :: text)
    (longer : prefixLength buffer ≠ buffer.length) (plain : verbatim = false ∨ path = []) :
    ∃ tail, (if needSep buffer then buffer ++ [BACKSLASH] ++ path else buffer ++ path) =
        start ++ unit :: tail ∧
      body verbatim tail = body verbatim text ++ body verbatim path ∧
      (text ≠ [] → tail.head? = text.head?) := by
  have need : needSep buffer = buffer.getLast?.any (!isSepByte ·) := by
    simp [needSep, longer]
  rcases List.eq_nil_or_concat text with rfl | ⟨front, last, rfl⟩
  · -- the root is the last unit
    have sep : needSep buffer = false := by rw [need, buffer_text]; simp [divides]
    rw [if_neg (by simp [sep]), buffer_text]
    exact ⟨path, by simp, by simp, fun some => absurd rfl some⟩
  · have at_end : buffer.getLast? = some last := by
      rw [buffer_text, List.concat_eq_append, ← List.cons_append, ← List.append_assoc]
      exact List.getLast?_concat
    rw [List.concat_eq_append] at buffer_text ⊢
    by_cases ends : isSepByte last = true
    · have sep : needSep buffer = false := by rw [need, at_end]; simp [ends]
      rw [if_neg (by simp [sep]), buffer_text]
      refine ⟨front ++ last :: path, by simp, ?_, ?_⟩
      · rcases plain with rfl | rfl
        · have divides : separator false last = true := ends
          rw [body_append divides, body_append divides]
          simp
        · simp
      · intro _
        cases front <;> rfl
    · have sep : needSep buffer = true := by rw [need, at_end]; simp [ends]
      rw [if_pos sep, buffer_text]
      refine ⟨front ++ [last] ++ BACKSLASH :: path, by simp, ?_, ?_⟩
      · rw [body_append (separator_backslash verbatim)]
      · intro _
        cases front <;> rfl

/-- Behind a root, the names are further components. -/
theorem pushed {start : Wide} {unit : Unit16} (divides : isSepByte unit = true)
    (buffer_text : buffer = start ++ unit :: text)
    (longer : prefixLength buffer ≠ buffer.length)
    (plain : prefixVerbatim buffer = false ∨ names = [])
    (good : ∀ name ∈ names, Name false name)
    (no_drive : ∀ name ∈ names, parseDrive name = none) :
    ∃ tail, push buffer (collect (names.map .normal)) = start ++ unit :: tail ∧
      body (prefixVerbatim buffer) tail =
        body (prefixVerbatim buffer) text ++ names.map .normal ∧
      (text ≠ [] → tail.head? = text.head?) := by
  have plain_text : prefixVerbatim buffer = false ∨ collect (names.map .normal) = [] :=
    plain.imp_right (by rintro rfl; rfl)
  have names_body : body (prefixVerbatim buffer) (collect (names.map .normal)) =
      names.map .normal := by
    refine body_collect fun name given => ?_
    cases prefixVerbatim buffer with
    | false => exact good name given
    | true => exact (good name given).in_verbatim
  obtain ⟨tail, same, parts, first⟩ := body_separated divides buffer_text longer plain_text
  rw [push_names plain good no_drive]
  exact ⟨tail, same, by rw [parts, names_body], first⟩

end Joined

/-! ### Names that are pushed behind a root -/

section Rooted

variable {text raw : Wide} {rest : List Component} {names : List Wide}

theorem pre_notMem_body {verbatim : Bool} {parsed : Prefix} : .pre raw parsed ∉ body verbatim text := by
  intro given
  obtain ⟨piece, -, parsed⟩ := List.mem_filterMap.mp given
  unfold parseSingleComponent at parsed
  split at parsed <;> (try split at parsed) <;> (try split at parsed) <;> cases parsed

theorem pre_notMem_startDir {parsed : Prefix} : .pre raw parsed ∉ startDir text := by
  unfold startDir
  split
  · simp
  · split <;> split <;> simp

theorem parsePrefix_of_components {parsed : Prefix}
    (path : components text = .pre raw parsed :: rest) : parsePrefix text = some parsed := by
  have first : .pre raw parsed ∈ components text := by rw [path]; exact .head _
  simp only [components, List.mem_append, pre_notMem_startDir, pre_notMem_body, or_false,
    Option.mem_toList, Option.map_eq_some_iff] at first
  obtain ⟨found, parse, same⟩ := first
  cases same
  exact parse

/-- The root behind a drive is one that the text has. -/
theorem hasPhysicalRoot_of_components {parsed : Prefix}
    (explicit : (parsed.hasImplicitRoot && !parsed.isVerbatim) = false)
    (path : components text = .pre raw parsed :: .rootDir :: rest) :
    hasPhysicalRoot text = true := by
  have parse := parsePrefix_of_components path
  by_contra not_physical
  have start : startDir text = [] := by
    rw [startDir, if_neg not_physical, parse]
    simp [explicit]
  simp only [components, parse, start, Option.map_some, Option.toList_some, List.append_nil,
    List.singleton_append, List.cons.injEq] at path
  have among : .rootDir ∈ body (prefixVerbatim text)
      (text.drop (prefixLength text + if hasPhysicalRoot text then 1 else 0)) := by
    rw [path.2]
    exact .head _
  exact rootDir_notMem_body among

theorem components_of_rooted (path : components text = .rootDir :: rest) :
    rest = body false (text.drop 1) := by
  have no_prefix : parsePrefix text = none := by
    refine Option.eq_none_iff_forall_not_mem.mpr fun parsed parse => ?_
    rw [components, parse] at path
    cases path
  have physical : hasPhysicalRoot text = true := by
    by_contra not_physical
    have among : .rootDir ∈ components text := by rw [path]; exact .head _
    simp only [components, startDir, no_prefix, not_physical, List.mem_append] at among
    rcases among with (none | start) | later
    · cases none
    · rw [if_neg (by simp)] at start
      split at start <;> simp at start
    · exact rootDir_notMem_body later
  simp only [components, startDir, no_prefix, physical, prefixLength, prefixVerbatim] at path
  simpa using path.symm

/-- Behind a root without a prefix, and without parents, there are names. -/
theorem names_of_rooted (path : components text = .rootDir :: rest) (inside : .parentDir ∉ rest) :
    ∃ names : List Wide, rest = names.map .normal ∧ ∀ name ∈ names, Name false name := by
  have each : ∀ component ∈ rest, ∃ name, component = .normal name ∧ Name false name := by
    intro component given
    rcases mem_body_plain (components_of_rooted path ▸ given) with rfl | name
    · exact absurd given inside
    · exact name
  clear path inside
  induction rest with
  | nil => exact ⟨[], rfl, by simp⟩
  | cons component rest more =>
      obtain ⟨⟨name, rfl, good⟩, later⟩ := List.forall_mem_cons.mp each
      obtain ⟨names, rfl, all_good⟩ := more later
      exact ⟨name :: names, rfl, List.forall_mem_cons.mpr ⟨good, all_good⟩⟩

theorem disk_of_components {drive : Unit16}
    (path : components text = .pre raw (.disk drive) :: .rootDir :: rest) :
    ∃ letter unit more, text = letter :: COLON :: unit :: more ∧
      isValidDriveLetter letter = true ∧ isSepByte unit = true := by
  have parse := parsePrefix_of_components path
  have physical := hasPhysicalRoot_of_components rfl path
  obtain ⟨letter, behind, rfl, valid, -⟩ := disk_of_parsePrefix parse
  rw [hasPhysicalRoot, prefixLength, parse] at physical
  cases behind with
  | nil => cases physical
  | cons unit more => exact ⟨letter, unit, more, rfl, valid, physical⟩

theorem verbatimDisk_of_components {drive : Unit16}
    (path : components text = .pre raw (.verbatimDisk drive) :: .rootDir :: rest) :
    ∃ letter unit more, text = verbatimDrive letter ++ unit :: more ∧
      isValidDriveLetter letter = true ∧ isSepByte unit = true := by
  have parse := parsePrefix_of_components path
  have physical := hasPhysicalRoot_of_components rfl path
  obtain ⟨letter, behind, rfl, valid, -, -⟩ := verbatimDisk_of_parsePrefix parse
  rw [hasPhysicalRoot, prefixLength, parse] at physical
  cases behind with
  | nil => cases physical
  | cons unit more => exact ⟨letter, unit, more, rfl, valid, physical⟩

variable (good : ∀ name ∈ names, Name false name)
  (no_drive : ∀ name ∈ names, parseDrive name = none)
include good no_drive

theorem components_push_disk {drive : Unit16}
    (path : components text = .pre raw (.disk drive) :: .rootDir :: rest) :
    components (push text (collect (names.map .normal))) =
      components text ++ names.map .normal := by
  obtain ⟨letter, unit, more, rfl, valid, divides⟩ := disk_of_components path
  have parse := @parsePrefix_disk letter (unit :: more) valid
  have plain : prefixVerbatim (letter :: COLON :: unit :: more) = false := by
    rw [prefixVerbatim, parse]
    rfl
  have longer : prefixLength (letter :: COLON :: unit :: more) ≠
      (letter :: COLON :: unit :: more).length := by
    rw [prefixLength, parse]
    simp [Prefix.length]
  have buffer_text : letter :: COLON :: unit :: more = [letter, COLON] ++ unit :: more := rfl
  obtain ⟨tail, same, parts, -⟩ := pushed divides buffer_text longer (.inl plain) good no_drive
  rw [plain] at parts
  rw [same, components_disk valid divides, List.append_assoc, ← parts]
  exact components_disk valid divides

theorem components_push_rooted {unit : Unit16} (divides : isSepByte unit = true)
    (nonempty : text ≠ []) (inside : text.head?.any isSepByte = false) :
    ∃ tail, push (unit :: text) (collect (names.map .normal)) = unit :: tail ∧
      tail ≠ [] ∧ tail.head?.any isSepByte = false ∧
      components (unit :: tail) = components (unit :: text) ++ names.map .normal := by
  have parse := parsePrefix_rooted divides inside
  have plain : prefixVerbatim (unit :: text) = false := by rw [prefixVerbatim, parse]; rfl
  have longer : prefixLength (unit :: text) ≠ (unit :: text).length := by
    rw [prefixLength, parse]
    simp
  obtain ⟨tail, same, parts, first⟩ :=
    @pushed (unit :: text) _ _ [] unit divides rfl longer (.inl plain) good no_drive
  rw [plain] at parts
  have tail_inside : tail.head?.any isSepByte = false := by rw [first nonempty, inside]
  refine ⟨tail, same, ?_, tail_inside, ?_⟩
  · rintro rfl
    cases text with
    | nil => exact nonempty rfl
    | cons _ _ => cases first nonempty
  · rw [components_rooted divides tail_inside, parts, components_rooted divides inside]
    rfl

/-- The names one after another. -/
theorem components_foldl_push {unit : Unit16} (divides : isSepByte unit = true)
    (nonempty : text ≠ []) (inside : text.head?.any isSepByte = false) :
    components (names.foldl push (unit :: text)) = components (unit :: text) ++ names.map .normal := by
  induction names generalizing text with
  | nil => simp
  | cons name names more =>
      have first : ∀ other ∈ [name], Name false other := by simpa using good name (.head _)
      have first_drive : ∀ other ∈ [name], parseDrive other = none := by
        simpa using no_drive name (.head _)
      have alone : collect ([name].map .normal) = name := by rw [collect_names]; simp
      obtain ⟨tail, same, tail_some, tail_inside, parts⟩ :=
        components_push_rooted first first_drive divides nonempty inside
      rw [alone] at same
      rw [List.foldl_cons, same, more (fun other given => good other (.tail _ given))
        (fun other given => no_drive other (.tail _ given)) tail_some tail_inside, parts]
      simp

/-- In a verbatim path the components are put together again. -/
theorem components_push_verbatimDisk {drive : Unit16} {names_root : List Wide}
    (path : components text =
      .pre raw (.verbatimDisk drive) :: .rootDir :: names_root.map .normal) :
    components (push text (collect (names.map .normal))) =
      components text ++ names.map .normal := by
  obtain ⟨letter, unit, more, rfl, valid, divides⟩ := verbatimDisk_of_components path
  have parse := @parsePrefix_verbatimDisk letter (unit :: more) valid divides
  have verbatim : prefixVerbatim (verbatimDrive letter ++ unit :: more) = true := by
    rw [prefixVerbatim, parse]
    rfl
  by_cases none : names = []
  · subst none
    have longer : prefixLength (verbatimDrive letter ++ unit :: more) ≠
        (verbatimDrive letter ++ unit :: more).length := by
      rw [prefixLength, parse]
      simp [Prefix.length, verbatimDrive]
    obtain ⟨tail, same, parts, -⟩ := pushed divides rfl longer (.inr rfl) good no_drive
    rw [verbatim] at parts
    rw [same, components_verbatimDisk valid divides, parts, components_verbatimDisk valid divides,
      List.append_assoc]
  · have found := @components_verbatimDisk unit letter more valid divides
    have behind : body true more = names_root.map .normal := by
      rw [found] at path
      simpa using (List.cons.inj (List.cons.inj path).2).2
    have all_good : ∀ name ∈ names_root ++ names, Name true name := by
      intro name given
      rcases List.mem_append.mp given with before | after
      · exact name_of_mem_body (behind ▸ List.mem_map_of_mem before)
      · exact (good name after).in_verbatim
    have some_text : collect (names.map .normal) ≠ [] := by
      cases names with
      | nil => exact absurd rfl none
      | cons name names =>
          rw [collect_names]
          exact List.append_ne_nil_of_left_ne_nil (good name (.head _)).nonempty _
    rw [push, if_neg (by simp [isAbsolute, parsePrefix_collect good no_drive]),
      if_pos (by simp [verbatim, some_text]), components_collect good no_drive, absorb_names, found,
      behind, List.append_assoc, ← List.map_append]
    exact (congrArg components collect_verbatim).trans
      ((components_verbatimDisk valid rfl).trans (by rw [body_collect all_good]))

end Rooted

/-! ### Components that are left -/

@[simp] theorem Component.same_self (component : Component) : component.same component = true := by
  cases component <;> simp [Component.same]

/-- What is found behind a base without a prefix has the base before it. -/
theorem prefix_of_iterAfter {path base rest : List Component}
    (plain : ∀ raw parsed, .pre raw parsed ∉ base) (found : iterAfter path base = some rest) :
    path = base ++ rest := by
  induction base generalizing path with
  | nil =>
      rw [iterAfter] at found
      exact Option.some.inj found
  | cons two base more =>
      cases path with
      | nil => cases found
      | cons one path =>
          rw [iterAfter] at found
          split at found
          · rename_i same
            have later := more (fun raw parsed given => plain raw parsed (.tail _ given)) found
            have first : one = two := by
              cases two with
              | pre raw parsed => exact absurd (.head _) (plain raw parsed)
              | rootDir | curDir | parentDir | normal =>
                  cases one <;> simp_all [Component.same]
            rw [later, first]
            rfl
          · cases found

theorem iterAfter_rooted (one two : Wide) (rest : List Component) :
    iterAfter (.rootDir :: .normal one :: rest) [.rootDir, .normal two] =
      if one = two then some rest else none := by
  by_cases same : one = two <;> simp [iterAfter, Component.same, same]

end Bscp.WindowsPath
