import Bscp.Lifecycle.WindowsLayout

/-!
What an accepted layout keeps apart. The check compares whole destinations; the files come to lie
apart if moreover none of the destinations begins another one.
-/

namespace Bscp.WindowsLayout

open PurePath FreshTree

variable {fold : Char → Text} {lower : Text → Text}

/-! ### What is accepted -/

structure Accepted (lower : Text → Text) (entry : Entry) : Prop where
  no_backslash : '\\' ∉ entry.relative
  no_colon : ':' ∉ entry.relative
  names : ∀ name ∈ entry.relative.splitOn '/', badComponent name = false
  first : ∃ top rest, posixParts entry.relative = top :: rest ∧
    top ∈ ["apex".toList, "system".toList]
  relative : (parse entry.source).isRelativeTo lower SOURCES = true
  source_names : ∀ name ∈ (parse entry.source).names, badComponent name = false

theorem validateRow_ok {seen next : List Text} {row : Option Row}
    (valid : validateRow fold lower seen row = .ok next) :
    ∃ given entry, row = some given ∧ given.entry = some entry ∧ Accepted lower entry ∧
      casefold fold entry.relative ∉ seen ∧ next = casefold fold entry.relative :: seen := by
  unfold validateRow at valid
  split at valid
  · cases valid
  rename_i row
  split at valid
  · cases valid
  rename_i rel relative
  split at valid
  · cases valid
  rename_i slashed
  split at valid
  · cases valid
  split at valid
  · cases valid
  rename_i first rest parts
  split at valid
  · cases valid
  rename_i escape
  split at valid
  · cases valid
  rename_i fresh
  split at valid
  · cases valid
  rename_i text source
  simp only at valid
  split at valid
  · cases valid
  rename_i inside
  split at valid
  · split at valid
    · cases valid
    · simp only [not_or] at slashed escape
      simp only [Bool.or_eq_true, not_or, Bool.not_eq_true, Bool.not_eq_eq_eq_not, Bool.not_true]
        at inside
      refine ⟨row, ⟨text, rel⟩, rfl, by simp [Row.entry, source, relative], ?_, fresh,
        (Except.ok.inj valid).symm⟩
      exact {
        no_backslash := slashed.2.1
        no_colon := slashed.2.2
        names := fun name member => by
          simpa using List.any_eq_false.mp (Bool.eq_false_iff.mpr escape.2) name member
        first := ⟨first, rest, parts, not_not.mp escape.1⟩
        relative := Bool.not_eq_false _ |>.mp inside.1.2
        source_names := fun name member => by
          simpa using List.any_eq_false.mp inside.2 name member }
  · cases valid

theorem validateRows_ok {rows : List (Option Row)} : ∀ {seen : List Text},
    validateRows fold lower seen rows = .ok () →
      (∀ entry ∈ rows.filterMap fun row => row.bind Row.entry,
        Accepted lower entry ∧ casefold fold entry.relative ∉ seen) ∧
      (rows.filterMap fun row => row.bind Row.entry).Pairwise fun one two =>
        casefold fold one.relative ≠ casefold fold two.relative := by
  induction rows with
  | nil => simp
  | cons row rest next =>
      intro seen valid
      cases checked : validateRow fold lower seen row with
      | error fault => simp [validateRows, checked, bind, Except.bind] at valid
      | ok after =>
          obtain ⟨given, entry, rfl, made, accepted, fresh, rfl⟩ := validateRow_ok checked
          simp only [validateRows, checked, bind, Except.bind] at valid
          obtain ⟨others, apart⟩ := next valid
          simp only [List.filterMap_cons, Option.bind_some, made, List.forall_mem_cons,
            List.pairwise_cons]
          refine ⟨⟨⟨accepted, fresh⟩, fun other member => ?_⟩, fun other member same => ?_, apart⟩
          · obtain ⟨good, absent⟩ := others other member
            exact ⟨good, fun listed => absent (List.mem_cons_of_mem _ listed)⟩
          · exact (others other member).2 (same ▸ List.mem_cons_self)

theorem validateLayout_ok {p : Profile} (valid : validateLayout fold lower p = .ok ()) :
    (∀ entry ∈ p.entries, Accepted lower entry) ∧
      p.entries.Pairwise fun one two =>
        casefold fold one.relative ≠ casefold fold two.relative := by
  unfold validateLayout at valid
  split at valid
  · rename_i row rest layout
    split at valid
    · cases valid
    · obtain ⟨accepted, apart⟩ := validateRows_ok valid
      simp only [Profile.entries, layout]
      exact ⟨fun entry member => (accepted entry member).1, apart⟩
  · cases valid

/-! ### Destinations -/

/-- Names that are divided by slashes and by backslashes. -/
theorem splitOn_backslashed {text : Text} (plain : '\\' ∉ text) :
    (text.map backslashed).splitOn SEP = text.splitOn '/' := by
  induction text with
  | nil => rfl
  | cons char rest next =>
      simp only [List.mem_cons, not_or] at plain
      rw [List.map_cons, List.splitOn_cons_eq_if_modifyHead, List.splitOn_cons_eq_if_modifyHead,
        next plain.2]
      by_cases slash : char = '/'
      · simp [slash, backslashed]
      · have other : char ≠ SEP := Ne.symm plain.1
        simp [slash, backslashed, other]

theorem badComponent_parts {name : Text} (good : badComponent name = false) :
    name ≠ [] ∧ name ≠ ['.'] ∧ name ≠ ['.', '.'] ∧ name.getLast? ≠ some ' ' ∧
      name.getLast? ≠ some '.' ∧ (∀ char ∈ name, 32 ≤ char.toNat) ∧ ':' ∉ name ∧
        reserved.accepts name = false := by
  simp only [badComponent, Bool.or_eq_false_iff, decide_eq_false_iff_not, List.any_eq_false,
    Bool.or_eq_true, decide_eq_true_eq, not_or, List.mem_cons, List.not_mem_nil, or_false] at good
  obtain ⟨⟨⟨⟨nonempty, dots, dot⟩, blank, stop⟩, chars⟩, device⟩ := good
  refine ⟨nonempty, dot, dots, blank, stop, fun char member => ?_, fun member => ?_, device⟩
  · exact Nat.le_of_not_lt (chars char member).1
  · exact (chars ':' member).2 (by decide)

theorem Accepted.names_ne {entry : Entry} (accepted : Accepted lower entry) {name : Text}
    (member : name ∈ entry.relative.splitOn '/') : name ≠ [] ∧ name ≠ ['.'] :=
  have parts := badComponent_parts (accepted.names name member)
  ⟨parts.1, parts.2.1⟩

theorem splitroot_relative {entry : Entry} (accepted : Accepted lower entry) :
    splitroot (entry.relative.map backslashed) = ([], [], entry.relative.map backslashed) := by
  have first (char : Char) (rest : Text) (whole : entry.relative = char :: rest) :
      backslashed char ≠ SEP := by
    intro divides
    have slash : char = '/' := by
      by_contra other
      rw [backslashed, if_neg other] at divides
      exact accepted.no_backslash (by rw [whole, divides]; exact List.mem_cons_self)
    have empty : [] ∈ entry.relative.splitOn '/' := by
      rw [whole, slash, List.splitOn_cons_eq_if_modifyHead]
      simp
    exact (accepted.names_ne empty).1 rfl
  rcases relative : entry.relative with _ | ⟨one, _ | ⟨two, rest⟩⟩
  · rfl
  · simp [splitroot, first one [] relative]
  · have colon : backslashed two ≠ ':' := by
      intro same
      have whole : two = ':' := by
        by_cases slash : two = '/'
        · simp [backslashed, slash, SEP] at same
        · rwa [backslashed, if_neg slash] at same
      exact accepted.no_colon (by rw [relative, whole]; simp)
    simp [splitroot, first one (two :: rest) relative, colon]

/-- The three ways to parse a destination agree. -/
theorem parse_relative {entry : Entry} (accepted : Accepted lower entry) :
    parse entry.relative = { names := entry.relative.splitOn '/' } := by
  have names : (entry.relative.splitOn '/').filter (fun name => name ≠ [] ∧ name ≠ ['.']) =
      entry.relative.splitOn '/' :=
    List.filter_eq_self.mpr fun name member => by simpa using accepted.names_ne member
  rw [parse, splitroot_relative accepted]
  simp only [shareRoot, List.head?_nil, reduceCtorEq, false_and, and_false, if_false,
    splitOn_backslashed accepted.no_backslash, names]

theorem destination_relative {entry : Entry} (accepted : Accepted lower entry) (tree : PurePath) :
    destination lower tree entry.relative = tree.below (entry.relative.splitOn '/') := by
  rw [destination, parse_relative accepted]
  simp [join, below]

theorem inTree_relative {entry : Entry} (accepted : Accepted lower entry) (tree : PurePath) :
    inTree lower tree entry.relative = entry.relative.splitOn '/' := by
  rw [inTree, destination_relative accepted]
  simp [below]

theorem posixParts_relative {entry : Entry} (accepted : Accepted lower entry) :
    posixParts entry.relative = entry.relative.splitOn '/' :=
  List.filter_eq_self.mpr fun name member => by simpa using accepted.names_ne member

/-! ### Names that Windows rewrites -/

def NUMBERS : List Char := "123456789¹²³".toList

def DEVICES : List Text :=
  ["CON", "PRN", "AUX", "NUL", "CONIN$", "CONOUT$"].map String.toList ++
    NUMBERS.map (fun number => "COM".toList ++ [number]) ++
    NUMBERS.map fun number => "LPT".toList ++ [number]

def base (name : Text) : Text := name.takeWhile (· ≠ '.')

def trimBlanks (text : Text) : Text := (text.reverse.dropWhile (· = ' ')).reverse

def IsDevice (name : Text) : Prop := (trimBlanks (base name)).map upperAscii ∈ DEVICES

/-- Windows takes the name for another one, or for a stream. -/
def Rewritten (name : Text) : Prop :=
  name.getLast? = some ' ' ∨ name.getLast? = some '.' ∨ ':' ∈ name ∨ IsDevice name

/-- There are blanks between the name of a device and the dot. -/
def Blanked (name : Text) : Prop := IsDevice name ∧ (base name).getLast? = some ' '

theorem matches_word {text : String} {name : Text} (same : name.map upperAscii = text.toList) :
    (word text).Matches name := by
  unfold word
  generalize text.toList = letters at same
  induction letters generalizing name with
  | nil =>
      rw [List.map_eq_nil_iff.mp same]
      exact .empty
  | cons letter letters next =>
      cases name with
      | nil => cases same
      | cons char name =>
          obtain ⟨first, rest⟩ := List.cons.inj same
          exact .seq (.one (by simp [ignoreCase, first])) (next rest)

theorem number_of_upper {char : Char} (number : upperAscii char ∈ NUMBERS) : char ∈ NUMBERS := by
  have letters : ∀ code < 123, 97 ≤ code → Char.ofNat (code - 32) ∉ NUMBERS := by decide
  unfold upperAscii at number
  split at number
  case isFalse => exact number
  case isTrue small =>
    have low : 97 ≤ char.toNat := small.1
    have high : char.toNat ≤ 122 := small.2
    exact absurd number (letters char.toNat (by omega) low)

theorem matches_numbered {start : String} {name : Text} {number : Char}
    (listed : number ∈ NUMBERS) (same : name.map upperAscii = start.toList ++ [number]) :
    (Regex.seq (word start) digit).Matches name := by
  obtain ⟨front, back, rfl, first, last⟩ := List.map_eq_append_iff.mp same
  obtain ⟨char, rfl, upper⟩ : ∃ char, back = [char] ∧ upperAscii char = number := by
    simpa [List.map_eq_singleton_iff] using last
  have digits : ∀ char ∈ NUMBERS, ('1' ≤ char ∧ char ≤ '9') ∨ char ∈ ['¹', '²', '³'] := by
    have numbers : NUMBERS = _ := String.toList_ofList
    rw [numbers]
    simp
  refine .seq (matches_word first) (.one ?_)
  simpa using digits char (number_of_upper (upper ▸ listed))

theorem matches_device {name : Text} (device : name.map upperAscii ∈ DEVICES) :
    ∃ left right, reserved = .seq left right ∧ left.Matches name := by
  refine ⟨_, _, rfl, ?_⟩
  simp only [DEVICES, List.map_cons, List.map_nil, List.mem_append, List.mem_cons, List.mem_map,
    List.not_mem_nil, or_false] at device
  rcases device with ((con | prn | aux | nul | input | output) | ⟨number, listed, same⟩) |
    ⟨number, listed, same⟩
  · exact .left (matches_word con)
  · exact .right (.left (matches_word prn))
  · exact .right (.right (.left (matches_word aux)))
  · exact .right (.right (.right (.left (matches_word nul))))
  · exact .right (.right (.right (.right (.left (matches_word input)))))
  · exact .right (.right (.right (.right (.right (.left (matches_word output))))))
  · exact .right (.right (.right (.right (.right (.right
      (.left (matches_numbered listed same.symm)))))))
  · exact .right (.right (.right (.right (.right (.right
      (.right (matches_numbered listed same.symm)))))))

theorem trimBlanks_eq {text : Text} (unblanked : text.getLast? ≠ some ' ') :
    trimBlanks text = text := by
  unfold trimBlanks
  rcases last : text.reverse with _ | ⟨char, rest⟩
  · rw [List.reverse_eq_nil_iff.mp last]
    rfl
  · have ends : text.getLast? = some char := by
      rw [← List.head?_reverse, last]
      rfl
    have other : ¬char = ' ' := fun same => unblanked (same ▸ ends)
    rw [List.dropWhile_cons, if_neg (by simpa using other), ← last, List.reverse_reverse]

/-- What the check lets through is rewritten only because of blanks in front of a dot. -/
theorem rewritten_iff {name : Text} (good : badComponent name = false) :
    Rewritten name ↔ Blanked name := by
  obtain ⟨-, -, -, blank, stop, printable, colon, unreserved⟩ := badComponent_parts good
  refine ⟨fun rewritten => ?_, fun blanked => .inr (.inr (.inr blanked.1))⟩
  obtain ends | ends | stream | device := rewritten
  · exact absurd ends blank
  · exact absurd ends stop
  · exact absurd stream colon
  refine ⟨device, by_contra fun unblanked => ?_⟩
  rw [IsDevice, trimBlanks_eq unblanked] at device
  obtain ⟨left, right, whole, named⟩ := matches_device device
  have tail : right.Matches (name.dropWhile (· ≠ '.')) := by
    cases whole
    rcases rest : name.dropWhile (· ≠ '.') with _ | ⟨char, more⟩
    · exact .left .empty
    · have dot : char = '.' := by
        have first := List.head?_dropWhile_not (fun char => decide (char ≠ '.')) name
        rw [rest] at first
        simpa using first
      have member : ∀ char ∈ more, char ∈ name := fun char member =>
        (List.dropWhile_sublist _).subset (rest ▸ List.mem_cons_of_mem _ member)
      refine .right (@Regex.Matches.seq _ _ _ [char] more (.one (by simpa using dot)) ?_)
      refine Regex.matches_run.mpr fun char listed => ?_
      have printed := printable char (member char listed)
      have newline : char ≠ '\n' := by
        rintro rfl
        exact absurd printed (by decide)
      simpa using newline
  have matched : reserved.Matches name := by
    rw [← List.takeWhile_append_dropWhile (p := (· ≠ '.')) (l := name), whole]
    exact .seq named tail
  rw [← Regex.accepts_iff, unreserved] at matched
  cases matched

/-! ### What keeps the files apart -/

def folded (fold : Char → Text) (entry : Entry) : List Text :=
  (entry.relative.splitOn '/').map (casefold fold)

def Inside (lower : Text → Text) (path : PurePath) : Prop :=
  path.isRelativeTo lower SOURCES = true ∧ SOURCES.names.length < path.names.length ∧
    ['.', '.'] ∉ path.names

/-- What the check of a layout is for. A file system identifies names only when they are equal as
`casefold` folds them. -/
structure Safe (fold : Char → Text) (lower : Text → Text) (tree : PurePath)
    (entries : List Entry) : Prop where
  below : ∀ entry ∈ entries, ∃ top name rest,
    destination lower tree entry.relative = tree.below (top :: name :: rest) ∧
      top ∈ ["apex".toList, "system".toList]
  kept : ∀ entry ∈ entries, ∀ name ∈ inTree lower tree entry.relative, ¬Rewritten name
  inside : ∀ entry ∈ entries, Inside lower (parse entry.source)
  apart : ∀ (ι : Type) [DecidableEq ι] (identify : Text → ι),
    (∀ one two, identify one = identify two → casefold fold one = casefold fold two) →
      (entries.map fun entry => (inTree lower tree entry.relative).map identify).Pairwise Apart ∧
        (copyLayout lower tree identify entries).isSome

structure Regular (fold : Char → Text) (lower : Text → Text) (entries : List Entry) : Prop where
  deep : ∀ entry ∈ entries, '/' ∈ entry.relative
  unblanked : ∀ entry ∈ entries, ∀ name ∈ entry.relative.splitOn '/', ¬Blanked name
  proper : ∀ entry ∈ entries, (parse entry.source).same lower SOURCES = false
  leaves : ∀ one ∈ entries, ∀ two ∈ entries, folded fold one <+: folded fold two →
    folded fold one = folded fold two

theorem length_splitOn {text : Text} : 2 ≤ (text.splitOn '/').length ↔ '/' ∈ text := by
  constructor
  · intro long
    by_contra absent
    rw [List.splitOn_eq_singleton absent] at long
    exact absurd long (Nat.lt_irrefl 1)
  · intro member
    obtain ⟨front, back, rfl⟩ := List.append_of_mem member
    rw [List.splitOn_append_cons_self, List.length_append]
    have one := List.length_pos_iff.mpr (List.splitOn_ne_nil '/' front)
    have two := List.length_pos_iff.mpr (List.splitOn_ne_nil '/' back)
    omega

theorem casefold_intercalate {pieces : List Text} :
    casefold fold (['/'].intercalate pieces) =
      (fold '/').intercalate (pieces.map (casefold fold)) := by
  induction pieces with
  | nil => rfl
  | cons piece rest next =>
      cases rest with
      | nil => simp [List.intercalate_singleton]
      | cons second rest =>
          rw [List.map_cons, List.intercalate_cons_cons, casefold, List.flatMap_append,
            List.flatMap_append, ← casefold, ← casefold, ← casefold, next, List.map_cons,
            List.intercalate_cons_cons]
          simp [casefold]

/-- Destinations whose names are folded to the same are folded to the same. -/
theorem casefold_eq_of_folded {one two : Entry} (same : folded fold one = folded fold two) :
    casefold fold one.relative = casefold fold two.relative := by
  have joined (text : Text) : casefold fold text =
      (fold '/').intercalate ((text.splitOn '/').map (casefold fold)) := by
    rw [← casefold_intercalate, List.intercalate_splitOn]
  rw [joined, joined two.relative]
  exact congrArg _ same

/-- A file system that tells more names apart has fewer paths that begin others. -/
theorem prefix_of_identify {ι : Type} {identify : Text → ι}
    (only : ∀ one two, identify one = identify two → casefold fold one = casefold fold two) :
    ∀ {one two : List Text}, one.map identify <+: two.map identify →
      one.map (casefold fold) <+: two.map (casefold fold)
  | [], _, _ => List.nil_prefix
  | _ :: _, [], starts => by simp at starts
  | first :: one, second :: two, starts => by
      rw [List.map_cons, List.map_cons, List.cons_prefix_cons] at starts ⊢
      exact ⟨only first second starts.1, prefix_of_identify only starts.2⟩

theorem inside_iff {entry : Entry} (accepted : Accepted lower entry) :
    Inside lower (parse entry.source) ↔ (parse entry.source).same lower SOURCES = false := by
  obtain ⟨anchored, front⟩ : lower (parse entry.source).anchor = lower SOURCES.anchor ∧
      SOURCES.names.map lower <+: (parse entry.source).names.map lower := by
    have relative := accepted.relative
    simp only [isRelativeTo, Bool.and_eq_true, decide_eq_true_eq, List.isPrefixOf_iff_prefix]
      at relative
    exact relative
  have parents : ['.', '.'] ∉ (parse entry.source).names := fun member =>
    (badComponent_parts (accepted.source_names _ member)).2.2.1 rfl
  have length := front.length_le
  rw [List.length_map, List.length_map] at length
  have whole : (parse entry.source).names.map lower = SOURCES.names.map lower ↔
      ¬SOURCES.names.length < (parse entry.source).names.length := by
    constructor
    · intro same
      have equal := congrArg List.length same
      rw [List.length_map, List.length_map] at equal
      omega
    · intro short
      exact (front.eq_of_length (by rw [List.length_map, List.length_map]; omega)).symm
  have compared : (parse entry.source).same lower SOURCES = false ↔
      SOURCES.names.length < (parse entry.source).names.length := by
    rw [← not_not (a := SOURCES.names.length < _), ← whole]
    simp [same, anchored]
  rw [compared]
  exact ⟨fun inside => inside.2.1, fun longer => ⟨accepted.relative, longer, parents⟩⟩

variable {entries : List Entry}

/-- The destinations lie apart on every file system if they do where names that are folded to the
same are the same. -/
theorem apart_iff (distinct : entries.Pairwise fun one two =>
      casefold fold one.relative ≠ casefold fold two.relative) :
    (entries.Pairwise fun one two => Apart (folded fold one) (folded fold two)) ↔
      ∀ one ∈ entries, ∀ two ∈ entries, folded fold one <+: folded fold two →
        folded fold one = folded fold two := by
  constructor
  · intro apart one first two second
    have ahead : entries.Pairwise fun one two =>
        folded fold one <+: folded fold two → folded fold one = folded fold two :=
      apart.imp fun apart starts => absurd starts apart.1
    have behind : entries.Pairwise fun one two =>
        folded fold two <+: folded fold one → folded fold two = folded fold one :=
      apart.imp fun apart starts => absurd starts apart.2
    exact List.Pairwise.forall_of_forall_of_flip (fun _ _ _ => rfl) ahead behind first second
  · intro leaves
    refine distinct.imp_of_mem fun {one two} first second different => ⟨fun starts => ?_,
      fun starts => ?_⟩
    · exact different (casefold_eq_of_folded (leaves one first two second starts))
    · exact different (casefold_eq_of_folded (leaves two second one first starts)).symm

theorem pairwise_inTree {ι : Type} {identify : Text → ι} {tree : PurePath}
    (accepted : ∀ entry ∈ entries, Accepted lower entry) :
    (entries.map fun entry => (inTree lower tree entry.relative).map identify).Pairwise Apart ↔
      entries.Pairwise fun one two => Apart ((one.relative.splitOn '/').map identify)
        ((two.relative.splitOn '/').map identify) := by
  rw [List.pairwise_map]
  refine List.Pairwise.iff_of_mem fun {one two} first second => ?_
  rw [inTree_relative (accepted one first), inTree_relative (accepted two second)]

/-- An accepted layout is safe if and only if its destinations have a name below the first one and
no blanks behind a device, no source is the directory of the sources, and no destination begins
another one. -/
theorem validateLayout_safe_iff {p : Profile} {tree : PurePath}
    (valid : validateLayout fold lower p = .ok ()) :
    Safe fold lower tree p.entries ↔ Regular fold lower p.entries := by
  obtain ⟨accepted, distinct⟩ := validateLayout_ok valid
  constructor
  · intro safe
    refine ⟨fun entry member => ?_, fun entry member name listed => ?_,
      fun entry member => (inside_iff (accepted entry member)).mp (safe.inside entry member), ?_⟩
    · obtain ⟨top, name, rest, placed, -⟩ := safe.below entry member
      rw [destination_relative (accepted entry member)] at placed
      have names := List.append_cancel_left (congrArg PurePath.names placed)
      rw [← length_splitOn, names]
      simp
    · have kept := safe.kept entry member name (by
        rwa [inTree_relative (accepted entry member)])
      exact fun blanked => kept ((rewritten_iff ((accepted entry member).names name listed)).mpr
        blanked)
    · have apart := (safe.apart Text (casefold fold) fun _ _ same => same).1
      exact (apart_iff distinct).mp ((pairwise_inTree accepted).mp apart)
  · intro regular
    have apart := (apart_iff distinct).mpr regular.leaves
    refine ⟨fun entry member => ?_, fun entry member name listed => ?_,
      fun entry member => (inside_iff (accepted entry member)).mpr (regular.proper entry member),
      fun ι _ identify only => ?_⟩
    · obtain ⟨top, rest, parts, first⟩ := (accepted entry member).first
      have long := length_splitOn.mpr (regular.deep entry member)
      rw [posixParts_relative (accepted entry member)] at parts
      rw [parts] at long
      cases rest with
      | nil => exact absurd long (Nat.lt_irrefl 1)
      | cons name rest =>
          exact ⟨top, name, rest, by rw [destination_relative (accepted entry member), parts],
            first⟩
    · rw [inTree_relative (accepted entry member)] at listed
      rw [rewritten_iff ((accepted entry member).names name listed)]
      exact regular.unblanked entry member name listed
    · have identified := (@pairwise_inTree _ _ _ identify tree accepted).mpr (apart.imp fun apart =>
        ⟨fun starts => apart.1 (prefix_of_identify only starts),
          fun starts => apart.2 (prefix_of_identify only starts)⟩)
      exact ⟨identified, createAll_empty.mpr identified⟩

/-! ### A file in the place of a directory -/

def sampleRow (source relative : String) : Option Row :=
  some {
    source := .value
      ("E:/bscp/out/aosp17-windows-formal-v1461/runtime-private-v1550/assets/guest/" ++
        source).toList
    relative := .value relative.toList
    bytes := .value 1
    sha256 := .value (List.replicate 64 '0') }

def sampleProfile (rows : List (Option Row)) : Profile where
  layout := some (.value rows)
  instanceRoot := ("E:/bscp/out/aosp17-windows-formal-v1461/runtime-private-v1550/" ++
    "run-gpu-v1774/instances").toList

def asciiFold (char : Char) : Text := [char.toLower]

def sampleConflict : Profile :=
  sampleProfile [sampleRow "a" "apex/a", sampleRow "b" "apex/a/b"]

theorem conflict_accepted : validateLayout asciiFold (casefold asciiFold) sampleConflict = .ok () ∧
    ¬Safe asciiFold (casefold asciiFold) {} sampleConflict.entries := by
  have accepted : validateLayout asciiFold (casefold asciiFold) sampleConflict = .ok () := by
    unfold sampleConflict sampleProfile sampleRow
    simp only [String.toList_append]
    repeat rw [String.toList_ofList]
    decide +kernel
  refine ⟨accepted, fun safe => ?_⟩
  have copied := (safe.apart Text (casefold asciiFold) fun _ _ same => same).2
  have refused : (copyLayout (casefold asciiFold) {} (casefold asciiFold)
      sampleConflict.entries).isSome = false := by decide +kernel
  rw [refused] at copied
  cases copied

def sampleLayout : Profile := sampleProfile [sampleRow "a" "apex/a", sampleRow "b" "apex/c/b"]

theorem layout_safe_iff : Safe asciiFold (casefold asciiFold) {} sampleLayout.entries ↔
    Regular asciiFold (casefold asciiFold) sampleLayout.entries := by
  have accepted : validateLayout asciiFold (casefold asciiFold) sampleLayout = .ok () := by
    unfold sampleLayout sampleProfile sampleRow
    simp only [String.toList_append]
    repeat rw [String.toList_ofList]
    decide +kernel
  exact validateLayout_safe_iff accepted

end Bscp.WindowsLayout
