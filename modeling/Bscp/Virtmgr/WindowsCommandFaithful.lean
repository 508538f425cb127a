import Bscp.Virtmgr.WindowsCommand

/-!
The strings of a launch mean what they were made of: the command line is split into the executable
and the arguments again, and the block is decoded to the pairs of the environment.
-/

namespace Bscp.Virtmgr.WindowsCommand

open Argv
open WindowsPath (Component components isAbsolute)
open WindowsProcess (Failure)

/-! ### The command line -/

def escape : Nat → Wide → Wide
  | slashes, [] => List.replicate (slashes * 2) BACKSLASH ++ [QUOTE]
  | slashes, unit :: rest =>
      if unit = BACKSLASH then escape (slashes + 1) rest
      else if unit = QUOTE then
        List.replicate (slashes * 2 + 1) BACKSLASH ++ unit :: escape 0 rest
      else List.replicate slashes BACKSLASH ++ unit :: escape 0 rest

theorem quote_loop (argument out : Wide) (slashes : Nat) :
    (argument.foldl quoteStep (out, slashes)).1 ++
        List.replicate ((argument.foldl quoteStep (out, slashes)).2 * 2) BACKSLASH ++ [QUOTE] =
      out ++ escape slashes argument := by
  induction argument generalizing out slashes with
  | nil => simp [escape]
  | cons unit rest more =>
      rw [List.foldl_cons]
      by_cases slash : unit = BACKSLASH
      · simpa [quoteStep, escape, slash] using more out (slashes + 1)
      by_cases quotes : unit = QUOTE
      · subst quotes
        have step := more (out ++ List.replicate (slashes * 2 + 1) BACKSLASH ++ [QUOTE]) 0
        simpa only [quoteStep, escape, if_neg slash, if_true, List.append_assoc,
          List.singleton_append] using step
      · have step := more (out ++ List.replicate slashes BACKSLASH ++ [unit]) 0
        simpa only [quoteStep, escape, if_neg slash, if_neg quotes, List.append_assoc,
          List.singleton_append] using step

theorem quote_eq (argument : Wide) :
    quote argument = if NUL ∈ argument then none else some (QUOTE :: escape 0 argument) := by
  unfold quote
  split
  · rfl
  · exact congrArg some (quote_loop argument [QUOTE] 0)

/-- Behind what was escaped, the argument has been read and its quoted part has ended. -/
theorem scan_escape (argument current rest : Wide) (slashes : Nat) :
    scan (.inside .quoted 0 current) (escape slashes argument ++ rest) =
      scan (.inside .closed 0 (slashed current slashes ++ argument)) rest := by
  induction argument generalizing current slashes with
  | nil =>
      rw [escape, List.append_assoc, List.singleton_append, scan_closing, List.append_nil]
  | cons unit more step =>
      unfold escape
      split
      · next slash =>
          subst slash
          rw [step]
          simp [slashed, List.replicate_succ']
      split
      · next quotes =>
          subst quotes
          rw [List.append_assoc, List.cons_append, scan_literal, step]
          simp
      · next slash quotes =>
          rw [List.append_assoc, List.cons_append, scan_other _ slash quotes, step]
          simp

def tail (arguments : List Wide) : Wide :=
  arguments.flatMap fun argument => SPACE :: QUOTE :: escape 0 argument

theorem scan_tail (arguments : List Wide) (current : Wide) :
    scan (.inside .closed 0 current) (tail arguments) = current :: arguments := by
  induction arguments generalizing current with
  | nil => exact scan_closed_nil
  | cons argument rest more =>
      have read := scan_escape argument [] (tail rest) 0
      rw [slashed_zero, List.nil_append] at read
      rw [tail, List.flatMap_cons, List.cons_append, List.cons_append, scan_closed_space,
        scan_opening]
      exact congrArg (current :: ·) (read.trans (more argument))

theorem arguments_quoted (first : Wide) (rest : List Wide) :
    Argv.arguments (QUOTE :: escape 0 first ++ tail rest) = first :: rest := by
  have read := scan_escape first [] (tail rest) 0
  rw [slashed_zero, List.nil_append] at read
  rw [Argv.arguments, List.cons_append, scan_opening, read, scan_tail]

/-- Of a file name nothing is escaped. -/
theorem escape_name (name : Wide) (slashes : Nat) (plain : QUOTE ∉ name)
    (open_end : ∀ front, List.replicate slashes BACKSLASH ++ name ≠ front ++ [BACKSLASH]) :
    escape slashes name = List.replicate slashes BACKSLASH ++ name ++ [QUOTE] := by
  induction name generalizing slashes with
  | nil =>
      cases slashes with
      | zero => rfl
      | succ slashes =>
          exact absurd (by rw [List.append_nil, List.replicate_succ'])
            (open_end (List.replicate slashes BACKSLASH))
  | cons unit name more =>
      simp only [List.mem_cons, not_or] at plain
      unfold escape
      split
      · next slash =>
          subst slash
          have same : List.replicate (slashes + 1) BACKSLASH ++ name =
              List.replicate slashes BACKSLASH ++ BACKSLASH :: name := by
            simp [List.replicate_succ']
          rw [more _ plain.2 (same ▸ open_end), same]
      · next slash =>
          rw [if_neg (Ne.symm plain.1), more 0 plain.2]
          · simp
          · intro front ends
            refine open_end (List.replicate slashes BACKSLASH ++ unit :: front) ?_
            simpa using ends

theorem argv_quoted {name : Wide} (file : FileName name) (rest : List Wide) :
    Argv.argv (QUOTE :: escape 0 name ++ tail rest) = name :: rest := by
  have line : QUOTE :: escape 0 name ++ tail rest = QUOTE :: (name ++ QUOTE :: tail rest) := by
    rw [escape_name name 0 file.1 file.2]
    simp
  have read : programName false (QUOTE :: (name ++ QUOTE :: tail rest)) = _ :=
    programName_quoted file.1
  rw [Argv.argv, line, read]
  cases rest with
  | nil => simp [tail, programName, Argv.arguments, scan, Scan.finish]
  | cons argument rest =>
      have behind : programName false (tail (argument :: rest)) =
          ([], QUOTE :: escape 0 argument ++ tail rest) := by
        rw [tail, List.flatMap_cons, List.cons_append, programName, if_neg (by decide),
          if_pos (by decide)]
        rfl
      rw [behind, arguments_quoted, List.append_nil]

theorem not_mem_escape {argument : Wide} (none : NUL ∉ argument) (slashes : Nat) :
    NUL ∉ escape slashes argument := by
  have quote : NUL ≠ QUOTE := by decide
  have slash : NUL ≠ BACKSLASH := by decide
  induction argument generalizing slashes with
  | nil => simp [escape, slash, quote]
  | cons unit rest more =>
      simp only [List.mem_cons, not_or] at none
      unfold escape
      split
      · exact more none.2 _
      split
      · simp [slash, none.1, more none.2]
      · simp [slash, none.1, more none.2]

theorem not_mem_tail {arguments : List Wide} (none : ∀ argument ∈ arguments, NUL ∉ argument) :
    NUL ∉ tail arguments := by
  simp only [tail, List.mem_flatMap, List.mem_cons, not_exists, not_and, not_or]
  exact fun argument given =>
    ⟨by decide, by decide, not_mem_escape (none argument given) 0⟩

theorem appendArguments_eq (arguments : List Wide) (command : Wide) :
    appendArguments command arguments =
      if ∃ argument ∈ arguments, NUL ∈ argument then none
      else some (command ++ tail arguments) := by
  induction arguments generalizing command with
  | nil => simp [appendArguments, tail]
  | cons argument rest more =>
      rw [appendArguments, quote_eq]
      by_cases nul : NUL ∈ argument
      · simp [nul]
      · simp [nul, more, tail]

theorem commandLine_eq (executable : Wide) (arguments : List Wide) :
    commandLine executable arguments =
      if NUL ∈ executable ∨ ∃ argument ∈ arguments, NUL ∈ argument then none
      else some (QUOTE :: escape 0 executable ++ tail arguments ++ [NUL]) := by
  unfold commandLine
  rw [quote_eq]
  by_cases nul : NUL ∈ executable
  · simp [nul]
  · by_cases given : ∃ argument ∈ arguments, NUL ∈ argument
    · simp [nul, appendArguments_eq, given]
    · simp [nul, appendArguments_eq, given]

/-- What the system reads of the command line. -/
theorem takeWhile_line {line : Wide} (none : NUL ∉ line) :
    (line ++ [NUL]).takeWhile (· ≠ NUL) = line := by
  have others : ∀ unit ∈ line, decide (unit ≠ NUL) = true := fun unit member =>
    decide_eq_true fun same => none (same ▸ member)
  rw [List.takeWhile_append_of_pos others]
  simp

/-! ### The order of the keys -/

section Order

variable {order : Wide → Wide → Ordering}

theorem ordinal_of_short {one two : Wide} (short : one.length ≤ I32_MAX)
    (short' : two.length ≤ I32_MAX) : ordinal order one two = some (order one two) :=
  if_pos ⟨short, short'⟩

/-- No sort has failed: there is one entry at most, or every key is short. -/
theorem sortFails_eq_false {environment : Environment} (fails : sortFails environment = false) :
    environment.length ≤ 1 ∨ ∀ entry ∈ environment, entry.1.length ≤ I32_MAX := by
  simp only [sortFails, Bool.and_eq_false_iff, decide_eq_false_iff_not, List.any_eq_false,
    decide_eq_true_eq, not_le, not_lt] at fails
  exact fails.imp Nat.le_of_lt_succ id

theorem sortBy_perm (environment : Environment) : (sortBy order environment).Perm environment :=
  List.mergeSort_perm ..

variable [Std.TransCmp order]

theorem sortBy_sorted {environment : Environment} (fails : sortFails environment = false) :
    (sortBy order environment).Pairwise fun one two => order one.1 two.1 ≠ .gt := by
  rcases sortFails_eq_false fails with few | short
  · have alone : (sortBy order environment).length ≤ 1 := by
      rw [(sortBy_perm environment).length_eq]
      exact few
    match sortBy order environment, alone with
    | [], _ => exact .nil
    | [entry], _ => exact List.pairwise_singleton _ entry
  · -- On short keys the comparison is the order, which is total.
    have same : (sortBy order environment).map id = (environment.map id).mergeSort
        fun one two => decide (order one.1 two.1 ≠ .gt) :=
      List.map_mergeSort fun one given two given' => by
        have known := @ordinal_of_short order _ _ (short one given) (short two given')
        simp [comparison, known]
    rw [List.map_id, List.map_id] at same
    rw [same]
    refine (List.pairwise_mergeSort ?_ ?_ environment).imp fun {one two} le => of_decide_eq_true le
    · intro one two three le le'
      simp only [decide_eq_true_eq, ← Ordering.isLE_iff_ne_gt] at le le' ⊢
      exact Std.TransCmp.isLE_trans le le'
    · intro one two
      have either := @Std.OrientedCmp.eq_swap _ order _ one.1 two.1
      cases here : order two.1 one.1 <;> rw [here] at either <;> simp [either]

/-- Neighbours that differ are all that is needed, once the keys are sorted. -/
theorem pairwise_of_chain {environment : Environment}
    (sorted : environment.Pairwise fun one two => order one.1 two.1 ≠ .gt)
    (chain : environment.IsChain fun one two => order one.1 two.1 ≠ .eq) :
    environment.Pairwise fun one two => order one.1 two.1 ≠ .eq := by
  induction environment with
  | nil => exact .nil
  | cons one rest more =>
      rw [List.pairwise_cons] at sorted
      refine .cons ?_ (more sorted.2 chain.of_cons)
      cases rest with
      | nil => exact fun _ member => absurd member List.not_mem_nil
      | cons two rest =>
          have less : order one.1 two.1 = .lt :=
            (Ordering.isLE_iff_eq_lt_or_eq_eq.mp (Ordering.isLE_iff_ne_gt.mpr
              (sorted.1 two (.head rest)))).resolve_right (List.isChain_cons_cons.mp chain).1
          intro three member same
          rcases List.mem_cons.mp member with rfl | behind
          · rw [less] at same
            cases same
          · have least := (List.pairwise_cons.mp sorted.2).1 three behind
            have far : order one.1 three.1 = .lt :=
              Std.TransCmp.lt_of_lt_of_isLE less (Ordering.isLE_iff_ne_gt.mpr least)
            rw [far] at same
            cases same

end Order

/-! ### The block -/

section Block

variable {order : Wide → Wide → Ordering}

structure Fine (entry : Wide × Wide) : Prop where
  key : entry.1 ≠ []
  equals : EQUALS ∉ entry.1
  key_nul : NUL ∉ entry.1
  value_nul : NUL ∉ entry.2

def entryUnits (entry : Wide × Wide) : Wide := entry.1 ++ [EQUALS] ++ entry.2

def Distinct (order : Wide → Wide → Ordering) (keys : List Wide) : Prop :=
  keys.IsChain fun one two => order one two ≠ .eq

theorem wide_entry {entry : Wide × Wide} (fine : Fine entry) :
    wide (entry.1 ++ [EQUALS] ++ entry.2) = some (entryUnits entry ++ [NUL]) := by
  have equals : NUL ≠ EQUALS := by decide
  simp [wide, entryUnits, fine.key_nul, fine.value_nul, equals]

section Step

variable {block key value : Wide} {previous : Option Wide} {rest : Environment}

theorem entriesBlock_bad (bad : key = [] ∨ EQUALS ∈ key) :
    entriesBlock order block previous ((key, value) :: rest) = none := by
  simp [entriesBlock, bad]

theorem entriesBlock_first (good : ¬(key = [] ∨ EQUALS ∈ key)) :
    entriesBlock order block none ((key, value) :: rest) =
      (wide (key ++ [EQUALS] ++ value)).bind fun entry =>
        entriesBlock order (block ++ entry) (some key) rest := by
  simp [entriesBlock, good]

theorem entriesBlock_next {prior : Wide} (good : ¬(key = [] ∨ EQUALS ∈ key))
    (compared : ordinal order prior key = some (order prior key)) :
    entriesBlock order block (some prior) ((key, value) :: rest) =
      if order prior key = .eq then none
      else (wide (key ++ [EQUALS] ++ value)).bind fun entry =>
        entriesBlock order (block ++ entry) (some key) rest := by
  by_cases same : order prior key = .eq
  · simp [entriesBlock, good, compared, same]
  · simp [entriesBlock, good, compared, same]

end Step

def Comparable (order : Wide → Wide → Ordering) (keys : List Wide) : Prop :=
  keys.IsChain fun one two => ordinal order one two = some (order one two)

def keysFrom (previous : Option Wide) (entries : Environment) : List Wide :=
  previous.toList ++ entries.map Prod.fst

theorem entriesBlock_eq {entries : Environment} (block : Wide) (previous : Option Wide)
    (comparable : Comparable order (keysFrom previous entries))
    (fine : ∀ entry ∈ entries, Fine entry) (distinct : Distinct order (keysFrom previous entries)) :
    entriesBlock order block previous entries =
      some (block ++ entries.flatMap fun entry => entryUnits entry ++ [NUL]) := by
  induction entries generalizing block previous with
  | nil => simp [entriesBlock]
  | cons entry rest more =>
      obtain ⟨key, value⟩ := entry
      have this := fine _ (.head rest)
      have good : ¬(key = [] ∨ EQUALS ∈ key) := not_or.mpr ⟨this.key, this.equals⟩
      have written := wide_entry this
      have others : ∀ entry ∈ rest, Fine entry := fun entry member => fine entry (.tail _ member)
      have behind (comparable : Comparable order (keysFrom (some key) rest))
          (distinct : Distinct order (keysFrom (some key) rest)) :=
        more (block ++ (entryUnits (key, value) ++ [NUL])) (some key) comparable others distinct
      cases previous with
      | none =>
          rw [entriesBlock_first good, written, Option.bind_some, behind comparable distinct]
          simp
      | some prior =>
          have compared := List.isChain_cons_cons.mp comparable
          have differ := List.isChain_cons_cons.mp distinct
          rw [entriesBlock_next good compared.1, if_neg differ.1, written, Option.bind_some,
            behind compared.2 differ.2]
          simp

/-- What is accepted had to be. -/
theorem fine_of_entriesBlock {entries : Environment} {block out : Wide} {previous : Option Wide}
    (comparable : Comparable order (keysFrom previous entries))
    (done : entriesBlock order block previous entries = some out) :
    (∀ entry ∈ entries, Fine entry) ∧ Distinct order (keysFrom previous entries) := by
  induction entries generalizing block previous with
  | nil =>
      refine ⟨fun entry member => absurd member List.not_mem_nil, ?_⟩
      cases previous with
      | none => exact .nil
      | some prior => exact .singleton prior
  | cons entry rest more =>
      obtain ⟨key, value⟩ := entry
      have good : ¬(key = [] ∨ EQUALS ∈ key) := by
        intro bad
        rw [entriesBlock_bad bad] at done
        cases done
      have taken {block : Wide} (comparable : Comparable order (keysFrom (some key) rest))
          (done : ((wide (key ++ [EQUALS] ++ value)).bind fun entry =>
            entriesBlock order (block ++ entry) (some key) rest) = some out) :
          (∀ entry ∈ (key, value) :: rest, Fine entry) ∧
            Distinct order (keysFrom (some key) rest) := by
        obtain ⟨units, written, done⟩ := Option.bind_eq_some_iff.mp done
        obtain ⟨others, distinct⟩ := more comparable done
        have none : NUL ∉ key ++ [EQUALS] ++ value := by
          intro nul
          rw [wide, if_pos nul] at written
          cases written
        simp only [List.mem_append, not_or] at none
        refine ⟨List.forall_mem_cons.mpr ⟨⟨?_, ?_, none.1.1, none.2⟩, others⟩, distinct⟩
        · exact fun empty => good (.inl empty)
        · exact fun equals => good (.inr equals)
      cases previous with
      | none =>
          rw [entriesBlock_first good] at done
          exact taken comparable done
      | some prior =>
          have compared := List.isChain_cons_cons.mp comparable
          rw [entriesBlock_next good compared.1] at done
          split at done
          · cases done
          · next differ =>
              obtain ⟨fine, distinct⟩ := taken compared.2 done
              exact ⟨fine, List.isChain_cons_cons.mpr ⟨differ, distinct⟩⟩

theorem comparable_sorted {environment : Environment} (fails : sortFails environment = false) :
    Comparable order (keysFrom none (sortBy order environment)) := by
  have perm := @sortBy_perm order environment
  rcases sortFails_eq_false fails with few | short
  · rw [← perm.length_eq] at few
    match sortBy order environment, few with
    | [], _ => exact .nil
    | [entry], _ => exact .singleton entry.1
  · have all : ∀ key ∈ keysFrom none (sortBy order environment), key.length ≤ I32_MAX := by
      intro key member
      obtain ⟨entry, given, rfl⟩ := List.mem_map.mp member
      exact short entry (perm.mem_iff.mp given)
    refine List.Pairwise.isChain (List.pairwise_iff_forall_sublist.mpr fun sub => ?_)
    exact ordinal_of_short (all _ (sub.subset (by simp))) (all _ (sub.subset (by simp)))

theorem environmentBlock_eq {environment : Environment} (fails : sortFails environment = false) :
    environmentBlock order environment =
      (entriesBlock order [] none (sortBy order environment)).bind fun block =>
        some (if block = [] then [NUL, NUL] else block ++ [NUL]) := by
  unfold environmentBlock
  rw [fails]
  cases entriesBlock order [] none (sortBy order environment) with
  | none => simp
  | some block => cases block <;> simp

theorem environmentBlock_fails {environment : Environment} (fails : sortFails environment = true) :
    environmentBlock order environment = none := by
  simp [environmentBlock, fails]

/-- The strings of a block are its entries. -/
theorem blockStrings_text (text more rest : Wide) (none : NUL ∉ more) :
    blockStrings text (more ++ rest) = blockStrings (text ++ more) rest := by
  induction more generalizing text with
  | nil => simp
  | cons unit more step =>
      simp only [List.mem_cons, not_or] at none
      rw [List.cons_append, blockStrings, if_neg (Ne.symm none.1), step _ none.2,
        List.append_assoc, List.singleton_append]

theorem entryUnits_ne (entry : Wide × Wide) : entryUnits entry ≠ [] := by
  simp [entryUnits]

theorem not_mem_entryUnits {entry : Wide × Wide} (fine : Fine entry) : NUL ∉ entryUnits entry := by
  have equals : NUL ≠ EQUALS := by decide
  simp [entryUnits, fine.key_nul, fine.value_nul, equals]

theorem blockStrings_entries {entries : Environment} (fine : ∀ entry ∈ entries, Fine entry)
    (rest : Wide) :
    blockStrings [] ((entries.flatMap fun entry => entryUnits entry ++ [NUL]) ++ NUL :: rest) =
      entries.map entryUnits := by
  induction entries with
  | nil => simp [blockStrings]
  | cons entry entries more =>
      have this := fine _ (.head entries)
      have others : ∀ entry ∈ entries, Fine entry := fun entry member => fine entry (.tail _ member)
      have one := blockStrings_text [] (entryUnits entry) (NUL ::
        ((entries.flatMap fun entry => entryUnits entry ++ [NUL]) ++ NUL :: rest))
        (not_mem_entryUnits this)
      rw [List.nil_append, blockStrings, if_pos rfl, if_neg (entryUnits_ne entry), more others]
        at one
      rw [List.map_cons, ← one]
      simp

theorem splitEntry_eq {entry : Wide × Wide} (none : EQUALS ∉ entry.1) :
    splitEntry (entryUnits entry) = entry := by
  have others : ∀ unit ∈ entry.1, decide (unit ≠ EQUALS) = true := fun unit member =>
    decide_eq_true fun same => none (same ▸ member)
  unfold splitEntry entryUnits
  rw [List.append_assoc, List.takeWhile_append_of_pos others, List.dropWhile_append_of_pos others]
  simp

theorem decodeBlock_entries {entries : Environment} (fine : ∀ entry ∈ entries, Fine entry)
    (rest : Wide) :
    decodeBlock ((entries.flatMap fun entry => entryUnits entry ++ [NUL]) ++ NUL :: rest) =
      entries := by
  rw [decodeBlock, blockStrings_entries fine, List.map_map]
  refine (List.map_congr_left fun entry member => ?_).trans (List.map_id entries)
  exact splitEntry_eq (fine entry member).equals

end Block

/-! ### Launches -/

section Launches

variable {order : Wide → Wide → Ordering} [Std.TransCmp order] {executable : Wide}
  {arguments : List Wide} {environment : Environment}

theorem differ_symm {one two : Wide × Wide} (differ : order one.1 two.1 ≠ .eq) :
    order two.1 one.1 ≠ .eq := by
  rw [@Std.OrientedCmp.eq_swap _ order, ne_eq, Ordering.swap_eq_eq]
  exact differ

/-- That neighbours differ in the sorted list says that every two keys do. -/
theorem distinct_sorted_iff (fails : sortFails environment = false) :
    Distinct order (keysFrom none (sortBy order environment)) ↔
      environment.Pairwise fun one two => order one.1 two.1 ≠ .eq := by
  have keys : Distinct order (keysFrom none (sortBy order environment)) ↔
      (sortBy order environment).IsChain fun one two => order one.1 two.1 ≠ .eq :=
    List.isChain_map Prod.fst
  rw [keys, ← List.Perm.pairwise_iff differ_symm (@sortBy_perm order environment)]
  exact ⟨pairwise_of_chain (sortBy_sorted fails), List.Pairwise.isChain⟩

/-- What the block of some entries is closed with. -/
theorem terminated (entries : Environment) :
    ∃ front rest, (if (entries.flatMap fun entry => entryUnits entry ++ [NUL]) = [] then [NUL, NUL]
        else (entries.flatMap fun entry => entryUnits entry ++ [NUL]) ++ [NUL]) =
          front ++ [NUL, NUL] ∧
        front ++ [NUL, NUL] =
          (entries.flatMap fun entry => entryUnits entry ++ [NUL]) ++ NUL :: rest := by
  rcases List.eq_nil_or_concat entries with rfl | ⟨others, last, rfl⟩
  · exact ⟨[], [NUL], by simp, by simp⟩
  · refine ⟨(others.flatMap fun entry => entryUnits entry ++ [NUL]) ++ entryUnits last, [], ?_, ?_⟩
    · rw [if_neg (by simp [entryUnits])]
      simp
    · simp

theorem environmentBlock_some {block : Wide}
    (done : environmentBlock order environment = some block) :
    (∀ entry ∈ environment, Fine entry) ∧
      (environment.Pairwise fun one two => order one.1 two.1 ≠ .eq) ∧
        (∃ front, block = front ++ [NUL, NUL]) ∧ decodeBlock block = sortBy order environment ∧
          sortFails environment = false := by
  cases fails : sortFails environment with
  | true =>
      rw [environmentBlock_fails fails] at done
      cases done
  | false =>
      rw [environmentBlock_eq fails] at done
      obtain ⟨units, listed, closed⟩ := Option.bind_eq_some_iff.mp done
      have comparable := @comparable_sorted order _ fails
      obtain ⟨fine, distinct⟩ := fine_of_entriesBlock comparable listed
      rw [entriesBlock_eq [] none comparable fine distinct, List.nil_append] at listed
      obtain rfl := Option.some.inj listed
      obtain ⟨front, rest, ends, whole⟩ := terminated (sortBy order environment)
      rw [ends] at closed
      obtain rfl := Option.some.inj closed
      refine ⟨fun entry given => ?_, (distinct_sorted_iff fails).mp distinct, ⟨front, rfl⟩, ?_, rfl⟩
      · exact fine entry ((sortBy_perm environment).mem_iff.mpr given)
      · rw [whole, decodeBlock_entries fine]

theorem environmentBlock_none (done : environmentBlock order environment = none) :
    sortFails environment = true ∨ (∃ entry ∈ environment, ¬Fine entry) ∨
      ¬environment.Pairwise fun one two => order one.1 two.1 ≠ .eq := by
  cases fails : sortFails environment with
  | true => exact .inl rfl
  | false =>
      refine .inr (Classical.byContradiction fun neither => ?_)
      simp only [not_or, not_exists, not_and, not_not] at neither
      have fine : ∀ entry ∈ sortBy order environment, Fine entry := fun entry member =>
        neither.1 entry ((sortBy_perm environment).mem_iff.mp member)
      rw [environmentBlock_eq fails, entriesBlock_eq [] none (comparable_sorted fails) fine
        ((distinct_sorted_iff fails).mpr neither.2)] at done
      cases done

def Oversize (environment : Environment) : Prop :=
  2 ≤ environment.length ∧ ∃ entry ∈ environment, I32_MAX < entry.1.length

theorem sortFails_eq_true : sortFails environment = true ↔ Oversize environment := by
  simp [sortFails, Oversize]

omit [Std.TransCmp order] in
theorem spawnStrings_eq : spawnStrings order executable arguments environment =
    (wide executable).bind fun application =>
      (commandLine executable arguments).bind fun command =>
        (environmentBlock order environment).bind fun block =>
          some ⟨application, command, block⟩ := rfl

theorem faithful_of_some {launch : Launch}
    (done : spawnStrings order executable arguments environment = some launch) :
    Faithful order executable arguments environment launch ∧
      ¬(Refused order executable arguments environment ∨ Oversize environment) := by
  rw [spawnStrings_eq] at done
  obtain ⟨application, named, done⟩ := Option.bind_eq_some_iff.mp done
  obtain ⟨command, given, done⟩ := Option.bind_eq_some_iff.mp done
  obtain ⟨block, listed, done⟩ := Option.bind_eq_some_iff.mp done
  obtain rfl := Option.some.inj done
  obtain ⟨fine, differ, ends, decoded, fits⟩ := environmentBlock_some listed
  rw [commandLine_eq] at given
  split at given
  · cases given
  next none =>
  simp only [not_or, not_exists, not_and] at none
  obtain rfl := Option.some.inj given
  have units : NUL ∉ QUOTE :: escape 0 executable ++ tail arguments := by
    simp only [List.cons_append, List.mem_cons, List.mem_append, not_or]
    exact ⟨by decide, not_mem_escape none.1 0, not_mem_tail none.2⟩
  have line := takeWhile_line units
  constructor
  · refine ⟨?_, ?_, fun file => ?_, ends, ?_, ?_⟩
    · rw [wide, if_neg none.1] at named
      exact (Option.some.inj named).symm
    · rw [line, arguments_quoted]
    · rw [line, argv_quoted file]
    · rw [decoded]
      exact sortBy_sorted fits
    · rw [decoded]
      exact sortBy_perm environment
  · rintro (refused | oversize)
    · cases refused with
      | executable nul => exact none.1 nul
      | argument member nul => exact none.2 _ member nul
      | key member bad => exact bad.elim (fine _ member).key (fine _ member).equals
      | entry member nul => exact nul.elim (fine _ member).key_nul (fine _ member).value_nul
      | twice some => exact some differ
    · rw [sortFails_eq_true.mpr oversize] at fits
      cases fits

theorem refused_of_none (done : spawnStrings order executable arguments environment = none) :
    Refused order executable arguments environment ∨ Oversize environment := by
  by_cases nul : NUL ∈ executable
  · exact .inl (.executable nul)
  by_cases given : ∃ argument ∈ arguments, NUL ∈ argument
  · obtain ⟨argument, member, nul⟩ := given
    exact .inl (.argument member nul)
  rw [spawnStrings_eq, wide, if_neg nul, Option.bind_some, commandLine_eq,
    if_neg (not_or.mpr ⟨nul, given⟩), Option.bind_some, Option.bind_eq_none_iff] at done
  have unlisted : environmentBlock order environment = none := by
    cases listed : environmentBlock order environment with
    | none => rfl
    | some block => exact absurd (done block listed) (by simp)
  rcases environmentBlock_none unlisted with fails | ⟨entry, member, bad⟩ | some
  · exact .inr (sortFails_eq_true.mp fails)
  · by_cases key : entry.1 = [] ∨ EQUALS ∈ entry.1
    · exact .inl (.key member key)
    · refine .inl (.entry member (Classical.byContradiction fun neither => bad ?_))
      simp only [not_or] at key neither
      exact ⟨key.1, key.2, neither.1, neither.2⟩
  · exact .inl (.twice some)

end Launches

/-! ### The launch -/

theorem bind_ok_iff {α β : Type} {first : Except Failure α} {next : α → Except Failure β}
    {value : β} : (first >>= next) = .ok value ↔
      ∃ given, first = .ok given ∧ next given = .ok value := by
  cases first with
  | error failure =>
      refine iff_of_false (fun failed => by cases failed) ?_
      rintro ⟨_, none, -⟩
      cases none
  | ok given =>
      refine ⟨fun done => ⟨given, rfl, done⟩, ?_⟩
      rintro ⟨_, same, done⟩
      cases same
      exact done

@[simp] theorem ensure_ok_iff {ok : Bool} {failure : Failure} {done : Unit} :
    ensure ok failure = .ok done ↔ ok = true := by
  cases ok <;> simp [ensure]

theorem forM_ok_iff {α : Type} {check : α → Except Failure Unit} {items : List α} :
    items.forM check = .ok () ↔ ∀ item ∈ items, check item = .ok () := by
  induction items with
  | nil => exact iff_of_true rfl (List.forall_mem_nil _)
  | cons item items next =>
      have step : (item :: items).forM check = (check item >>= fun _ => items.forM check) := rfl
      rw [step, bind_ok_iff, List.forall_mem_cons, ← next]
      constructor
      · rintro ⟨_, both⟩
        exact both
      · exact fun both => ⟨(), both⟩

/-- The directories on the way to a path, of which the first is the root of its drive. -/
theorem mem_ancestors {directory : List Component} {drive : Component} (names : List Wide) :
    directory ∈ ancestors (names.map .normal ++ [.rootDir, drive]) ↔
      directory <+: (names.map Component.normal ++ [.rootDir, drive]).reverse ∧
        2 ≤ directory.length := by
  induction names with
  | nil =>
      have whole : ancestors [.rootDir, drive] = [[drive, .rootDir]] := rfl
      rw [List.map_nil, List.nil_append, whole, List.mem_singleton]
      constructor
      · rintro rfl
        exact ⟨List.prefix_rfl, Nat.le_refl 2⟩
      · exact fun up => up.1.eq_of_length_le up.2
  | cons name names next =>
      have more : ancestors ((name :: names).map .normal ++ [.rootDir, drive]) =
          ((name :: names).map Component.normal ++ [.rootDir, drive]).reverse ::
            ancestors (names.map .normal ++ [.rootDir, drive]) := rfl
      rw [more, List.mem_cons, next, List.map_cons, List.cons_append, List.reverse_cons,
        List.prefix_concat_iff]
      constructor
      · rintro (rfl | up)
        · exact ⟨.inl rfl, by simp⟩
        · exact ⟨.inr up.1, up.2⟩
      · rintro ⟨rfl | up, long⟩
        · exact .inl rfl
        · exact .inr ⟨up, long⟩

theorem names_of_normal {rest : List Component} (normal : rest.all isNormal = true) :
    ∃ names : List Wide, rest = names.map .normal := by
  induction rest with
  | nil => exact ⟨[], rfl⟩
  | cons component rest next =>
      rw [List.all_cons, Bool.and_eq_true] at normal
      obtain ⟨names, rfl⟩ := next normal.2
      cases component with
      | normal name => exact ⟨name :: names, rfl⟩
      | _ => cases normal.1

theorem all_normal (names : List Wide) : (names.map Component.normal).all isNormal = true :=
  List.all_eq_true.mpr fun component member => by
    obtain ⟨name, -, rfl⟩ := List.mem_map.mp member
    rfl

theorem lockAncestor_ok_iff {native : Native} {path : List Component} :
    lockAncestor native path = .ok () ↔ ∃ metadata, native.directory path = .ok metadata ∧
      metadata.isDir = true ∧ metadata.reparse = false := by
  simp only [lockAncestor, bind_ok_iff, ensure_ok_iff, Bool.and_eq_true, Bool.not_eq_true']

/-- For a path of this shape, every directory above the last name is looked at. -/
theorem lockAncestors_names {native : Native} {executable raw : Wide} {letter : Unit16}
    {front : List Wide} {last : Wide} (shape : components executable =
      .pre raw (.disk letter) :: .rootDir :: (front ++ [last]).map .normal) :
    lockAncestors native executable = .ok () ↔
      ∀ directory, directory <+: .pre raw (.disk letter) :: .rootDir :: front.map .normal →
        2 ≤ directory.length → lockAncestor native directory = .ok () := by
  have above : parent (.pre raw (.disk letter) :: .rootDir ::
      (front ++ [last]).map Component.normal).reverse =
        some (front.reverse.map .normal ++ [.rootDir, .pre raw (.disk letter)]) := by
    simp [parent]
  have whole : (front.reverse.map Component.normal ++
      [Component.rootDir, .pre raw (.disk letter)]).reverse =
        .pre raw (.disk letter) :: .rootDir :: front.map .normal := by
    simp
  have unfolded : lockAncestors native executable =
      (ancestors (front.reverse.map .normal ++ [.rootDir, .pre raw (.disk letter)])).reverse.forM
        (lockAncestor native) := by
    rw [lockAncestors, shape]
    dsimp only
    rw [all_normal, above]
    rfl
  rw [unfolded, forM_ok_iff]
  simp only [List.mem_reverse, mem_ancestors, whole, and_imp]

theorem lockAncestors_ok_iff {native : Native} {executable : Wide} :
    lockAncestors native executable = .ok () ↔
      (∃ raw letter names, names ≠ [] ∧
        components executable = .pre raw (.disk letter) :: .rootDir :: names.map .normal) ∧
      ∀ front last, components executable = front ++ [last] →
        ∀ directory, directory <+: front → 2 ≤ directory.length →
          lockAncestor native directory = .ok () := by
  constructor
  · intro locked
    obtain ⟨raw, letter, names, shape⟩ : ∃ (raw : Wide) (letter : Unit16) (names : List Wide),
        components executable = .pre raw (.disk letter) :: .rootDir :: names.map .normal := by
      rw [lockAncestors] at locked
      split at locked
      · next raw letter rest shape =>
          obtain ⟨_, normal, -⟩ := bind_ok_iff.mp locked
          obtain ⟨names, rfl⟩ := names_of_normal (ensure_ok_iff.mp normal)
          exact ⟨raw, letter, names, shape⟩
      · cases locked
      · cases locked
    rcases List.eq_nil_or_concat names with rfl | ⟨front, last, rfl⟩
    · -- The root of a drive has no parent.
      have refused : lockAncestors native executable = .error .invalidInput := by
        rw [lockAncestors, shape]
        rfl
      rw [refused] at locked
      cases locked
    · rw [List.concat_eq_append] at shape
      refine ⟨⟨raw, letter, front ++ [last], by simp, shape⟩, fun before final same => ?_⟩
      rw [shape, List.map_append, ← List.cons_append, ← List.cons_append] at same
      obtain ⟨rfl, -⟩ := List.append_inj' same rfl
      exact (lockAncestors_names shape).mp locked
  · rintro ⟨⟨raw, letter, names, some_name, shape⟩, above⟩
    obtain ⟨front, last, rfl⟩ := (List.eq_nil_or_concat names).resolve_left some_name
    rw [List.concat_eq_append] at shape
    refine (lockAncestors_names shape).mpr (above _ (.normal last) ?_)
    rw [shape]
    simp

/-- A path on a drive is absolute. -/
theorem isAbsolute_of_components {executable raw : Wide} {letter : Unit16} {rest : List Component}
    (shape : components executable = .pre raw (.disk letter) :: .rootDir :: rest) :
    isAbsolute executable = true := by
  simp [isAbsolute, WindowsPath.hasRoot, WindowsPath.hasPhysicalRoot_of_components rfl shape,
    WindowsPath.parsePrefix_of_components shape]

theorem placed_iff {native : Native} {executable : Wide} : Placed native executable ↔
    lockAncestors native executable = .ok () ∧
      (∃ metadata, native.image = .ok metadata ∧ metadata.isFile = true ∧
        metadata.reparse = false) ∧
      ∃ id, native.imageId = .ok id ∧ native.expectedId = .ok id := by
  rw [lockAncestors_ok_iff]
  simp only [lockAncestor_ok_iff]
  exact ⟨fun placed => ⟨⟨placed.path, placed.above⟩, placed.image, placed.identity⟩,
    fun all => ⟨all.1.1, all.1.2, all.2.1, all.2.2⟩⟩

theorem spawnPrepared_ok_iff {order : Wide → Wide → Ordering} {native : Native}
    {executable : Wide} {environment : Environment} {launch : Launch} :
    spawnPrepared order native executable environment = .ok launch ↔
      Passes native executable ∧ ∃ arguments, native.arguments = .ok arguments ∧
        spawnStrings order executable arguments environment = some launch := by
  have strings : ∀ {made : Option Launch},
      (made.elim (.error .invalidInput) .ok : Except Failure Launch) = .ok launch ↔
        made = some launch := by
    intro made
    cases made with
    | none => exact iff_of_false (fun failed => by cases failed) (fun none => by cases none)
    | some made =>
        change (Except.ok made : Except Failure Launch) = .ok launch ↔ _
        rw [Except.ok.injEq, Option.some.injEq]
  constructor
  · intro done
    simp only [spawnPrepared, bind_ok_iff, ensure_ok_iff, Bool.and_eq_true, Bool.not_eq_true',
      decide_eq_true_iff] at done
    -- One layer of the bind for each check or call of the source, in its order.
    obtain ⟨_, _, _, locked, metadata, image, _, regular, one, first, two, second, _, same,
      arguments, given, _, standard, made, built, _, attributes, _, gate, _, inheritance, last⟩ := done
    subst same
    cases last
    refine ⟨⟨placed_iff.mpr ⟨locked, ⟨metadata, image, regular⟩, one, first, second⟩,
      ⟨arguments, given⟩, standard, attributes, gate, inheritance⟩, arguments, given, ?_⟩
    exact strings.mp built
  · rintro ⟨passes, arguments, given, built⟩
    obtain ⟨locked, ⟨metadata, image, regular⟩, id, first, second⟩ := placed_iff.mp passes.placed
    obtain ⟨raw, letter, names, -, shape⟩ := passes.placed.path
    simp only [spawnPrepared, bind_ok_iff, ensure_ok_iff, Bool.and_eq_true, Bool.not_eq_true',
      decide_eq_true_iff]
    exact ⟨(), isAbsolute_of_components shape, (), locked, metadata, image, (), regular, id, first,
      id, second, (), rfl, arguments, given, (), passes.standard, launch, strings.mpr built, (),
      passes.attributes, (), passes.gate, (), passes.inheritance, rfl⟩

/-- A launch hands over what it was made of, and does not come to that exactly when something else
fails or its strings are refused. -/
theorem spawnPrepared_faithful {order : Wide → Wide → Ordering} [Std.TransCmp order]
    {native : Native} {executable : Wide} {environment : Environment} :
    (∀ launch, spawnPrepared order native executable environment = .ok launch →
      ∃ arguments, native.arguments = .ok arguments ∧
        Faithful order executable arguments environment launch) ∧
    ((∃ failure, spawnPrepared order native executable environment = .error failure) ↔
      ¬ Passes native executable ∨ ∃ arguments, native.arguments = .ok arguments ∧
        (Refused order executable arguments environment ∨ Oversize environment)) := by
  refine ⟨fun launch done => ?_, ?_, ?_⟩
  · obtain ⟨-, arguments, given, built⟩ := spawnPrepared_ok_iff.mp done
    exact ⟨arguments, given, (faithful_of_some built).1⟩
  · rintro ⟨failure, failed⟩
    refine or_iff_not_imp_left.mpr fun passes => ?_
    rw [not_not] at passes
    obtain ⟨arguments, given⟩ := passes.arguments
    cases built : spawnStrings order executable arguments environment with
    | none => exact ⟨arguments, given, refused_of_none built⟩
    | some launch =>
        rw [spawnPrepared_ok_iff.mpr ⟨passes, arguments, given, built⟩] at failed
        cases failed
  · intro why
    cases result : spawnPrepared order native executable environment with
    | error failure => exact ⟨failure, rfl⟩
    | ok launch =>
        obtain ⟨passes, arguments, given, built⟩ := spawnPrepared_ok_iff.mp result
        rcases why with fails | ⟨others, same, refused⟩
        · exact absurd passes fails
        · rw [given] at same
          cases same
          exact absurd refused (faithful_of_some built).2

/-! ### An order -/

def upper (unit : Unit16) : Unit16 := if 0x61 ≤ unit ∧ unit ≤ 0x7a then unit - 0x20 else unit

def ignoringCase (one two : Wide) : Ordering :=
  List.compareLex compare (one.map upper) (two.map upper)

instance ignoringCase_trans : Std.TransCmp ignoringCase where
  eq_swap {one two} := @Std.OrientedCmp.eq_swap _ (List.compareLex (compare : Unit16 → _)) _
    (one.map upper) (two.map upper)
  isLE_trans {one two three} := @Std.TransCmp.isLE_trans _
    (List.compareLex (compare : Unit16 → _)) _ (one.map upper) (two.map upper) (three.map upper)

/-! ### A host -/

def willing (arguments : List Wide) : Native where
  directory _ := .ok ⟨true, false, false⟩
  image := .ok ⟨false, true, false⟩
  imageId := .ok (1, 2, 3)
  expectedId := .ok (1, 2, 3)
  arguments := .ok arguments
  standard := .ok ()
  attributes := .ok ()
  gate := .ok ()
  inheritance := .ok ()

def sampleImage : Wide := [0x43, WindowsPath.COLON, BACKSLASH, 0x61]

theorem passes_willing (arguments : List Wide) : Passes (willing arguments) sampleImage where
  placed :=
    { path := ⟨[0x43, WindowsPath.COLON], 0x43, [[0x61]], by decide, by decide⟩
      above := fun _ _ _ _ _ _ => ⟨_, rfl, rfl, rfl⟩
      image := ⟨_, rfl, rfl, rfl⟩
      identity := ⟨_, rfl, rfl⟩ }
  arguments := ⟨_, rfl⟩
  standard := rfl
  attributes := rfl
  gate := rfl
  inheritance := rfl

/-- A quote between backslashes, and the variables `b` and `A`. -/
theorem spawnPrepared_faithful_ascii : ∃ launch,
    spawnPrepared ignoringCase (willing [[BACKSLASH, QUOTE, BACKSLASH]]) sampleImage
      [([0x62], [0x3d]), ([0x41], [])] = .ok launch ∧
    Faithful ignoringCase sampleImage [[BACKSLASH, QUOTE, BACKSLASH]]
      [([0x62], [0x3d]), ([0x41], [])] launch := by
  obtain ⟨faithful, fails⟩ := @spawnPrepared_faithful ignoringCase _
    (willing [[BACKSLASH, QUOTE, BACKSLASH]]) sampleImage [([0x62], [0x3d]), ([0x41], [])]
  cases result : spawnPrepared ignoringCase (willing [[BACKSLASH, QUOTE, BACKSLASH]]) sampleImage
      [([0x62], [0x3d]), ([0x41], [])] with
  | ok launch =>
      obtain ⟨arguments, given, done⟩ := faithful launch result
      cases given
      exact ⟨launch, rfl, done⟩
  | error failure =>
      rcases fails.mp ⟨failure, result⟩ with none | ⟨arguments, given, refused | long⟩
      · exact absurd (passes_willing _) none
      · cases given
        cases refused with
        | executable nul => exact absurd nul (by decide)
        | argument member nul =>
            rw [List.mem_singleton.mp member] at nul
            exact absurd nul (by decide)
        | key member bad =>
            rcases List.mem_pair.mp member with rfl | rfl
            · exact absurd bad (by decide)
            · exact absurd bad (by decide)
        | entry member nul =>
            rcases List.mem_pair.mp member with rfl | rfl
            · exact absurd nul (by decide)
            · exact absurd nul (by decide)
        | twice same => exact absurd (List.pairwise_pair.mpr (by decide)) same
      · obtain ⟨-, entry, member, oversize⟩ := long
        rcases List.mem_pair.mp member with rfl | rfl
        · exact absurd oversize (by decide)
        · exact absurd oversize (by decide)

/-- Two keys, of which one has more units than `CompareStringOrdinal` can be told. -/
def longKeys (length : Nat) : Environment := [([0x42], []), (List.replicate (length + 1) 0x41, [])]

theorem fine_longKeys {length : Nat} {entry : Wide × Wide} (given : entry ∈ longKeys length) :
    Fine entry := by
  have equals : EQUALS ≠ 0x41 := by decide
  have nul : NUL ≠ 0x41 := by decide
  rcases List.mem_pair.mp given with rfl | rfl
  · exact ⟨by decide, by decide, by decide, by decide⟩
  · exact ⟨by simp, by simp [equals], by simp [nul], by simp⟩

theorem not_refused_longKeys (length : Nat) :
    ¬Refused ignoringCase sampleImage [] (longKeys length) := by
  have differ : ignoringCase [0x42] (List.replicate (length + 1) 0x41) = .gt := rfl
  rintro (nul | ⟨given, -⟩ | ⟨given, bad⟩ | ⟨given, nul⟩ | some)
  · exact absurd nul (by decide)
  · exact absurd given List.not_mem_nil
  · exact bad.elim (fine_longKeys given).key (fine_longKeys given).equals
  · exact nul.elim (fine_longKeys given).key_nul (fine_longKeys given).value_nul
  · exact some (List.pairwise_pair.mpr (by rw [differ]; decide))

/-- They are refused for another reason than the ones that are meant, where nothing else fails. -/
theorem long_key_refused :
    Passes (willing []) sampleImage ∧ (willing []).arguments = .ok [] ∧
      ¬Refused ignoringCase sampleImage [] (longKeys I32_MAX) ∧
      ∀ launch, spawnPrepared ignoringCase (willing []) sampleImage (longKeys I32_MAX) ≠
        .ok launch := by
  have long : I32_MAX < (List.replicate (I32_MAX + 1) (0x41 : Unit16)).length := by
    rw [List.length_replicate]
    exact Nat.lt_succ_self _
  have fails : sortFails (longKeys I32_MAX) = true :=
    sortFails_eq_true.mpr ⟨Nat.le_refl 2, _, .tail _ (.head _), long⟩
  have refused : spawnStrings ignoringCase sampleImage [] (longKeys I32_MAX) = none := by
    simp only [spawnStrings_eq, environmentBlock_fails fails, Option.bind_none, Option.bind_fun_none]
  refine ⟨passes_willing [], rfl, not_refused_longKeys I32_MAX, fun launch done => ?_⟩
  obtain ⟨-, arguments, given, built⟩ := spawnPrepared_ok_iff.mp done
  cases given
  rw [refused] at built
  cases built

end Bscp.Virtmgr.WindowsCommand
