import Bscp.Virtmgr.DesktopApex
import Mathlib.Data.List.Forall2

/-!
The order in which a directory gives its entries, and the order of the directories, leave no trace
in what is discovered. The set of the names only serves to refuse a name that comes twice, so the
loop is a fold over what each entry is on its own.
-/

namespace Bscp.Virtmgr.DesktopApex

/-! ### What is found, whatever the order -/

def Root.judge (root : Root) (entry : Except Failure DirEntry) :
    Except Failure (Option Candidate) := do
  let entry ← entry
  if !isArtifact entry.fileName then return none
  if !(← entry.isFile) then throw (.notRegular (root.path.join entry.fileName))
  let name ← moduleName entry.fileName
  let seconds ← entry.modified
  return some (root.candidate entry.fileName name seconds)

def Found.absorb (found : Found) : Except Failure (Option Candidate) → Except Failure Found
  | .error error => .error error
  | .ok none => .ok found
  | .ok (some candidate) =>
      if found.seen.contains candidate.name then .error (.duplicate candidate.name)
      else .ok ⟨candidate.name :: found.seen, found.entries ++ [candidate]⟩

def Root.judged (root : Root) : List (Except Failure (Option Candidate)) :=
  match root.reading with
  | .missing => []
  | .failed => [.error (.reading root.path)]
  | .entries list => list.map root.judge

def judged (roots : List Root) : List (Except Failure (Option Candidate)) :=
  roots.flatMap Root.judged

def picked : Except Failure (Option Candidate) → Option Candidate
  | .error _ => none
  | .ok candidate => candidate

def candidates (roots : List Root) : List Candidate := (judged roots).filterMap picked

def Readable (items : List (Except Failure (Option Candidate))) : Prop :=
  ∀ item ∈ items, ∃ candidate, item = .ok candidate

section Discover

variable {root : Root} {roots : List Root} {found next : Found} {entry : Except Failure DirEntry}
  {items : List (Except Failure (Option Candidate))}

theorem mem_left {α β : Type} {related : α → β → Prop} {xs : List α} {ys : List β} {y : β}
    (matched : List.Forall₂ related xs ys) (inside : y ∈ ys) : ∃ x ∈ xs, related x y := by
  induction matched with
  | nil => cases inside
  | cons first _ ih =>
    rcases List.mem_cons.mp inside with rfl | later
    · exact ⟨_, List.mem_cons_self, first⟩
    · obtain ⟨x, within, related⟩ := ih later
      exact ⟨x, List.mem_cons_of_mem _ within, related⟩

theorem visit_ok_iff :
    visit root found entry = .ok next ↔ found.absorb (root.judge entry) = .ok next := by
  cases entry with
  | error error => rfl
  | ok entry =>
    simp only [visit, Root.judge, bind, pure, Except.bind, Except.pure, throw, throwThe,
      MonadExceptOf.throw]
    cases isArtifact entry.fileName with
    | false => rfl
    | true =>
      cases entry.isFile with
      | error error => rfl
      | ok regular =>
        cases regular with
        | false => rfl
        | true =>
          cases moduleName entry.fileName with
          | error error => rfl
          | ok name =>
            cases entry.modified with
            | error error => by_cases seen : name ∈ found.seen <;> simp [seen, Found.absorb]
            | ok seconds =>
              by_cases seen : name ∈ found.seen <;> simp [seen, Found.absorb, Root.candidate]

theorem foldlM_ok_cons {σ α : Type} {f : σ → α → Except Failure σ} {s t : σ} {x : α} {xs : List α} :
    (x :: xs).foldlM f s = .ok t ↔ ∃ m, f s x = .ok m ∧ xs.foldlM f m = .ok t := by
  rw [List.foldlM_cons]
  cases f s x <;> simp [bind, Except.bind]

theorem foldlM_ok_append {σ α : Type} {f : σ → α → Except Failure σ} {s t : σ} {xs ys : List α} :
    (xs ++ ys).foldlM f s = .ok t ↔ ∃ m, xs.foldlM f s = .ok m ∧ ys.foldlM f m = .ok t := by
  rw [List.foldlM_append]
  cases xs.foldlM f s <;> simp [bind, Except.bind]

theorem entries_ok_iff {list : List (Except Failure DirEntry)} :
    list.foldlM (visit root) found = .ok next ↔
      (list.map root.judge).foldlM Found.absorb found = .ok next := by
  induction list generalizing found with
  | nil => rfl
  | cons entry rest ih => simp only [List.map_cons, foldlM_ok_cons, visit_ok_iff, ih]

theorem readRoot_ok_iff :
    readRoot found root = .ok next ↔ root.judged.foldlM Found.absorb found = .ok next := by
  unfold readRoot Root.judged
  cases root.reading with
  | missing => rfl
  | failed => rfl
  | entries list => exact entries_ok_iff

theorem roots_ok_iff :
    roots.foldlM readRoot found = .ok next ↔
      (judged roots).foldlM Found.absorb found = .ok next := by
  induction roots generalizing found with
  | nil => rfl
  | cons root rest ih =>
    simp only [judged, List.flatMap_cons, foldlM_ok_cons, foldlM_ok_append, readRoot_ok_iff]
    simp only [ih, judged]

/-- The loop goes through when everything can be read and no name comes twice. -/
theorem absorb_ok_iff :
    items.foldlM Found.absorb found = .ok next ↔
      Readable items ∧ ((items.filterMap picked).map Candidate.name).Nodup ∧
        (∀ candidate ∈ items.filterMap picked, candidate.name ∉ found.seen) ∧
        next = ⟨((items.filterMap picked).map Candidate.name).reverse ++ found.seen,
          found.entries ++ items.filterMap picked⟩ := by
  induction items generalizing found with
  | nil => simp [Readable, pure, Except.pure, eq_comm]
  | cons item rest ih =>
    rw [foldlM_ok_cons]
    cases item with
    | error error => simp [Found.absorb, Readable]
    | ok option =>
      cases option with
      | none =>
        have same : (.ok none :: rest).filterMap picked = rest.filterMap picked := rfl
        simp [Found.absorb, Readable, same, ih]
      | some candidate =>
        by_cases seen : candidate.name ∈ found.seen
        · simp [Found.absorb, seen, picked]
        · have taken : (.ok (some candidate) :: rest).filterMap picked =
              candidate :: rest.filterMap picked := rfl
          have readable : Readable (.ok (some candidate) :: rest) ↔ Readable rest := by
            simp [Readable]
          -- The name that is new in the set stands behind no later one.
          have apart : (∀ other ∈ rest.filterMap picked, other.name ∉ candidate.name :: found.seen) ↔
              candidate.name ∉ (rest.filterMap picked).map Candidate.name ∧
                ∀ other ∈ rest.filterMap picked, other.name ∉ found.seen := by
            grind
          simp only [Found.absorb, List.contains_iff_mem, seen, if_false, Except.ok.injEq,
            exists_eq_left', ih, taken, readable, apart, List.map_cons, List.nodup_cons,
            List.forall_mem_cons, List.reverse_cons, List.append_assoc, List.singleton_append,
            not_false_eq_true, true_and]
          tauto

theorem discoverFactory_ok_iff {list : List Candidate} :
    discoverFactory roots = .ok list ↔
      Readable (judged roots) ∧ ((candidates roots).map Candidate.name).Nodup ∧
        candidates roots ≠ [] ∧ list = (candidates roots).insertionSort Candidate.Before := by
  have loop := @roots_ok_iff roots ⟨[], []⟩
  simp only [absorb_ok_iff, List.append_nil, List.nil_append] at loop
  rw [discoverFactory]
  cases read : roots.foldlM readRoot ⟨[], []⟩ with
  | error error =>
    constructor
    · intro returned
      cases returned
    · rintro ⟨readable, distinct, -, -⟩
      have passed := loop.mpr ⟨readable, distinct, by simp, rfl⟩
      rw [read] at passed
      cases passed
  | ok found =>
    obtain ⟨readable, distinct, -, rfl⟩ := loop.mp read
    change (if candidates roots = [] then Except.error
        (Failure.bail "Desktop product contains no factory APEX files")
      else Except.ok ((candidates roots).insertionSort Candidate.Before)) = Except.ok list ↔ _
    by_cases empty : candidates roots = []
    · simp [empty]
    · rw [if_neg empty]
      constructor
      · intro returned
        exact ⟨readable, distinct, empty, (Except.ok.inj returned).symm⟩
      · rintro ⟨-, -, -, rfl⟩
        rfl

end Discover

/-! ### The order of the entries -/

theorem order_injective : Function.Injective order :=
  List.map_injective_iff.mpr fun _ _ same => UInt8.toNat_inj.mp same

instance : Std.Total Candidate.Before := ⟨fun one two => le_total one.key two.key⟩

instance : IsTrans Candidate Candidate.Before := ⟨fun _ _ _ one two => le_trans one two⟩

section Sorted

variable {one two : Candidate} {list other : List Candidate}

theorem Candidate.Before.order_le (before : one.Before two) : order one.name ≤ order two.name := by
  rcases Prod.Lex.toLex_le_toLex.mp before with less | ⟨same, -⟩
  · exact le_of_lt less
  · exact le_of_eq same

theorem insertionSort_perm (same : list.Perm other) (distinct : (list.map Candidate.name).Nodup) :
    list.insertionSort Candidate.Before = other.insertionSort Candidate.Before := by
  have arranged := (list.perm_insertionSort Candidate.Before).trans
    (same.trans (other.perm_insertionSort Candidate.Before).symm)
  refine arranged.eq_of_pairwise (fun one two inOne inTwo before after => ?_)
    (List.pairwise_insertionSort _ _) (List.pairwise_insertionSort _ _)
  have names : one.name = two.name :=
    order_injective (le_antisymm before.order_le after.order_le)
  rw [List.mem_insertionSort] at inOne inTwo
  exact List.inj_on_of_nodup_map distinct inOne (same.mem_iff.mpr inTwo) names

theorem insertionSort_increasing (distinct : (list.map Candidate.name).Nodup) :
    (list.insertionSort Candidate.Before).Pairwise fun one two =>
      order one.name < order two.name := by
  have apart : (list.insertionSort Candidate.Before).Pairwise fun one two =>
      one.name ≠ two.name := by
    rw [← List.pairwise_map (f := Candidate.name)]
    exact ((list.perm_insertionSort _).map _).nodup_iff.mpr distinct
  exact (List.pairwise_insertionSort Candidate.Before list).imp₂
    (fun _ _ before apart => lt_of_le_of_ne before.order_le (order_injective.ne apart)) apart

theorem find_name {entry : Candidate} (distinct : (list.map Candidate.name).Nodup)
    (inside : entry ∈ list) : (list.find? fun other => other.name == entry.name) = some entry := by
  cases found : list.find? fun other => other.name == entry.name with
  | none => exact absurd (List.find?_eq_none.mp found entry inside) (by simp)
  | some other =>
    have same : other.name = entry.name := by simpa using List.find?_some found
    rw [List.inj_on_of_nodup_map distinct (List.mem_of_find?_eq_some found) inside same]

end Sorted

/-! ### The artifacts of the roots -/

def Root.listing (root : Root) : List (Except Failure DirEntry) :=
  match root.reading with
  | .missing | .failed => []
  | .entries list => list

def Root.artifact (root : Root) : Except Failure DirEntry → Option (Root × DirEntry)
  | .error _ => none
  | .ok entry => if isArtifact entry.fileName then some (root, entry) else none

def artifacts (roots : List Root) : List (Root × DirEntry) :=
  roots.flatMap fun root => root.listing.filterMap root.artifact

structure Describes (artifact : Root × DirEntry) (entry : Candidate) : Prop where
  regular : artifact.2.isFile = .ok true
  name : fileStem artifact.2.fileName = some entry.name
  source : entry.source = artifact.1.path.join artifact.2.fileName
  logical : entry.logical = artifact.1.logical.join artifact.2.fileName
  seconds : artifact.2.modified = .ok entry.seconds
  compressed : entry.compressed = true ↔ extension artifact.2.fileName = some CAPEX

section Artifacts

variable {root : Root} {roots : List Root} {entry : DirEntry} {candidate : Candidate}
  {list : List (Except Failure DirEntry)}

theorem moduleName_stem {file name : Bytes} (named : moduleName file = .ok name) :
    fileStem file = some name := by
  unfold moduleName at named
  cases stem : fileStem file with
  | none => simp [stem] at named
  | some text =>
    simp only [stem] at named
    split at named
    · cases named
    · split at named
      · cases named
      · rw [Except.ok.inj named]

theorem judge_cases (root : Root) (entry : DirEntry) (option : Option Candidate)
    (chosen : root.judge (.ok entry) = .ok option) :
    (isArtifact entry.fileName = false ∧ option = none) ∨
      (isArtifact entry.fileName = true ∧ ∃ candidate, option = some candidate ∧
        Describes (root, entry) candidate) := by
  simp only [Root.judge, bind, pure, Except.bind, Except.pure, throw, throwThe,
    MonadExceptOf.throw] at chosen
  cases artifact : isArtifact entry.fileName with
  | false =>
    rw [artifact] at chosen
    exact .inl ⟨rfl, (Except.ok.inj chosen).symm⟩
  | true =>
    rw [artifact] at chosen
    refine .inr ⟨rfl, ?_⟩
    cases regular : entry.isFile with
    | error error => simp [regular] at chosen
    | ok file =>
      cases file with
      | false => simp [regular] at chosen
      | true =>
        cases named : moduleName entry.fileName with
        | error error => simp [regular, named] at chosen
        | ok name =>
          cases modified : entry.modified with
          | error error => simp [regular, named, modified] at chosen
          | ok seconds =>
            simp only [regular, named, modified] at chosen
            refine ⟨_, (Except.ok.inj chosen).symm, regular, moduleName_stem named, rfl, rfl,
              modified, ?_⟩
            simp [Root.candidate]

theorem listing_described (readable : Readable (list.map root.judge)) :
    List.Forall₂ Describes (list.filterMap root.artifact)
      ((list.map root.judge).filterMap picked) := by
  induction list with
  | nil => exact .nil
  | cons entry rest ih =>
    have rest := ih fun item inside => readable item (List.mem_cons_of_mem _ inside)
    obtain ⟨option, chosen⟩ := readable _ List.mem_cons_self
    cases entry with
    | error error => cases chosen
    | ok entry =>
      rcases judge_cases root entry option chosen with
        ⟨other, rfl⟩ | ⟨artifact, candidate, rfl, described⟩
      · have skipped : root.artifact (.ok entry) = none := by simp [Root.artifact, other]
        rw [List.filterMap_cons_none skipped, List.map_cons, chosen]
        exact rest
      · have taken : root.artifact (.ok entry) = some (root, entry) := by
          simp [Root.artifact, artifact]
        rw [List.filterMap_cons_some taken, List.map_cons, chosen]
        exact .cons described rest

theorem root_described (readable : Readable root.judged) :
    List.Forall₂ Describes (root.listing.filterMap root.artifact)
      (root.judged.filterMap picked) := by
  unfold Root.judged at readable ⊢
  unfold Root.listing
  cases reading : root.reading with
  | missing => exact .nil
  | failed => exact .nil
  | entries list =>
    rw [reading] at readable
    exact listing_described readable

theorem artifacts_described (readable : Readable (judged roots)) :
    List.Forall₂ Describes (artifacts roots) (candidates roots) := by
  induction roots with
  | nil => exact .nil
  | cons root rest ih =>
    have first : Readable root.judged := fun item inside =>
      readable item (List.mem_append_left _ inside)
    have later : Readable (judged rest) := fun item inside =>
      readable item (List.mem_append_right _ inside)
    simp only [artifacts, candidates, judged, List.flatMap_cons, List.filterMap_append]
    exact List.rel_append (root_described first) (ih later)

end Artifacts

/-! ### Other orders -/

inductive Reading.Same : Reading → Reading → Prop where
  | missing : Same .missing .missing
  | failed : Same .failed .failed
  | entries {one two : List (Except Failure DirEntry)} (order : one.Perm two) :
      Same (.entries one) (.entries two)

structure Root.Same (one two : Root) : Prop where
  path : one.path = two.path
  logical : one.logical = two.logical
  reading : one.reading.Same two.reading

/-- The roots in any order, and the entries of each in any order. -/
def Rearranged (roots others : List Root) : Prop :=
  ∃ moved, roots.Perm moved ∧ List.Forall₂ Root.Same moved others

section Rearranged

variable {one two : Root} {roots others : List Root} {list : List Candidate}

theorem Root.Same.judge_eq (same : one.Same two) : one.judge = two.judge := by
  funext entry
  simp only [Root.judge, Root.candidate, same.path, same.logical]

theorem Root.Same.judged_perm (same : one.Same two) : one.judged.Perm two.judged := by
  have judges := same.judge_eq
  obtain ⟨path, logical, reading⟩ := one
  obtain ⟨path', logical', reading'⟩ := two
  obtain ⟨rfl, -, alike⟩ := same
  cases alike with
  | missing => exact .refl _
  | failed => exact .refl _
  | entries order =>
    unfold Root.judged
    rw [judges]
    exact order.map _

theorem judged_forall₂ (same : List.Forall₂ Root.Same roots others) :
    (judged roots).Perm (judged others) := by
  induction same with
  | nil => exact .refl _
  | cons first _ ih => exact first.judged_perm.append ih

theorem Rearranged.judged_perm (same : Rearranged roots others) :
    (judged roots).Perm (judged others) := by
  obtain ⟨moved, order, alike⟩ := same
  exact (order.flatMap_right _).trans (judged_forall₂ alike)

theorem discoverFactory_imp (same : (judged roots).Perm (judged others))
    (found : discoverFactory roots = .ok list) : discoverFactory others = .ok list := by
  obtain ⟨readable, distinct, present, sorted⟩ := discoverFactory_ok_iff.mp found
  have moved : (candidates roots).Perm (candidates others) := same.filterMap _
  refine discoverFactory_ok_iff.mpr ⟨fun item inside => readable item (same.mem_iff.mpr inside),
    (moved.map _).nodup_iff.mp distinct, fun empty => present ?_,
    sorted.trans (insertionSort_perm moved distinct)⟩
  rw [empty] at moved
  exact moved.eq_nil

theorem Rearranged.discoverFactory_iff (same : Rearranged roots others) :
    discoverFactory roots = .ok list ↔ discoverFactory others = .ok list :=
  ⟨discoverFactory_imp same.judged_perm, discoverFactory_imp same.judged_perm.symm⟩

end Rearranged

/-! ### Paths -/

section Paths

variable {roots : List Root} {list : List Candidate} {name before after file : Bytes}
  {entry : Candidate} {cache : Path}

theorem lastDot_eq (split : lastDot name = some (before, after)) :
    name = before ++ DOT :: after := by
  have whole := List.takeWhile_append_dropWhile (p := (· != DOT)) (l := name.reverse)
  have dot := List.head?_dropWhile_not (· != DOT) name.reverse
  unfold lastDot at split
  cases rest : name.reverse.dropWhile (· != DOT) with
  | nil => simp [rest] at split
  | cons byte behind =>
    simp only [rest, Option.some.injEq, Prod.mk.injEq] at split dot whole
    obtain ⟨rfl, rfl⟩ := split
    have byte_eq : byte = DOT := by simpa using dot
    have back := congrArg List.reverse whole
    rw [List.reverse_append, List.reverse_cons, List.reverse_reverse, byte_eq] at back
    simpa using back.symm

theorem file_of_extension (stem : fileStem file = some name)
    (ending : extension file = some after) : file = name ++ DOT :: after := by
  by_cases dots : file = [DOT, DOT]
  · simp [extension, rsplitFileAtDot, dots] at ending
  cases split : lastDot file with
  | none => simp [extension, rsplitFileAtDot, dots, split] at ending
  | some parts =>
    by_cases empty : parts.1 = []
    · simp [extension, rsplitFileAtDot, dots, split, empty] at ending
    · simp only [extension, rsplitFileAtDot, dots, split, empty, if_false, Option.bind_some,
        Option.some.injEq] at ending
      simp only [fileStem, rsplitFileAtDot, dots, split, empty, if_false, Option.some_or,
        Option.some.injEq] at stem
      rw [← stem, ← ending]
      exact lastDot_eq split

/-- Whether it is extracted or not, the file that is reported for an entry has its name. -/
theorem path_last {artifact : Root × DirEntry} (described : Describes artifact entry)
    (taken : isArtifact artifact.2.fileName = true) :
    (entry.path cache).getLast? = some (.normal (entry.name ++ DOT :: APEX)) := by
  unfold Candidate.path
  split
  · simp [outputPath, Path.join]
  · rename_i plain
    have ending : extension artifact.2.fileName = some APEX := by
      rcases Bool.or_eq_true_iff.mp taken with ending | ending
      · exact of_decide_eq_true ending
      · exact absurd (described.compressed.mpr (of_decide_eq_true ending)) plain
    rw [described.source, ← file_of_extension described.name ending]
    simp [Path.join]

theorem paths_distinct (distinct : (list.map Candidate.name).Nodup)
    (ended : ∀ entry ∈ list, (entry.path cache).getLast? =
      some (.normal (entry.name ++ DOT :: APEX))) :
    (list.map (Candidate.path cache)).Nodup := by
  refine List.Nodup.map_on (fun one inOne two inTwo same => ?_) (List.Nodup.of_map _ distinct)
  have last := (ended one inOne).symm.trans (same ▸ ended two inTwo)
  have names : one.name = two.name := by simpa using last
  exact List.inj_on_of_nodup_map distinct inOne inTwo names

end Paths

/-! ### The scan -/

structure Reports (cache : Path) (entry : Candidate) (row : FactoryApex) : Prop where
  name : row.name = entry.name
  path : row.path = entry.path cache
  time : row.sourceTimeSeconds = entry.seconds
  logical : row.logicalPath = entry.logical
  partition : logicalPartition entry.logical = .ok row.partition

section Scan

variable {roots : List Root} {list : List Candidate} {cache temporary : Path}
  {native : Candidate → Native} {rows : List FactoryApex} {entry : Candidate}
  {directory : Bool} {path : Path}

theorem scanEntries_ok (returned : (scanEntries cache native list).2 = .ok rows) :
    List.Forall₂ (Reports cache) list rows := by
  induction list generalizing rows with
  | nil =>
    rw [← Except.ok.inj returned]
    exact .nil
  | cons entry rest ih =>
    unfold scanEntries at returned
    split at returned
    · cases returned
    · split at returned
      · cases returned
      · rename_i partition given
        dsimp only at returned
        cases later : (scanEntries cache native rest).2 with
        | error error => simp [later, Except.map] at returned
        | ok tail =>
          rw [later] at returned
          rw [← Except.ok.inj returned]
          exact .cons ⟨rfl, rfl, rfl, rfl, given⟩ (ih later)

theorem extract_created (inside : path ∈ (extract cache (native entry) entry).1) :
    entry.compressed = true ∧ path = outputPath cache entry.name := by
  unfold extract at inside
  split at inside
  · cases inside
  · rename_i packed
    split at inside
    · cases inside
    · split at inside
      · cases inside
      · split at inside
        · cases inside
        · exact ⟨by simpa using packed, List.mem_singleton.mp inside⟩

theorem scanEntries_created (inside : path ∈ (scanEntries cache native list).1) :
    ∃ entry ∈ list, entry.compressed = true ∧ path = outputPath cache entry.name := by
  induction list with
  | nil => cases inside
  | cons entry rest ih =>
    have here (made : path ∈ (extract cache (native entry) entry).1) :
        ∃ other ∈ entry :: rest, other.compressed = true ∧ path = outputPath cache other.name :=
      ⟨entry, List.mem_cons_self, extract_created made⟩
    unfold scanEntries at inside
    split at inside
    · rename_i ended
      exact here (by rw [ended]; exact inside)
    · rename_i created _ ended
      rw [ended] at here
      split at inside
      · exact here inside
      · rcases List.mem_append.mp inside with made | made
        · exact here made
        · obtain ⟨other, within, packed⟩ := ih made
          exact ⟨other, List.mem_cons_of_mem _ within, packed⟩

theorem scanFactory_ok (returned : (scanFactory roots temporary directory native).2 = .ok rows) :
    ∃ list, discoverFactory roots = .ok list ∧
      List.Forall₂ (Reports (temporary.join CACHE)) list rows := by
  unfold scanFactory at returned
  split at returned
  · cases returned
  · rename_i list found
    split at returned
    · cases returned
    · exact ⟨list, found, scanEntries_ok returned⟩

theorem scanEntries_returns
    (extracted : ∀ entry ∈ list, (extract cache (native entry) entry).2 = .ok ())
    (supported : ∀ entry ∈ list, ∃ partition, logicalPartition entry.logical = .ok partition) :
    ∃ rows, (scanEntries cache native list).2 = .ok rows := by
  induction list with
  | nil => exact ⟨[], rfl⟩
  | cons entry rest ih =>
    obtain ⟨done, later⟩ := List.forall_mem_cons.mp extracted
    obtain ⟨⟨partition, given⟩, others⟩ := List.forall_mem_cons.mp supported
    obtain ⟨rows, returned⟩ := ih later others
    unfold scanEntries
    rcases ends : extract cache (native entry) entry with ⟨created, result⟩
    rw [ends] at done
    subst done
    simp only [given, returned, Except.map]
    exact ⟨_, rfl⟩

/-- The scan returns when every compressed entry can be extracted and every partition is known. -/
theorem scanFactory_returns (found : discoverFactory roots = .ok list)
    (made : list.any Candidate.compressed = true → directory = true)
    (extracted : ∀ entry ∈ list,
      (extract (temporary.join CACHE) (native entry) entry).2 = .ok ())
    (supported : ∀ entry ∈ list, ∃ partition, logicalPartition entry.logical = .ok partition) :
    ∃ rows, (scanFactory roots temporary directory native).2 = .ok rows := by
  obtain ⟨rows, returned⟩ := scanEntries_returns extracted supported
  unfold scanFactory
  rw [found]
  simp only
  rw [if_neg]
  · exact ⟨rows, returned⟩
  · intro refused
    obtain ⟨packed, missing⟩ := Bool.and_eq_true_iff.mp refused
    rw [made packed] at missing
    cases missing

/-- Nothing is created when no entry is compressed. -/
theorem scanFactory_created (inside : path ∈ (scanFactory roots temporary directory native).1) :
    ∃ list, discoverFactory roots = .ok list ∧ ∃ entry ∈ list, entry.compressed = true ∧
      (path = temporary.join CACHE ∨ path = outputPath (temporary.join CACHE) entry.name) := by
  unfold scanFactory at inside
  split at inside
  · cases inside
  · rename_i list found
    split at inside
    · cases inside
    · refine ⟨list, found, ?_⟩
      rcases List.mem_append.mp inside with made | made
      · split at made
        · rename_i packed
          obtain ⟨entry, within, compressed⟩ := List.any_eq_true.mp packed
          exact ⟨entry, within, compressed, .inl (List.mem_singleton.mp made)⟩
        · cases made
      · obtain ⟨entry, within, compressed, made⟩ := scanEntries_created made
        exact ⟨entry, within, compressed, .inr made⟩

theorem reports_names {list : List Candidate} (reported : List.Forall₂ (Reports cache) list rows) :
    rows.map (fun row => (row.name, row.logicalPath, row.sourceTimeSeconds)) =
        list.map (fun entry => (entry.name, entry.logical, entry.seconds)) ∧
      rows.map FactoryApex.path = list.map (Candidate.path cache) := by
  induction reported with
  | nil => exact ⟨rfl, rfl⟩
  | cons report _ ih =>
    simp only [List.map_cons, report.name, report.logical, report.time, report.path]
    exact ⟨congrArg _ ih.1, congrArg _ ih.2⟩

theorem factoryPartition_eq (found : discoverFactory roots = .ok list)
    (distinct : (list.map Candidate.name).Nodup) (inside : entry ∈ list) :
    factoryPartition roots entry.name = logicalPartition entry.logical := by
  rw [factoryPartition, found]
  simp only [bind, Except.bind, find_name distinct inside]

end Scan

/-! ### What is discovered -/

section Discovered

variable {roots : List Root} {list : List Candidate}

theorem discovered_names (found : discoverFactory roots = .ok list) :
    (list.map Candidate.name).Nodup ∧
      list.Pairwise fun one two => order one.name < order two.name := by
  obtain ⟨-, distinct, -, rfl⟩ := discoverFactory_ok_iff.mp found
  exact ⟨(((candidates roots).perm_insertionSort _).map _).nodup_iff.mpr distinct,
    insertionSort_increasing distinct⟩

theorem discovered_artifacts (found : discoverFactory roots = .ok list) :
    ∃ arranged, list.Perm arranged ∧ List.Forall₂ Describes (artifacts roots) arranged := by
  obtain ⟨readable, -, -, rfl⟩ := discoverFactory_ok_iff.mp found
  exact ⟨candidates roots, List.perm_insertionSort _ _, artifacts_described readable⟩

theorem artifact_taken {artifact : Root × DirEntry} (inside : artifact ∈ artifacts roots) :
    isArtifact artifact.2.fileName = true := by
  obtain ⟨root, -, inside⟩ := List.mem_flatMap.mp inside
  obtain ⟨entry, -, chosen⟩ := List.mem_filterMap.mp inside
  cases entry with
  | error error => cases chosen
  | ok entry =>
    cases taken : isArtifact entry.fileName with
    | false => simp [Root.artifact, taken] at chosen
    | true =>
      obtain rfl : (root, entry) = artifact := by simpa [Root.artifact, taken] using chosen
      exact taken

theorem discovered_ends (found : discoverFactory roots = .ok list) (cache : Path) :
    ∀ entry ∈ list, (entry.path cache).getLast? =
      some (.normal (entry.name ++ DOT :: APEX)) := by
  obtain ⟨arranged, same, described⟩ := discovered_artifacts found
  intro entry inside
  obtain ⟨artifact, within, described⟩ := mem_left described (same.mem_iff.mp inside)
  exact path_last described (artifact_taken within)

/-- The order of the directories and of their entries does not matter: the same list, with every
artifact once, under increasing names. The scan reports what the two lookups report, under paths of
their own, and makes outputs for compressed entries only. It returns when every compressed entry can
be extracted and every partition is known. -/
theorem factory_apexes {others : List Root} (same : Rearranged roots others) :
    (∀ list, discoverFactory roots = .ok list ↔ discoverFactory others = .ok list) ∧
      (∀ list, discoverFactory roots = .ok list →
        (list.map Candidate.name).Nodup ∧
          (list.Pairwise fun one two => order one.name < order two.name) ∧
          ∃ arranged, list.Perm arranged ∧ List.Forall₂ Describes (artifacts roots) arranged) ∧
      ∀ temporary directory native,
        (∀ rows, (scanFactory roots temporary directory native).2 = .ok rows →
          ∃ list, discoverFactory others = .ok list ∧
            rows.map (fun row => (row.name, row.logicalPath, row.sourceTimeSeconds)) =
              list.map (fun entry => (entry.name, entry.logical, entry.seconds)) ∧
            (∀ row ∈ rows, factoryPartition others row.name = .ok row.partition) ∧
            (rows.map FactoryApex.path).Nodup) ∧
        (∀ list, discoverFactory others = .ok list →
          (list.any Candidate.compressed = true → directory = true) →
          (∀ entry ∈ list, (extract (temporary.join CACHE) (native entry) entry).2 = .ok ()) →
          (∀ entry ∈ list, ∃ partition, factoryPartition others entry.name = .ok partition) →
            ∃ rows, (scanFactory roots temporary directory native).2 = .ok rows) ∧
        ∀ path ∈ (scanFactory roots temporary directory native).1,
          ∃ list, discoverFactory others = .ok list ∧ ∃ entry ∈ list, entry.compressed = true ∧
            (path = temporary.join CACHE ∨
              path = outputPath (temporary.join CACHE) entry.name) := by
  refine ⟨fun list => same.discoverFactory_iff, fun list found => ?_,
    fun temporary directory native => ⟨fun rows returned => ?_,
      fun list elsewhere made extracted supported => ?_, fun path inside => ?_⟩⟩
  · obtain ⟨distinct, increasing⟩ := discovered_names found
    exact ⟨distinct, increasing, discovered_artifacts found⟩
  · obtain ⟨list, found, reported⟩ := scanFactory_ok returned
    obtain ⟨distinct, -⟩ := discovered_names found
    obtain ⟨fields, paths⟩ := reports_names reported
    have elsewhere := same.discoverFactory_iff.mp found
    refine ⟨list, elsewhere, fields, fun row inside => ?_, ?_⟩
    · obtain ⟨entry, within, report⟩ := mem_left reported inside
      rw [report.name]
      exact (factoryPartition_eq elsewhere distinct within).trans report.partition
    · rw [paths]
      exact paths_distinct distinct (discovered_ends found _)
  · refine scanFactory_returns (same.discoverFactory_iff.mpr elsewhere) made extracted
      fun entry inside => ?_
    rw [← factoryPartition_eq elsewhere (discovered_names elsewhere).1 inside]
    exact supported entry inside
  · obtain ⟨list, found, made⟩ := scanFactory_created inside
    exact ⟨list, same.discoverFactory_iff.mp found, made⟩

end Discovered

/-! ### An example -/

def sampleRoot (product : Bytes) (list : List (Except Failure DirEntry)) : Root :=
  ⟨[.rootDir, .normal product], [.rootDir, .normal product, .normal APEX], .entries list⟩

def sampleFiles : List (Except Failure DirEntry) :=
  [.ok ⟨0x7a :: DOT :: APEX, .ok true, .ok 7⟩, .ok ⟨0x61 :: DOT :: CAPEX, .ok true, .ok 3⟩,
    .ok ⟨[0x6e], .ok true, .ok 1⟩]

def sampleOther : List (Except Failure DirEntry) := [.ok ⟨0x6d :: DOT :: APEX, .ok true, .ok 5⟩]

def SYSTEM : Bytes := [0x73, 0x79, 0x73, 0x74, 0x65, 0x6d]

def ODM : Bytes := [0x6f, 0x64, 0x6d]

def sampleRoots : List Root := [sampleRoot SYSTEM sampleFiles, sampleRoot ODM sampleOther]

def movedRoots : List Root := [sampleRoot ODM sampleOther, sampleRoot SYSTEM sampleFiles.reverse]

theorem sample_moved : Rearranged sampleRoots movedRoots :=
  ⟨[sampleRoot ODM sampleOther, sampleRoot SYSTEM sampleFiles], .swap _ _ _,
    .cons ⟨rfl, rfl, .entries (.refl _)⟩
      (.cons ⟨rfl, rfl, .entries (List.reverse_perm _).symm⟩ .nil)⟩

def sampleFound : List Candidate :=
  [(sampleRoot SYSTEM []).candidate (0x61 :: DOT :: CAPEX) [0x61] 3,
    (sampleRoot ODM []).candidate (0x6d :: DOT :: APEX) [0x6d] 5,
    (sampleRoot SYSTEM []).candidate (0x7a :: DOT :: APEX) [0x7a] 7]

theorem sample_found : discoverFactory sampleRoots = .ok sampleFound := by rfl

/-- Both orders of the directories give the three artifacts. -/
theorem factory_apexes_sample :
    discoverFactory sampleRoots = .ok sampleFound ∧ discoverFactory movedRoots = .ok sampleFound :=
  ⟨sample_found, ((factory_apexes sample_moved).1 sampleFound).mp sample_found⟩

example : (scanFactory movedRoots Path.root true fun _ => ⟨.ok (), true, .ok (), .ok ()⟩).1 =
    [Path.root.join CACHE, outputPath (Path.root.join CACHE) [0x61]] := by
  rfl

end Bscp.Virtmgr.DesktopApex
