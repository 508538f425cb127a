import Bscp.Virtmgr.PartitionPath

/-!
A logical path that is taken to the host is found again from there, and what is found does not
depend on the order of the roots.
-/

namespace Bscp.Virtmgr.PartitionPath

open Argv WindowsPath WindowsCommand

section Takes

variable {order : Wide → Wide → Ordering} {path : Place} {root other : DriveRoot}
  {names : List Wide}

theorem takes_eq : takes order path root.text =
    if root.place.1 ≠ path.1 ∨ path.2.length < root.place.2.length then .ok false
    else matchNames order root.place.2 path.2 := by
  rw [takes, root.parsed]
  rfl

theorem takes_of_short (short : Short path.2) :
    takes order path root.text = .ok (decide (Covers order root.place path)) := by
  rw [takes_eq]
  split
  · rename_i away
    have uncovered : ¬Covers order root.place path := by
      rintro ⟨drive, within, -⟩
      rcases away with away | away
      · exact away drive
      · exact absurd within (Nat.not_le_of_lt away)
    rw [decide_eq_false uncovered]
  · rename_i near
    simp only [ne_eq, not_or, not_not, Nat.not_lt] at near
    rw [matchNames_of_short root.short short]
    simp [Covers, near.1, near.2]

theorem covers_of_takes (taken : takes order path root.text = .ok true) :
    Covers order root.place path := by
  rw [takes_eq] at taken
  split at taken
  · cases taken
  · rename_i near
    simp only [ne_eq, not_or, not_not, Nat.not_lt] at near
    exact ⟨near.1, near.2, agree_of_matchNames taken⟩

theorem takes_error {text : String} (failed : takes order path root.text = .error text) :
    text = "oversize path component" := by
  rw [takes_eq] at failed
  split at failed
  · cases failed
  · exact matchNames_error failed

/-- A root takes what is below it. -/
theorem takes_below [Std.ReflCmp order] :
    takes order (root.place.1, root.place.2 ++ names) root.text = .ok true := by
  rw [takes_eq, if_neg (by simp), matchNames_append (Nat.le_refl _),
    matchNames_of_short root.short root.short, decide_eq_true agree_self]

/-- And nothing below a root apart from it. -/
theorem takes_apart [Std.OrientedCmp order] (apart : Apart order root other) :
    takes order (other.place.1, other.place.2 ++ names) root.text = .ok false := by
  rw [takes_eq]
  split
  · rfl
  · rename_i near
    simp only [ne_eq, not_or, not_not] at near
    refine matchNames_apart root.short other.short fun agree => ?_
    rcases Nat.le_total root.place.2.length other.place.2.length with within | within
    · exact apart.1 ⟨near.1, within, agree⟩
    · exact apart.2 ⟨near.1.symm, within, agree_comm.mp agree⟩

/-- Roots that cover one path are not apart. -/
theorem not_apart_of_covers [Std.TransCmp order] (one : Covers order root.place path)
    (two : Covers order other.place path) : ¬Apart order root other := by
  intro apart
  have agree := agree_trans one.2.2 two.2.2 one.2.1
  rcases Nat.le_total root.place.2.length other.place.2.length with within | within
  · exact apart.1 ⟨one.1.trans two.1.symm, within, agree⟩
  · exact apart.2 ⟨two.1.trans one.1.symm, within, agree_comm.mp agree⟩

end Takes

/-! ### To the host, and back -/

section Inverse

variable {order : Wide → Wide → Ordering} {roots : PartitionRoots order} {partition : Partition}
  {path : Wide} {rest : List Component}

def Partition.logical : Partition → Wide
  | .apex => units "/apex"
  | .system => units "/system"
  | .systemExt => units "/system_ext"

theorem Partition.logical_text (partition : Partition) :
    ∃ unit text, partition.logical = unit :: text ∧ isSepByte unit = true ∧ text ≠ [] ∧
      text.head?.any isSepByte = false := by
  cases partition <;> exact ⟨_, _, rfl, by decide, by decide, by decide⟩

theorem Partition.components_logical (partition : Partition) :
    components partition.logical = [.rootDir, .normal (units partition.name)] := by
  cases partition <;> decide +kernel

/-- A path below a partition, without parents, and without names that are taken for drives. -/
structure LogicalPath (partition : Partition) (path : Wide) (rest : List Component) : Prop where
  start : components path = .rootDir :: .normal (units partition.name) :: rest
  no_parent : .parentDir ∉ rest
  no_drive : ∀ name, .normal name ∈ rest → parseDrive name = none

theorem stripPrefix_logical {name : Wide}
    (start : components path = .rootDir :: .normal name :: rest) (partition : Partition) :
    stripPrefix path partition.logical =
      if name = units partition.name then some (collect rest) else none := by
  rw [stripPrefix, start, partition.components_logical, iterAfter_rooted]
  split <;> rfl

theorem mapUnder_cons {environment : String → Option Wide} {logical key : String}
    {more : List (String × String)} (root : DriveRoot) (given : environment key = some root.text) :
    mapUnder path environment ((logical, key) :: more) =
      match stripPrefix path (units logical) with
      | some rest => .ok (join root.text rest)
      | none => mapUnder path environment more := by
  rw [mapUnder, given]
  cases stripPrefix path (units logical) with
  | none => rfl
  | some rest => exact if_pos root.isAbsolute

/-- With all roots at hand, the first partition that the path is in is taken. -/
theorem mapHostPath_eq (roots : PartitionRoots order) (inside : .parentDir ∉ components path) :
    mapHostPath path roots.lookup =
      match stripPrefix path (Partition.logical .apex) with
      | some rest => .ok (join (roots.root .apex).text rest)
      | none => match stripPrefix path (Partition.logical .systemExt) with
        | some rest => .ok (join (roots.root .systemExt).text rest)
        | none => match stripPrefix path (Partition.logical .system) with
          | some rest => .ok (join (roots.root .system).text rest)
          | none => .ok path := by
  rw [mapHostPath, if_neg inside, mapUnder_cons (roots.root .apex) rfl,
    mapUnder_cons (roots.root .systemExt) rfl, mapUnder_cons (roots.root .system) rfl]
  rfl

theorem units_name_inj {one two : Partition} :
    units one.name = units two.name ↔ one = two := by
  cases one <;> cases two <;> decide +kernel

theorem LogicalPath.mapHostPath (roots : PartitionRoots order)
    (logical : LogicalPath partition path rest) :
    mapHostPath path roots.lookup = .ok (join (roots.root partition).text (collect rest)) := by
  have inside : .parentDir ∉ components path := by
    rw [logical.start]
    simpa using logical.no_parent
  simp only [mapHostPath_eq roots inside, stripPrefix_logical logical.start, units_name_inj]
  cases partition <;> rfl

def Within (partition : Partition) (path : Wide) : Prop :=
  [.rootDir, .normal (units partition.name)] <+: components path

theorem mapHostPath_unmapped (roots : PartitionRoots order)
    (inside : .parentDir ∉ components path) (outside : ∀ partition, ¬Within partition path) :
    mapHostPath path roots.lookup = .ok path := by
  have left (partition : Partition) : stripPrefix path partition.logical = none := by
    refine Option.map_eq_none_iff.mpr (Option.eq_none_iff_forall_not_mem.mpr fun rest found => ?_)
    rw [partition.components_logical] at found
    have same := prefix_of_iterAfter (by simp) found
    exact outside partition ⟨rest, same.symm⟩
  simp only [mapHostPath_eq roots inside, left]

/-- The names behind a partition. -/
theorem LogicalPath.names (logical : LogicalPath partition path rest) :
    ∃ names : List Wide, rest = names.map .normal ∧ (∀ name ∈ names, Name false name) ∧
      ∀ name ∈ names, parseDrive name = none := by
  obtain ⟨all, same, good⟩ := names_of_rooted logical.start (by simpa using logical.no_parent)
  cases all with
  | nil => cases same
  | cons first names =>
      obtain ⟨-, rfl⟩ := List.cons.inj same
      refine ⟨names, rfl, fun name given => good name (.tail _ given), fun name given => ?_⟩
      exact logical.no_drive name (List.mem_map_of_mem given)

theorem Partition.logical_inj {one two : Partition} : one.logical = two.logical ↔ one = two := by
  cases one <;> cases two <;> decide +kernel

def PartitionRoots.entry (roots : PartitionRoots order) (partition : Partition) : Wide × Wide :=
  ((roots.root partition).text, partition.logical)

def Partition.all : List Partition := [.apex, .system, .systemExt]

theorem PartitionRoots.list_eq (roots : PartitionRoots order) :
    roots.list = Partition.all.map roots.entry := rfl

theorem filter_partition (partition : Partition) :
    Partition.all.filter (· = partition) = [partition] := by
  cases partition <;> decide

/-- What is behind the root of a partition is found below the partition. -/
theorem PartitionRoots.behind_entry (roots : PartitionRoots order) {names : List Wide}
    (good : ∀ name ∈ names, Name false name) (no_drive : ∀ name ∈ names, parseDrive name = none) :
    components (behind ((roots.root partition).place.1, (roots.root partition).place.2 ++ names)
      (roots.entry partition)) =
        .rootDir :: .normal (units partition.name) :: names.map .normal := by
  have names_behind :
      behind ((roots.root partition).place.1, (roots.root partition).place.2 ++ names)
        (roots.entry partition) = names.foldl push partition.logical := by
    simp [behind, PartitionRoots.entry, (roots.root partition).parsed, Except.toOption]
  obtain ⟨unit, text, same, divides, some_text, inside⟩ := partition.logical_text
  have parts := partition.components_logical
  rw [same] at parts
  rw [names_behind, same, components_foldl_push good no_drive divides some_text inside, parts]
  rfl

theorem PartitionRoots.logicalFromRoots_join [Std.TransCmp order] (roots : PartitionRoots order)
    {names : List Wide} (good : ∀ name ∈ names, Name false name)
    (no_drive : ∀ name ∈ names, parseDrive name = none) :
    logicalFromRoots order (join (roots.root partition).text (collect (names.map .normal)))
        roots.list =
      .ok (some (behind ((roots.root partition).place.1, (roots.root partition).place.2 ++ names)
        (roots.entry partition))) := by
  have each : ∀ entry ∈ roots.list,
      takes order ((roots.root partition).place.1, (roots.root partition).place.2 ++ names)
        entry.1 = .ok (entry.2 = partition.logical) := by
    rw [roots.list_eq, List.forall_mem_map]
    intro other _
    by_cases same : other = partition
    · subst same
      simp only [PartitionRoots.entry, decide_true]
      exact takes_below
    · simp only [PartitionRoots.entry, Partition.logical_inj, same, decide_false]
      exact takes_apart (roots.apart other partition same)
  rw [logicalFromRoots, (roots.root partition).parts_join good no_drive]
  refine (fromRoots_eq_single each).trans ?_
  have taken : ((fun entry : Wide × Wide => decide (entry.2 = partition.logical)) ∘ roots.entry) =
      fun other => decide (other = partition) := by
    funext other
    simp [PartitionRoots.entry, Partition.logical_inj]
  rw [roots.list_eq, List.filter_map, taken, filter_partition]
  rfl

end Inverse

/-! ### The order of the roots, and how many of them cover a path -/

section Order

variable {order : Wide → Wide → Ordering} {path : Place} {roots : List (DriveRoot × Wide)}

def taken (order : Wide → Wide → Ordering) (path : Place) (entry : Wide × Wide) : Bool :=
  (takes order path entry.1).toOption.getD false

theorem takes_taken (root : DriveRoot) (logical : Wide) :
    takes order path root.text = .ok (taken order path (root.text, logical)) ∨
      takes order path root.text = .error "oversize path component" := by
  cases found : takes order path root.text with
  | ok answer => exact .inl (by simp [taken, found, Except.toOption])
  | error text => exact .inr (by rw [takes_error found])

theorem covers_of_taken {root : DriveRoot} {logical : Wide}
    (hit : taken order path (root.text, logical) = true) : Covers order root.place path := by
  cases found : takes order path root.text with
  | ok answer =>
      simp only [taken, found, Except.toOption, Option.getD_some] at hit
      exact covers_of_takes (hit ▸ found)
  | error text => simp [taken, found, Except.toOption] at hit

/-- Of roots that are apart, one is taken at most. -/
theorem PartitionRoots.taken_once [Std.TransCmp order] (roots : PartitionRoots order) :
    (roots.list.filter (taken order path)).length ≤ 1 := by
  by_cases one_taken : ∃ partition, taken order path (roots.entry partition) = true
  · obtain ⟨partition, hit⟩ := one_taken
    have only : ((taken order path) ∘ roots.entry) = fun other => decide (other = partition) := by
      funext other
      by_cases same : other = partition
      · subst same
        simp [hit]
      · simp only [Function.comp_apply, same, decide_false]
        refine Bool.eq_false_iff.mpr fun other_hit => ?_
        exact not_apart_of_covers (covers_of_taken other_hit) (covers_of_taken hit)
          (roots.apart other partition same)
    rw [roots.list_eq, List.filter_map, only, filter_partition]
    exact Nat.le_refl 1
  · have none : roots.list.filter (taken order path) = [] := by
      rw [roots.list_eq, List.filter_eq_nil_iff, List.forall_mem_map]
      exact fun partition _ hit => one_taken ⟨partition, hit⟩
    rw [none]
    exact Nat.zero_le 1

/-- The roots of the partitions in any order: the same answer, and the same error. -/
theorem PartitionRoots.logicalFromRoots_perm [Std.TransCmp order] (roots : PartitionRoots order)
    {others : List (Wide × Wide)} (same : others.Perm roots.list) (path : Wide) :
    logicalFromRoots order path others = logicalFromRoots order path roots.list := by
  unfold logicalFromRoots
  cases parts path with
  | error text => rfl
  | ok place =>
      have each : ∀ entry ∈ roots.list,
          takes order place entry.1 = .ok (taken order place entry) ∨
            takes order place entry.1 = .error "oversize path component" := by
        rw [roots.list_eq, List.forall_mem_map]
        exact fun partition _ => takes_taken (roots.root partition) _
      have each_other : ∀ entry ∈ others, _ :=
        fun entry given => each entry (same.mem_iff.mp given)
      show fromRoots order place none others = fromRoots order place none roots.list
      by_cases failed : ∃ entry ∈ roots.list,
          takes order place entry.1 = .error "oversize path component"
      · have most : (roots.list.filter (taken order place)).length ≤ 1 := roots.taken_once
        have once : (none : Option Wide).toList.length +
            (roots.list.filter (taken order place)).length ≤ 1 := by simpa using most
        have once_other : (none : Option Wide).toList.length +
            (others.filter (taken order place)).length ≤ 1 := by
          rw [(same.filter _).length_eq]
          exact once
        have failed_other : ∃ entry ∈ others,
            takes order place entry.1 = .error "oversize path component" := by
          obtain ⟨entry, given, failed⟩ := failed
          exact ⟨entry, same.mem_iff.mpr given, failed⟩
        rw [fromRoots_error each once failed, fromRoots_error each_other once_other failed_other]
      · simp only [not_exists, not_and] at failed
        have all : ∀ entry ∈ roots.list,
            takes order place entry.1 = .ok (taken order place entry) :=
          fun entry given => (each entry given).resolve_right (failed entry given)
        rw [fromRoots_eq_single all,
          fromRoots_eq_single fun entry given => all entry (same.mem_iff.mp given)]
        exact single_perm ((same.filter _).map _)

def texts (roots : List (DriveRoot × Wide)) : List (Wide × Wide) :=
  roots.map fun entry => (entry.1.text, entry.2)

def covering (order : Wide → Wide → Ordering) (path : Place) (roots : List (DriveRoot × Wide)) :
    Nat :=
  roots.countP fun entry => Covers order entry.1.place path

theorem fromRoots_covering (short : Short path.2) :
    ∃ found, fromRoots order path none (texts roots) = single found ∧
      found.length = covering order path roots := by
  have each : ∀ entry ∈ texts roots,
      takes order path entry.1 = .ok (taken order path entry) := by
    rw [texts, List.forall_mem_map]
    intro entry _
    rcases takes_taken entry.1 entry.2 with answer | failed
    · exact answer
    · rw [takes_of_short short] at failed
      cases failed
  refine ⟨_, fromRoots_eq_single each, ?_⟩
  rw [texts, List.filter_map]
  simp only [Option.toList_none, List.nil_append, List.length_map, covering,
    List.countP_eq_length_filter]
  congr 2
  funext entry
  simp [taken, takes_of_short short, Except.toOption]

theorem single_cases (found : List Wide) :
    ((∃ logical, single found = .ok (some logical)) ↔ found.length = 1) ∧
    (single found = .ok none ↔ found.length = 0) ∧
    (single found = .error "ambiguous overlapping desktop partition roots" ↔
      2 ≤ found.length) := by
  rcases found with _ | ⟨first, _ | ⟨second, found⟩⟩ <;> simp [single]

end Order

/-! ### Both ways -/

section Ways

variable (order : Wide → Wide → Ordering) [Std.TransCmp order] (roots : PartitionRoots order)

/-- A logical path is below the root of its partition on the host, and is found again there. A
path that is in no partition stays as it is. What is found does not depend on the order of the
roots, and tells how many of them cover the path. -/
theorem partition_paths :
    (∀ partition path rest, LogicalPath partition path rest → ∃ mapped back,
      mapHostPath path roots.lookup = .ok mapped ∧
        components (roots.root partition).text <+: components mapped ∧
        logicalFromRoots order mapped roots.list = .ok (some back) ∧
        components back = components path) ∧
    (∀ path, .parentDir ∉ components path → (∀ partition, ¬Within partition path) →
      mapHostPath path roots.lookup = .ok path) ∧
    (∀ path others, others.Perm roots.list →
      logicalFromRoots order path others = logicalFromRoots order path roots.list) ∧
    (∀ path (one two : List (Wide × Wide)), one.Perm two →
      (logicalFromRoots order path one).toOption = (logicalFromRoots order path two).toOption) ∧
    ∀ path place, parts path = .ok place → Short place.2 → ∀ given : List (DriveRoot × Wide),
      ((∃ back, logicalFromRoots order path (texts given) = .ok (some back)) ↔
        covering order place given = 1) ∧
      (logicalFromRoots order path (texts given) = .ok none ↔ covering order place given = 0) ∧
      (logicalFromRoots order path (texts given) =
          .error "ambiguous overlapping desktop partition roots" ↔
        2 ≤ covering order place given) := by
  refine ⟨?_, ?_, ?_, ?_, ?_⟩
  · intro partition path rest logical
    obtain ⟨names, rfl, good, no_drive⟩ := logical.names
    refine ⟨_, _, logical.mapHostPath roots, ?_, roots.logicalFromRoots_join good no_drive, ?_⟩
    · rw [(roots.root partition).join_names good no_drive]
      exact List.prefix_append _ _
    · rw [roots.behind_entry good no_drive, logical.start]
  · exact fun path inside outside => mapHostPath_unmapped roots inside outside
  · exact fun path others same => roots.logicalFromRoots_perm same path
  · intro path one two same
    unfold logicalFromRoots
    cases parts path with
    | error text => rfl
    | ok place => exact fromRoots_perm same
  · intro path place placed short given
    obtain ⟨found, result, many⟩ := @fromRoots_covering order place given short
    have answer : logicalFromRoots order path (texts given) = single found := by
      rw [logicalFromRoots, placed]
      exact result
    rw [answer, ← many]
    exact single_cases found

end Ways

/-! ### A host -/

/-- `C:\\a`, `C:\\b` and, as a verbatim path, `D:\\a`. -/
def sampleRoot : Partition → DriveRoot
  | .apex => ⟨units "C:\\a", (0x43, [units "a"]), rfl, by simp [Short]; decide⟩
  | .system => ⟨units "C:\\b", (0x43, [units "b"]), rfl, by simp [Short]; decide⟩
  | .systemExt => ⟨units "\\\\?\\D:\\a", (0x44, [units "a"]), rfl, by simp [Short]; decide⟩

def sampleRoots : PartitionRoots ignoringCase where
  root := sampleRoot
  apart one two other := by
    cases one <;> cases two <;> first
      | exact absurd rfl other
      | exact ⟨by decide, by decide⟩

theorem sample_logical : LogicalPath .systemExt (units "/system_ext/x") [.normal (units "x")] where
  start := by decide +kernel
  no_parent := by decide
  no_drive name given := by
    cases List.mem_singleton.mp given
    decide

theorem partition_paths_sample :
    (∃ mapped back, mapHostPath (units "/system_ext/x") sampleRoots.lookup = .ok mapped ∧
      components (sampleRoots.root .systemExt).text <+: components mapped ∧
      logicalFromRoots ignoringCase mapped sampleRoots.list = .ok (some back) ∧
      components back = components (units "/system_ext/x")) ∧
    mapHostPath (units "/systematic/x") sampleRoots.lookup = .ok (units "/systematic/x") ∧
    logicalFromRoots ignoringCase (units "c:/A/x") sampleRoots.list.reverse =
      logicalFromRoots ignoringCase (units "c:/A/x") sampleRoots.list ∧
    ∃ back, logicalFromRoots ignoringCase (units "c:/A/x")
      (texts [(sampleRoot .system, units "/system"), (sampleRoot .apex, units "/apex")]) =
        .ok (some back) := by
  obtain ⟨inverse, unchanged, order_free, -, covered⟩ := partition_paths ignoringCase sampleRoots
  refine ⟨inverse _ _ _ sample_logical, unchanged _ (by decide +kernel) ?_,
    order_free _ _ (List.reverse_perm _), ?_⟩
  · intro partition
    unfold Within
    cases partition <;> decide +kernel
  · have placed : parts (units "c:/A/x") = .ok (0x43, [units "A", units "x"]) := rfl
    exact (covered _ _ placed (by simp [Short]; decide) _).1.mpr (by decide)

/-- A name that is taken for a drive leaves the root, and a path with a parent below a root is
refused. -/
theorem left_and_refused :
    (∃ mapped, mapHostPath (units "/apex/C:/x") sampleRoots.lookup = .ok mapped ∧
      ¬components (sampleRoots.root .apex).text <+: components mapped) ∧
    components (sampleRoots.root .apex).text <+: components (units "C:\\a\\..") ∧
    logicalFromRoots ignoringCase (units "C:\\a\\..") sampleRoots.list =
      .error "non-normal partition path component" :=
  ⟨⟨units "C:\\x", rfl, by decide⟩, by decide, rfl⟩

end Bscp.Virtmgr.PartitionPath
