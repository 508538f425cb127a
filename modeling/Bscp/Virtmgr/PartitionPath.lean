import Bscp.Struct
import Bscp.WindowsPath
import Bscp.Virtmgr.WindowsCommandFaithful

/-!
Paths of the partitions on a Windows host: `map_host_path` in `vmconfig/src/lib.rs`, which takes a
logical path to the host, and `logical_from_roots` in `virtmgr/src/windows_partition_path.rs`,
which takes it back.
-/

namespace Bscp.Virtmgr.PartitionPath

open Argv WindowsPath WindowsCommand

def units (text : String) : Wide := text.toList.map fun char => UInt16.ofNat char.toNat

/-! ### From the logical path to the host -/

def mapUnder (path : Wide) (roots : String → Option Wide) :
    List (String × String) → Except String Wide
  | [] => .ok path
  | (partition, key) :: more =>
      match stripPrefix path (units partition), roots key with
      | some rest, some root =>
          if isAbsolute root then .ok (join root rest) else .error (key ++ " must be absolute")
      | _, _ => mapUnder path roots more

def mapHostPath (path : Wide) (roots : String → Option Wide) : Except String Wide :=
  if .parentDir ∈ components path then .error "Parent traversal in artifact path"
  else mapUnder path roots
    [("/apex", "VIRTMGR_APEX_ROOT"), ("/system_ext", "VIRTMGR_SYSTEM_EXT_ROOT"),
      ("/system", "VIRTMGR_SYSTEM_ROOT")]

/-! ### From the host to the logical path -/

abbrev Place := Unit16 × List Wide

def normalPart : Component → Except String Wide
  | .normal name => .ok name
  | _ => .error "non-normal partition path component"

def drivePart : Prefix → Except String Unit16
  | .disk letter | .verbatimDisk letter => .ok (toAsciiUppercase letter)
  | _ => .error "unsupported non-local path prefix"

def parts (path : Wide) : Except String Place :=
  match components path with
  | .pre _ parsed :: rest => do
      let drive ← drivePart parsed
      match rest with
      | .rootDir :: rest => return (drive, ← rest.mapM normalPart)
      | _ => .error "partition path is not rooted"
  | _ => .error "partition path must be drive absolute"

section Order

-- `CompareStringOrdinal`, which is told to ignore case
variable (order : Wide → Wide → Ordering)

def equal (one two : Wide) : Except String Bool :=
  if one.length ≤ I32_MAX ∧ two.length ≤ I32_MAX then .ok (order one two = .eq)
  else .error "oversize path component"

def matchNames : List Wide → List Wide → Except String Bool
  | one :: root, two :: path => do
      if ← equal order one two then matchNames root path else return false
  | _, _ => return true

def fromRoots (path : Place) : Option Wide → List (Wide × Wide) → Except String (Option Wide)
  | found, [] => .ok found
  | found, (root, logical) :: roots => do
      let (drive, names) ← parts root
      if drive ≠ path.1 ∨ path.2.length < names.length then fromRoots path found roots
      else if !(← matchNames order names path.2) then fromRoots path found roots
      else if found.isSome then .error "ambiguous overlapping desktop partition roots"
      else fromRoots path (some ((path.2.drop names.length).foldl push logical)) roots

def logicalFromRoots (path : Wide) (roots : List (Wide × Wide)) : Except String (Option Wide) := do
  fromRoots order (← parts path) none roots

end Order

/-! ### Roots -/

/-- As many units as `CompareStringOrdinal` can be told. -/
def Short (names : List Wide) : Prop := ∀ name ∈ names, name.length ≤ I32_MAX

structure DriveRoot where
  text : Wide
  place : Place
  parsed : parts text = .ok place
  short : Short place.2

section Covers

variable (order : Wide → Wide → Ordering)

def Agree (one two : List Wide) : Prop := ∀ pair ∈ one.zip two, order pair.1 pair.2 = .eq

/-- The names of the one are the first ones of the other, on the same drive. -/
def Covers (root path : Place) : Prop :=
  root.1 = path.1 ∧ root.2.length ≤ path.2.length ∧ Agree order root.2 path.2

instance (root path : Place) : Decidable (Covers order root path) := by
  unfold Covers Agree
  infer_instance

def Apart (one two : DriveRoot) : Prop :=
  ¬Covers order one.place two.place ∧ ¬Covers order two.place one.place

inductive Partition where
  | apex
  | system
  | systemExt
  deriving DecidableEq

def Partition.name : Partition → String
  | .apex => "apex"
  | .system => "system"
  | .systemExt => "system_ext"

structure PartitionRoots where
  root : Partition → DriveRoot
  apart : ∀ one two, one ≠ two → Apart order (root one) (root two)

variable {order}

def PartitionRoots.lookup (roots : PartitionRoots order) : String → Option Wide
  | "VIRTMGR_APEX_ROOT" => some (roots.root .apex).text
  | "VIRTMGR_SYSTEM_ROOT" => some (roots.root .system).text
  | "VIRTMGR_SYSTEM_EXT_ROOT" => some (roots.root .systemExt).text
  | _ => none

def PartitionRoots.list (roots : PartitionRoots order) : List (Wide × Wide) :=
  [((roots.root .apex).text, units "/apex"), ((roots.root .system).text, units "/system"),
    ((roots.root .systemExt).text, units "/system_ext")]

end Covers

/-! ### `parts` -/

section Parts

variable {path : Wide} {names : List Wide} {rest : List Component}

theorem mapM_normalPart : rest.mapM normalPart = .ok names ↔ rest = names.map .normal := by
  induction rest generalizing names with
  | nil => cases names <;> simp [pure, Except.pure]
  | cons component rest more =>
      rw [List.mapM_cons]
      constructor
      · intro found
        obtain ⟨name, normal, found⟩ := Struct.bind_inv found
        obtain ⟨later, found_later, found⟩ := Struct.bind_inv found
        cases found
        cases component <;> cases normal
        rw [more.mp found_later]
        rfl
      · intro same
        cases names with
        | nil => cases same
        | cons name names =>
            simp only [List.map_cons, List.cons.injEq] at same
            obtain ⟨rfl, same⟩ := same
            rw [more.mpr same]
            rfl

theorem drivePart_eq_ok {parsed : Prefix} {drive : Unit16} (found : drivePart parsed = .ok drive) :
    ∃ letter, toAsciiUppercase letter = drive ∧
      (parsed = .disk letter ∨ parsed = .verbatimDisk letter) := by
  cases parsed <;> cases found
  · exact ⟨_, rfl, .inr rfl⟩
  · exact ⟨_, rfl, .inl rfl⟩

theorem parts_eq_ok {place : Place} : parts path = .ok place ↔
    ∃ raw parsed, components path = .pre raw parsed :: .rootDir :: place.2.map .normal ∧
      drivePart parsed = .ok place.1 := by
  unfold parts
  constructor
  · intro found
    split at found
    · rename_i raw parsed rest same
      obtain ⟨drive, drives, found⟩ := Struct.bind_inv found
      split at found
      · rename_i rest
        obtain ⟨names, normal, found⟩ := Struct.bind_inv found
        cases found
        exact ⟨raw, parsed, by rw [same, mapM_normalPart.mp normal], drives⟩
      · cases found
    · cases found
  · rintro ⟨raw, parsed, same, drives⟩
    rw [same]
    simp only [drives, bind, Except.bind, mapM_normalPart.mpr rfl]
    rfl

/-- Names that are joined to a root are behind it. -/
theorem DriveRoot.join_names (root : DriveRoot) (good : ∀ name ∈ names, Name false name)
    (no_drive : ∀ name ∈ names, parseDrive name = none) :
    components (join root.text (collect (names.map .normal))) =
      components root.text ++ names.map .normal := by
  obtain ⟨raw, parsed, same, drives⟩ := parts_eq_ok.mp root.parsed
  obtain ⟨letter, -, rfl | rfl⟩ := drivePart_eq_ok drives
  · exact components_push_disk good no_drive same
  · exact components_push_verbatimDisk good no_drive same

theorem DriveRoot.isAbsolute (root : DriveRoot) : isAbsolute root.text = true := by
  obtain ⟨raw, parsed, same, drives⟩ := parts_eq_ok.mp root.parsed
  have physical : hasPhysicalRoot root.text = true := by
    obtain ⟨letter, -, rfl | rfl⟩ := drivePart_eq_ok drives <;>
      exact hasPhysicalRoot_of_components rfl same
  simp [WindowsPath.isAbsolute, hasRoot, physical, parsePrefix_of_components same]

theorem DriveRoot.parts_join (root : DriveRoot) (good : ∀ name ∈ names, Name false name)
    (no_drive : ∀ name ∈ names, parseDrive name = none) :
    parts (join root.text (collect (names.map .normal))) =
      .ok (root.place.1, root.place.2 ++ names) := by
  obtain ⟨raw, parsed, same, drives⟩ := parts_eq_ok.mp root.parsed
  refine parts_eq_ok.mpr ⟨raw, parsed, ?_, drives⟩
  rw [root.join_names good no_drive, same, List.map_append]
  rfl

end Parts

/-! ### The loops -/

section Loops

variable {order : Wide → Wide → Ordering} {one two more : List Wide} {path : Place}
  {found : Option Wide} {roots : List (Wide × Wide)}

instance : Decidable (Agree order one two) := by
  unfold Agree
  infer_instance

theorem agree_cons {first second : Wide} : Agree order (first :: one) (second :: two) ↔
    order first second = .eq ∧ Agree order one two := by
  simp [Agree, List.zip_cons_cons]

theorem agree_comm [Std.OrientedCmp order] : Agree order one two ↔ Agree order two one := by
  induction one generalizing two with
  | nil => simp [Agree]
  | cons first one later =>
      cases two with
      | nil => simp [Agree]
      | cons second two =>
          rw [agree_cons, agree_cons, Std.OrientedCmp.eq_comm, later]

theorem agree_self [Std.ReflCmp order] : Agree order one one := by
  induction one with
  | nil => simp [Agree]
  | cons first one later => exact agree_cons.mpr ⟨Std.ReflCmp.compare_self, later⟩

/-- Two lists that agree with a longer one agree. -/
theorem agree_trans [Std.TransCmp order] {names : List Wide} (first : Agree order one names)
    (second : Agree order two names) (one_within : one.length ≤ names.length) :
    Agree order one two := by
  induction names generalizing one two with
  | nil =>
      cases one with
      | nil => simp [Agree]
      | cons => simp at one_within
  | cons name names later =>
      cases one with
      | nil => simp [Agree]
      | cons head one =>
          cases two with
          | nil => simp [Agree]
          | cons other two =>
              rw [agree_cons] at first second ⊢
              refine ⟨Std.TransCmp.eq_trans first.1 (Std.OrientedCmp.eq_comm.mp second.1), ?_⟩
              exact later first.2 second.2 (Nat.le_of_succ_le_succ one_within)

theorem matchNames_of_short (one_short : Short one) (two_short : Short two) :
    matchNames order one two = .ok (decide (Agree order one two)) := by
  induction one generalizing two with
  | nil => simp [matchNames, Agree, pure, Except.pure]
  | cons first one later =>
      cases two with
      | nil => simp [matchNames, Agree, pure, Except.pure]
      | cons second two =>
          obtain ⟨first_short, one_short⟩ := List.forall_mem_cons.mp one_short
          obtain ⟨second_short, two_short⟩ := List.forall_mem_cons.mp two_short
          have compared : equal order first second = .ok (order first second = .eq) :=
            if_pos ⟨first_short, second_short⟩
          rw [matchNames, compared]
          by_cases same : order first second = .eq
          · simp [same, bind, Except.bind, later one_short two_short, agree_cons]
          · simp [same, bind, Except.bind, pure, Except.pure, agree_cons]

/-- The names behind the shorter list are not looked at. -/
theorem matchNames_append (within : one.length ≤ two.length) :
    matchNames order one (two ++ more) = matchNames order one two := by
  induction one generalizing two with
  | nil => simp [matchNames]
  | cons first one later =>
      cases two with
      | nil => simp at within
      | cons second two =>
          simp only [List.cons_append, matchNames, later (Nat.le_of_succ_le_succ within)]

/-- Nor are the ones behind two that differ. -/
theorem matchNames_apart (one_short : Short one) (two_short : Short two)
    (apart : ¬Agree order one two) : matchNames order one (two ++ more) = .ok false := by
  induction one generalizing two with
  | nil => exact absurd (by simp [Agree]) apart
  | cons first one later =>
      cases two with
      | nil => exact absurd (by simp [Agree]) apart
      | cons second two =>
          obtain ⟨first_short, one_short⟩ := List.forall_mem_cons.mp one_short
          obtain ⟨second_short, two_short⟩ := List.forall_mem_cons.mp two_short
          have compared : equal order first second = .ok (order first second = .eq) :=
            if_pos ⟨first_short, second_short⟩
          rw [List.cons_append, matchNames, compared]
          by_cases same : order first second = .eq
          · simp only [agree_cons, same, true_and] at apart
            simp [same, bind, Except.bind, later one_short two_short apart]
          · simp [same, bind, Except.bind, pure, Except.pure]

theorem matchNames_error {text : String} (failed : matchNames order one two = .error text) :
    text = "oversize path component" := by
  induction one generalizing two with
  | nil => cases failed
  | cons first one later =>
      cases two with
      | nil => cases failed
      | cons second two =>
          rw [matchNames] at failed
          by_cases short : first.length ≤ I32_MAX ∧ second.length ≤ I32_MAX
          · rw [equal, if_pos short] at failed
            by_cases same : order first second = .eq
            · simp only [same, decide_true, bind, Except.bind, ↓reduceIte] at failed
              exact later failed
            · simp [same, bind, Except.bind, pure, Except.pure] at failed
          · rw [equal, if_neg short] at failed
            cases failed
            rfl

theorem agree_of_matchNames (matched : matchNames order one two = .ok true) :
    Agree order one two := by
  induction one generalizing two with
  | nil => simp [Agree]
  | cons first one later =>
      cases two with
      | nil => simp [Agree]
      | cons second two =>
          rw [matchNames] at matched
          obtain ⟨same, compared, matched⟩ := Struct.bind_inv matched
          cases same
          · cases matched
          · rw [equal] at compared
            split at compared
            · exact agree_cons.mpr ⟨of_decide_eq_true (Except.ok.inj compared), later matched⟩
            · cases compared

def takes (order : Wide → Wide → Ordering) (path : Place) (root : Wide) : Except String Bool := do
  let (drive, names) ← parts root
  if drive ≠ path.1 ∨ path.2.length < names.length then return false
  else matchNames order names path.2

def behind (path : Place) (entry : Wide × Wide) : Wide :=
  (path.2.drop ((parts entry.1).toOption.elim 0 fun place => place.2.length)).foldl push entry.2

theorem fromRoots_cons {entry : Wide × Wide} : fromRoots order path found (entry :: roots) =
    (takes order path entry.1).bind fun taken =>
      if taken then
        if found.isSome then .error "ambiguous overlapping desktop partition roots"
        else fromRoots order path (some (behind path entry)) roots
      else fromRoots order path found roots := by
  rw [fromRoots, takes, behind]
  rcases parts entry.1 with failure | ⟨drive, names⟩
  · rfl
  · by_cases other : drive ≠ path.1 ∨ path.2.length < names.length
    · simp [bind, Except.bind, pure, Except.pure, other]
    · simp only [bind, Except.bind, other, if_false, Except.toOption, Option.elim_some]
      rcases matchNames order names path.2 with failure | _ | _ <;> rfl

def single : List Wide → Except String (Option Wide)
  | [] => .ok none
  | [logical] => .ok (some logical)
  | _ => .error "ambiguous overlapping desktop partition roots"

theorem fromRoots_eq_single {taken : Wide × Wide → Bool}
    (each : ∀ entry ∈ roots, takes order path entry.1 = .ok (taken entry)) :
    fromRoots order path found roots =
      single (found.toList ++ (roots.filter taken).map (behind path)) := by
  induction roots generalizing found with
  | nil => cases found <;> rfl
  | cons entry roots later =>
      obtain ⟨first, each⟩ := List.forall_mem_cons.mp each
      rw [fromRoots_cons, first]
      by_cases hit : taken entry = true
      · cases found with
        | none => simp [Except.bind, hit, later each]
        | some before => simp [Except.bind, hit, single]
      · simp [Except.bind, hit, later each]

theorem single_perm {one two : List Wide} (same : one.Perm two) : single one = single two := by
  rcases one with _ | ⟨first, _ | ⟨second, one⟩⟩
  · rw [List.nil_perm.mp same]
  · rw [List.singleton_perm.mp same]
  · have long := same.length_eq
    rcases two with _ | ⟨_, _ | ⟨_, two⟩⟩ <;> simp at long
    rfl

/-- One error is told if some root has it and none but one is taken. -/
theorem fromRoots_error {text : String} {taken : Wide × Wide → Bool}
    (each : ∀ entry ∈ roots,
      takes order path entry.1 = .ok (taken entry) ∨ takes order path entry.1 = .error text)
    (once : found.toList.length + (roots.filter taken).length ≤ 1)
    (failed : ∃ entry ∈ roots, takes order path entry.1 = .error text) :
    fromRoots order path found roots = .error text := by
  induction roots generalizing found with
  | nil => simp at failed
  | cons entry roots later =>
      obtain ⟨first, each⟩ := List.forall_mem_cons.mp each
      rw [fromRoots_cons]
      rcases first with first | first
      · have failed_later : ∃ entry ∈ roots, takes order path entry.1 = .error text := by
          obtain ⟨other, among, failed⟩ := failed
          rcases List.mem_cons.mp among with rfl | among
          · rw [first] at failed
            cases failed
          · exact ⟨other, among, failed⟩
        rw [first, Except.bind]
        by_cases hit : taken entry = true
        · rw [List.filter_cons_of_pos hit, List.length_cons] at once
          have nothing : found = none := by
            cases found with
            | none => rfl
            | some _ =>
                simp only [Option.toList_some, List.length_singleton] at once
                omega
          subst nothing
          have after : (roots.filter taken).length = 0 := by
            simpa using once
          simp only [hit, if_true, Option.isSome_none, Bool.false_eq_true, if_false]
          exact later each (by simp [after]) failed_later
        · rw [List.filter_cons_of_neg hit] at once
          simp only [Bool.not_eq_true] at hit
          simp only [hit, Bool.false_eq_true, if_false]
          exact later each once failed_later
      · rw [first]
        rfl

/-- Roots in another order: the same is found, or there is an error as before. -/
theorem fromRoots_perm {others : List (Wide × Wide)} (same : roots.Perm others) :
    (fromRoots order path found roots).toOption = (fromRoots order path found others).toOption := by
  induction same generalizing found with
  | nil => rfl
  | cons entry same later =>
      rw [fromRoots_cons, fromRoots_cons]
      rcases takes order path entry.1 with failure | _ | _
      · rfl
      · exact later
      · cases found with
        | none => exact later
        | some before => rfl
  | swap one two rest =>
      simp only [fromRoots_cons]
      rcases takes order path one.1 with _ | _ | _ <;>
        rcases takes order path two.1 with _ | _ | _ <;> cases found <;> rfl
  | trans _ _ first second => exact first.trans second

end Loops

end Bscp.Virtmgr.PartitionPath
