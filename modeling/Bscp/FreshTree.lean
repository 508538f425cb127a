import Mathlib.Data.List.Infix
import Mathlib.Tactic.Common

/-!
Files that are written into a directory tree which is empty at first. The directories above a file
are made with it. All files can be written if and only if none of their paths begins another one.
-/

namespace Bscp

variable {ι : Type}

structure FreshTree (ι : Type) where
  files : List (List ι) := []
  directories : List (List ι) := []

namespace FreshTree

section Create

variable [DecidableEq ι]

def above (path : List ι) : List (List ι) := path.inits.filter fun front => front ≠ path

theorem mem_above {path front : List ι} : front ∈ above path ↔ front <+: path ∧ front ≠ path := by
  simp [above]

/-- A new file: nothing if there is a file where a directory is needed, or anything where the file
is to be. -/
def create (tree : FreshTree ι) (path : List ι) : Option (FreshTree ι) :=
  if (above path).any (fun front => decide (front ∈ tree.files)) then none
  else
    let directories := above path ++ tree.directories
    if path ∈ tree.files ∨ path ∈ directories then none
    else some { files := path :: tree.files, directories := directories }

def createAll : FreshTree ι → List (List ι) → Option (FreshTree ι)
  | tree, [] => some tree
  | tree, path :: rest => (tree.create path).bind fun next => next.createAll rest

end Create

def Apart (one two : List ι) : Prop := ¬one <+: two ∧ ¬two <+: one

theorem Apart.symm {one two : List ι} (apart : Apart one two) : Apart two one :=
  ⟨apart.2, apart.1⟩

def Grown (tree : FreshTree ι) : Prop :=
  ∀ path, path ∈ tree.directories ↔ ∃ file ∈ tree.files, path <+: file ∧ path ≠ file

variable [DecidableEq ι]

theorem create_eq_some {tree next : FreshTree ι} {path : List ι} (grown : tree.Grown) :
    tree.create path = some next ↔ (∀ file ∈ tree.files, Apart file path) ∧
      next = { files := path :: tree.files, directories := above path ++ tree.directories } := by
  have clear : (¬(above path).any (fun front => decide (front ∈ tree.files)) ∧
      ¬(path ∈ tree.files ∨ path ∈ above path ++ tree.directories)) ↔
        ∀ file ∈ tree.files, Apart file path := by
    simp only [List.any_eq_true, mem_above, decide_eq_true_eq, List.mem_append, grown path]
    constructor
    · rintro ⟨blocked, taken⟩ file member
      have other : file ≠ path := fun same => taken (.inl (same ▸ member))
      exact ⟨fun front => blocked ⟨file, ⟨front, other⟩, member⟩,
        fun front => taken (.inr (.inr ⟨file, member, front, Ne.symm other⟩))⟩
    · intro apart
      refine ⟨?_, ?_⟩
      · rintro ⟨file, ⟨front, -⟩, member⟩
        exact (apart file member).1 front
      · rintro (member | ⟨-, other⟩ | ⟨file, member, front, -⟩)
        · exact (apart path member).1 List.prefix_rfl
        · exact other rfl
        · exact (apart file member).2 front
  rw [← clear, create]
  by_cases blocked : (above path).any (fun front => decide (front ∈ tree.files)) = true
  · simp [blocked]
  · by_cases taken : path ∈ tree.files ∨ path ∈ above path ++ tree.directories
    · simp only [blocked, taken, if_true]
      simp
    · simp only [blocked, taken, if_false]
      simp [eq_comm]

theorem grown_create {tree next : FreshTree ι} {path : List ι} (grown : tree.Grown)
    (created : tree.create path = some next) : next.Grown := by
  obtain ⟨-, rfl⟩ := (create_eq_some grown).mp created
  intro wanted
  simp only [List.mem_append, mem_above, grown wanted, List.mem_cons, exists_eq_or_imp]

theorem createAll_isSome {paths : List (List ι)} : ∀ {tree : FreshTree ι}, tree.Grown →
    ((tree.createAll paths).isSome ↔
      (∀ file ∈ tree.files, ∀ path ∈ paths, Apart file path) ∧ paths.Pairwise Apart) := by
  induction paths with
  | nil => simp [createAll]
  | cons path rest next =>
      intro tree grown
      rw [createAll, Option.isSome_bind]
      cases created : tree.create path with
      | none =>
          simp only [Option.any_none, Bool.false_eq_true, false_iff, not_and]
          intro apart
          have free : ∀ file ∈ tree.files, Apart file path := fun file member =>
            apart file member path List.mem_cons_self
          have some := (create_eq_some grown).mpr ⟨free, rfl⟩
          rw [created] at some
          cases some
      | some after =>
          obtain ⟨free, same⟩ := (create_eq_some grown).mp created
          rw [Option.any_some, next (grown_create grown created), same]
          simp only [List.forall_mem_cons, List.pairwise_cons]
          constructor
          · rintro ⟨⟨here, others⟩, pairs⟩
            exact ⟨fun file member => ⟨free file member, others file member⟩, here, pairs⟩
          · rintro ⟨others, here, pairs⟩
            exact ⟨⟨here, fun file member => (others file member).2⟩, pairs⟩

/-- All files can be written into an empty tree if and only if none is where another one needs a
directory, or is. -/
theorem createAll_empty {paths : List (List ι)} :
    ((({} : FreshTree ι).createAll paths).isSome ↔ paths.Pairwise Apart) := by
  have grown : ({} : FreshTree ι).Grown := fun path => by simp
  rw [createAll_isSome grown]
  simp

end FreshTree

end Bscp
