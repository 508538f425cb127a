import Bscp.DictUpdate

/-!
Dictionaries that are laid over others. A change of a dictionary settles the keys that it writes or
removes: what it makes of these does not depend on the dictionary that it is applied to.
-/

namespace Bscp.Dict

variable {K V : Type} [DecidableEq K]

theorem find_filter (dict : Dict K V) (keep : K → Bool) (wanted : K) :
    find (dict.filter fun entry => keep entry.1) wanted =
      if keep wanted then dict.find wanted else none := by
  induction dict with
  | nil => simp [find]
  | cons entry rest next =>
      obtain ⟨key, value⟩ := entry
      by_cases same : key = wanted
      · subst same
        by_cases kept : keep key <;> simp [find, kept, next]
      · by_cases kept : keep key <;> simp [find, kept, next, same]

omit [DecidableEq K] in
theorem nodup_filter {dict : Dict K V} (distinct : dict.keys.Nodup) (keep : K × V → Bool) :
    (keys (dict.filter keep)).Nodup := distinct.sublist (List.filter_sublist.map _)

@[simp] theorem find_remove (dict : Dict K V) (unwanted wanted : K) :
    (dict.remove unwanted).find wanted = if wanted = unwanted then none else dict.find wanted := by
  have found := find_filter dict (fun key => !decide (key = unwanted)) wanted
  by_cases same : wanted = unwanted <;> simpa [same, remove] using found

/-- `dict.pop` for one key after the other. -/
theorem find_removes (dict : Dict K V) (unwanted : List K) (wanted : K) :
    (unwanted.foldl remove dict).find wanted =
      if wanted ∈ unwanted then none else dict.find wanted := by
  induction unwanted generalizing dict with
  | nil => simp
  | cons key rest next =>
      rw [List.foldl_cons, next, find_remove]
      by_cases same : wanted = key <;> simp [same]

theorem mem_iff_find {dict : Dict K V} (distinct : dict.keys.Nodup) {key : K} {value : V} :
    (key, value) ∈ dict ↔ dict.find key = some value :=
  ⟨find_of_mem distinct, find_mem⟩

/-- Two dictionaries with the same values differ in the order of their entries only. -/
theorem perm_of_find {left right : Dict K V} (one : left.keys.Nodup) (two : right.keys.Nodup)
    (same : ∀ key, left.find key = right.find key) : left.Perm right := by
  refine (List.perm_ext_iff_of_nodup one.of_map two.of_map).mpr fun entry => ?_
  rw [mem_iff_find one, mem_iff_find two, same]

/-! ### Layers -/

structure Settles (change : Dict K V → Dict K V) (written : List K) : Prop where
  settled : ∀ key ∈ written, ∀ one two, (change one).find key = (change two).find key
  left : ∀ key, key ∉ written → ∀ dict, (change dict).find key = dict.find key
  distinct : ∀ dict, dict.keys.Nodup → (change dict).keys.Nodup

namespace Settles

variable {change : Dict K V → Dict K V} {written : List K}

theorem nothing : Settles (id : Dict K V → Dict K V) [] := ⟨nofun, fun _ _ _ => rfl, fun _ => id⟩

theorem put (settles : Settles change written) (key : K) (value : V) :
    Settles (fun dict => (change dict).put key value) (key :: written) where
  settled := by
    intro wanted member one two
    rw [find_put, find_put]
    by_cases same : key = wanted
    · rw [if_pos same, if_pos same]
    · rw [if_neg same, if_neg same]
      exact settles.settled wanted ((List.mem_cons.mp member).resolve_left (Ne.symm same)) one two
  left := by
    intro wanted absent dict
    simp only [List.mem_cons, not_or] at absent
    rw [find_put, if_neg (Ne.symm absent.1), settles.left wanted absent.2]
  distinct := fun dict distinct => nodup_put (settles.distinct dict distinct) key value

theorem remove (settles : Settles change written) (key : K) :
    Settles (fun dict => (change dict).remove key) (key :: written) where
  settled := by
    intro wanted member one two
    rw [find_remove, find_remove]
    by_cases same : wanted = key
    · rw [if_pos same, if_pos same]
    · rw [if_neg same, if_neg same]
      exact settles.settled wanted ((List.mem_cons.mp member).resolve_left same) one two
  left := by
    intro wanted absent dict
    simp only [List.mem_cons, not_or] at absent
    rw [find_remove, if_neg absent.1, settles.left wanted absent.2]
  distinct := fun dict distinct => nodup_keys_remove (settles.distinct dict distinct) key

theorem update (settles : Settles change written) (entries : List (K × V)) :
    Settles (fun dict => (change dict).update entries) (keys entries ++ written) := by
  induction entries generalizing change written with
  | nil => exact settles
  | cons entry entries next =>
      have first := next (settles.put entry.1 entry.2)
      exact {
        settled := fun key member => first.settled key (by
          simp only [keys, List.map_cons, List.cons_append, List.mem_cons, List.mem_append]
            at member ⊢
          tauto)
        left := fun key absent => first.left key (by
          simp only [keys, List.map_cons, List.cons_append, List.mem_cons, List.mem_append]
            at absent ⊢
          tauto)
        distinct := first.distinct }

theorem branch {other : Dict K V → Dict K V} {others : List K} (condition : Prop)
    [Decidable condition] (settles : Settles change written) (otherwise : Settles other others) :
    Settles (fun dict => if condition then change dict else other dict)
      (if condition then written else others) := by
  by_cases holds : condition
  · simpa only [holds, if_true] using settles
  · simpa only [holds, if_false] using otherwise

end Settles

end Bscp.Dict
