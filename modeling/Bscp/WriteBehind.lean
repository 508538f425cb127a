import Mathlib.Logic.Function.Basic
import Mathlib.Data.List.Basic

/-!
A store of values by keys, and a list of writes that are still on their way to it. A write may be
made before others as long as none of them that is before it in the list has its key.
-/

namespace Bscp.WriteBehind

variable {Key Value : Type} [DecidableEq Key]

def settle (value : Value) (key : Key) : List (Key × Value) → Value
  | [] => value
  | write :: rest => settle (if write.1 = key then write.2 else value) key rest

section Settle

variable {value : Value} {key : Key} {front back writes : List (Key × Value)}

@[simp] theorem settle_nil : settle value key [] = value := rfl

theorem settle_append :
    settle value key (front ++ back) = settle (settle value key front) key back := by
  induction front generalizing value with
  | nil => rfl
  | cons write front more => exact more

theorem settle_of_other (other : ∀ write ∈ writes, write.1 ≠ key) :
    settle value key writes = value := by
  induction writes with
  | nil => rfl
  | cons write rest more =>
      obtain ⟨first, other⟩ := List.forall_mem_cons.mp other
      rw [settle, if_neg first, more other]

/-- A write may be made before the ones that have other keys. -/
theorem settle_write {store : Key → Value} (write : Key × Value)
    (first : ∀ earlier ∈ front, earlier.1 ≠ write.1) :
    settle (Function.update store write.1 write.2 key) key (front ++ back) =
      settle (store key) key (front ++ write :: back) := by
  rw [settle_append, settle_append, settle]
  by_cases same : write.1 = key
  · subst same
    rw [Function.update_self, settle_of_other first, if_pos rfl]
  · rw [Function.update_of_ne (Ne.symm same), if_neg same]

end Settle

end Bscp.WriteBehind
