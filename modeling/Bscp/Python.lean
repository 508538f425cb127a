import Bscp.Session

/-!
What the controllers' language contributes to the models: errors with their
class and text, insertion-ordered dictionaries, and answers whose type the
caller does not control.
-/

namespace Bscp

inductive Exc where
  | unknown
  | runtimeError
  | valueError
  | timeoutError
  | typeError
  | keyError
  | attributeError
  | osError
  | fileNotFoundError
  | fileExistsError
  | unicodeDecodeError
  | other
  deriving DecidableEq, Repr

structure Fault where
  kind : Exc
  text : String
  deriving DecidableEq, Repr

/-- An object of the type the caller expects, or an object of any other type. -/
inductive Reply (α : Type) where
  | value (value : α)
  | other
  deriving DecidableEq, Repr

abbrev Text := List Char

instance : LawfulBEq Text := inferInstance

def isSpace (char : Char) : Bool :=
  let code := char.toNat
  decide ((9 ≤ code ∧ code ≤ 13) ∨ (28 ≤ code ∧ code ≤ 32) ∨ code = 133 ∨ code = 160 ∨
    code = 5760 ∨ (8192 ≤ code ∧ code ≤ 8202) ∨ code = 8232 ∨ code = 8233 ∨ code = 8239 ∨
    code = 8287 ∨ code = 12288)

def strip (text : Text) : Text :=
  ((text.dropWhile isSpace).reverse.dropWhile isSpace).reverse

def require {σ : Type} (ok : Bool) (text : String) : Script σ Fault Unit :=
  if ok then Script.ret () else Script.raise ⟨.runtimeError, text⟩

/-- A guard keeps the precondition and hands its condition to what follows. -/
theorem Script.Triple.requiring {σ α : Type} {open_ pre : σ → Prop} {ok : Bool} {text : String}
    {next : Unit → Script σ Fault α} {post : α → σ → Prop} {fault : Fault → σ → Prop}
    (refused : ok = false → ∀ state, pre state → fault ⟨.runtimeError, text⟩ state)
    (passed : ok = true → Triple open_ pre (next ()) post fault) :
    Triple open_ pre (Script.andThen (Bscp.require ok text) next) post fault := by
  cases ok with
  | true => exact passed rfl
  | false => exact fun state holds => refused rfl state holds

theorem Script.Triple.require {σ : Type} {open_ pre : σ → Prop} {ok : Bool} {text : String}
    {fault : Fault → σ → Prop}
    (refused : ok = false → ∀ state, pre state → fault ⟨.runtimeError, text⟩ state) :
    Triple open_ pre (Bscp.require ok text) (fun _ => pre) fault := by
  cases ok with
  | true => exact Triple.ret fun _ holds => holds
  | false => exact Triple.raise (refused rfl)

abbrev Dict (K V : Type) := List (K × V)

namespace Dict

variable {K V : Type} [DecidableEq K]

def find : Dict K V → K → Option V
  | [], _ => none
  | (key, value) :: rest, wanted => if key = wanted then some value else find rest wanted

/-- Assignment keeps the place of a key that is already there. -/
def put : Dict K V → K → V → Dict K V
  | [], wanted, value => [(wanted, value)]
  | (key, old) :: rest, wanted, value =>
      if key = wanted then (key, value) :: rest else (key, old) :: put rest wanted value

def remove (dict : Dict K V) (unwanted : K) : Dict K V :=
  dict.filter fun entry => !decide (entry.1 = unwanted)

def keys (dict : Dict K V) : List K := dict.map Prod.fst

/-- Equality of dictionaries does not look at the order of the entries. -/
def same [DecidableEq V] (left right : Dict K V) : Bool :=
  (left.keys ++ right.keys).all fun key => decide (left.find key = right.find key)

theorem find_none_iff (dict : Dict K V) (wanted : K) :
    dict.find wanted = none ↔ wanted ∉ dict.keys := by
  induction dict with
  | nil => simp [find, keys]
  | cons entry rest ih =>
      obtain ⟨key, value⟩ := entry
      by_cases hit : key = wanted
      · simp [find, keys, hit]
      · simpa [find, keys, hit, Ne.symm hit] using ih

theorem same_iff [DecidableEq V] (left right : Dict K V) :
    left.same right = true ↔ ∀ key, left.find key = right.find key := by
  constructor
  · intro equal key
    by_cases listed : key ∈ left.keys ++ right.keys
    · exact of_decide_eq_true (List.all_eq_true.mp equal key listed)
    · simp only [List.mem_append, not_or] at listed
      rw [(find_none_iff left key).mpr listed.1, (find_none_iff right key).mpr listed.2]
  · intro equal
    exact List.all_eq_true.mpr fun key _ => decide_eq_true (equal key)

theorem find_mem {dict : Dict K V} {key : K} {value : V} (found : dict.find key = some value) :
    (key, value) ∈ dict := by
  induction dict with
  | nil => simp [find] at found
  | cons entry rest ih =>
      obtain ⟨first, old⟩ := entry
      by_cases hit : first = key
      · simp only [find, hit, ↓reduceIte, Option.some.injEq] at found
        simp [hit, found]
      · exact List.mem_cons_of_mem _ (ih (by simpa [find, hit] using found))

theorem find_of_mem {dict : Dict K V} {key : K} {value : V} (distinct : dict.keys.Nodup)
    (member : (key, value) ∈ dict) : dict.find key = some value := by
  induction dict with
  | nil => simp at member
  | cons entry rest ih =>
      obtain ⟨first, old⟩ := entry
      have fresh := List.nodup_cons.mp distinct
      rcases List.mem_cons.mp member with same | later
      · cases same; simp [find]
      · have other : first ≠ key := by
          rintro rfl
          exact fresh.1 (List.mem_map.mpr ⟨_, later, rfl⟩)
        simpa [find, other] using ih fresh.2 later

theorem put_fresh {dict : Dict K V} {key : K} (value : V) (absent : key ∉ dict.keys) :
    dict.put key value = dict ++ [(key, value)] := by
  induction dict with
  | nil => rfl
  | cons entry rest ih =>
      obtain ⟨first, old⟩ := entry
      simp only [keys, List.map_cons, List.mem_cons, not_or] at absent
      have tail : put rest key value = rest ++ [(key, value)] := ih absent.2
      simp [put, Ne.symm absent.1, tail]

@[simp] theorem find_put (dict : Dict K V) (key wanted : K) (value : V) :
    (dict.put key value).find wanted = if key = wanted then some value else dict.find wanted := by
  induction dict with
  | nil => simp [put, find]
  | cons entry rest ih =>
      obtain ⟨first, old⟩ := entry
      by_cases same : first = key
      · subst same
        by_cases hit : first = wanted <;> simp [put, find, hit]
      · by_cases hit : first = wanted
        · subst hit
          simp [put, find, same, Ne.symm same]
        · simp [put, find, same, hit, ih]

@[simp] theorem mem_remove {dict : Dict K V} {unwanted : K} {entry : K × V} :
    entry ∈ dict.remove unwanted ↔ entry ∈ dict ∧ entry.1 ≠ unwanted := by
  simp [remove]

theorem find_remove_of_ne (dict : Dict K V) {unwanted wanted : K} (other : wanted ≠ unwanted) :
    (dict.remove unwanted).find wanted = dict.find wanted := by
  induction dict with
  | nil => rfl
  | cons entry rest ih =>
      obtain ⟨first, old⟩ := entry
      by_cases same : first = unwanted
      · have missed : first ≠ wanted := fun hit => other (hit ▸ same)
        simpa [remove, find, same, missed, Ne.symm other] using ih
      · by_cases hit : first = wanted
        · simp [remove, find, hit, other]
        · simpa [remove, find, same, hit] using ih

theorem nodup_keys_remove {dict : Dict K V} (distinct : dict.keys.Nodup) (unwanted : K) :
    (dict.remove unwanted).keys.Nodup :=
  distinct.sublist (List.Sublist.map Prod.fst List.filter_sublist)

theorem nodup_keys_put {dict : Dict K V} {key : K} (value : V) (distinct : dict.keys.Nodup)
    (absent : dict.find key = none) : (dict.put key value).keys.Nodup := by
  have fresh := (find_none_iff dict key).mp absent
  rw [put_fresh value fresh, keys, List.map_append]
  refine List.nodup_append.mpr ⟨distinct, by simp, ?_⟩
  rintro other listed _ added rfl
  obtain rfl : other = key := List.mem_singleton.mp added
  exact fresh listed

end Dict

end Bscp
