import Bscp.Python
import Mathlib.Data.List.Perm.Subperm
import Mathlib.Data.List.Nodup
import Mathlib.Data.List.Induction
import Mathlib.Tactic.Common

/-!
A dictionary that takes over the entries of a list one after the other. A key keeps the place at
which it came first and has the value that came last.
-/

namespace Bscp.Dict

variable {K V W L : Type} [DecidableEq K] [DecidableEq L]

def update (dict : Dict K V) (entries : List (K × V)) : Dict K V :=
  entries.foldl (fun dict entry => dict.put entry.1 entry.2) dict

def latest (entries : List (K × V)) : Dict K V := update [] entries

@[simp] theorem update_nil (dict : Dict K V) : dict.update [] = dict := rfl

@[simp] theorem update_cons (dict : Dict K V) (entry : K × V) (entries : List (K × V)) :
    dict.update (entry :: entries) = (dict.put entry.1 entry.2).update entries := rfl

theorem update_append (dict : Dict K V) (first second : List (K × V)) :
    dict.update (first ++ second) = (dict.update first).update second := List.foldl_append

/-! ### Keys -/

theorem keys_put_of_mem {dict : Dict K V} {key : K} (value : V) (present : key ∈ dict.keys) :
    (dict.put key value).keys = dict.keys := by
  induction dict with
  | nil => cases present
  | cons entry rest next =>
      obtain ⟨first, old⟩ := entry
      by_cases same : first = key
      · simp [put, keys, same]
      · have later : key ∈ keys rest := by
          simpa [keys, Ne.symm same] using present
        have tail := next later
        simp only [keys] at tail
        simp [put, keys, same, tail]

theorem mem_keys_put {dict : Dict K V} {key wanted : K} {value : V} :
    wanted ∈ (dict.put key value).keys ↔ wanted ∈ dict.keys ∨ wanted = key := by
  by_cases present : key ∈ dict.keys
  · rw [keys_put_of_mem value present]
    exact ⟨.inl, fun either => either.elim id fun same => same ▸ present⟩
  · rw [put_fresh value present]
    simp [keys]

theorem nodup_put {dict : Dict K V} (distinct : dict.keys.Nodup) (key : K) (value : V) :
    (dict.put key value).keys.Nodup := by
  by_cases present : key ∈ dict.keys
  · rwa [keys_put_of_mem value present]
  · exact nodup_keys_put value distinct ((find_none_iff dict key).mpr present)

theorem mem_keys_update {dict : Dict K V} {entries : List (K × V)} {wanted : K} :
    wanted ∈ (dict.update entries).keys ↔ wanted ∈ dict.keys ∨ wanted ∈ keys entries := by
  induction entries generalizing dict with
  | nil => simp [keys]
  | cons entry entries next =>
      rw [update_cons, next, mem_keys_put, or_assoc]
      simp [keys]

theorem nodup_update {dict : Dict K V} (distinct : dict.keys.Nodup) (entries : List (K × V)) :
    (dict.update entries).keys.Nodup := by
  induction entries generalizing dict with
  | nil => exact distinct
  | cons entry entries next => exact next (nodup_put distinct _ _)

theorem nodup_latest (entries : List (K × V)) : (latest entries).keys.Nodup :=
  nodup_update (show (keys ([] : Dict K V)).Nodup from List.nodup_nil) entries

theorem mem_keys_latest {entries : List (K × V)} {wanted : K} :
    wanted ∈ (latest entries).keys ↔ wanted ∈ keys entries := by
  rw [latest, mem_keys_update]
  simp [keys]

theorem keys_update_of_mem {dict : Dict K V} {entries : List (K × V)}
    (present : ∀ key ∈ keys entries, key ∈ dict.keys) :
    (dict.update entries).keys = dict.keys := by
  induction entries generalizing dict with
  | nil => rfl
  | cons entry entries next =>
      have here : entry.1 ∈ dict.keys := present _ (by simp [keys])
      have kept := keys_put_of_mem entry.2 here
      rw [update_cons, next, kept]
      intro key member
      rw [kept]
      exact present key (by simp only [keys, List.map_cons]; exact List.mem_cons_of_mem _ member)

/-- Entries with keys of their own go behind the others. -/
theorem update_fresh {dict : Dict K V} {entries : List (K × V)} (distinct : (keys entries).Nodup)
    (apart : ∀ key ∈ keys entries, key ∉ dict.keys) : dict.update entries = dict ++ entries := by
  induction entries generalizing dict with
  | nil => simp
  | cons entry entries next =>
      have fresh := List.nodup_cons.mp distinct
      have here := put_fresh entry.2 (apart entry.1 List.mem_cons_self)
      have others : ∀ key ∈ keys entries, key ∉ (dict.put entry.1 entry.2).keys := by
        intro key member listed
        rcases mem_keys_put.mp listed with old | same
        · exact apart key (List.mem_cons_of_mem _ member) old
        · exact fresh.1 (same ▸ member)
      rw [update_cons, next fresh.2 others, here, List.append_assoc]
      rfl

theorem latest_of_nodup {entries : List (K × V)} (distinct : (keys entries).Nodup) :
    latest entries = entries :=
  update_fresh distinct fun _ _ => List.not_mem_nil

theorem mem_put {dict : Dict K V} {key : K} {value : V} {entry : K × V}
    (member : entry ∈ dict.put key value) : entry ∈ dict ∨ entry = (key, value) := by
  induction dict with
  | nil => exact .inr (List.mem_singleton.mp member)
  | cons first rest next =>
      obtain ⟨name, old⟩ := first
      by_cases same : name = key
      · subst same
        rw [put, if_pos rfl] at member
        rcases List.mem_cons.mp member with here | later
        · exact .inr here
        · exact .inl (List.mem_cons_of_mem _ later)
      · rw [put, if_neg same] at member
        rcases List.mem_cons.mp member with here | later
        · exact .inl (here ▸ List.mem_cons_self)
        · exact (next later).imp_left (List.mem_cons_of_mem _)

theorem mem_update {dict : Dict K V} {entries : List (K × V)} {entry : K × V}
    (member : entry ∈ dict.update entries) : entry ∈ dict ∨ entry ∈ entries := by
  induction entries generalizing dict with
  | nil => exact .inl member
  | cons first entries next =>
      rcases next member with placed | later
      · exact (mem_put placed).imp_right fun same => List.mem_cons.mpr (.inl same)
      · exact .inr (List.mem_cons_of_mem _ later)

theorem mem_latest {entries : List (K × V)} {entry : K × V} (member : entry ∈ latest entries) :
    entry ∈ entries := (mem_update member).resolve_left List.not_mem_nil

/-! ### Values -/

theorem find_update {dict : Dict K V} {entries : List (K × V)} (distinct : (keys entries).Nodup)
    (wanted : K) : (dict.update entries).find wanted =
      (find entries wanted).or (dict.find wanted) := by
  induction entries generalizing dict with
  | nil => rfl
  | cons entry entries next =>
      obtain ⟨key, value⟩ := entry
      have fresh := List.nodup_cons.mp distinct
      rw [update_cons, next fresh.2, find_put]
      by_cases same : key = wanted
      · subst same
        have none := (find_none_iff entries key).mpr fresh.1
        simp [find, none]
      · simp [find, same]

theorem eq_of_find {left right : Dict K V} (same : left.keys = right.keys)
    (distinct : left.keys.Nodup) (values : ∀ key, left.find key = right.find key) :
    left = right := by
  induction left generalizing right with
  | nil => exact (List.map_eq_nil_iff.mp same.symm).symm
  | cons entry left next =>
      cases right with
      | nil => cases same
      | cons other right =>
          obtain ⟨key, value⟩ := entry
          obtain ⟨twin, old⟩ := other
          obtain ⟨rfl, others⟩ := List.cons.inj same
          have fresh := List.nodup_cons.mp distinct
          have first := values key
          simp only [find, if_true, Option.some.injEq] at first
          have rest : ∀ wanted, find left wanted = find right wanted := by
            intro wanted
            by_cases hit : key = wanted
            · subst hit
              have missing : key ∉ keys right := by
                have listed : keys left = keys right := others
                exact listed ▸ fresh.1
              rw [(find_none_iff left key).mpr fresh.1, (find_none_iff right key).mpr missing]
            · have both := values wanted
              simpa [find, hit] using both
          rw [first, next others fresh.2 rest]

/-! ### Entries that come twice -/

theorem put_put (dict : Dict K V) (key : K) (old value : V) :
    (dict.put key old).put key value = dict.put key value := by
  induction dict with
  | nil => simp [put]
  | cons entry rest next =>
      obtain ⟨first, before⟩ := entry
      by_cases same : first = key
      · simp [put, same]
      · simp [put, same, next]

theorem put_comm {dict : Dict K V} {key other : K} (value new : V) (present : key ∈ dict.keys)
    (apart : key ≠ other) :
    (dict.put other new).put key value = (dict.put key value).put other new := by
  induction dict with
  | nil => cases present
  | cons entry rest next =>
      obtain ⟨first, old⟩ := entry
      by_cases same : first = key
      · subst same
        simp [put, apart]
      · have later : key ∈ keys rest := by
          simpa [keys, Ne.symm same] using present
        by_cases hit : first = other
        · subst hit
          simp [put, same]
        · simp [put, same, hit, next later]

theorem update_put_comm {dict : Dict K V} {key : K} (value : V) (present : key ∈ dict.keys)
    {entries : List (K × V)} (apart : key ∉ keys entries) :
    (dict.update entries).put key value = (dict.put key value).update entries := by
  induction entries generalizing dict with
  | nil => rfl
  | cons entry entries next =>
      simp only [keys, List.map_cons, List.mem_cons, not_or] at apart
      rw [update_cons, next (mem_keys_put.mpr (.inl present)) apart.2,
        put_comm value entry.2 present apart.1, update_cons]

/-- An entry that is put into a dictionary before it is taken over. -/
theorem update_put {entries : Dict K V} (distinct : entries.keys.Nodup) (dict : Dict K V) (key : K)
    (value : V) : dict.update (entries.put key value) = (dict.update entries).put key value := by
  induction entries generalizing dict with
  | nil => rfl
  | cons entry entries next =>
      obtain ⟨first, old⟩ := entry
      have fresh := List.nodup_cons.mp distinct
      by_cases same : first = key
      · subst same
        have present : first ∈ (dict.put first old).keys := mem_keys_put.mpr (.inr rfl)
        rw [put, if_pos rfl, update_cons, update_cons, update_put_comm value present fresh.1,
          put_put]
      · rw [put, if_neg same, update_cons, update_cons, next fresh.2]

/-- It makes no difference whether a list is taken over or the dictionary that it makes. -/
theorem update_latest (dict : Dict K V) (entries : List (K × V)) :
    dict.update (latest entries) = dict.update entries := by
  induction entries using List.reverseRecOn with
  | nil => rfl
  | append_singleton entries entry next =>
      have made : latest (entries ++ [entry]) = (latest entries).put entry.1 entry.2 := by
        rw [latest, update_append, ← latest]
        rfl
      rw [made, update_put (nodup_latest entries), next, update_append]
      rfl

theorem latest_latest (first second : List (K × V)) :
    latest (latest first ++ second) = latest (first ++ second) := by
  have made : update [] (latest first) = latest first := latest_of_nodup (nodup_latest first)
  rw [latest, update_append, made, latest, latest, update_append]

/-! ### Other names and other values -/

section Relabel

variable (rename : K → L) (convert : K → V → W)

def relabel (entry : K × V) : L × W := (rename entry.1, convert entry.1 entry.2)

omit [DecidableEq K] [DecidableEq L] in
theorem keys_relabel (entries : List (K × V)) :
    keys (entries.map (relabel rename convert)) = (keys entries).map rename := by
  simp [keys, relabel]

theorem put_relabel {dict : Dict K V} {key : K}
    (apart : ∀ other ∈ dict.keys, rename other = rename key → other = key) (value : V) :
    (dict.put key value).map (relabel rename convert) =
      put (dict.map (relabel rename convert)) (rename key) (convert key value) := by
  induction dict with
  | nil => rfl
  | cons entry rest next =>
      obtain ⟨first, old⟩ := entry
      by_cases same : first = key
      · subst same
        simp [put, relabel]
      · have other : rename first ≠ rename key :=
          fun equal => same (apart first (by simp [keys]) equal)
        have tail := next fun name member => apart name (List.mem_cons_of_mem _ member)
        simp [put, same, other, relabel] at tail ⊢
        exact tail

/-- Taking entries over commutes with new names, as long as these are different. -/
theorem update_relabel {dict : Dict K V} {entries : List (K × V)}
    (apart : ∀ key ∈ dict.keys ++ keys entries, ∀ other ∈ dict.keys ++ keys entries,
      rename key = rename other → key = other) :
    (dict.update entries).map (relabel rename convert) =
      update (dict.map (relabel rename convert)) (entries.map (relabel rename convert)) := by
  induction entries generalizing dict with
  | nil => rfl
  | cons entry entries next =>
      have within : ∀ key, key ∈ (dict.put entry.1 entry.2).keys ++ keys entries →
          key ∈ dict.keys ++ keys (entry :: entries) := by
        intro key member
        rcases List.mem_append.mp member with placed | later
        · rcases mem_keys_put.mp placed with old | same
          · exact List.mem_append_left _ old
          · exact List.mem_append_right _ (same ▸ List.mem_cons_self)
        · exact List.mem_append_right _ (List.mem_cons_of_mem _ later)
      have single : ∀ other ∈ dict.keys, rename other = rename entry.1 → other = entry.1 :=
        fun other member => apart other (List.mem_append_left _ member) entry.1
          (List.mem_append_right _ List.mem_cons_self)
      rw [update_cons, next fun key member other listed =>
        apart key (within key member) other (within other listed), put_relabel _ _ single]
      rfl

theorem latest_relabel {entries : List (K × V)}
    (apart : ∀ key ∈ keys entries, ∀ other ∈ keys entries, rename key = rename other →
      key = other) :
    (latest entries).map (relabel rename convert) =
      latest (entries.map (relabel rename convert)) :=
  update_relabel rename convert apart

end Relabel

/-- Other values under the same names. -/
theorem latest_convert (convert : K → V → W) (entries : List (K × V)) :
    (latest entries).map (relabel id convert) = latest (entries.map (relabel id convert)) :=
  latest_relabel id convert fun _ _ _ _ same => same

theorem find_convert (convert : K → V → W) (dict : Dict K V) (wanted : K) :
    find (dict.map (relabel id convert)) wanted = (dict.find wanted).map (convert wanted) := by
  induction dict with
  | nil => rfl
  | cons entry rest next =>
      obtain ⟨key, value⟩ := entry
      by_cases same : key = wanted
      · subst same
        simp [find, relabel]
      · simpa [find, relabel, same] using next

/-! ### The entries that an update leaves alone -/

theorem put_filter {dict : Dict K V} {key : K} {keep : K → Bool} (dropped : keep key = false)
    (value : V) : (dict.put key value).filter (fun entry => keep entry.1) =
      dict.filter fun entry => keep entry.1 := by
  induction dict with
  | nil => simp [put, dropped]
  | cons entry rest next =>
      obtain ⟨first, old⟩ := entry
      by_cases same : first = key
      · subst same
        simp [put, dropped]
      · simp only [put, same, if_false, List.filter_cons, next]

theorem update_filter {dict : Dict K V} {entries : List (K × V)} {keep : K → Bool}
    (dropped : ∀ key ∈ keys entries, keep key = false) :
    (dict.update entries).filter (fun entry => keep entry.1) =
      dict.filter fun entry => keep entry.1 := by
  induction entries generalizing dict with
  | nil => rfl
  | cons entry entries next =>
      rw [update_cons, next fun key member => dropped key (List.mem_cons_of_mem _ member),
        put_filter (dropped entry.1 List.mem_cons_self)]

/-- A key stands in one entry only. -/
theorem filter_key {dict : Dict K V} (distinct : dict.keys.Nodup) {key : K} {value : V}
    (member : (key, value) ∈ dict) :
    dict.filter (fun entry => decide (entry.1 = key)) = [(key, value)] := by
  induction dict with
  | nil => cases member
  | cons entry rest next =>
      obtain ⟨first, old⟩ := entry
      have fresh := List.nodup_cons.mp distinct
      rcases List.mem_cons.mp member with same | later
      · cases same
        have none : rest.filter (fun entry => decide (entry.1 = key)) = [] := by
          rw [List.filter_eq_nil_iff]
          intro entry listed
          have other : entry.1 ≠ key := fun same => fresh.1 (List.mem_map.mpr ⟨entry, listed, same⟩)
          simpa using other
        simp [none]
      · have other : first ≠ key := by
          rintro rfl
          exact fresh.1 (List.mem_map.mpr ⟨_, later, rfl⟩)
        simpa [other] using next fresh.2 later

end Bscp.Dict
