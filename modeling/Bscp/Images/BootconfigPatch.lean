import Bscp.Images.Bootconfig
import Mathlib.Data.List.DropRight

/-!
What the lines of an initrd's bootconfig define after a patch. The merge goes by the text in front
of the first `=` as it stands there; a reader of the lines does not see the blanks around it.
-/

namespace Bscp.Images.Bootconfig

open Dict (update latest relabel keys)
open Lines (splitlines splitFrom unlines Unbroken)
open Struct (le)

/-! ### Blanks -/

theorem strip_eq (text : Text) : strip text = (text.dropWhile isSpace).rdropWhile isSpace := rfl

def Tight (text : Text) : Prop := ∀ char ∈ text.head?, isSpace char = false

theorem dropWhile_of_tight {text : Text} (tight : Tight text) : text.dropWhile isSpace = text := by
  cases text with
  | nil => rfl
  | cons char text => rw [List.dropWhile_cons_of_neg (by simp [tight char rfl])]

theorem tight_dropWhile (text : Text) : Tight (text.dropWhile isSpace) := by
  induction text with
  | nil => exact fun _ member => by cases member
  | cons char text next =>
      by_cases blank : isSpace char = true
      · rwa [List.dropWhile_cons_of_pos blank]
      · rw [List.dropWhile_cons_of_neg blank]
        intro first same
        obtain rfl := Option.some.inj same
        exact eq_false_of_ne_true blank

theorem Tight.initial {text front : Text} (tight : Tight text) (starts : front <+: text) :
    Tight front := by
  obtain ⟨rest, rfl⟩ := starts
  cases front with
  | nil => exact fun _ member => by cases member
  | cons char front => exact tight

theorem tight_strip (text : Text) : Tight (strip text) :=
  (tight_dropWhile text).initial (List.rdropWhile_prefix _ _)

theorem strip_strip (text : Text) : strip (strip text) = strip text := by
  rw [strip_eq (strip text), dropWhile_of_tight (tight_strip text), strip_eq,
    List.rdropWhile_idempotent]

theorem strip_dropWhile (text : Text) : strip (text.dropWhile isSpace) = strip text := by
  rw [strip_eq, strip_eq, List.dropWhile_idempotent]

theorem rdropWhile_cons (char : Char) (text : Text) : (char :: text).rdropWhile isSpace =
    if text.rdropWhile isSpace = [] then [char].rdropWhile isSpace
    else char :: text.rdropWhile isSpace := by
  simp only [List.rdropWhile, List.reverse_cons, List.dropWhile_append, List.isEmpty_iff,
    List.reverse_eq_nil_iff]
  split
  · rfl
  · rw [List.reverse_append]
    rfl

theorem strip_rdropWhile (text : Text) : strip (text.rdropWhile isSpace) = strip text := by
  have cut : (text.rdropWhile isSpace).dropWhile isSpace =
      (text.dropWhile isSpace).rdropWhile isSpace := by
    induction text with
    | nil => rfl
    | cons char text next =>
        by_cases blank : isSpace char = true
        · rw [rdropWhile_cons, List.dropWhile_cons_of_pos blank, ← next]
          split
          · next none => simp [none, List.rdropWhile_singleton, blank]
          · rw [List.dropWhile_cons_of_pos blank]
        · have kept : ∃ rest, (char :: text).rdropWhile isSpace = char :: rest := by
            rw [rdropWhile_cons]
            split
            · exact ⟨[], by simp [List.rdropWhile_singleton, blank]⟩
            · exact ⟨_, rfl⟩
          obtain ⟨rest, kept⟩ := kept
          rw [List.dropWhile_cons_of_neg blank, kept, List.dropWhile_cons_of_neg blank]
  rw [strip_eq, strip_eq, cut, List.rdropWhile_idempotent]

/-- A character that is no blank keeps what is behind it from the beginning, and what is before it
from the end. -/
theorem strip_middle {char : Char} (visible : isSpace char = false) (front back : Text) :
    strip (front ++ char :: back) =
      front.dropWhile isSpace ++ char :: back.rdropWhile isSpace := by
  have mark : ¬isSpace char = true := by simp [visible]
  have begins : ∀ text rest : Text, (text ++ char :: rest).dropWhile isSpace =
      text.dropWhile isSpace ++ char :: rest := by
    intro text rest
    rw [List.dropWhile_append, List.dropWhile_cons_of_neg mark]
    split
    · next none => rw [List.isEmpty_iff.mp none, List.nil_append]
    · rfl
  rw [strip_eq, begins, List.rdropWhile, List.reverse_append, List.reverse_cons, List.append_assoc,
    List.singleton_append, begins, List.reverse_append, List.reverse_cons, List.reverse_reverse,
    List.append_assoc]
  rfl

theorem mark_visible : isSpace '=' = false := by decide

/-! ### Lines -/

def lineOf (key value : Text) : Text := key ++ '=' :: value

theorem strip_lineOf (key value : Text) : strip (lineOf key value) =
    lineOf (key.dropWhile isSpace) (value.rdropWhile isSpace) :=
  strip_middle mark_visible key value

theorem keyOf_lineOf {key : Text} (plain : '=' ∉ key) (value : Text) :
    keyOf (lineOf key value) = key := by
  have all : ∀ char ∈ key, decide (char ≠ '=') = true :=
    fun char member => decide_eq_true fun same => plain (same ▸ member)
  rw [keyOf, lineOf, List.takeWhile_append_of_pos all, List.takeWhile_cons_of_neg (by simp),
    List.append_nil]

theorem valueText_lineOf {key : Text} (plain : '=' ∉ key) (value : Text) :
    valueText (lineOf key value) = some (strip value) := by
  have all : ∀ char ∈ key, decide (char ≠ '=') = true :=
    fun char member => decide_eq_true fun same => plain (same ▸ member)
  have marked : '=' ∈ lineOf key value := List.mem_append_right _ List.mem_cons_self
  rw [valueText, if_pos marked, lineOf, List.dropWhile_append_of_pos all,
    List.dropWhile_cons_of_neg (by simp)]
  rfl

theorem mark_notMem_keyText (line : Text) : '=' ∉ keyText line := by
  intro member
  have kept : '=' ∈ keyOf line := by
    rw [keyText, strip_eq] at member
    exact List.dropWhile_subset _ ((List.rdropWhile_prefix _ _).subset member)
  have other := List.mem_takeWhile_imp kept
  simp at other

theorem mark_mem_strip {text : Text} (member : '=' ∈ text) : '=' ∈ strip text := by
  obtain ⟨front, back, rfl⟩ := List.append_of_mem member
  rw [strip_middle mark_visible]
  exact List.mem_append_right _ List.mem_cons_self

theorem tight_keyOf {line : Text} (tight : Tight line) : Tight (keyOf line) :=
  tight.initial (List.takeWhile_prefix _)

theorem notMem_dropWhile {key : Text} (plain : '=' ∉ key) : '=' ∉ key.dropWhile isSpace :=
  fun member => plain (List.dropWhile_subset _ member)

theorem unbroken_lineOf {key value : Text} (of_key : Unbroken key) (of_value : Unbroken value) :
    Unbroken (lineOf key value) := by
  intro char member
  rcases List.mem_append.mp member with front | back
  · exact of_key char front
  · rcases List.mem_cons.mp back with rfl | later
    · decide
    · exact of_value char later

theorem unbroken_strip {line : Text} (unbroken : Unbroken line) : Unbroken (strip line) := by
  intro char member
  rw [strip_eq] at member
  exact unbroken char (List.dropWhile_subset _ ((List.rdropWhile_prefix _ _).subset member))

theorem splitFrom_pieces {sofar text : Text} (unbroken : Unbroken sofar) :
    ∀ line ∈ splitFrom sofar text, Unbroken line := by
  have nothing : Unbroken [] := fun _ none => absurd none List.not_mem_nil
  fun_induction splitFrom sofar text with
  | case1 => exact fun _ none => absurd none List.not_mem_nil
  | case2 sofar some_text => exact fun line member => List.mem_singleton.mp member ▸ unbroken
  | case3 sofar rest next => exact List.forall_mem_cons.mpr ⟨unbroken, next nothing⟩
  | case4 sofar char rest single breaks next =>
      exact List.forall_mem_cons.mpr ⟨unbroken, next nothing⟩
  | case5 sofar char rest single goes_on next =>
      refine next fun other listed => ?_
      rcases List.mem_append.mp listed with before | last
      · exact unbroken other before
      · rw [List.mem_singleton.mp last]
        exact eq_false_of_ne_true goes_on

structure Content (line : Text) : Prop where
  unbroken : Unbroken line
  stripped : strip line = line
  visible : line ≠ []

theorem content_lines {text line : Text} (member : line ∈ content text) : Content line := by
  obtain ⟨listed, visible⟩ := List.mem_filter.mp member
  obtain ⟨raw, piece, rfl⟩ := List.mem_map.mp listed
  have unbroken := splitFrom_pieces (fun _ none => absurd none List.not_mem_nil) raw piece
  exact ⟨unbroken_strip unbroken, strip_strip raw, of_decide_eq_true visible⟩

/-- The lines of a text that was written line by line. -/
theorem content_unlines {lines : List Text} (unbroken : ∀ line ∈ lines, Unbroken line)
    (visible : ∀ line ∈ lines, strip line ≠ []) : content (unlines lines) = lines.map strip := by
  rw [content, Lines.splitlines_unlines unbroken, List.filter_eq_self]
  intro line member
  obtain ⟨raw, listed, rfl⟩ := List.mem_map.mp member
  exact decide_eq_true (visible raw listed)

/-! ### The merge as a dictionary -/

def entries (text : Text) : List (Text × Text) :=
  (content text).map fun line => (keyOf line, line)

def updateLines (updates : Dict Text Text) : List (Text × Text) :=
  updates.map (relabel id lineOf)

def merged (text : Text) (updates : Dict Text Text) : Dict Text Text :=
  latest (entries text ++ updateLines updates)

def resulting (text : Text) (updates : Dict Text Text) : Text :=
  unlines ((merged text updates).map Prod.snd)

def given : Text × Text → Str × Str := relabel ofText fun _ => ofText

theorem keys_given (dict : Dict Text Text) : keys (dict.map given) = (keys dict).map ofText :=
  Dict.keys_relabel _ _ _

theorem ordered_note {merge : Merge} (ordered : merge.orderedKeys = keys merge.merged)
    (key line : Str) : (merge.note key line).orderedKeys = keys (merge.note key line).merged := by
  unfold Merge.note
  simp only
  split
  · next present => rw [Dict.keys_put_of_mem line present, ordered]
  · next absent => simp [Dict.put_fresh line absent, ordered, keys]

structure Merge.Keeps (merge : Merge) (dict : Dict Text Text) : Prop where
  same : merge.merged = dict.map given
  ordered : merge.orderedKeys = keys merge.merged

theorem Merge.Keeps.note {merge : Merge} {dict : Dict Text Text} (keeps : merge.Keeps dict)
    (key line : Text) : (merge.note (ofText key) (ofText line)).Keeps (dict.put key line) := by
  have put : (dict.put key line).map given =
      Dict.put (dict.map given) (ofText key) (ofText line) :=
    Dict.put_relabel _ (fun _ => ofText) (fun _ _ renamed => ofText_injective renamed) line
  exact ⟨by rw [put, ← keeps.same]; rfl, ordered_note keeps.ordered _ _⟩

theorem Merge.Keeps.lines {merge : Merge} {dict : Dict Text Text} (keeps : merge.Keeps dict)
    (raws : List Text) : (raws.foldl mergeLine merge).Keeps (dict.update
      (((raws.map strip).filter (· ≠ [])).map fun line => (keyOf line, line))) := by
  induction raws generalizing merge dict with
  | nil => exact keeps
  | cons raw raws next =>
      by_cases blank : strip raw = []
      · have same : mergeLine merge raw = merge := by simp [mergeLine, blank]
        rw [List.foldl_cons, same, List.map_cons, List.filter_cons_of_neg (by simp [blank])]
        exact next keeps
      · have noted : mergeLine merge raw =
            merge.note (ofText (keyOf (strip raw))) (ofText (strip raw)) := by
          simp [mergeLine, blank]
        rw [List.foldl_cons, noted, List.map_cons, List.filter_cons_of_pos (by simp [blank]),
          List.map_cons]
        exact next (keeps.note _ _)

theorem Merge.Keeps.updates {merge : Merge} {dict : Dict Text Text} (keeps : merge.Keeps dict)
    (updates : Dict Text Text) :
    ((updates.map given).foldl mergeUpdate merge).Keeps (dict.update (updateLines updates)) := by
  induction updates generalizing merge dict with
  | nil => exact keeps
  | cons update updates next =>
      have line : updateLine (ofText update.1) (ofText update.2) =
          ofText (lineOf update.1 update.2) := by
        simp [updateLine, lineOf, ofText]
      have noted := keeps.note update.1 (lineOf update.1 update.2)
      rw [← line] at noted
      exact next noted

theorem find_each {dict : Dict Str Str} (distinct : dict.keys.Nodup) :
    (keys dict).map (fun key => (dict.find key).getD []) = dict.map Prod.snd := by
  rw [keys, List.map_map]
  refine List.map_congr_left fun entry member => ?_
  simp [Dict.find_of_mem distinct member]

theorem joined_eq {lines : List Text} (some_lines : lines ≠ []) :
    joined (lines.map ofText) = ofText (unlines lines) := by
  obtain ⟨first, lines, rfl⟩ := List.exists_cons_of_ne_nil some_lines
  clear some_lines
  induction lines generalizing first with
  | nil => simp [joined, unlines, ofText]
  | cons second lines next =>
      have rest := next second
      rw [joined, List.map_cons] at rest
      rw [joined, List.map_cons, List.map_cons, List.intercalate_cons_cons, List.append_assoc,
        List.append_assoc, rest, Lines.unlines_cons first]
      simp [ofText]

theorem merged_some (text : Text) {updates : Dict Text Text} (some_updates : updates ≠ []) :
    merged text updates ≠ [] := by
  obtain ⟨entry, rest, rfl⟩ := List.exists_cons_of_ne_nil some_updates
  intro none
  have member : entry.1 ∈ keys (entries text ++ updateLines (entry :: rest)) := by
    simp [keys, updateLines, relabel]
  have listed := Dict.mem_keys_latest.mpr member
  rw [← merged, none] at listed
  cases listed

/-- The merge of a text with updates that are texts. -/
theorem keeps_merged (text : Text) (updates : Dict Text Text) :
    ((updates.map given).foldl mergeUpdate ((splitlines text).foldl mergeLine {})).Keeps
      (merged text updates) := by
  have start : Merge.Keeps {} [] := ⟨rfl, rfl⟩
  have keeps := (start.lines (splitlines text)).updates updates
  have whole : Dict.update (update [] (entries text)) (updateLines updates) =
      merged text updates := (Dict.update_append _ _ _).symm
  rw [← whole]
  exact keeps

theorem mergeBootconfig_ok {existing : Bytes} {text : Text} (read : decode existing = some text)
    {updates : Dict Text Text} (some_updates : updates ≠ []) :
    mergeBootconfig existing (updates.map given) = .ok (utf8 (resulting text updates)) := by
  have keeps := keeps_merged text updates
  have some_entries := merged_some text some_updates
  have some_keys : (keys ((merged text updates).map given)).isEmpty = false := by
    simpa [keys] using some_entries
  have some_lines : (merged text updates).map Prod.snd ≠ [] := by simpa using some_entries
  have distinct : (keys ((merged text updates).map given)).Nodup := by
    rw [keys_given]
    exact (Dict.nodup_latest _).map ofText_injective
  have lines : ((merged text updates).map given).map Prod.snd =
      ((merged text updates).map Prod.snd).map ofText := by
    rw [List.map_map, List.map_map]
    rfl
  simp only [mergeBootconfig, read, keeps.ordered, keeps.same, some_keys, Bool.false_eq_true,
    if_false]
  rw [find_each distinct, lines, joined_eq some_lines]
  exact encode_ofText _

theorem mergeBootconfig_inv {existing merged : Bytes} {updates : Dict Str Str}
    (made : mergeBootconfig existing updates = .ok merged) :
    ∃ text, decode existing = some text := by
  unfold mergeBootconfig at made
  split at made
  · cases made
  · next text read => exact ⟨text, read⟩

/-! ### Patching -/

def patchTexts (data : Bytes) (updates : Dict Text Text) : Except Fault Bytes :=
  patchInitrd data (updates.map given)

structure TextUpdates where
  entries : Dict Text Text
  distinct : (keys entries).Nodup
  some_entries : entries ≠ []
  unbroken : ∀ entry ∈ entries, Unbroken entry.1 ∧ Unbroken entry.2

def TextUpdates.overridden (first second : TextUpdates) : TextUpdates where
  entries := first.entries.update second.entries
  distinct := Dict.nodup_update first.distinct second.entries
  some_entries := by
    obtain ⟨entry, rest, whole⟩ := List.exists_cons_of_ne_nil first.some_entries
    intro none
    have listed : entry.1 ∈ (first.entries.update second.entries).keys :=
      Dict.mem_keys_update.mpr (.inl (by simp [keys, whole]))
    rw [none] at listed
    cases listed
  unbroken := fun entry member =>
    (Dict.mem_update member).elim (first.unbroken entry) (second.unbroken entry)

/-- An initrd, with what its trailer cuts off, or without a trailer. -/
structure Initrd where
  data : Bytes
  front : Bytes
  bootconfig : Bytes
  parsed : parts data = .ok (front, bootconfig)

def toldTexts (data : Bytes) : List (Text × Option Text) :=
  match parts data with
  | .ok (_, bootconfig) => ((decode bootconfig).map definitions).getD []
  | .error _ => []

section Patch

variable {data front bootconfig : Bytes}

theorem patchInitrd_parts (parsed : parts data = .ok (front, bootconfig))
    (updates : Dict Str Str) : patchInitrd data updates = (do
      let merged ← mergeBootconfig bootconfig updates
      writeBootconfigTrailer front merged) := by
  rw [patchInitrd]
  rw [parts] at parsed
  cases result : parseBootconfigTrailer data with
  | error fault =>
      rw [result] at parsed
      cases parsed
  | ok value =>
      rw [result] at parsed
      have same : value.getD (data, []) = (front, bootconfig) := Except.ok.inj parsed
      simp only [bind, Except.bind, same]

theorem parts_write {text : Bytes} (written : writeBootconfigTrailer front text = .ok data) :
    parts data = .ok (front, text) := by
  rw [parts, parse_write written]
  rfl

theorem told_write {text : Text}
    (written : writeBootconfigTrailer front (utf8 text) = .ok data) :
    toldTexts data = definitions text := by
  rw [toldTexts, parts_write written]
  simp only [decode_utf8, Option.map_some, Option.getD_some]

/-- A patch writes the text that results. -/
theorem patchInitrd_text (parsed : parts data = .ok (front, bootconfig)) {text : Text}
    (read : decode bootconfig = some text) {updates : Dict Text Text}
    (some_updates : updates ≠ []) : patchTexts data updates =
      writeBootconfigTrailer front (utf8 (resulting text updates)) := by
  rw [patchTexts, patchInitrd_parts parsed, mergeBootconfig_ok read some_updates]
  rfl

end Patch

structure PatchedTexts (initrd : Initrd) (updates : TextUpdates) (data : Bytes) : Prop where
  returned : patchTexts initrd.data updates.entries = .ok data
  parses : ∃ bootconfig, parseBootconfigTrailer data = .ok (some (initrd.front, bootconfig))
  updated : ∀ entry ∈ updates.entries,
    (toldTexts data).filter (fun definition => decide (definition.1 = strip entry.1)) =
      [(strip entry.1, some (strip entry.2))]
  kept : (latest (toldTexts data)).filter (fun definition =>
      decide (definition.1 ∉ (keys updates.entries).map strip)) =
    (latest (toldTexts initrd.data)).filter fun definition =>
      decide (definition.1 ∉ (keys updates.entries).map strip)
  single : (keys (toldTexts data)).Nodup
  again : patchTexts data updates.entries = .ok data
  composed : ∀ (next : TextUpdates) (twice once : Bytes),
    patchTexts data next.entries = .ok twice →
      patchTexts initrd.data (updates.overridden next).entries = .ok once →
        latest (toldTexts twice) = latest (toldTexts once)

def Apart (text : Text) (updates : TextUpdates) : Prop :=
  ∀ key ∈ (content text).map keyOf ++ keys updates.entries,
    ∀ other ∈ (content text).map keyOf ++ keys updates.entries,
      strip key = strip other → key = other

/-- The bootconfig is text, the merged one is not too large for its trailer, and the keys are such
that the merge sees in them what a reader does. -/
structure Plain (initrd : Initrd) (updates : TextUpdates) (text : Text) : Prop where
  read : decode initrd.bootconfig = some text
  room : (utf8 (resulting text updates.entries)).length < 2 ^ 32
  plain : ∀ key ∈ keys updates.entries, '=' ∉ key ∧ Tight key
  apart : Apart text updates

/-! ### What the merged lines tell -/

section Lines

variable {text : Text} {updates : TextUpdates} {key line : Text}

theorem mem_entries (member : (key, line) ∈ entries text) : keyOf line = key ∧ Content line := by
  obtain ⟨other, listed, same⟩ := List.mem_map.mp member
  cases same
  exact ⟨rfl, content_lines listed⟩

theorem mem_updateLines (member : (key, line) ∈ updateLines updates.entries) :
    ∃ value, (key, value) ∈ updates.entries ∧ line = lineOf key value := by
  obtain ⟨⟨name, value⟩, listed, same⟩ := List.mem_map.mp member
  cases same
  exact ⟨value, listed, rfl⟩

theorem keys_updateLines (updates : Dict Text Text) : keys (updateLines updates) = keys updates := by
  rw [updateLines, Dict.keys_relabel, List.map_id]

theorem keys_entries (text : Text) : keys (entries text) = (content text).map keyOf := by
  rw [keys, entries, List.map_map]
  rfl

/-- A merged line is an old one, or the one of an update. -/
theorem mem_merged (member : (key, line) ∈ merged text updates.entries) :
    (keyOf line = key ∧ Content line) ∨
      ∃ value, (key, value) ∈ updates.entries ∧ line = lineOf key value :=
  (List.mem_append.mp (Dict.mem_latest member)).imp mem_entries mem_updateLines

theorem mem_keys_merged : key ∈ keys (merged text updates.entries) ↔
    key ∈ (content text).map keyOf ++ keys updates.entries := by
  rw [merged, Dict.mem_keys_latest, ← keys_entries, ← keys_updateLines updates.entries, keys, keys,
    keys, List.map_append]

theorem nodup_merged : (keys (merged text updates.entries)).Nodup := Dict.nodup_latest _

theorem strip_lineOf_some (key value : Text) : strip (lineOf key value) ≠ [] := by
  rw [strip_lineOf]
  exact List.append_ne_nil_of_right_ne_nil _ (List.cons_ne_nil _ _)

theorem content_resulting (text : Text) (updates : TextUpdates) :
    content (resulting text updates.entries) =
      (merged text updates.entries).map fun entry => strip entry.2 := by
  have each : ∀ line ∈ (merged text updates.entries).map Prod.snd,
      Unbroken line ∧ strip line ≠ [] := by
    intro line member
    obtain ⟨⟨key, other⟩, listed, rfl⟩ := List.mem_map.mp member
    rcases mem_merged listed with ⟨_, old⟩ | ⟨value, update, same⟩
    · exact ⟨old.unbroken, old.stripped.symm ▸ old.visible⟩
    · obtain ⟨of_key, of_value⟩ := updates.unbroken _ update
      exact same ▸ ⟨unbroken_lineOf of_key of_value, strip_lineOf_some key value⟩
  rw [resulting, content_unlines (fun line member => (each line member).1) fun line member =>
    (each line member).2, List.map_map]
  rfl

/-- The key under which a merged line is noted, as it is read again. -/
theorem keyOf_merged (plain : ∀ key ∈ keys updates.entries, '=' ∉ key)
    (member : (key, line) ∈ merged text updates.entries) :
    keyOf (strip line) = key.dropWhile isSpace := by
  rcases mem_merged member with ⟨same, old⟩ | ⟨value, update, rfl⟩
  · have tight : Tight key := same ▸ tight_keyOf (old.stripped ▸ tight_strip line)
    rw [old.stripped, same, dropWhile_of_tight tight]
  · have unmarked := plain key (List.mem_map.mpr ⟨_, update, rfl⟩)
    rw [strip_lineOf, keyOf_lineOf (notMem_dropWhile unmarked)]

def reading : Text × Text → Text × Option Text :=
  relabel strip fun _ line => valueText (strip line)

theorem definitions_resulting (text : Text) {updates : TextUpdates}
    (plain : ∀ key ∈ keys updates.entries, '=' ∉ key) :
    definitions (resulting text updates.entries) =
      (merged text updates.entries).map reading := by
  rw [definitions, content_resulting, List.map_map]
  refine List.map_congr_left fun entry member => ?_
  obtain ⟨key, line⟩ := entry
  have read := keyOf_merged plain member
  simp only [Function.comp_apply, define, reading, relabel, keyText, read, strip_dropWhile]

theorem definitions_entries (text : Text) : definitions text = (entries text).map reading := by
  rw [definitions, entries, List.map_map]
  refine List.map_congr_left fun line member => ?_
  simp only [Function.comp_apply, define, reading, relabel, keyText,
    (content_lines member).stripped]

theorem keys_reading (dict : Dict Text Text) : keys (dict.map reading) = (keys dict).map strip :=
  Dict.keys_relabel _ _ _

/-- The line of an update is among the merged ones. -/
theorem update_merged {value : Text} (member : (key, value) ∈ updates.entries) :
    (key, lineOf key value) ∈ merged text updates.entries := by
  have listed : (key, lineOf key value) ∈ updateLines updates.entries :=
    List.mem_map.mpr ⟨_, member, rfl⟩
  have distinct : (keys (updateLines updates.entries)).Nodup := by
    rw [keys_updateLines]
    exact updates.distinct
  apply Dict.find_mem
  rw [merged, latest, Dict.update_append, Dict.find_update distinct,
    Dict.find_of_mem distinct listed, Option.some_or]

theorem reading_lineOf {value : Text} (unmarked : '=' ∉ key) :
    reading (key, lineOf key value) = (strip key, some (strip value)) := by
  rw [reading, relabel, strip_lineOf, valueText_lineOf (notMem_dropWhile unmarked),
    strip_rdropWhile]

end Lines

/-! ### Where the merge and a reader see the same keys -/

section Suitable

variable {text : Text} {updates : TextUpdates}

def trimmed : Text × Text → Text × Text := relabel id fun _ line => strip line

theorem entries_resulting (plain : ∀ key ∈ keys updates.entries, '=' ∉ key ∧ Tight key) :
    entries (resulting text updates.entries) =
      (merged text updates.entries).map trimmed := by
  rw [entries, content_resulting, List.map_map]
  refine List.map_congr_left fun entry member => ?_
  obtain ⟨key, line⟩ := entry
  have read := keyOf_merged (fun key listed => (plain key listed).1) member
  have tight : Tight key := by
    rcases mem_merged member with ⟨same, old⟩ | ⟨value, update, _⟩
    · exact same ▸ tight_keyOf (old.stripped ▸ tight_strip line)
    · exact (plain key (List.mem_map.mpr ⟨_, update, rfl⟩)).2
  simp only [Function.comp_apply, trimmed, relabel, id_eq, read, dropWhile_of_tight tight]

/-- The same updates once more change nothing. -/
theorem merged_again (plain : ∀ key ∈ keys updates.entries, '=' ∉ key ∧ Tight key) :
    merged (resulting text updates.entries) updates.entries = merged text updates.entries := by
  have distinct : (keys (updateLines updates.entries)).Nodup := by
    rw [keys_updateLines]
    exact updates.distinct
  have same_keys : keys ((merged text updates.entries).map trimmed) =
      keys (merged text updates.entries) := by
    rw [trimmed, Dict.keys_relabel, List.map_id]
  have noted : ∀ key ∈ keys (updateLines updates.entries),
      key ∈ keys ((merged text updates.entries).map trimmed) := by
    intro key member
    rw [keys_updateLines] at member
    rw [same_keys]
    exact mem_keys_merged.mpr (List.mem_append_right _ member)
  have whole : merged (resulting text updates.entries) updates.entries =
      Dict.update ((merged text updates.entries).map trimmed) (updateLines updates.entries) := by
    rw [merged, entries_resulting plain, latest, Dict.update_append, ← latest,
      Dict.latest_of_nodup (same_keys ▸ nodup_merged)]
  rw [whole]
  apply Dict.eq_of_find
  · rw [Dict.keys_update_of_mem noted, same_keys]
  · rw [Dict.keys_update_of_mem noted, same_keys]
    exact nodup_merged
  · intro key
    -- A key that is not updated has one of the old lines, and these have no blanks around them.
    have old : Dict.find (merged text updates.entries) key =
        (Dict.find (updateLines updates.entries) key).or
          (Dict.find (latest (entries text)) key) := by
      rw [merged, latest, Dict.update_append, Dict.find_update distinct]
      rfl
    have same : (Dict.find (latest (entries text)) key).map strip =
        Dict.find (latest (entries text)) key := by
      cases found : Dict.find (latest (entries text)) key with
      | none => rfl
      | some line =>
          have member := Dict.mem_latest (Dict.find_mem found)
          exact congrArg some (mem_entries member).2.stripped
    have converted : Dict.find ((merged text updates.entries).map trimmed) key =
        (Dict.find (merged text updates.entries) key).map strip := Dict.find_convert _ _ _
    rw [Dict.find_update distinct, converted, old]
    cases found : Dict.find (updateLines updates.entries) key with
    | none => rw [Option.none_or, Option.none_or, same]
    | some line => rfl

/-- Two patches merge the lines that one with both updates does, up to blanks around them. -/
theorem merged_twice (plain : ∀ key ∈ keys updates.entries, '=' ∉ key ∧ Tight key)
    (next : TextUpdates) :
    (merged (resulting text updates.entries) next.entries).map trimmed =
      (merged text (updates.overridden next).entries).map trimmed := by
  have idle : trimmed ∘ trimmed = trimmed := by
    funext entry
    simp only [Function.comp_apply, trimmed, relabel, id_eq, strip_strip]
  have lines : updateLines (updates.overridden next).entries =
      latest (updateLines updates.entries ++ updateLines next.entries) := by
    have distinct : (keys (updateLines updates.entries)).Nodup := by
      rw [keys_updateLines]
      exact updates.distinct
    have taken := @Dict.update_relabel _ _ _ _ _ _ id lineOf updates.entries next.entries
      fun _ _ _ _ same => same
    rw [latest, Dict.update_append, ← latest, Dict.latest_of_nodup distinct]
    exact taken
  have once : merged text (updates.overridden next).entries =
      latest (entries text ++ updateLines updates.entries ++ updateLines next.entries) := by
    rw [merged, lines, latest, Dict.update_append, Dict.update_latest, ← Dict.update_append,
      List.append_assoc]
    rfl
  have folded : ∀ pairs : List (Text × Text),
      (latest pairs).map trimmed = latest (pairs.map trimmed) := Dict.latest_convert _
  rw [once, merged, entries_resulting plain, folded, List.map_append, List.map_map, idle,
    ← List.map_append, ← folded, merged, Dict.latest_latest]

variable {initrd : Initrd} {data : Bytes}

theorem told_initrd (read : decode initrd.bootconfig = some text) :
    toldTexts initrd.data = (entries text).map reading := by
  rw [toldTexts, initrd.parsed]
  simp only [read, Option.map_some, Option.getD_some, definitions_entries]

theorem single_iff (plain : ∀ key ∈ keys updates.entries, '=' ∉ key) :
    (keys (definitions (resulting text updates.entries))).Nodup ↔ Apart text updates := by
  rw [definitions_resulting text plain, keys_reading]
  constructor
  · intro distinct key member other listed same
    exact List.inj_on_of_nodup_map distinct (mem_keys_merged.mpr member)
      (mem_keys_merged.mpr listed) same
  · intro apart
    exact List.Nodup.map_on (fun key member other listed same =>
      apart key (mem_keys_merged.mp member) other (mem_keys_merged.mp listed) same) nodup_merged

theorem definitions_trimmed (text : Text) (updates : TextUpdates) :
    definitions (resulting text updates.entries) =
      ((merged text updates.entries).map trimmed).map fun entry => define entry.2 := by
  rw [definitions, content_resulting, List.map_map, List.map_map]
  rfl

section Written

variable (fine : Plain initrd updates text)
  (written : writeBootconfigTrailer initrd.front (utf8 (resulting text updates.entries)) =
    .ok data)
include fine written

theorem told_patched : toldTexts data = (merged text updates.entries).map reading :=
  (told_write written).trans
    (definitions_resulting text fun key member => (fine.plain key member).1)

theorem single_patched : (keys (toldTexts data)).Nodup := by
  rw [told_write written]
  exact (single_iff fun key member => (fine.plain key member).1).mpr fine.apart

theorem updated_patched {entry : Text × Text} (member : entry ∈ updates.entries) :
    (toldTexts data).filter (fun definition => decide (definition.1 = strip entry.1)) =
      [(strip entry.1, some (strip entry.2))] := by
  have unmarked := (fine.plain entry.1 (List.mem_map_of_mem member)).1
  have line := List.mem_map_of_mem (f := reading) (@update_merged text updates _ _ member)
  rw [reading_lineOf unmarked, ← told_patched fine written] at line
  exact Dict.filter_key (single_patched fine written) line

theorem kept_patched : (latest (toldTexts data)).filter (fun definition =>
      decide (definition.1 ∉ (keys updates.entries).map strip)) =
    (latest (toldTexts initrd.data)).filter fun definition =>
      decide (definition.1 ∉ (keys updates.entries).map strip) := by
  have apart : ∀ key ∈ keys (entries text), ∀ other ∈ keys (entries text),
      strip key = strip other → key = other := by
    rw [keys_entries]
    exact fun key member other listed => fine.apart key (List.mem_append_left _ member) other
      (List.mem_append_left _ listed)
  have old : latest (toldTexts initrd.data) = (latest (entries text)).map reading := by
    rw [told_initrd fine.read]
    exact (Dict.latest_relabel _ _ apart).symm
  let keep : Text → Bool := fun key => decide (strip key ∉ (keys updates.entries).map strip)
  have dropped : ∀ key ∈ keys (updateLines updates.entries), keep key = false := by
    intro key member
    rw [keys_updateLines] at member
    exact decide_eq_false fun absent => absent (List.mem_map_of_mem member)
  have left : (merged text updates.entries).filter (fun entry => keep entry.1) =
      (latest (entries text)).filter fun entry => keep entry.1 := by
    rw [merged, latest, Dict.update_append]
    exact Dict.update_filter dropped
  rw [Dict.latest_of_nodup (single_patched fine written), old, told_patched fine written,
    List.filter_map, List.filter_map]
  exact congrArg (List.map reading) left

theorem again_patched : patchTexts data updates.entries = .ok data := by
  rw [patchInitrd_text (parts_write written) (decode_utf8 _) updates.some_entries, resulting,
    merged_again fine.plain]
  exact written

theorem composed_patched {next : TextUpdates} {twice once : Bytes}
    (second : patchTexts data next.entries = .ok twice)
    (both : patchTexts initrd.data (updates.overridden next).entries = .ok once) :
    toldTexts twice = toldTexts once := by
  rw [patchInitrd_text (parts_write written) (decode_utf8 _) next.some_entries] at second
  rw [patchInitrd_text initrd.parsed fine.read (updates.overridden next).some_entries] at both
  rw [told_write second, told_write both, definitions_trimmed, definitions_trimmed,
    merged_twice fine.plain]

end Written

theorem patched_of_plain (fine : Plain initrd updates text) :
    ∃ data, PatchedTexts initrd updates data := by
  have written := write_ok fine.room initrd.front
  exact ⟨_, {
    returned := (patchInitrd_text initrd.parsed fine.read updates.some_entries).trans written
    parses := ⟨_, parse_write written⟩
    updated := fun _ member => updated_patched fine written member
    kept := kept_patched fine written
    single := single_patched fine written
    again := again_patched fine written
    composed := fun _ _ _ second both => congrArg latest (composed_patched fine written second both)
  }⟩

theorem single_keys {text : Text} (single : (keys (definitions text)).Nodup) :
    ((content text).map keyOf).Nodup := by
  have stripped : keys (definitions text) = ((content text).map keyOf).map strip := by
    rw [keys, definitions, List.map_map, List.map_map]
    rfl
  exact List.Nodup.of_map strip (stripped ▸ single)

/-- A patch that leaves the file as it is leaves its text as it is. -/
theorem again_text
    (written : writeBootconfigTrailer initrd.front (utf8 (resulting text updates.entries)) =
      .ok data) (again : patchTexts data updates.entries = .ok data) :
    resulting (resulting text updates.entries) updates.entries = resulting text updates.entries := by
  rw [patchInitrd_text (parts_write written) (decode_utf8 _) updates.some_entries] at again
  have texts := parts_write again
  rw [parts_write written, Except.ok.injEq, Prod.mk.injEq] at texts
  exact utf8_injective texts.2.symm

/-- A key that begins with a blank is not found again, and a second patch adds a line. -/
theorem adds_line {key : Text} (member : key ∈ keys updates.entries) (blank : ¬Tight key)
    (single : ((content (resulting text updates.entries)).map keyOf).Nodup)
    (same : resulting (resulting text updates.entries) updates.entries =
      resulting text updates.entries) : False := by
  have fresh : key ∉ (content (resulting text updates.entries)).map keyOf := by
    intro listed
    obtain ⟨line, found, rfl⟩ := List.mem_map.mp listed
    exact blank (tight_keyOf ((content_lines found).stripped ▸ tight_strip line))
  have noted : key :: (content (resulting text updates.entries)).map keyOf ⊆
      keys (merged (resulting text updates.entries) updates.entries) := by
    intro other listed
    rcases List.mem_cons.mp listed with rfl | old
    · exact mem_keys_merged.mpr (List.mem_append_right _ member)
    · exact mem_keys_merged.mpr (List.mem_append_left _ old)
  have more := (List.subperm_of_subset (List.nodup_cons.mpr ⟨fresh, single⟩) noted).length_le
  have lengths := congrArg (fun text => (content text).length) same
  simp only [content_resulting, List.length_map, List.length_cons, keys] at lengths more
  omega

/-- Where the file is as it should be, the updates were suitable. -/
theorem plain_of_patched (patched : PatchedTexts initrd updates data) :
    ∃ text, Plain initrd updates text := by
  obtain ⟨text, read⟩ : ∃ text, decode initrd.bootconfig = some text := by
    have returned := patched.returned
    rw [patchTexts, patchInitrd_parts initrd.parsed] at returned
    obtain ⟨merged, made, _⟩ := Struct.bind_inv returned
    exact mergeBootconfig_inv made
  have written := patched.returned
  rw [patchInitrd_text initrd.parsed read updates.some_entries] at written
  have unmarked : ∀ key ∈ keys updates.entries, '=' ∉ key := by
    intro key member marked
    obtain ⟨entry, update, rfl⟩ := List.mem_map.mp member
    have found : (strip entry.1, some (strip entry.2)) ∈ toldTexts data := by
      apply List.mem_of_mem_filter
      rw [patched.updated entry update]
      exact List.mem_singleton_self _
    rw [told_write written] at found
    obtain ⟨line, _, same⟩ := List.mem_map.mp found
    have key_of : keyText line = strip entry.1 := congrArg Prod.fst same
    exact mark_notMem_keyText line (key_of ▸ mark_mem_strip marked)
  have single := patched.single
  rw [told_write written] at single
  refine ⟨text, read, write_inv written, fun key member => ⟨unmarked key member, ?_⟩,
    (single_iff unmarked).mp single⟩
  -- A key that begins with a blank is not found again, so that a second patch adds a line.
  by_contra blank
  exact adds_line member blank (single_keys single) (again_text written patched.again)

end Suitable

/-! ### Updates as they are given -/

def isBlank : Point → Bool
  | .char char => isSpace char
  | .surrogate _ => false

def stripped (text : Str) : Str := ((text.dropWhile isBlank).reverse.dropWhile isBlank).reverse

def shown : Text × Option Text → Str × Option Str := relabel ofText fun _ value => value.map ofText

def told (data : Bytes) : List (Str × Option Str) := (toldTexts data).map shown

/-- The updates of a run: a dictionary that is not empty, without line breaks. -/
@[ext]
structure Updates where
  entries : Dict Str Str
  distinct : (keys entries).Nodup
  some_entries : entries ≠ []
  unbroken : ∀ entry ∈ entries, ∀ char, .char char ∈ entry.1 ++ entry.2 →
    Lines.isLineBreak char = false

def Updates.overridden (first second : Updates) : Updates where
  entries := first.entries.update second.entries
  distinct := Dict.nodup_update first.distinct second.entries
  some_entries := by
    obtain ⟨entry, rest, whole⟩ := List.exists_cons_of_ne_nil first.some_entries
    intro none
    have listed : entry.1 ∈ (first.entries.update second.entries).keys :=
      Dict.mem_keys_update.mpr (.inl (by simp [keys, whole]))
    rw [none] at listed
    cases listed
  unbroken := fun entry member =>
    (Dict.mem_update member).elim (first.unbroken entry) (second.unbroken entry)

structure Patched (initrd : Initrd) (updates : Updates) (data : Bytes) : Prop where
  returned : patchInitrd initrd.data updates.entries = .ok data
  parses : ∃ bootconfig, parseBootconfigTrailer data = .ok (some (initrd.front, bootconfig))
  updated : ∀ entry ∈ updates.entries,
    (told data).filter (fun definition => decide (definition.1 = stripped entry.1)) =
      [(stripped entry.1, some (stripped entry.2))]
  kept : (latest (told data)).filter (fun definition =>
      decide (definition.1 ∉ (keys updates.entries).map stripped)) =
    (latest (told initrd.data)).filter fun definition =>
      decide (definition.1 ∉ (keys updates.entries).map stripped)
  single : (keys (told data)).Nodup
  again : patchInitrd data updates.entries = .ok data
  composed : ∀ (next : Updates) (twice once : Bytes),
    patchInitrd data next.entries = .ok twice →
      patchInitrd initrd.data (updates.overridden next).entries = .ok once →
        latest (told twice) = latest (told once)

section Given

variable {initrd : Initrd} {data : Bytes} {texts : TextUpdates} {str : Str}

theorem stripped_ofText (text : Text) : stripped (ofText text) = ofText (strip text) := by
  simp only [stripped, strip, ofText, List.dropWhile_map, ← List.map_reverse]
  rfl

theorem shown_injective : Function.Injective shown := by
  rintro ⟨key, value⟩ ⟨other, given⟩ same
  obtain ⟨keys, values⟩ := Prod.mk.inj same
  exact Prod.ext (ofText_injective keys) (Option.map_injective ofText_injective values)

theorem latest_shown (definitions : List (Text × Option Text)) :
    latest (definitions.map shown) = (latest definitions).map shown :=
  (Dict.latest_relabel ofText _ fun _ _ _ _ same => ofText_injective same).symm

def IsText (str : Str) : Prop := ∀ point ∈ str, ∃ char, point = Point.char char

def textOf (str : Str) : Text :=
  str.filterMap fun point => match point with
    | .char char => some char
    | .surrogate _ => none

theorem isText_ofText (text : Text) : IsText (ofText text) := by
  intro point member
  obtain ⟨char, _, rfl⟩ := List.mem_map.mp member
  exact ⟨char, rfl⟩

theorem ofText_textOf (plain : IsText str) : ofText (textOf str) = str := by
  induction str with
  | nil => rfl
  | cons point rest next =>
      obtain ⟨char, rfl⟩ := plain point List.mem_cons_self
      have later := next fun other member => plain other (List.mem_cons_of_mem _ member)
      change Point.char char :: ofText (textOf rest) = _
      rw [later]

def TextUpdates.asGiven (texts : TextUpdates) : Updates where
  entries := texts.entries.map given
  distinct := by
    rw [keys_given]
    exact texts.distinct.map ofText_injective
  some_entries := by simpa using texts.some_entries
  unbroken := by
    intro entry member char inside
    obtain ⟨update, listed, rfl⟩ := List.mem_map.mp member
    obtain ⟨of_key, of_value⟩ := texts.unbroken update listed
    have listed : char ∈ update.1 ++ update.2 := by
      simpa [given, relabel, ofText] using inside
    exact (List.mem_append.mp listed).elim (of_key char) (of_value char)

theorem overridden_asGiven (first second : TextUpdates) :
    (first.asGiven.overridden second.asGiven).entries =
      (first.overridden second).entries.map given :=
  (Dict.update_relabel ofText _ fun _ _ _ _ same => ofText_injective same).symm

theorem mem_joined {lines : List Str} (member : str ∈ lines) : str ⊆ joined lines := by
  suffices inside : str ⊆ List.intercalate [.char '\n'] lines from
    fun point listed => List.mem_append_left _ (inside listed)
  induction lines with
  | nil => cases member
  | cons first rest next =>
      cases rest with
      | nil =>
          rw [List.mem_singleton.mp member]
          simp
      | cons second rest =>
          rw [List.intercalate_cons_cons]
          rcases List.mem_cons.mp member with rfl | later
          · exact fun point listed => List.mem_append_left _ (List.mem_append_left _ listed)
          · exact fun point listed => List.mem_append_right _ (next later listed)

theorem ordered_lines (raws : List Text) {merge : Merge}
    (ordered : merge.orderedKeys = keys merge.merged) :
    (raws.foldl mergeLine merge).orderedKeys = keys (raws.foldl mergeLine merge).merged := by
  induction raws generalizing merge with
  | nil => exact ordered
  | cons raw raws next =>
      refine next ?_
      unfold mergeLine
      simp only
      split
      · exact ordered
      · exact ordered_note ordered _ _

theorem ordered_updates (updates : Dict Str Str) {merge : Merge}
    (ordered : merge.orderedKeys = keys merge.merged) :
    (updates.foldl mergeUpdate merge).orderedKeys = keys (updates.foldl mergeUpdate merge).merged ∧
      (updates.foldl mergeUpdate merge).merged =
        Dict.update merge.merged (updates.map (relabel id updateLine)) := by
  induction updates generalizing merge with
  | nil => exact ⟨ordered, rfl⟩
  | cons update updates next => exact next (ordered_note ordered _ _)

/-- The line of every update is among those that are encoded, so all of them are texts. -/
theorem texts_of_merge {existing merged : Bytes} {updates : Updates}
    (made : mergeBootconfig existing updates.entries = .ok merged) :
    ∀ entry ∈ updates.entries, IsText entry.1 ∧ IsText entry.2 := by
  intro entry member
  unfold mergeBootconfig at made
  split at made
  · cases made
  · next text read =>
    have start : (({} : Merge).orderedKeys) = keys ({} : Merge).merged := rfl
    obtain ⟨ordered, whole⟩ := ordered_updates updates.entries
      (ordered_lines (splitlines text) start)
    simp only [ordered] at made
    have distinct : (keys (updates.entries.map (relabel id updateLine))).Nodup := by
      rw [Dict.keys_relabel, List.map_id]
      exact updates.distinct
    have line : Dict.find (updates.entries.foldl mergeUpdate
        ((splitlines text).foldl mergeLine {})).merged entry.1 =
          some (updateLine entry.1 entry.2) := by
      have listed : (entry.1, updateLine entry.1 entry.2) ∈
          updates.entries.map (relabel id updateLine) := List.mem_map.mpr ⟨entry, member, rfl⟩
      rw [whole, Dict.find_update distinct, Dict.find_of_mem distinct listed, Option.some_or]
    have key : entry.1 ∈ keys (updates.entries.foldl mergeUpdate
        ((splitlines text).foldl mergeLine {})).merged :=
      List.mem_map.mpr ⟨(entry.1, updateLine entry.1 entry.2), Dict.find_mem line, rfl⟩
    rw [if_neg (by simp [List.ne_nil_of_mem key])] at made
    obtain ⟨encoded, same⟩ := encode_inv made
    have plain : IsText (updateLine entry.1 entry.2) := by
      intro point inside
      refine isText_ofText encoded point (same ▸ mem_joined (List.mem_map.mpr ⟨_, key, ?_⟩) inside)
      rw [line]
      rfl
    exact ⟨fun point inside => plain point (List.mem_append_left _ inside),
      fun point inside => plain point (List.mem_append_right _ (List.mem_cons_of_mem _ inside))⟩

/-- What is patched with no error is patched with texts. -/
theorem texts_of_patch {updates : Updates} {written : Bytes}
    (returned : patchInitrd data updates.entries = .ok written) :
    ∃ texts : TextUpdates, updates = texts.asGiven := by
  obtain ⟨parsed, _, written⟩ := Struct.bind_inv returned
  obtain ⟨merged, made, _⟩ := Struct.bind_inv written
  have plain := texts_of_merge made
  have entries : (updates.entries.map (relabel textOf fun _ => textOf)).map given =
      updates.entries := by
    rw [List.map_map]
    refine (List.map_congr_left fun entry member => ?_).trans (List.map_id _)
    obtain ⟨key, value⟩ := plain entry member
    simp only [Function.comp_apply, given, relabel, ofText_textOf key, ofText_textOf value, id_eq]
  refine ⟨⟨updates.entries.map (relabel textOf fun _ => textOf), ?_, ?_, ?_⟩,
    Updates.ext entries.symm⟩
  · apply List.Nodup.of_map ofText
    rw [← keys_given, entries]
    exact updates.distinct
  · simpa using updates.some_entries
  · intro update member
    obtain ⟨entry, listed, rfl⟩ := List.mem_map.mp member
    obtain ⟨key, value⟩ := plain entry listed
    have unbroken := updates.unbroken entry listed
    constructor
    · intro char inside
      refine unbroken char (List.mem_append_left _ ?_)
      rw [← ofText_textOf key]
      exact List.mem_map_of_mem inside
    · intro char inside
      refine unbroken char (List.mem_append_right _ ?_)
      rw [← ofText_textOf value]
      exact List.mem_map_of_mem inside

theorem filter_shown (definitions : List (Text × Option Text)) (key : Text) :
    (definitions.map shown).filter
        (fun definition => decide (definition.1 = stripped (ofText key))) =
      (definitions.filter fun definition => decide (definition.1 = strip key)).map shown := by
  rw [List.filter_map]
  congr 2
  funext definition
  simp only [Function.comp_apply, shown, relabel, stripped_ofText, ofText_injective.eq_iff]

theorem filter_others (definitions : List (Text × Option Text)) (updates : Dict Text Text) :
    (definitions.map shown).filter (fun definition =>
        decide (definition.1 ∉ (keys (updates.map given)).map stripped)) =
      (definitions.filter fun definition =>
        decide (definition.1 ∉ (keys updates).map strip)).map shown := by
  have names : (keys (updates.map given)).map stripped =
      ((keys updates).map strip).map ofText := by
    rw [keys_given, List.map_map, List.map_map]
    exact List.map_congr_left fun key _ => stripped_ofText key
  rw [names, List.filter_map]
  congr 2
  funext definition
  simp only [Function.comp_apply, shown, relabel, List.mem_map_of_injective ofText_injective]

theorem patched_asGiven_iff : Patched initrd texts.asGiven data ↔ PatchedTexts initrd texts data := by
  have single : keys (told data) = (keys (toldTexts data)).map ofText := Dict.keys_relabel _ _ _
  constructor
  · intro patched
    refine ⟨patched.returned, patched.parses, ?_, ?_, ?_, patched.again, ?_⟩
    · intro entry member
      have found := patched.updated (given entry) (List.mem_map_of_mem member)
      apply List.map_injective_iff.mpr shown_injective
      rw [← filter_shown]
      refine found.trans ?_
      simp only [given, relabel, stripped_ofText]
      rfl
    · apply List.map_injective_iff.mpr shown_injective
      rw [← filter_others, ← filter_others, ← latest_shown, ← latest_shown]
      exact patched.kept
    · exact (List.nodup_map_iff ofText_injective).mp (single ▸ patched.single)
    · intro next twice once second both
      have same := patched.composed next.asGiven twice once second
        ((congrArg (patchInitrd initrd.data) (overridden_asGiven texts next)).trans both)
      apply List.map_injective_iff.mpr shown_injective
      rw [← latest_shown, ← latest_shown]
      exact same
  · intro patched
    refine ⟨patched.returned, patched.parses, ?_, ?_, ?_, patched.again, ?_⟩
    · intro update member
      obtain ⟨entry, listed, rfl⟩ := List.mem_map.mp member
      refine (filter_shown _ entry.1).trans ?_
      rw [patched.updated entry listed]
      simp only [given, relabel, stripped_ofText]
      rfl
    · rw [told, told, latest_shown, latest_shown]
      refine (filter_others _ _).trans (Eq.trans ?_ (filter_others _ _).symm)
      rw [patched.kept]
    · exact single ▸ patched.single.map ofText_injective
    · intro next twice once second both
      obtain ⟨later, rfl⟩ := texts_of_patch second
      rw [told, told, latest_shown, latest_shown, patched.composed later twice once second
        ((congrArg (patchInitrd initrd.data) (overridden_asGiven texts later)).symm.trans both)]

end Given

/-- The file is as it should be after a patch exactly where the updates are suitable texts. -/
theorem patched_iff (initrd : Initrd) (updates : Updates) :
    (∃ data, Patched initrd updates data) ↔
      ∃ (texts : TextUpdates) (text : Text), updates = texts.asGiven ∧ Plain initrd texts text := by
  constructor
  · rintro ⟨data, patched⟩
    -- A lone surrogate would have raised, so the updates are texts.
    obtain ⟨texts, rfl⟩ := texts_of_patch patched.returned
    obtain ⟨text, fine⟩ := plain_of_patched (patched_asGiven_iff.mp patched)
    exact ⟨texts, text, rfl, fine⟩
  · rintro ⟨texts, text, rfl, fine⟩
    obtain ⟨data, patched⟩ := patched_of_plain fine
    exact ⟨data, patched_asGiven_iff.mpr patched⟩

def spacedText : Text := "a = 1\n".toList

def spaced : Initrd where
  data := utf8 spacedText ++ le 4 6 ++ le 4 (checksum (utf8 spacedText)) ++ BOOTCONFIG_MAGIC
  front := []
  bootconfig := utf8 spacedText
  parsed := by decide +kernel

def renewed : TextUpdates where
  entries := [(['a'], ['2'])]
  distinct := by decide
  some_entries := by decide
  unbroken := by
    intro entry member
    obtain rfl := List.mem_singleton.mp member
    constructor <;>
    · intro char inside
      obtain rfl := List.mem_singleton.mp inside
      rfl

theorem spaced_twice : ¬∃ data, Patched spaced renewed.asGiven data := by
  rintro ⟨data, patched⟩
  obtain ⟨text, fine⟩ := plain_of_patched (patched_asGiven_iff.mp patched)
  obtain rfl : spacedText = text :=
    Option.some.inj ((decode_utf8 spacedText).symm.trans fine.read)
  have old : "a ".toList ∈ (content spacedText).map keyOf ++ keys renewed.entries := by
    decide +kernel
  have new : ['a'] ∈ (content spacedText).map keyOf ++ keys renewed.entries := by decide +kernel
  exact absurd (fine.apart _ old _ new (by decide +kernel)) (by decide +kernel)

end Bscp.Images.Bootconfig
