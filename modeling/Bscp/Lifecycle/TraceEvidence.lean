import Bscp.Regex
import Bscp.Python
import Mathlib.Data.List.Induction

/-!
The log contract that the checkers and the wrappers share (`scripts/avf_trace_evidence.sh`). A run
log names the CID of its machine, and the trace, which goes on over the restarts of the service,
has to show the event of that machine: behind the beginning of the last session, and behind the
last context of the CID in it.
-/

namespace Bscp.TraceEvidence

open Regex hiding none

/-! ### Bash, awk and grep -/

/-- `$(...)`. Bash leaves out null characters, and the newlines at the end. -/
def substitution (output : Text) : Text :=
  ((output.filter fun char => char != '\x00').reverse.dropWhile fun char => char == '\n').reverse

def recordsFrom (sofar : Text) : Text → List Text
  | [] => if sofar = [] then [] else [sofar]
  | char :: rest =>
      if char = '\n' then sofar :: recordsFrom [] rest else recordsFrom (sofar ++ [char]) rest

/-- The records of awk. A null character is one like the others. -/
def records (log : Text) : List Text := recordsFrom [] log

def zapped (char : Char) : Char := if char = '\x00' then '\n' else char

/-- The lines of GNU grep. In a file that holds a null character, one ends a line as a newline
does. -/
def grepLines (log : Text) : List Text := records (log.map zapped)

/-- `[[:space:]]`. -/
def spaceChar (char : Char) : Bool := char ∈ [' ', '\t', '\n', '\x0b', '\x0c', '\r']

/-- `[A-Z_]`. -/
def stateChar (char : Char) : Bool := char.isUpper || char == '_'

def any : Regex Char := run fun _ => true

def digits : Regex Char := run1 Char.isDigit

def text (literal : String) : Regex Char := lit literal.toList

/-! ### The three functions -/

/-- `avf_complete_log`. The last byte is a newline or a null character where the last character
is. -/
def avfCompleteLog (log : Text) : Bool :=
  !log.isEmpty && (substitution (log.drop (log.length - 1))).isEmpty

def createdLine : Regex Char :=
  .seq (text "Created ") <| .seq (.alt (text "debuggable VM") (text "VM")) <|
    .seq (text " from ") <| .seq any <| .seq (text " with CID ") <| .seq digits <|
      .seq (text ", state is ") <| .seq (run1 stateChar) <| .seq (text ".") (run spaceChar)

def createdValue (line : Text) : Text :=
  cutEnd (.seq (text ", state is ") any) (cutStart (.seq any (text " with CID ")) line)

structure Created where
  cid : Text := []
  count : Nat := 0

def Created.step (created : Created) (line : Text) : Created :=
  if createdLine.accepts line then ⟨createdValue line, created.count + 1⟩ else created

def avfRunCid (runLog : Text) : Option Text :=
  if avfCompleteLog runLog then
    let created := (records runLog).foldl Created.step {}
    if created.count = 1 then some (substitution (created.cid ++ ['\n'])) else none
  else none

def witnessLine : Regex Char :=
  .seq (.alt (text "payload is ready")
    (text "Persistent host virtmgr mode: leaving VM running after READY.")) (run spaceChar)

def runStart : Text := "virtmgr: run start".toList

def contextStart : Text := "virtmgr: create_vm_internal vm_context cid=".toList

def contextLine : Regex Char :=
  .seq (lit contextStart) <| .seq digits <| .seq (text " temp_dir=") (run1 fun _ => true)

def contextValue (line : Text) : Text :=
  cutEnd (.seq (text " temp_dir=") any) (cutStart (lit contextStart) line)

def eventLine (event cid : Text) : Text :=
  "virtmgr: notify_payload_".toList ++ event ++ " cid=".toList ++ cid

structure Scan where
  session : Bool := false
  context : Bool := false
  found : Bool := false

def Scan.step (cid event : Text) (scan : Scan) (line : Text) : Scan :=
  if line = runStart then ⟨true, false, false⟩
  else if scan.session && contextLine.accepts line then
    if contextValue line = cid then { scan with context := true, found := false } else scan
  else if scan.session && scan.context && line == eventLine event cid then
    { scan with found := true }
  else scan

def ready : Text := "ready".toList

def started : Text := "started".toList

/-- Nothing stands for an argument that is not given. -/
def avfTraceHasEvent (tracePath runLog event expectedCid : Text) : Bool :=
  let event := if event = [] then ready else event
  if event = ready ∨ event = started then
    match avfRunCid runLog with
    | none => false
    | some cid =>
        if expectedCid ≠ [] ∧ ¬(digits.accepts expectedCid ∧ expectedCid = cid) then false
        else if !(grepLines runLog).any witnessLine.accepts then false
        else if !avfCompleteLog tracePath then false
        else
          let scan := (records tracePath).foldl (Scan.step cid event) {}
          scan.session && scan.context && scan.found
  else false

/-! ### What is asked for -/

inductive Event where
  | ready
  | started
  deriving DecidableEq

def Event.text : Event → Text
  | .ready => TraceEvidence.ready
  | .started => TraceEvidence.started

def Complete (log : Text) : Prop := ∃ front, log = front ++ ['\n']

def Zeroed (log : Text) : Prop := ∃ front, log = front ++ ['\x00']

def CreatedLine (cid line : Text) : Prop :=
  ∃ kind origin state spaces : Text,
    line = "Created ".toList ++ kind ++ " from ".toList ++ origin ++ " with CID ".toList ++ cid ++
      ", state is ".toList ++ state ++ ".".toList ++ spaces ∧
    (kind = "debuggable VM".toList ∨ kind = "VM".toList) ∧
    cid ≠ [] ∧ (∀ char ∈ cid, char.isDigit = true) ∧
    state ≠ [] ∧ (∀ char ∈ state, stateChar char = true) ∧ ∀ char ∈ spaces, spaceChar char = true

def NamesOnce (cid : Text) (lines : List Text) : Prop :=
  ∃ before line after, lines = before ++ line :: after ∧ CreatedLine cid line ∧
    ∀ other ∈ before ++ after, ∀ named, ¬CreatedLine named other

def WitnessLine (line : Text) : Prop :=
  ∃ words spaces : Text, line = words ++ spaces ∧
    (words = "payload is ready".toList ∨
      words = "Persistent host virtmgr mode: leaving VM running after READY.".toList) ∧
    ∀ char ∈ spaces, spaceChar char = true

def ContextLine (cid line : Text) : Prop :=
  ∃ directory : Text, line = contextStart ++ cid ++ " temp_dir=".toList ++ directory ∧
    directory ≠ []

def Behind (marked : Text → Prop) (lines rest : List Text) : Prop :=
  (∃ before line, lines = before ++ line :: rest ∧ marked line) ∧ ∀ other ∈ rest, ¬marked other

/-- The event stands behind the last context of the CID, and that behind the beginning of the last
session. -/
def Shows (cid event : Text) (lines : List Text) : Prop :=
  ∃ session after, Behind (fun line => line = runStart) lines session ∧
    Behind (ContextLine cid) session after ∧ eventLine event cid ∈ after

def Witnessed (lines : List Text) : Prop := ∃ line ∈ lines, WitnessLine line

/-- All that is asked for but the witness and the ends of the two logs. -/
def Shown (trace runLog : Text) (event : Event) (expected : Text) : Prop :=
  ∃ cid, NamesOnce cid (records runLog) ∧ (expected = [] ∨ expected = cid) ∧
    Shows cid event.text (records trace)

/-! ### Characters -/

theorem not_mem_of_allowed {allowed : Char → Bool} {word : Text} {char : Char}
    (all : ∀ other ∈ word, allowed other = true) (refused : allowed char = false) :
    char ∉ word := by
  intro member
  rw [all char member] at refused
  cases refused

/-- Behind the last one of a letter there is one rest only. -/
theorem last_rest {letter : Char} {front back front' back' : Text}
    (same : front ++ letter :: back = front' ++ letter :: back') (last : letter ∉ back)
    (last' : letter ∉ back') : back = back' := by
  induction front generalizing front' with
  | nil =>
      cases front' with
      | nil => exact (List.cons.inj same).2
      | cons head front' =>
          obtain ⟨rfl, rfl⟩ := List.cons.inj same
          exact absurd (by simp) last
  | cons head front next =>
      cases front' with
      | nil =>
          obtain ⟨rfl, rfl⟩ := List.cons.inj same
          exact absurd (by simp) last'
      | cons head' front' => exact next (List.cons.inj same).2

/-! ### Lines -/

theorem createdLine_iff (line : Text) :
    createdLine.accepts line = true ↔ ∃ cid, CreatedLine cid line := by
  rw [accepts_iff]
  constructor
  · simp only [createdLine, text, any, digits, matches_seq, matches_alt, matches_lit, matches_run,
      matches_run1]
    rintro ⟨_, _, rfl, rfl, kind, _, rfl, kinds, _, _, rfl, rfl, origin, _, rfl, -, _, _, rfl, rfl,
      cid, _, rfl, numbers, _, _, rfl, rfl, state, _, rfl, states, _, spaces, rfl, rfl, blank⟩
    exact ⟨cid, kind, origin, state, spaces, by simp only [List.append_assoc], kinds, numbers.1,
      numbers.2, states.1, states.2, blank⟩
  · rintro ⟨cid, kind, origin, state, spaces, rfl, kinds, some_cid, numbers, some_state, states,
      blank⟩
    simp only [List.append_assoc]
    refine .seq (by simp [text]) <| .seq ?_ <| .seq (by simp [text]) <| .seq (by simp [any]) <|
      .seq (by simp [text]) <| .seq ?_ <| .seq (by simp [text]) <| .seq ?_ <|
        .seq (by simp [text]) (by simpa using blank)
    · simpa [text] using kinds
    · simpa [digits] using ⟨some_cid, numbers⟩
    · simpa using ⟨some_state, states⟩

theorem createdValue_eq {cid line : Text} (created : CreatedLine cid line) :
    createdValue line = cid := by
  obtain ⟨kind, origin, state, spaces, rfl, kinds, some_cid, numbers, some_state, states, blank⟩ :=
    created
  let front := "Created ".toList ++ kind ++ " from ".toList ++ origin ++ " with CID ".toList
  let back := ", state is ".toList ++ (state ++ ".".toList ++ spaces)
  have whole : "Created ".toList ++ kind ++ " from ".toList ++ origin ++ " with CID ".toList ++
      cid ++ ", state is ".toList ++ state ++ ".".toList ++ spaces = front ++ (cid ++ back) := by
    simp only [front, back, List.append_assoc]
  have first : cutStart (.seq any (text " with CID ")) (front ++ (cid ++ back)) = cid ++ back := by
    refine cutStart_eq (.seq (by simp [any]) (by simp [text])) fun more rest some_more split => ?_
    simp only [any, text, matches_seq, matches_run, matches_lit]
    rintro ⟨before, _, same, -, rfl⟩
    -- No `w` stands behind the one of the last separator.
    have none : 'w' ∉ cid ++ back := by
      have one : 'w' ∉ _ := not_mem_of_allowed numbers (by decide)
      have two : 'w' ∉ _ := not_mem_of_allowed states (by decide)
      have three : 'w' ∉ _ := not_mem_of_allowed blank (by decide)
      simp [back, one, two, three]
    have none_more : 'w' ∉ more := fun member => none (split ▸ List.mem_append_left rest member)
    have both : ("Created ".toList ++ kind ++ " from ".toList ++ origin ++ [' ']) ++
        'w' :: ("ith CID ".toList ++ more) = (before ++ [' ']) ++ 'w' :: "ith CID ".toList := by
      simpa [front] using same
    have rests := last_rest both (by simp [none_more]) (by decide)
    exact some_more (List.append_right_eq_self.mp rests)
  have second : cutEnd (.seq (text ", state is ") any) (cid ++ back) = cid := by
    refine cutEnd_eq (.seq (by simp [text]) (by simp [any])) fun rest more some_more split => ?_
    simp only [any, text, matches_seq, matches_run, matches_lit]
    rintro ⟨_, after, same, rfl, -⟩
    cases more with
    | nil => exact some_more rfl
    | cons head more =>
        have number := numbers head (by simp [split])
        obtain ⟨rfl, -⟩ := List.cons.inj same
        exact absurd number (by decide)
  rw [createdValue, whole, first, second]

theorem witnessLine_iff (line : Text) : witnessLine.accepts line = true ↔ WitnessLine line := by
  rw [accepts_iff]
  simp only [witnessLine, text, matches_seq, matches_alt, matches_lit, matches_run, WitnessLine]

theorem null_not_mem_witness {line : Text} (witness : WitnessLine line) : '\x00' ∉ line := by
  obtain ⟨words, spaces, rfl, kinds, blank⟩ := witness
  have none : '\x00' ∉ spaces := not_mem_of_allowed blank (by decide)
  rw [List.mem_append, not_or]
  refine ⟨?_, none⟩
  rcases kinds with rfl | rfl
  · rw [String.toList_ofList]
    decide
  · rw [String.toList_ofList]
    decide

/-- A record without a null character is a line of grep, too. The record of grep that is under way
differs from that of awk only behind a null character, and then the record of awk holds it. -/
theorem recordsFrom_zapped {line log sofar other : Text} (plain : '\x00' ∉ line)
    (begun : sofar = other ∨ '\x00' ∈ sofar) (member : line ∈ recordsFrom sofar log) :
    line ∈ recordsFrom other (log.map zapped) := by
  induction log generalizing sofar other with
  | nil =>
      rcases begun with rfl | null
      · exact member
      · rw [recordsFrom, if_neg (List.ne_nil_of_mem null), List.mem_singleton] at member
        exact absurd (member ▸ null) plain
  | cons char rest next =>
      rw [List.map_cons]
      by_cases newline : char = '\n'
      · subst newline
        have kept : zapped '\n' = '\n' := by decide
        rw [recordsFrom, if_pos rfl] at member
        rw [recordsFrom, kept, if_pos rfl]
        rcases List.mem_cons.mp member with rfl | later
        · rcases begun with rfl | null
          · exact List.mem_cons_self
          · exact absurd null plain
        · exact List.mem_cons_of_mem _ (next (.inl rfl) later)
      · rw [recordsFrom, if_neg newline] at member
        by_cases null : char = '\x00'
        · subst null
          have cut : zapped '\x00' = '\n' := by decide
          rw [recordsFrom, cut, if_pos rfl]
          exact List.mem_cons_of_mem _ (next (.inr (by simp)) member)
        · have kept : zapped char = char := if_neg null
          rw [recordsFrom, kept, if_neg newline]
          refine next ?_ member
          rcases begun with rfl | held
          · exact .inl rfl
          · exact .inr (List.mem_append_left _ held)

/-- A witness for awk is one for grep. -/
theorem Witnessed.grep {log : Text} (witnessed : Witnessed (records log)) :
    Witnessed (grepLines log) := by
  obtain ⟨line, member, witness⟩ := witnessed
  exact ⟨line, recordsFrom_zapped (null_not_mem_witness witness) (.inl rfl) member, witness⟩

theorem contextLine_iff (line : Text) : contextLine.accepts line = true ↔
    ∃ cid, ContextLine cid line ∧ cid ≠ [] ∧ ∀ char ∈ cid, char.isDigit = true := by
  rw [accepts_iff]
  constructor
  · simp only [contextLine, text, digits, matches_seq, matches_lit, matches_run1]
    rintro ⟨_, _, rfl, rfl, cid, _, rfl, numbers, _, directory, rfl, rfl, some_path, -⟩
    exact ⟨cid, ⟨directory, by simp only [List.append_assoc], some_path⟩, numbers⟩
  · rintro ⟨cid, ⟨directory, rfl, some_path⟩, numbers⟩
    simp only [List.append_assoc]
    refine .seq (by simp) <| .seq ?_ <| .seq (by simp [text]) (by simpa using some_path)
    simpa [digits] using numbers

theorem contextValue_eq {cid line : Text} (context : ContextLine cid line)
    (numbers : ∀ char ∈ cid, char.isDigit = true) : contextValue line = cid := by
  obtain ⟨directory, rfl, some_path⟩ := context
  have first : cutStart (lit contextStart)
      (contextStart ++ (cid ++ (" temp_dir=".toList ++ directory))) =
        cid ++ (" temp_dir=".toList ++ directory) := by
    refine cutStart_eq (by simp) fun more rest some_more _ => ?_
    rw [matches_lit, List.append_right_eq_self]
    exact some_more
  have second : cutEnd (.seq (text " temp_dir=") any) (cid ++ (" temp_dir=".toList ++ directory)) =
      cid := by
    refine cutEnd_eq (.seq (by simp [text]) (by simp [any])) fun rest more some_more split => ?_
    simp only [any, text, matches_seq, matches_run, matches_lit]
    rintro ⟨_, after, same, rfl, -⟩
    cases more with
    | nil => exact some_more rfl
    | cons head more =>
        have number := numbers head (by simp [split])
        obtain ⟨rfl, -⟩ := List.cons.inj same
        exact absurd number (by decide)
  rw [contextValue, List.append_assoc, List.append_assoc, first, second]

/-- The awk rule for contexts, for a CID that is a number. -/
theorem context_rule {cid line : Text} (some_cid : cid ≠ [])
    (numbers : ∀ char ∈ cid, char.isDigit = true) :
    (contextLine.accepts line = true ∧ contextValue line = cid) ↔ ContextLine cid line := by
  constructor
  · rintro ⟨accepted, value⟩
    obtain ⟨other, context, -, digits⟩ := (contextLine_iff line).mp accepted
    rw [contextValue_eq context digits] at value
    exact value ▸ context
  · intro context
    exact ⟨(contextLine_iff line).mpr ⟨cid, context, some_cid, numbers⟩,
      contextValue_eq context numbers⟩

theorem event_starts (event cid : Text) :
    "virtmgr: notify_payload_".toList <+: eventLine event cid :=
  ((List.prefix_append _ event).trans (List.prefix_append _ _)).trans (List.prefix_append _ cid)

theorem event_ne_context {event cid other : Text} : ¬ContextLine other (eventLine event cid) := by
  rintro ⟨directory, same, -⟩
  rw [List.append_assoc, List.append_assoc] at same
  have context : contextStart <+: eventLine event cid := ⟨_, same.symm⟩
  have context_chars : contextStart = _ := String.toList_ofList
  have event_chars : "virtmgr: notify_payload_".toList = _ := String.toList_ofList
  have shorter : "virtmgr: notify_payload_".toList.length ≤ contextStart.length := by
    rw [context_chars, event_chars]
    decide
  have both := List.prefix_of_prefix_length_le (event_starts event cid) context shorter
  rw [context_chars, event_chars] at both
  exact absurd both (by decide)

/-! ### The run log -/

theorem created_named {line cid : Text} (created : CreatedLine cid line) (before : Created) :
    before.step line = ⟨cid, before.count + 1⟩ := by
  simp only [Created.step, (createdLine_iff line).mpr ⟨cid, created⟩, if_true,
    createdValue_eq created]

theorem created_unnamed {line : Text} (none : ∀ cid, ¬CreatedLine cid line) (before : Created) :
    before.step line = before := by
  have refused : ¬createdLine.accepts line = true := fun accepted =>
    let ⟨cid, created⟩ := (createdLine_iff line).mp accepted
    none cid created
  simp only [Created.step, refused, if_false, Bool.false_eq_true]

theorem created_count (lines : List Text) (created : Created) :
    created.count ≤ (lines.foldl Created.step created).count := by
  induction lines generalizing created with
  | nil => exact Nat.le_refl _
  | cons line lines next =>
      refine Nat.le_trans ?_ (next _)
      unfold Created.step
      split
      · exact Nat.le_succ _
      · exact Nat.le_refl _

/-- No line of a part of the log names a CID. -/
theorem created_none {lines : List Text} {created : Created} :
    (lines.foldl Created.step created).count = created.count ↔
      ∀ line ∈ lines, ∀ cid, ¬CreatedLine cid line := by
  induction lines generalizing created with
  | nil => simp
  | cons line lines next =>
      rw [List.foldl_cons, List.forall_mem_cons]
      by_cases accepted : createdLine.accepts line = true
      · obtain ⟨cid, named⟩ := (createdLine_iff line).mp accepted
        have more := created_count lines (created.step line)
        rw [created_named named] at more ⊢
        exact iff_of_false (Nat.ne_of_gt more) fun none => none.1 cid named
      · have none : ∀ cid, ¬CreatedLine cid line := fun cid named =>
          accepted ((createdLine_iff line).mpr ⟨cid, named⟩)
        rw [created_unnamed none, next]
        exact (and_iff_right none).symm

theorem created_kept {lines : List Text} {created : Created}
    (none : ∀ line ∈ lines, ∀ cid, ¬CreatedLine cid line) :
    lines.foldl Created.step created = created := by
  induction lines with
  | nil => rfl
  | cons line lines next =>
      rw [List.forall_mem_cons] at none
      rw [List.foldl_cons, created_unnamed none.1]
      exact next none.2

theorem once_of_count {lines : List Text} {created : Created}
    (once : (lines.foldl Created.step created).count = created.count + 1) :
    NamesOnce (lines.foldl Created.step created).cid lines := by
  induction lines generalizing created with
  | nil => exact absurd once.symm (Nat.succ_ne_self _)
  | cons line lines next =>
      rw [List.foldl_cons] at once ⊢
      by_cases some_cid : ∃ cid, CreatedLine cid line
      · obtain ⟨cid, named⟩ := some_cid
        rw [created_named named] at once ⊢
        have later := created_none.mp once
        rw [created_kept later]
        exact ⟨[], line, lines, rfl, named, later⟩
      · rw [not_exists] at some_cid
        rw [created_unnamed some_cid] at once ⊢
        obtain ⟨before, other, after, rfl, named, others⟩ := next once
        refine ⟨line :: before, other, after, rfl, named, ?_⟩
        rw [List.cons_append, List.forall_mem_cons]
        exact ⟨some_cid, others⟩

theorem count_of_once {lines : List Text} {cid : Text} (once : NamesOnce cid lines) :
    lines.foldl Created.step {} = ⟨cid, 1⟩ := by
  obtain ⟨before, line, after, rfl, created, others⟩ := once
  rw [List.foldl_append,
    created_kept fun other member => others other (List.mem_append_left after member),
    List.foldl_cons, created_named created,
    created_kept fun other member => others other (List.mem_append_right before member)]

/-! ### The trace -/

section Scanning

variable {marked : Text → Prop} {cid event : Text} {lines session rest : List Text} {line : Text}

theorem behind_here (here : marked line) : Behind marked (lines ++ [line]) rest ↔ rest = [] := by
  constructor
  · rintro ⟨⟨before, other, whole, -⟩, none⟩
    rcases List.eq_nil_or_concat rest with rfl | ⟨front, last, rfl⟩
    · rfl
    · rw [List.concat_eq_append, ← List.cons_append, ← List.append_assoc] at whole
      obtain ⟨-, same⟩ := List.append_inj' whole rfl
      obtain rfl := List.singleton_inj.mp same
      exact absurd here (none line (by simp))
  · rintro rfl
    exact ⟨⟨lines, line, rfl, here⟩, fun _ member => absurd member List.not_mem_nil⟩

theorem behind_other (other : ¬marked line) : Behind marked (lines ++ [line]) rest ↔
    ∃ front, rest = front ++ [line] ∧ Behind marked lines front := by
  constructor
  · rintro ⟨⟨before, mark, whole, here⟩, none⟩
    rcases List.eq_nil_or_concat rest with rfl | ⟨front, last, rfl⟩
    · obtain ⟨-, same⟩ := List.append_inj' whole rfl
      obtain rfl := List.singleton_inj.mp same
      exact absurd here other
    · rw [List.concat_eq_append] at none
      rw [List.concat_eq_append, ← List.cons_append, ← List.append_assoc] at whole
      obtain ⟨rfl, same⟩ := List.append_inj' whole rfl
      obtain rfl := List.singleton_inj.mp same
      exact ⟨front, List.concat_eq_append, ⟨before, mark, rfl, here⟩, fun early member =>
        none early (List.mem_append_left _ member)⟩
  · rintro ⟨front, rfl, ⟨before, mark, rfl, here⟩, none⟩
    refine ⟨⟨before, mark, by simp, here⟩, fun early member => ?_⟩
    rcases List.mem_append.mp member with old | new
    · exact none early old
    · rw [List.mem_singleton.mp new]
      exact other

structure Scanned (cid event : Text) (lines : List Text) (scan : Scan) : Prop where
  session : scan.session = true ↔ ∃ session, Behind (fun line => line = runStart) lines session
  context : scan.context = true ↔ ∃ session after,
    Behind (fun line => line = runStart) lines session ∧ Behind (ContextLine cid) session after
  found : scan.found = true ↔ Shows cid event lines

theorem behind_nil : ¬Behind marked [] rest := by
  rintro ⟨⟨before, line, whole, -⟩, -⟩
  exact List.append_ne_nil_of_right_ne_nil before (List.cons_ne_nil line rest) whole.symm

theorem scanned_nil : Scanned cid event [] {} :=
  ⟨by simp [behind_nil], by simp [behind_nil], by simp [behind_nil, Shows]⟩

/-- A new session. -/
theorem scanned_start {scan : Scan} : Scanned cid event (lines ++ [runStart])
    (scan.step cid event runStart) := by
  have stepped : scan.step cid event runStart = ⟨true, false, false⟩ := by
    simp only [Scan.step, if_true]
  have here : ∀ rest, Behind (fun line => line = runStart) (lines ++ [runStart]) rest ↔
      rest = [] := fun rest => behind_here rfl
  rw [stepped]
  exact ⟨by simp [here], by simp [here, behind_nil], by simp [Shows, here, behind_nil]⟩

section Onward

variable {scan : Scan} (scanned : Scanned cid event lines scan) (other : line ≠ runStart)
include other

theorem session_onward : Behind (fun line => line = runStart) (lines ++ [line]) rest ↔
    ∃ front, rest = front ++ [line] ∧ Behind (fun line => line = runStart) lines front :=
  behind_other other

theorem in_session_onward :
    (∃ session, Behind (fun line => line = runStart) (lines ++ [line]) session) ↔
      ∃ session, Behind (fun line => line = runStart) lines session := by
  simp [session_onward other]

include scanned

/-- A new context of the CID, of which no event has been seen. -/
theorem scanned_context (some_cid : cid ≠ []) (numbers : ∀ char ∈ cid, char.isDigit = true)
    (context : ContextLine cid line) :
    Scanned cid event (lines ++ [line]) (scan.step cid event line) := by
  have rule := (context_rule some_cid numbers).mpr context
  have here : ∀ session rest, Behind (ContextLine cid) (session ++ [line]) rest ↔ rest = [] :=
    fun session rest => behind_here context
  by_cases inside : scan.session = true
  · have stepped : scan.step cid event line = { scan with context := true, found := false } := by
      simp only [Scan.step, other, if_false, inside, rule.1, Bool.and_self, if_true, rule.2]
    rw [stepped]
    refine ⟨scanned.session.trans (in_session_onward other).symm, ?_, ?_⟩
    · simpa [session_onward other, here] using scanned.session.mp inside
    · simp [Shows, session_onward other, here]
  · have outside : ∀ session, ¬Behind (fun line => line = runStart) lines session :=
      not_exists.mp fun some_session => inside (scanned.session.mpr some_session)
    have stepped : scan.step cid event line = scan := by
      simp only [Scan.step, other, if_false, inside, Bool.false_and, Bool.false_eq_true]
    rw [stepped]
    refine ⟨scanned.session.trans (in_session_onward other).symm, scanned.context.trans ?_,
      scanned.found.trans ?_⟩
    · simp [session_onward other, outside]
    · simp [Shows, session_onward other, outside]

/-- A context of another CID, and a line that is none, go on to the rule for events. -/
theorem step_other (some_cid : cid ≠ []) (numbers : ∀ char ∈ cid, char.isDigit = true)
    (none : ¬ContextLine cid line) : scan.step cid event line =
      if scan.context = true ∧ line = eventLine event cid then { scan with found := true }
      else scan := by
  have inside : scan.context = true → scan.session = true := fun within =>
    let ⟨session, _, some_session, _⟩ := scanned.context.mp within
    scanned.session.mpr ⟨session, some_session⟩
  by_cases accepted : contextLine.accepts line = true
  · have different : contextValue line ≠ cid := fun same =>
      none ((context_rule some_cid numbers).mp ⟨accepted, same⟩)
    have not_event : line ≠ eventLine event cid := by
      rintro rfl
      obtain ⟨named, context, -⟩ := (contextLine_iff _).mp accepted
      exact event_ne_context context
    cases session : scan.session <;>
      simp [Scan.step, other, accepted, different, not_event, session]
  · cases within : scan.context
    · simp [Scan.step, other, accepted, within]
    · simp [Scan.step, other, accepted, within, inside within]

theorem scanned_other (some_cid : cid ≠ []) (numbers : ∀ char ∈ cid, char.isDigit = true)
    (none : ¬ContextLine cid line) :
    Scanned cid event (lines ++ [line]) (scan.step cid event line) := by
  have onward : ∀ session rest, Behind (ContextLine cid) (session ++ [line]) rest ↔
      ∃ front, rest = front ++ [line] ∧ Behind (ContextLine cid) session front :=
    fun session rest => behind_other none
  have in_context : (∃ session after, Behind (fun line => line = runStart) (lines ++ [line])
        session ∧ Behind (ContextLine cid) session after) ↔
      ∃ session after, Behind (fun line => line = runStart) lines session ∧
        Behind (ContextLine cid) session after := by
    simp [session_onward other, onward]
  have shows_iff : Shows cid event (lines ++ [line]) ↔ Shows cid event lines ∨
      ((∃ session after, Behind (fun line => line = runStart) lines session ∧
        Behind (ContextLine cid) session after) ∧ line = eventLine event cid) := by
    constructor
    · rintro ⟨_, _, behind, context, member⟩
      obtain ⟨session, rfl, inside⟩ := (session_onward other).mp behind
      obtain ⟨after, rfl, within⟩ := (onward _ _).mp context
      rcases List.mem_append.mp member with old | new
      · exact .inl ⟨session, after, inside, within, old⟩
      · exact .inr ⟨⟨session, after, inside, within⟩, (List.mem_singleton.mp new).symm⟩
    · rintro (⟨session, after, inside, within, member⟩ | ⟨⟨session, after, inside, within⟩, same⟩)
      · exact ⟨_, _, (session_onward other).mpr ⟨session, rfl, inside⟩,
          (onward _ _).mpr ⟨after, rfl, within⟩, List.mem_append_left _ member⟩
      · exact ⟨_, _, (session_onward other).mpr ⟨session, rfl, inside⟩,
          (onward _ _).mpr ⟨after, rfl, within⟩, by simp [same]⟩
  rw [step_other scanned other some_cid numbers none]
  refine ⟨?_, ?_, ?_⟩
  · rw [in_session_onward other, ← scanned.session]
    split <;> rfl
  · rw [in_context, ← scanned.context]
    split <;> rfl
  · rw [shows_iff, ← scanned.context, ← scanned.found]
    split
    · next event => simp [event]
    · next no_event => simp [no_event]

end Onward

/-- The flags at the end of the trace. -/
theorem scanned (some_cid : cid ≠ []) (numbers : ∀ char ∈ cid, char.isDigit = true)
    (lines : List Text) : Scanned cid event lines (lines.foldl (Scan.step cid event) {}) := by
  induction lines using List.reverseRecOn with
  | nil => exact scanned_nil
  | append_singleton lines line before =>
      rw [List.foldl_append, List.foldl_cons, List.foldl_nil]
      by_cases start : line = runStart
      · subst start
        exact scanned_start
      by_cases context : ContextLine cid line
      · exact scanned_context before start some_cid numbers context
      · exact scanned_other before start some_cid numbers context

end Scanning

/-! ### The function as a whole -/

theorem avfCompleteLog_iff (log : Text) :
    avfCompleteLog log = true ↔ Complete log ∨ Zeroed log := by
  rcases List.eq_nil_or_concat log with rfl | ⟨front, last, rfl⟩
  · simp [avfCompleteLog, Complete, Zeroed]
  · rw [List.concat_eq_append]
    have ends : (front ++ [last]).drop ((front ++ [last]).length - 1) = [last] := by
      simp
    have complete : Complete (front ++ [last]) ↔ last = '\n' := by
      simp [Complete]
    have zeroed : Zeroed (front ++ [last]) ↔ last = '\x00' := by
      simp [Zeroed]
    rw [avfCompleteLog, ends, complete, zeroed]
    by_cases zero : last = '\x00'
    · simp [substitution, zero]
    · by_cases newline : last = '\n' <;> simp [substitution, zero, newline]

theorem substitution_line {cid : Text} (numbers : ∀ char ∈ cid, char.isDigit = true) :
    substitution (cid ++ ['\n']) = cid := by
  have kept : (cid ++ ['\n']).filter (fun char => char != '\x00') = cid ++ ['\n'] := by
    rw [List.filter_eq_self]
    intro char member
    rcases List.mem_append.mp member with digit | newline
    · have other : char ≠ '\x00' := by
        rintro rfl
        exact absurd (numbers _ digit) (by decide)
      simpa using other
    · rw [List.mem_singleton.mp newline]
      decide
  have stays : cid.reverse.dropWhile (fun char => char == '\n') = cid.reverse := by
    cases reversed : cid.reverse with
    | nil => rfl
    | cons last front =>
        have digit := numbers last (List.mem_reverse.mp (by simp [reversed]))
        have other : last ≠ '\n' := by
          rintro rfl
          exact absurd digit (by decide)
        exact List.dropWhile_cons_of_neg (by simpa using other)
  rw [substitution, kept, List.reverse_append, List.reverse_singleton, List.singleton_append,
    List.dropWhile_cons_of_pos (by decide), stays, List.reverse_reverse]

theorem NamesOnce.numbers {cid : Text} {lines : List Text} (once : NamesOnce cid lines) :
    cid ≠ [] ∧ ∀ char ∈ cid, char.isDigit = true := by
  obtain ⟨_, _, _, _, ⟨_, _, _, _, _, _, some_cid, numbers, _⟩, _⟩ := once
  exact ⟨some_cid, numbers⟩

theorem avfRunCid_iff {runLog cid : Text} : avfRunCid runLog = some cid ↔
    (Complete runLog ∨ Zeroed runLog) ∧ NamesOnce cid (records runLog) := by
  rw [← avfCompleteLog_iff, avfRunCid]
  by_cases ends : avfCompleteLog runLog = true
  · simp only [ends, if_true, true_and]
    constructor
    · intro some_cid
      split at some_cid
      · next one =>
          have once := once_of_count one
          rw [substitution_line once.numbers.2] at some_cid
          exact Option.some.inj some_cid ▸ once
      · cases some_cid
    · intro once
      rw [count_of_once once]
      simp only [if_true, substitution_line once.numbers.2]
  · simp [ends]

theorem Event.text_ne_nil (event : Event) : event.text ≠ ([] : Text) := by
  have ready_chars : TraceEvidence.ready = _ := String.toList_ofList
  have started_chars : TraceEvidence.started = _ := String.toList_ofList
  cases event
  · rw [Event.text, ready_chars]
    exact List.cons_ne_nil _ _
  · rw [Event.text, started_chars]
    exact List.cons_ne_nil _ _

theorem Event.text_cases (event : Event) :
    event.text = TraceEvidence.ready ∨ event.text = TraceEvidence.started := by
  cases event
  · exact Or.inl rfl
  · exact Or.inr rfl

theorem avfTraceHasEvent_iff (trace runLog : Text) (event : Event) (expected : Text) :
    avfTraceHasEvent trace runLog event.text expected = true ↔
      (Complete trace ∨ Zeroed trace) ∧ (Complete runLog ∨ Zeroed runLog) ∧
        Witnessed (grepLines runLog) ∧ Shown trace runLog event expected := by
  unfold avfTraceHasEvent
  simp only [event.text_ne_nil, if_false, event.text_cases, if_true]
  cases named : avfRunCid runLog with
  | none =>
      refine iff_of_false Bool.false_ne_true ?_
      rintro ⟨-, ends, -, cid, once, -⟩
      rw [avfRunCid_iff.mpr ⟨ends, once⟩] at named
      cases named
  | some cid =>
      obtain ⟨ends, once⟩ := avfRunCid_iff.mp named
      obtain ⟨some_cid, numbers⟩ := once.numbers
      have only : Shown trace runLog event expected ↔
          (expected = [] ∨ expected = cid) ∧ Shows cid event.text (records trace) := by
        constructor
        · rintro ⟨other, again, shown⟩
          have same := (avfRunCid_iff.mpr ⟨ends, again⟩).symm.trans named
          obtain rfl := Option.some.inj same
          exact shown
        · exact fun shown => ⟨cid, once, shown⟩
      have witness : ((grepLines runLog).any witnessLine.accepts = true) ↔
          Witnessed (grepLines runLog) := by
        simp only [List.any_eq_true, witnessLine_iff, Witnessed]
      have expects : ¬(expected ≠ [] ∧ ¬(digits.accepts expected = true ∧ expected = cid)) ↔
          expected = [] ∨ expected = cid := by
        by_cases same : expected = cid
        · subst same
          have number : digits.accepts expected = true := by
            rw [accepts_iff, digits, matches_run1]
            exact ⟨some_cid, numbers⟩
          simp [number]
        · simp [same]
      have flags := @scanned cid event.text some_cid numbers (records trace)
      have all_flags : (((records trace).foldl (Scan.step cid event.text) {}).session &&
          ((records trace).foldl (Scan.step cid event.text) {}).context &&
            ((records trace).foldl (Scan.step cid event.text) {}).found) = true ↔
          Shows cid event.text (records trace) := by
        rw [Bool.and_eq_true, Bool.and_eq_true, flags.session, flags.context, flags.found]
        constructor
        · exact fun all => all.2
        · rintro ⟨session, after, behind, context, member⟩
          exact ⟨⟨⟨session, behind⟩, session, after, behind, context⟩,
            session, after, behind, context, member⟩
      simp only [only, ends, true_and, ← avfCompleteLog_iff trace, ← witness, ← expects,
        ← all_flags]
      by_cases wanted : expected ≠ [] ∧ ¬(digits.accepts expected = true ∧ expected = cid)
      · simp [wanted]
      · simp only [wanted, if_false, not_false_eq_true, true_and]
        cases (grepLines runLog).any witnessLine.accepts <;> cases avfCompleteLog trace <;> simp

/-- The function agrees with what is asked for, unless it finds all of it, and one of the logs ends
in a null character or the witness is a line only where a null character ends it. -/
theorem avfTraceHasEvent_agrees_iff (trace runLog : Text) (event : Event) (expected : Text) :
    (avfTraceHasEvent trace runLog event.text expected = true ↔
      Complete trace ∧ Complete runLog ∧ Witnessed (records runLog) ∧
        Shown trace runLog event expected) ↔
    ¬((Complete trace ∨ Zeroed trace) ∧ (Complete runLog ∨ Zeroed runLog) ∧
      Witnessed (grepLines runLog) ∧ Shown trace runLog event expected ∧
      (Zeroed trace ∨ Zeroed runLog ∨ ¬ Witnessed (records runLog))) := by
  have apart : ∀ log : Text, Zeroed log → ¬Complete log := by
    rintro _ ⟨front, rfl⟩ ⟨other, same⟩
    have last := (List.append_inj' same rfl).2
    exact absurd last (by decide)
  rw [avfTraceHasEvent_iff]
  constructor
  · rintro same ⟨trace_ends, run_ends, witness, shown, defect⟩
    obtain ⟨trace_complete, run_complete, listed, -⟩ :=
      same.mp ⟨trace_ends, run_ends, witness, shown⟩
    -- What the function takes for an end or for a line is not one.
    rcases defect with zeroed | zeroed | unlisted
    · exact apart trace zeroed trace_complete
    · exact apart runLog zeroed run_complete
    · exact unlisted listed
  · intro fine
    constructor
    · rintro ⟨trace_ends, run_ends, witness, shown⟩
      have whole : ¬(Zeroed trace ∨ Zeroed runLog ∨ ¬Witnessed (records runLog)) :=
        fun defect => fine ⟨trace_ends, run_ends, witness, shown, defect⟩
      simp only [not_or, not_not] at whole
      exact ⟨trace_ends.resolve_right whole.1, run_ends.resolve_right whole.2.1, whole.2.2, shown⟩
    · rintro ⟨trace_complete, run_complete, listed, shown⟩
      exact ⟨.inl trace_complete, .inl run_complete, listed.grep, shown⟩

def readyRunLog : Text :=
  "Created VM from payload with CID 2048, state is STARTED.\npayload is ready\n".toList

def zeroedTrace : Text :=
  ("virtmgr: run start\nvirtmgr: create_vm_internal vm_context cid=2048 temp_dir=/tmp/2048\n" ++
    "virtmgr: notify_payload_ready cid=2048\n\x00").toList

def sampleCid : Text := "2048".toList

theorem readyRunLog_records : records readyRunLog =
    ["Created ".toList ++ "VM".toList ++ " from ".toList ++ "payload".toList ++
      " with CID ".toList ++ sampleCid ++ ", state is ".toList ++ "STARTED".toList ++
      ".".toList ++ [], "payload is ready".toList] := by
  delta readyRunLog sampleCid
  repeat rw [String.toList_ofList]
  rfl

theorem zeroedTrace_records : records zeroedTrace =
    [runStart, contextStart ++ sampleCid ++ " temp_dir=".toList ++ "/tmp/2048".toList,
      eventLine ready sampleCid, ['\x00']] := by
  delta zeroedTrace runStart contextStart eventLine ready sampleCid
  rw [String.toList_append]
  repeat rw [String.toList_ofList]
  decide +kernel

theorem readyRunLog_names : NamesOnce sampleCid (records readyRunLog) := by
  rw [readyRunLog_records]
  refine ⟨[], _, _, rfl, ⟨_, _, _, [], rfl, Or.inr rfl, ?_⟩, ?_⟩
  · delta sampleCid
    repeat rw [String.toList_ofList]
    exact ⟨by decide, List.all_eq_true.mp rfl, by decide, List.all_eq_true.mp rfl,
      List.forall_mem_nil _⟩
  · intro other member named
    obtain rfl := List.mem_singleton.mp member
    rintro ⟨kind, origin, state, spaces, same, -⟩
    have starts : "Created ".toList <+: "payload is ready".toList := by
      rw [same]
      simp only [List.append_assoc]
      exact List.prefix_append _ _
    revert starts
    rw [String.toList_ofList, String.toList_ofList]
    decide

theorem zeroedTrace_shows : Shows sampleCid ready (records zeroedTrace) := by
  rw [zeroedTrace_records]
  refine ⟨_, [eventLine ready sampleCid, ['\x00']], ⟨⟨[], runStart, rfl, rfl⟩, ?_⟩,
    ⟨⟨[], _, rfl, _, rfl, ?_⟩, ?_⟩, List.mem_cons_self⟩
  · delta runStart contextStart eventLine ready sampleCid
    repeat rw [String.toList_ofList]
    decide +kernel
  · rw [String.toList_ofList]
    exact List.cons_ne_nil _ _
  · intro other member
    rcases List.mem_cons.mp member with rfl | last
    · exact event_ne_context
    · obtain rfl := List.mem_singleton.mp last
      rintro ⟨directory, same, -⟩
      have size := congrArg List.length same
      have chars : contextStart = _ := String.toList_ofList
      rw [chars] at size
      simp only [List.length_append, List.length_cons, List.length_nil] at size
      omega

theorem zeroed_trace_counts : ¬(avfTraceHasEvent zeroedTrace readyRunLog Event.ready.text [] = true ↔
    Complete zeroedTrace ∧ Complete readyRunLog ∧ Witnessed (records readyRunLog) ∧
      Shown zeroedTrace readyRunLog .ready []) := by
  have trace : zeroedTrace = _ := String.toList_append.trans
    (congrArg₂ (· ++ ·) String.toList_ofList String.toList_ofList)
  have log : readyRunLog = _ := String.toList_ofList
  have witness : Witnessed (records readyRunLog) := by
    rw [readyRunLog_records]
    exact ⟨_, List.mem_cons_of_mem _ List.mem_cons_self, _, [], (List.append_nil _).symm, Or.inl rfl,
      fun _ member => nomatch member⟩
  have counts : avfTraceHasEvent zeroedTrace readyRunLog Event.ready.text [] = true := by
    refine (avfTraceHasEvent_iff _ _ _ _).mpr ⟨.inr ?_, .inl ?_, witness.grep, sampleCid,
      readyRunLog_names, .inl rfl, zeroedTrace_shows⟩
    · rw [trace]
      exact ⟨_, (List.dropLast_concat_getLast (List.cons_ne_nil _ _)).symm⟩
    · rw [log]
      exact ⟨_, (List.dropLast_concat_getLast (List.cons_ne_nil _ _)).symm⟩
  rintro ⟨only, -⟩
  obtain ⟨front, whole⟩ := (only counts).1
  have last := congrArg List.getLast? whole
  rw [List.getLast?_concat, trace] at last
  exact absurd last (by decide +kernel)

end Bscp.TraceEvidence
