import Bscp.Lifecycle.EndpointHost

/-!
`endpoint_evidence.EndpointEvidence`, the controller's proof that the original
endpoint was retired by its creator. The host process takes any steps before each
look of the controller: the size of the trace, its text and the `lstat` of the
path are separate looks.
-/

namespace Bscp.EndpointEvidence

open Script Session HostTrace EndpointHost

def eventKeys : List Text :=
  ["phase".toList, "cid".toList, "pid".toList, "dev".toList, "ino".toList, "uid".toList]

abbrev Members := List (Text × Json)

def memberAt (members : Members) (key : Text) : Option Json :=
  (members.find? fun entry => entry.1 == key).map Prod.snd

/-- `set(row)=={'phase','cid','pid','dev','ino','uid'}`. -/
def sameKeys (members : Members) : Bool :=
  (members.all fun entry => eventKeys.contains entry.1) &&
    eventKeys.all fun key => (members.map Prod.fst).contains key

/-- A value whose type is `int` and which is not negative. -/
def natural : Option Json → Option Nat
  | some (.int value) => if value < 0 then none else some value.toNat
  | _ => none

def phaseOf : Option Json → Option Phase
  | some (.string text) =>
      if text = Phase.bound.text then some .bound
      else if text = Phase.retired.text then some .retired else none
  | _ => none

def rowOfMembers (members : Members) : Option Row := do
  let phase ← phaseOf (memberAt members "phase".toList)
  let cid ← natural (memberAt members "cid".toList)
  let pid ← natural (memberAt members "pid".toList)
  let dev ← natural (memberAt members "dev".toList)
  let ino ← natural (memberAt members "ino".toList)
  let uid ← natural (memberAt members "uid".toList)
  some ⟨phase, cid, pid, dev, ino, uid⟩

/-- One event of the trace, behind its heading. The text of a decoding error is
left out. -/
def event (cid servicePid : Nat) (text : Text) : Except Fault Row :=
  match Json.loads text with
  | none => .error ⟨.valueError, ""⟩
  | some (.object members) =>
      if !sameKeys members then .error ⟨.runtimeError, "endpoint event shape"⟩
      else match rowOfMembers members with
        | none => .error ⟨.runtimeError, "endpoint event type"⟩
        | some row =>
            if row.cid ≠ cid ∨ row.pid ≠ servicePid then
              .error ⟨.runtimeError, "endpoint event creator mismatch"⟩
            else .ok row
  | some _ => .error ⟨.runtimeError, "endpoint event shape"⟩

def eventsOf (cid servicePid : Nat) : List Text → Except Fault (List Row)
  | [] => .ok []
  | line :: rest =>
      if heading.isPrefixOf line then do
        let row ← event cid servicePid (line.drop heading.length)
        let rows ← eventsOf cid servicePid rest
        .ok (row :: rows)
      else eventsOf cid servicePid rest

structure Evidence where
  original : Option Row := none
  pendingTail : Bool := false
  deriving DecidableEq, Repr

structure World where
  host : Host
  evidence : Evidence := {}

inductive Event where
  | bind (answer : Except Fault Unit)
  | retired (answer : Except Fault Bool) (host : Host)

abbrev Run (α : Type) := Script (Session World Event) Fault α

/-- What surrounds the controller: the process, the service PID it expects, its own
user, what the process does before each look, and what the identity check says. -/
structure Setting where
  process : Process
  servicePid : Nat
  getuid : Nat
  moves : Nat → List Move
  identityCheck : Tape Fault Unit

section Model

variable (setting : Setting)

/-- The steps of the process up to the next look. -/
def settle : Run Unit := fun session =>
  (.done (), { session with
    data := { session.data with
      host := Machine.play (Host.step setting.process) session.data.host
        (setting.moves session.turn) }
    turn := session.turn + 1 })

def trace : Run Text := do
  settle setting
  let world ← read
  require (decide (world.host.trace.file.length ≤ limit)) "trace limit exceeded"
  settle setting
  let world ← read
  Script.ret world.host.trace.file

def lstat : Run Entry := do
  settle setting
  let world ← read
  match world.host.path with
  | some entry => Script.ret entry
  | none => Script.raise ⟨.fileNotFoundError, ""⟩

def identityCheck : Run Unit := do
  settle setting
  consult setting.identityCheck

def events : Run (List Row) := do
  let text ← trace setting
  update fun world => { world with
    evidence := { world.evidence with pendingTail := Lines.pendingTail text } }
  Script.ofExcept (eventsOf setting.process.cid setting.servicePid
    (Lines.splitlines (Lines.committed text)))

/-- The entry is the socket that the row tells of, and the row is the caller's own. -/
def sameSocket (entry : Entry) (row : Row) : Bool :=
  entry.socket && decide (entry.dev = row.dev ∧ entry.ino = row.ino ∧ entry.uid = row.uid)

def bind : Run Unit := do
  let world ← read
  if world.evidence.original.isSome then
    Script.raise ⟨.runtimeError, "endpoint binding replay"⟩
  else do
    identityCheck setting
    let rows ← events setting
    let world ← read
    match world.evidence.pendingTail, rows with
    | false, [row] =>
        if row.phase ≠ .bound then
          Script.raise ⟨.runtimeError, "unique complete live endpoint creation evidence required"⟩
        else do
          let entry ← lstat setting
          require (sameSocket entry row && entry.mode == 0o600 && row.uid == setting.getuid)
            "endpoint identity differs from creator evidence"
          identityCheck setting
          update fun world => { world with
            evidence := { world.evidence with original := some row } }
    | _, _ =>
        Script.raise ⟨.runtimeError, "unique complete live endpoint creation evidence required"⟩

/-- The rows are the original and, behind it, at most its retirement. -/
def continues (original : Row) : List Row → Bool
  | [first] => first == original
  | [first, second] => first == original && second == { original with phase := .retired }
  | _ => false

def retired : Run Bool := do
  let world ← read
  match world.evidence.original with
  | none => Script.raise ⟨.runtimeError, "endpoint was not bound"⟩
  | some original => do
      let rows ← events setting
      require (continues original rows) "endpoint evidence replaced/duplicated"
      let found ← handle (do
        let entry ← lstat setting
        Script.ret (some entry)) fun exc =>
          if exc.kind = .fileNotFoundError then Script.ret none else Script.raise exc
      match found with
      | none => do
          let world ← read
          Script.ret (decide (rows.length = 2) && !world.evidence.pendingTail)
      | some entry => do
          require (sameSocket entry original) "endpoint path replaced; not owned"
          require (decide (rows.length ≠ 2)) "retired endpoint path exists"
          Script.ret false

inductive Operation where
  | bind
  | retired
  deriving DecidableEq, Repr

def answered {α : Type} (body : Run α) (event : Except Fault α → Host → Event) : Run Unit := do
  let answer ← handle (do
    let value ← body
    Script.ret (.ok value)) fun exc => Script.ret (.error exc)
  let world ← read
  mark (event answer world.host)

def perform : Operation → Run Unit
  | .bind => answered (bind setting) fun answer _ => .bind answer
  | .retired => answered (retired setting) .retired

def operate (operations : List Operation) : Run Unit := each operations (perform setting)

end Model

section Statement

def Told (host : Host) (row : Row) : Prop :=
  ∃ lines torn, host.trace.file = fileText lines ++ torn ∧
    .event { row with phase := .bound } ∈ lines ∧ .event { row with phase := .retired } ∈ lines

def permitted (earlier : List Event) : Event → Prop
  | .bind _ => True
  | .retired answer host =>
      (.bind (.ok ()) ∈ earlier → ∃ done, answer = .ok done) ∧
      (answer = .ok true → host.path = none ∧ host.stage.gone = true ∧ ∃ row, Told host row) ∧
      ((∃ before, .retired (.ok true) before ∈ earlier) → answer = .ok true)

end Statement

section Reading

theorem flat_fields (row : Row) : Json.Flat row.fields where
  distinct := by simp [Row.fields]
  keys := by simp [Row.fields, Json.plain]
  words := by
    have phases : ∀ phase : Phase, ∀ char ∈ phase.text, Json.plain char := by
      intro phase
      cases phase <;> simp [Phase.text_bound, Phase.text_retired, Json.plain]
    intro entry member
    simp only [Row.fields, List.mem_cons, List.not_mem_nil, or_false] at member
    rcases member with rfl | rfl | rfl | rfl | rfl | rfl
    · trivial
    · trivial
    · trivial
    · exact phases row.phase
    · trivial
    · trivial

theorem natural_nat (value : Nat) : natural (some (Json.Field.nat value).json) = some value := by
  simp [natural, Json.Field.json]

theorem phaseOf_word (phase : Phase) :
    phaseOf (some (Json.Field.word phase.text).json) = some phase := by
  cases phase
  · rfl
  · have other : Phase.retired.text ≠ Phase.bound.text := by
      simp [Phase.text_bound, Phase.text_retired]
    simp [phaseOf, Json.Field.json, other]

/-- What the process wrote is read back as the row it wrote. -/
theorem event_fields (cid servicePid : Nat) (row : Row) :
    event cid servicePid (Json.renderFlat row.fields) =
      if row.cid ≠ cid ∨ row.pid ≠ servicePid then
        .error ⟨.runtimeError, "endpoint event creator mismatch"⟩
      else .ok row := by
  have loaded : Json.loads (Json.renderFlat row.fields) =
      some (.object (row.fields.map Json.memberOf)) :=
    Json.loads_renderFlat (List.cons_ne_nil _ _) (flat_fields row)
  have keys : sameKeys (row.fields.map Json.memberOf) = true := rfl
  have found : rowOfMembers (row.fields.map Json.memberOf) = some row := by
    change (do
      let phase ← phaseOf (some (Json.Field.word row.phase.text).json)
      let cid ← natural (some (Json.Field.nat row.cid).json)
      let pid ← natural (some (Json.Field.nat row.pid).json)
      let dev ← natural (some (Json.Field.nat row.dev).json)
      let ino ← natural (some (Json.Field.nat row.ino).json)
      let uid ← natural (some (Json.Field.nat row.uid).json)
      some (⟨phase, cid, pid, dev, ino, uid⟩ : Row)) = some row
    simp [natural_nat, phaseOf_word]
  unfold event
  rw [loaded]
  simp only [keys, found, Bool.not_true, Bool.false_eq_true, ↓reduceIte]

theorem heading_notice (said : Notice) : heading.isPrefixOf said.text = false := by
  cases said <;> rfl

theorem heading_event (row : Row) : heading.isPrefixOf (Line.event row).text = true ∧
    (Line.event row).text.drop heading.length = Json.renderFlat row.fields := by
  constructor
  · exact List.isPrefixOf_iff_prefix.mpr (List.prefix_append _ _)
  · exact List.drop_left

theorem eventsOf_lines (cid servicePid : Nat) (lines : List Line) :
    eventsOf cid servicePid (lines.map Line.text) =
      if ∀ row ∈ rows lines, row.cid = cid ∧ row.pid = servicePid then .ok (rows lines)
      else .error ⟨.runtimeError, "endpoint event creator mismatch"⟩ := by
  induction lines with
  | nil => rfl
  | cons line lines next =>
      cases line with
      | notice said =>
          have skipped : rows (.notice said :: lines) = rows lines := rfl
          simpa [eventsOf, heading_notice said, skipped, Line.text] using next
      | event row =>
          have told : rows (.event row :: lines) = row :: rows lines := rfl
          obtain ⟨starts, rest⟩ := heading_event row
          simp only [List.map_cons, eventsOf, starts, ↓reduceIte, rest, event_fields, next, told,
            List.forall_mem_cons]
          by_cases own : row.cid = cid ∧ row.pid = servicePid
          · rw [if_neg (show ¬ (row.cid ≠ cid ∨ row.pid ≠ servicePid) by tauto)]
            by_cases all : ∀ row ∈ rows lines, row.cid = cid ∧ row.pid = servicePid
            · rw [if_pos all, if_pos ⟨own, all⟩]
              rfl
            · rw [if_neg all, if_neg fun both => all both.2]
              rfl
          · have mixed : ¬ ((row.cid = cid ∧ row.pid = servicePid) ∧
                ∀ row ∈ rows lines, row.cid = cid ∧ row.pid = servicePid) := fun both => own both.1
            rw [if_pos (show row.cid ≠ cid ∨ row.pid ≠ servicePid by tauto), if_neg mixed]
            rfl

theorem read_file {file : Text} {lines : List Line} {torn : Text}
    (shown : file = fileText lines ++ torn) (unbroken : '\n' ∉ torn) :
    Lines.splitlines (Lines.committed file) = lines.map Line.text ∧
      (Lines.pendingTail file = true ↔ torn ≠ []) := by
  have whole : ∀ text ∈ lines.map Line.text, Lines.Unbroken text := by
    intro text member
    obtain ⟨line, _, rfl⟩ := List.mem_map.mp member
    exact unbroken_of_printed line.printed
  rw [shown, fileText, Lines.committed_unlines unbroken, Lines.splitlines_unlines whole]
  exact ⟨rfl, Lines.pendingTail_unlines unbroken⟩

end Reading

section Safety

variable {setting : Setting}

structure Watching (setting : Setting) (session : Session World Event) (lines : List Line)
    (tail : Tail) (torn : Text) : Prop where
  host : EndpointHost.Sound setting.process session.data.host lines tail torn
  original : ∀ row, session.data.evidence.original = some row →
    row.phase = .bound ∧ row.pid = setting.servicePid ∧ [row] <+: rows lines
  bound : .bind (.ok ()) ∈ session.history → session.data.evidence.original ≠ none
  final : (∃ host, .retired (.ok true) host ∈ session.history) →
    session.data.evidence.original ≠ none ∧ 2 ≤ (rows lines).length ∧ torn = []
  lawful : Lawful permitted session.history

def Now (setting : Setting) (history : List Event) (original : Option Row) (lines : List Line)
    (torn : Text) (session : Session World Event) : Prop :=
  (∃ tail, Watching setting session lines tail torn) ∧ session.history = history ∧
    session.data.evidence.original = original

def Whenever (setting : Setting) (history : List Event) (original : Option Row)
    (session : Session World Event) : Prop :=
  ∃ lines torn, Now setting history original lines torn session

variable {history : List Event} {original : Option Row} {open_ : Session World Event → Prop}

theorem Now.settled {lines : List Line} {torn : Text} {session : Session World Event}
    (now : Now setting history original lines torn session) :
    ∃ lines' torn', Now setting history original lines' torn' (settle setting session).2 ∧
      Onward lines torn lines' torn' := by
  obtain ⟨⟨tail, watching⟩, rfl, rfl⟩ := now
  obtain ⟨lines', tail', torn', sound, onward⟩ :=
    watching.host.play (setting.moves session.turn)
  refine ⟨lines', torn', ⟨⟨tail', sound, fun row known => ?_, watching.bound, fun ended => ?_,
    watching.lawful⟩, rfl, rfl⟩, onward⟩
  · obtain ⟨phase, pid, first⟩ := watching.original row known
    obtain ⟨more, grown⟩ := onward.grows
    refine ⟨phase, pid, first.trans ?_⟩
    rw [← grown, rows_append]
    exact List.prefix_append _ _
  · obtain ⟨known, two, clean⟩ := watching.final ended
    obtain ⟨rfl, rfl⟩ := onward.final two
    exact ⟨known, two, clean⟩

theorem settle_keeps {fault : Fault → Session World Event → Prop} :
    Triple open_ (Whenever setting history original) (settle setting)
      (fun _ => Whenever setting history original) fault := by
  rintro session ⟨lines, torn, now⟩
  obtain ⟨lines', torn', next, _⟩ := now.settled
  exact ⟨lines', torn', next⟩

/-- The writer's limit is the reader's, so the size check passes at every moment. -/
theorem trace_spec {fault : Fault → Session World Event → Prop} :
    Triple open_ (Whenever setting history original) (trace setting)
      (fun text session => Whenever setting history original session ∧
        text = session.data.host.trace.file) fault := by
  simp only [trace, bind_eq]
  refine Triple.andThen settle_keeps fun _ => ?_
  refine Triple.reading fun world => ?_
  refine Triple.requiring (fun refused session holds => ?_) fun _ => ?_
  · obtain ⟨⟨lines, torn, ⟨tail, watching⟩, _⟩, rfl⟩ := holds
    exact absurd watching.host.trace.bounded (of_decide_eq_false refused)
  · refine Triple.andThen (settle_keeps.before fun _ holds => holds.1) fun _ => ?_
    refine Triple.reading fun world => ?_
    apply Triple.ret
    rintro session ⟨holds, rfl⟩
    exact ⟨holds, rfl⟩

/-- The rows are those of the complete lines. A foreign creator is an error, and the
creator of the original is no foreign one. -/
theorem events_spec :
    Triple open_ (Whenever setting history original) (events setting)
      (fun found session => ∃ lines torn, Now setting history original lines torn session ∧
        found = rows lines ∧ (∀ row ∈ rows lines, row.pid = setting.servicePid) ∧
        (session.data.evidence.pendingTail = true ↔ torn ≠ []))
      (fun _ session => Whenever setting history original session ∧ original = none) := by
  simp only [events, bind_eq]
  refine Triple.andThen trace_spec fun text => ?_
  refine Triple.andThen (m := fun _ session => ∃ lines torn,
    Now setting history original lines torn session ∧ text = fileText lines ++ torn ∧
      '\n' ∉ torn ∧ (session.data.evidence.pendingTail = true ↔ torn ≠ []))
    (Triple.update ?_) fun _ => ?_
  · rintro session ⟨⟨lines, torn, ⟨tail, watching⟩, rfl, rfl⟩, rfl⟩
    have shown := watching.host.trace.file
    have unbroken := watching.host.trace.unbroken
    exact ⟨lines, torn, ⟨⟨tail, watching.host, watching.original, watching.bound, watching.final,
      watching.lawful⟩, rfl, rfl⟩, shown, unbroken, (read_file shown unbroken).2⟩
  · rintro session ⟨lines, torn, now, shown, unbroken, pending⟩
    rw [(read_file shown unbroken).1, eventsOf_lines]
    obtain ⟨⟨tail, watching⟩, rfl, rfl⟩ := now
    by_cases own : ∀ row ∈ rows lines, row.cid = setting.process.cid ∧ row.pid = setting.servicePid
    · rw [if_pos own]
      exact ⟨lines, torn, ⟨⟨tail, watching⟩, rfl, rfl⟩, rfl, fun row told => (own row told).2,
        pending⟩
    · rw [if_neg own]
      refine ⟨⟨lines, torn, ⟨tail, watching⟩, rfl, rfl⟩, ?_⟩
      by_contra known
      obtain ⟨row, is⟩ := Option.ne_none_iff_exists'.mp known
      obtain ⟨_, expected, first⟩ := watching.original row is
      -- The original's creator is the process, and all rows have that creator.
      have here := watching.host.creator (first.subset (List.mem_singleton_self row))
      refine own fun other told => ?_
      obtain ⟨cid, pid⟩ := watching.host.creator told
      exact ⟨cid, pid.trans (here.2.symm.trans expected)⟩

def Seen (setting : Setting) (history : List Event) (row : Row) (session : Session World Event) :
    Prop :=
  ∃ lines torn, Now setting history none lines torn session ∧ [row] <+: rows lines

theorem rows_grow {lines lines' : List Line} (grows : lines <+: lines') :
    rows lines <+: rows lines' := by
  obtain ⟨more, rfl⟩ := grows
  rw [rows_append]
  exact List.prefix_append _ _

theorem Seen.whenever {row : Row} {session : Session World Event}
    (seen : Seen setting history row session) : Whenever setting history none session := by
  obtain ⟨lines, torn, now, _⟩ := seen
  exact ⟨lines, torn, now⟩

theorem settle_seen {row : Row} {fault : Fault → Session World Event → Prop} :
    Triple open_ (Seen setting history row) (settle setting)
      (fun _ => Seen setting history row) fault := by
  rintro session ⟨lines, torn, now, first⟩
  obtain ⟨lines', torn', next, onward⟩ := now.settled
  exact ⟨lines', torn', next, first.trans (rows_grow onward.grows)⟩

theorem consult_keeps {p : Session World Event → Prop} {tape : Tape Fault Unit}
    (turned : ∀ session turn, p session → p { session with turn := turn }) :
    Triple open_ p (consult tape) (fun _ => p) (fun _ => p) :=
  fun session holds => by
    unfold consult
    cases tape session.turn with
    | ok value => exact turned session _ holds
    | error error => exact turned session _ holds

theorem Whenever.turned {session : Session World Event} (turn : Nat)
    (whenever : Whenever setting history original session) :
    Whenever setting history original { session with turn := turn } := by
  obtain ⟨lines, torn, ⟨tail, watching⟩, past, known⟩ := whenever
  exact ⟨lines, torn, ⟨tail, watching.host, watching.original, watching.bound, watching.final,
    watching.lawful⟩, past, known⟩

theorem Seen.turned {row : Row} {session : Session World Event} (turn : Nat)
    (seen : Seen setting history row session) :
    Seen setting history row { session with turn := turn } := by
  obtain ⟨lines, torn, ⟨⟨tail, watching⟩, past, known⟩, first⟩ := seen
  exact ⟨lines, torn, ⟨⟨tail, watching.host, watching.original, watching.bound, watching.final,
    watching.lawful⟩, past, known⟩, first⟩

theorem identityCheck_whenever :
    Triple open_ (Whenever setting history original) (identityCheck setting)
      (fun _ => Whenever setting history original) (fun _ => Whenever setting history original) := by
  simp only [identityCheck, bind_eq]
  exact Triple.andThen settle_keeps fun _ => consult_keeps fun _ turn holds => holds.turned turn

theorem identityCheck_seen {row : Row} :
    Triple open_ (Seen setting history row) (identityCheck setting)
      (fun _ => Seen setting history row) (fun _ => Whenever setting history none) := by
  simp only [identityCheck, bind_eq]
  refine Triple.andThen settle_seen fun _ => ?_
  exact (consult_keeps fun _ turn holds => holds.turned turn).consequence (fun _ holds => holds)
    (fun _ _ holds => holds) (fun _ _ holds => holds.whenever)

theorem lstat_seen {row : Row} :
    Triple open_ (Seen setting history row) (lstat setting)
      (fun _ => Seen setting history row) (fun _ => Whenever setting history none) := by
  simp only [lstat, bind_eq]
  refine Triple.andThen settle_seen fun _ => ?_
  refine Triple.reading fun world => ?_
  cases world.host.path with
  | some entry => exact Triple.ret fun _ holds => holds.1
  | none => exact Triple.raise fun _ holds => holds.1.whenever

/-- A creation that passes all checks is the first row for good. -/
theorem bindTo_spec (row : Row) (bound : row.phase = .bound) (own : row.pid = setting.servicePid) :
    Triple open_ (Seen setting history row)
      (Script.andThen (lstat setting) fun entry => Script.andThen
        (require (sameSocket entry row && entry.mode == 0o600 && row.uid == setting.getuid)
          "endpoint identity differs from creator evidence") fun _ =>
        Script.andThen (identityCheck setting) fun _ => update fun world => { world with
          evidence := { world.evidence with original := some row } })
      (fun _ session => ∃ row, Whenever setting history (some row) session)
      (fun _ => Whenever setting history none) := by
  refine Triple.andThen lstat_seen fun entry => ?_
  refine Triple.requiring (fun _ _ holds => holds.whenever) fun _ => ?_
  refine Triple.andThen identityCheck_seen fun _ => ?_
  apply Triple.update
  rintro session ⟨lines, torn, ⟨⟨tail, watching⟩, past, unbound⟩, first⟩
  refine ⟨row, lines, torn, ⟨tail, watching.host, ?_, ?_, fun ended => ?_, watching.lawful⟩, past,
    rfl⟩
  · rintro _ ⟨⟩
    exact ⟨bound, own, first⟩
  · exact fun _ => Option.some_ne_none row
  · exact ⟨Option.some_ne_none row, (watching.final ended).2⟩

theorem bind_spec :
    Triple open_ (Whenever setting history original) (bind setting)
      (fun _ session => ∃ row, Whenever setting history (some row) session)
      (fun _ => Whenever setting history original) := by
  simp only [bind, bind_eq]
  refine Triple.reading fun world => ?_
  apply Triple.ite
  · exact fun _ => Triple.raise fun _ holds => holds.1
  intro unbound
  cases original with
  | some row =>
      rintro session ⟨⟨lines, torn, _, _, known⟩, rfl⟩
      rw [known] at unbound
      exact absurd rfl unbound
  | none =>
      refine Triple.andThen (identityCheck_whenever.before fun _ holds => holds.1) fun _ => ?_
      refine Triple.andThen (events_spec.consequence (fun _ holds => holds) (fun _ _ holds => holds)
        fun _ _ holds => holds.1) fun found => ?_
      refine Triple.reading fun world => ?_
      have raised : Triple open_ (fun session => (∃ lines torn,
          Now setting history none lines torn session ∧ found = rows lines ∧
          (∀ row ∈ rows lines, row.pid = setting.servicePid) ∧
          (session.data.evidence.pendingTail = true ↔ torn ≠ [])) ∧ session.data = world)
          (Script.raise ⟨.runtimeError,
            "unique complete live endpoint creation evidence required"⟩ : Run Unit)
          (fun _ session => ∃ row, Whenever setting history (some row) session)
          (fun _ => Whenever setting history none) := by
        apply Triple.raise
        rintro session ⟨⟨lines, torn, now, _⟩, _⟩
        exact ⟨lines, torn, now⟩
      split
      case h_1 row _ =>
          apply Triple.ite
          · exact fun _ => raised
          intro bound
          rintro session ⟨⟨lines, torn, now, told, own, _⟩, _⟩
          exact bindTo_spec row (not_not.mp bound) (own row (by simp [← told])) session
            ⟨lines, torn, now, told ▸ List.prefix_rfl⟩
      case h_2 _ => exact raised

structure Polled (setting : Setting) (history : List Event) (row : Row) (found : List Row)
    (torn : Text) (session : Session World Event) : Prop where
  later : Whenever setting history (some row) session
  /-- Both events were read: nothing has changed since, and the path is gone. -/
  both : found.length = 2 → session.data.host.path = none ∧
    session.data.host.stage.gone = true ∧ Told session.data.host row ∧
    ∃ lines, Now setting history (some row) lines torn session ∧ 2 ≤ (rows lines).length
  owned : ∀ entry, session.data.host.path = some entry → sameSocket entry row = true

theorem leaves_gone {stage : Stage} (leaves : stage.leaves = true) : stage.gone = true := by
  cases stage <;> first | rfl | cases leaves

theorem Now.polled {row : Row} {lines : List Line} {torn : Text} {session : Session World Event}
    (now : Now setting history (some row) lines torn session) :
    Polled setting history row (rows lines) torn (settle setting session).2 := by
  obtain ⟨lines', torn', next, onward⟩ := now.settled
  refine ⟨⟨lines', torn', next⟩, fun two => ?_, fun entry shown => ?_⟩
  · obtain ⟨rfl, rfl⟩ := onward.final (Nat.le_of_eq two.symm)
    obtain ⟨⟨tail, watching⟩, past, known⟩ := next
    obtain ⟨leaves, gone, endpoint, told⟩ := watching.host.complete.pair (Nat.le_of_eq two.symm)
    obtain ⟨bound, _, first⟩ := watching.original row known
    have same : row = setting.process.row .bound endpoint := by
      rw [told] at first
      simpa using first
    have listed : ∀ {other : Row}, other ∈ rows lines' → Line.event other ∈ lines' := by
      intro other member
      obtain ⟨line, inside, is⟩ := List.mem_filterMap.mp member
      cases line with
      | notice said => cases is
      | event kept =>
          cases is
          exact inside
    refine ⟨gone, leaves_gone leaves, ⟨lines', torn', watching.host.trace.file, listed ?_, listed ?_⟩,
      lines', ⟨⟨tail, watching⟩, past, known⟩, Nat.le_of_eq two.symm⟩
    · rw [told, same]
      exact List.mem_cons_self
    · rw [told, same]
      exact List.mem_cons_of_mem _ List.mem_cons_self
  · obtain ⟨⟨tail, watching⟩, _, known⟩ := next
    obtain ⟨bound, _, first⟩ := watching.original row known
    obtain ⟨endpoint, same, _, gone | held⟩ := watching.host.original first bound
    · rw [gone] at shown
      cases shown
    · obtain ⟨holder, is, socket, dev, ino, uid⟩ := held
      rw [is] at shown
      cases shown
      rw [same]
      simp [sameSocket, socket, dev, ino, uid, Process.row]

theorem continues_original {row : Row} {lines : List Line} {torn : Text}
    {session : Session World Event} (now : Now setting history (some row) lines torn session) :
    continues row (rows lines) = true := by
  obtain ⟨⟨tail, watching⟩, _, known⟩ := now
  obtain ⟨bound, _, first⟩ := watching.original row known
  obtain ⟨endpoint, same, part, _⟩ := watching.host.original first bound
  have late : setting.process.row .retired endpoint = { row with phase := .retired } := by
    rw [same]
    rfl
  rw [late] at part
  match rows lines, first, part with
  | [one], first, _ =>
      have head : row = one := by simpa using first
      simp [continues, head]
  | [one, two], first, part =>
      have head : row = one := by simpa using first
      have next : two = { row with phase := .retired } := by
        have both := part.eq_of_length_le (Nat.le_refl 2)
        exact (List.cons.inj (List.cons.inj both).2).1
      simp [continues, head, next]
  | _ :: _ :: _ :: _, _, part =>
      have long := part.length_le
      simp only [List.length_cons, List.length_nil] at long
      omega

theorem continues_length {row : Row} {found : List Row} (going : continues row found = true) :
    found.length ≤ 2 := by
  match found, going with
  | [_], _ => exact Nat.le_succ 1
  | [_, _], _ => exact Nat.le_refl 2

theorem lstat_none {session : Session World Event}
    (gone : (settle setting session).2.data.host.path = none) :
    lstat setting session = (.raised ⟨.fileNotFoundError, ""⟩, (settle setting session).2) := by
  simp only [lstat, bind_eq, Script.andThen, Session.read]
  change (match (settle setting session).2.data.host.path with
    | some entry => Script.ret entry
    | none => Script.raise (⟨.fileNotFoundError, ""⟩ : Fault)) (settle setting session).2 = _
  rw [gone]
  rfl

theorem lstat_some {session : Session World Event} {entry : Entry}
    (shown : (settle setting session).2.data.host.path = some entry) :
    lstat setting session = (.done entry, (settle setting session).2) := by
  simp only [lstat, bind_eq, Script.andThen, Session.read]
  change (match (settle setting session).2.data.host.path with
    | some entry => Script.ret entry
    | none => Script.raise (⟨.fileNotFoundError, ""⟩ : Fault)) (settle setting session).2 = _
  rw [shown]
  rfl

/-- After a successful bind the answer is never an error, it is true only when the
creator has removed its endpoint, and it stays true. -/
theorem retired_spec :
    Triple open_ (Whenever setting history original) (retired setting)
      (fun done session => ∃ row, original = some row ∧ Whenever setting history original session ∧
        (done = true → session.data.host.path = none ∧ session.data.host.stage.gone = true ∧
          Told session.data.host row ∧
          ∃ lines, Now setting history original lines [] session ∧ 2 ≤ (rows lines).length) ∧
        ((∃ host, .retired (.ok true) host ∈ history) → done = true))
      (fun _ session => Whenever setting history original session ∧ original = none) := by
  simp only [retired, bind_eq]
  refine Triple.reading fun world => ?_
  cases original with
  | none =>
      rintro session ⟨⟨lines, torn, watching, past, known⟩, rfl⟩
      rw [known]
      exact ⟨⟨lines, torn, watching, past, known⟩, rfl⟩
  | some row =>
      rintro session ⟨whenever, rfl⟩
      obtain ⟨lines, torn, watching, past, known⟩ := whenever
      rw [known]
      have start : Whenever setting history (some row) session :=
        ⟨lines, torn, watching, past, known⟩
      refine Triple.andThen events_spec (fun found => ?_) session start
      rintro session ⟨lines, torn, now, rfl, own, pending⟩
      have going := continues_original now
      have ended : (∃ host, .retired (.ok true) host ∈ history) →
          2 ≤ (rows lines).length ∧ torn = [] := by
        obtain ⟨⟨tail, watching⟩, rfl, _⟩ := now
        exact fun before => (watching.final before).2
      have most : (rows lines).length ≤ 2 := continues_length going
      have polled := now.polled
      have tail : (settle setting session).2.data.evidence.pendingTail = true ↔ torn ≠ [] := pending
      simp only [Bscp.require, going, ↓reduceIte, Script.andThen, Script.ret, Script.handle]
      cases shown : (settle setting session).2.data.host.path with
      | none =>
          rw [lstat_none shown]
          simp only [Script.ret, ↓reduceIte]
          refine ⟨row, rfl, polled.later, fun done => ?_, fun before => ?_⟩
          · obtain ⟨both, complete⟩ := Bool.and_eq_true_iff.mp done
            have clean : torn = [] := by
              by_contra rest
              rw [tail.mpr rest] at complete
              cases complete
            subst clean
            exact polled.both (of_decide_eq_true both)
          · obtain ⟨two, clean⟩ := ended before
            have complete : (settle setting session).2.data.evidence.pendingTail = false := by
              rw [← Bool.not_eq_true, tail]
              exact not_not.mpr clean
            rw [complete]
            exact Bool.and_eq_true_iff.mpr ⟨decide_eq_true (by omega), rfl⟩
      | some entry =>
          -- The path is there, so the second event was not: it is told after the removal.
          have single : (rows lines).length ≠ 2 := by
            intro both
            rw [(polled.both both).1] at shown
            cases shown
          rw [lstat_some shown]
          simp only [polled.owned entry shown, ↓reduceIte, decide_eq_true single]
          refine ⟨row, rfl, polled.later, fun done => ?_, fun before => ?_⟩
          · cases done
          · have two := (ended before).1
            omega

def Always (setting : Setting) (session : Session World Event) : Prop :=
  ∃ history original, Whenever setting history original session

/-- The events of an operation besides its own are those before it. -/
theorem Whenever.marked {session : Session World Event} {event : Event}
    (whenever : Whenever setting history original session) (lawful : permitted history event)
    (bound : event = .bind (.ok ()) → original ≠ none)
    (final : ∀ host, event = .retired (.ok true) host →
      ∃ lines, Now setting history original lines [] session ∧ 2 ≤ (rows lines).length ∧
        original ≠ none) :
    Always setting { session with history := event :: session.history } := by
  obtain ⟨lines, torn, ⟨tail, watching⟩, rfl, rfl⟩ := whenever
  have known : .bind (.ok ()) ∈ event :: session.history →
      session.data.evidence.original ≠ none := by
    intro member
    rcases List.mem_cons.mp member with new | old
    · exact bound new.symm
    · exact watching.bound old
  by_cases new : ∃ host, event = .retired (.ok true) host
  · obtain ⟨host, is⟩ := new
    obtain ⟨lines', ⟨⟨tail', watching'⟩, _⟩, two, some⟩ := final host is
    exact ⟨_, _, lines', [], ⟨tail', watching'.host, watching'.original, known,
      fun _ => ⟨some, two, rfl⟩, lawful, watching'.lawful⟩, rfl, rfl⟩
  · refine ⟨_, _, lines, torn, ⟨tail, watching.host, watching.original, known, ?_, lawful,
      watching.lawful⟩, rfl, rfl⟩
    rintro ⟨host, member⟩
    rcases List.mem_cons.mp member with is | old
    · exact absurd ⟨host, is.symm⟩ new
    · exact watching.final ⟨host, old⟩

theorem answered_spec {α : Type} {body : Run α} {event : Except Fault α → Host → Event}
    {pre : Session World Event → Prop} {post : α → Session World Event → Prop}
    {fault : Fault → Session World Event → Prop} (spec : Triple (Always setting) pre body post fault)
    (returned : ∀ value session, post value session → Always setting
      { session with history := event (.ok value) session.data.host :: session.history })
    (raised : ∀ exc session, fault exc session → Always setting
      { session with history := event (.error exc) session.data.host :: session.history }) :
    Triple (Always setting) pre (answered body event) (fun _ => Always setting)
      (fun _ => Always setting) := by
  intro session holds
  have reached := spec session holds
  simp only [answered, bind_eq, Script.andThen, Script.handle, Script.ret]
  rcases ends : body session with ⟨outcome, after⟩
  rw [ends] at reached
  cases outcome with
  | done value => exact returned value after reached
  | raised exc => exact raised exc after reached
  | unfinished => exact reached

theorem perform_keeps (operation : Operation) :
    Triple (Always setting) (Always setting) (perform setting operation)
      (fun _ => Always setting) (fun _ => Always setting) := by
  rintro session ⟨history, original, whenever⟩
  cases operation with
  | bind =>
      unfold perform
      refine answered_spec bind_spec (fun _ after reached => ?_) (fun _ after reached => ?_) session
        whenever
      · obtain ⟨row, later⟩ := reached
        exact later.marked trivial (fun _ => Option.some_ne_none row) nofun
      · exact reached.marked trivial nofun nofun
  | retired =>
      unfold perform
      refine answered_spec retired_spec (fun done after reached => ?_) (fun _ after reached => ?_)
        session whenever
      · obtain ⟨row, rfl, later, shown, ended⟩ := reached
        refine later.marked ⟨fun _ => ⟨done, rfl⟩, ?_, fun before => ?_⟩ nofun ?_
        · rintro ⟨⟩
          obtain ⟨gone, removed, told, _⟩ := shown rfl
          exact ⟨gone, removed, row, told⟩
        · rw [ended before]
        · rintro host ⟨⟩
          obtain ⟨_, _, _, lines, now, two⟩ := shown rfl
          exact ⟨lines, now, two, Option.some_ne_none row⟩
      · obtain ⟨later, unbound⟩ := reached
        obtain ⟨lines, torn, ⟨tail, watching⟩, rfl, rfl⟩ := later
        refine Whenever.marked ⟨lines, torn, ⟨tail, watching⟩, rfl, rfl⟩
          ⟨fun bound => ?_, nofun, fun before => ?_⟩ nofun nofun
        · exact absurd unbound (watching.bound bound)
        · exact absurd unbound (watching.final before).1

theorem operate_keeps (operations : List Operation) : Keeps (Always setting) (operate setting operations) :=
  keeps_iff.mpr (Triple.each (i := fun _ => Always setting) operations
    fun operation _ => perform_keeps operation)

theorem always_start (path : Option Entry) :
    Always setting ⟨{ host := { path := path } }, 0, []⟩ :=
  ⟨[], none, [], [], ⟨.clean, EndpointHost.Sound.start setting.process path, nofun, nofun,
    fun ⟨_, member⟩ => absurd member List.not_mem_nil, trivial⟩, rfl, rfl⟩

end Safety

/-- The controller looks at the endpoint in any order with the process's own steps,
torn records and failures included. -/
theorem endpoint_retirement_observed (setting : Setting) (path : Option Entry)
    (operations : List Operation) :
    Lawful permitted
      ((operate setting operations).run ⟨{ host := { path := path } }, 0, []⟩).2.history := by
  obtain ⟨_, _, _, _, ⟨_, watching⟩, _⟩ := operate_keeps operations _ (always_start path)
  exact watching.lawful

def calmSetting : Setting where
  process := ⟨2048, 70, 501⟩
  servicePid := 70
  getuid := 501
  moves _ := []
  identityCheck _ := .ok ()

def calmRow : Row := ⟨.bound, 2048, 70, 1, 9, 501⟩

example : (bind calmSetting ⟨{ host := {
    path := some ⟨true, 0o600, 1, 9, 501⟩
    stage := .serving ⟨1, 9, 501⟩
    trace := { file := fileText [.event calmRow] } } }, 0, []⟩).1 = .done () := by
  decide +kernel

example : (retired calmSetting ⟨{
    host := {
      path := none
      stage := .retired ⟨1, 9, 501⟩
      trace := { file := fileText [.event calmRow, .event { calmRow with phase := .retired }] } }
    evidence := { original := some calmRow } }, 0, []⟩).1 = .done true := by
  decide +kernel

end Bscp.EndpointEvidence
