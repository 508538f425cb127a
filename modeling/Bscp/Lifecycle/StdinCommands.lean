import Bscp.Lifecycle.ComputeProtocolGrammar
import Bscp.Lifecycle.Supervise
import Bscp.Machine

/-!
`lifecycle.stdin_commands`: a thread reads lines in bounded pieces and puts one item for each line
into a bounded queue, from which the supervisor takes them. The stream is the text that is still to
be read; which of the reads fail is given from outside.
-/

namespace Bscp.StdinCommands

open ComputeProtocol Supervise

def piece : Nat → Text → Text
  | 0, _ => []
  | _, [] => []
  | limit + 1, char :: rest => if char = '\n' then [char] else char :: piece limit rest

def limit : Nat := 128

def capacity : Nat := 32

def invalidCommand : Text := "invalid".toList

def endOfInput : Text := "__EOF__".toList

def inputError : Text := "__INPUT_ERROR__".toList

/-- Where the thread is: before a read, in the inner loop, before a put, or at its end. -/
inductive Phase where
  | reading
  | skipping
  | putting (command : Text)
  | ending (mark : Text)
  | ended
  deriving DecidableEq

/-- The items that the supervisor has taken are kept in order; `reads` counts the reads that did
not fail. -/
structure World where
  phase : Phase := .reading
  rest : Text
  reads : Nat := 0
  queue : List Text := []
  taken : List Text := []

def World.items (world : World) : List Text := world.taken ++ world.queue

def endsLine (text : Text) : Bool := text.getLast? = some '\n'

section Thread

variable (fails : Nat → Bool)

def afterRead (world : World) (next : Text → Phase) : World :=
  if fails world.reads then { world with phase := .ending inputError }
  else
    let line := piece limit world.rest
    { world with
      phase := next line, rest := world.rest.drop line.length, reads := world.reads + 1 }

def advance (world : World) : Option World :=
  match world.phase with
  | .reading => some <| afterRead fails world fun line =>
      if line = [] then .ending endOfInput
      else if limit ≤ line.length then
        if endsLine line then .putting invalidCommand else .skipping
      else .putting (strip line)
  | .skipping => some <| afterRead fails world fun line =>
      if line ≠ [] ∧ ¬ endsLine line then .skipping else .putting invalidCommand
  | .putting command =>
      if world.queue.length < capacity then
        some { world with phase := .reading, queue := world.queue ++ [command] }
      else none
  | .ending mark =>
      if world.queue.length < capacity then
        some { world with phase := .ended, queue := world.queue ++ [mark] }
      else none
  | .ended => none

/-- `get_nowait` of the supervisor, when there is something. -/
def take (world : World) : Option World :=
  match world.queue with
  | [] => none
  | command :: queue => some { world with queue := queue, taken := world.taken ++ [command] }

def Step (world next : World) : Prop := advance fails world = some next ∨ take world = some next

end Thread

/-- The lines of a text, each with its newline; the last may have none. -/
def linesOf : Text → List Text
  | [] => []
  | char :: rest =>
      if char = '\n' then ['\n'] :: linesOf rest
      else match linesOf rest with
        | [] => [[char]]
        | line :: more => (char :: line) :: more

def item (line : Text) : Text := if line.length < limit then strip line else invalidCommand

/-! ### Lines and pieces -/

theorem linesOf_line {front rest : Text} (plain : '\n' ∉ front) :
    linesOf (front ++ '\n' :: rest) = (front ++ ['\n']) :: linesOf rest := by
  induction front with
  | nil => rfl
  | cons char front more =>
      simp only [List.mem_cons, not_or] at plain
      rw [List.cons_append, linesOf, if_neg (Ne.symm plain.1), more plain.2]
      rfl

theorem linesOf_last {front : Text} (plain : '\n' ∉ front) (some : front ≠ []) :
    linesOf front = [front] := by
  induction front with
  | nil => exact absurd rfl some
  | cons char front more =>
      simp only [List.mem_cons, not_or] at plain
      rw [linesOf, if_neg (Ne.symm plain.1)]
      by_cases last : front = []
      · rw [last]
        rfl
      · rw [more plain.2 last]

inductive Read (most : Nat) (rest : Text) : Text → Prop
  | line {front : Text} (plain : '\n' ∉ front) (short : front.length < most)
      (cut : rest = front ++ '\n' :: rest.drop (front.length + 1)) :
      Read most rest (front ++ ['\n'])
  | part {front : Text} (plain : '\n' ∉ front) (short : front.length ≤ most)
      (cut : rest = front ++ rest.drop front.length)
      (stopped : front.length = most ∨ rest.drop front.length = []) : Read most rest front

theorem read_piece (most : Nat) (rest : Text) : Read most rest (piece most rest) := by
  induction most generalizing rest with
  | zero => exact .part (by simp [piece]) (by simp [piece]) (by simp [piece]) (.inl rfl)
  | succ most more =>
      cases rest with
      | nil => exact .part (by simp [piece]) (by simp [piece]) rfl (.inr rfl)
      | cons char rest =>
          rw [piece]
          by_cases ends : char = '\n'
          · rw [if_pos ends, ends]
            exact @Read.line (most + 1) ('\n' :: rest) [] (by simp) (Nat.succ_pos most) rfl
          · rw [if_neg ends]
            have later := more rest
            generalize piece most rest = returned at later ⊢
            cases later with
            | @line front plain short cut =>
                refine @Read.line _ _ (char :: front) (by simp [plain, Ne.symm ends])
                  (Nat.succ_lt_succ short) ?_
                rw [List.cons_append]
                exact congrArg _ cut
            | part plain short cut stopped =>
                refine .part (by simp [plain, Ne.symm ends]) (Nat.succ_le_succ short) ?_ ?_
                · exact congrArg (char :: ·) cut
                · exact stopped.imp (congrArg Nat.succ) id

/-! ### What has been delivered -/

def Known (fails : Nat → Bool) (text : Text) (world : World) (done : List Text) : Prop :=
  match world.phase with
  | .reading => linesOf text = done ++ linesOf world.rest ∧ world.items = done.map item
  | .skipping => ∃ front, '\n' ∉ front ∧ limit ≤ front.length ∧
      linesOf text = done ++ linesOf (front ++ world.rest) ∧ world.items = done.map item
  | .putting command => ∃ line, command = item line ∧
      linesOf text = done ++ line :: linesOf world.rest ∧ world.items = done.map item
  | .ending mark => Ended fails text world done mark ∧ world.items = done.map item
  | .ended => ∃ mark, Ended fails text world done mark ∧ world.items = done.map item ++ [mark]
where
  /-- The stream is at its end, or a read has failed, perhaps behind a part of a line that is
  over-long. -/
  Ended (fails : Nat → Bool) (text : Text) (world : World) (done : List Text) (mark : Text) :
      Prop :=
    (mark = endOfInput ∧ linesOf text = done ∧ world.rest = []) ∨
    (mark = inputError ∧ fails world.reads = true ∧ ∃ front, '\n' ∉ front ∧
      (front = [] ∨ limit ≤ front.length) ∧ linesOf text = done ++ linesOf (front ++ world.rest))

structure Inv (fails : Nat → Bool) (text : Text) (world : World) : Prop where
  room : world.queue.length ≤ capacity
  passed : ∀ read < world.reads, fails read = false
  known : ∃ done, Known fails text world done

section Steps

variable {fails : Nat → Bool} {text : Text} {world next : World}

/-- A read that did not fail. -/
theorem passed_succ (passed : ∀ read < world.reads, fails read = false)
    (fine : fails world.reads = false) : ∀ read < world.reads + 1, fails read = false := by
  intro read before
  rcases Nat.lt_succ_iff_lt_or_eq.mp before with early | rfl
  · exact passed read early
  · exact fine

theorem endsLine_line (front : Text) : endsLine (front ++ ['\n']) = true := by
  simp [endsLine]

theorem endsLine_part {front : Text} (plain : '\n' ∉ front) : endsLine front = false := by
  simp only [endsLine, decide_eq_false_iff_not]
  exact fun last => plain (List.mem_of_getLast? last)

theorem reading_keeps (inv : Inv fails text world) (phase : world.phase = .reading)
    (step : advance fails world = some next) : Inv fails text next := by
  obtain ⟨room, passed, done, known⟩ := inv
  rw [Known, phase] at known
  obtain ⟨lines, items⟩ := known
  rw [advance, phase] at step
  cases step
  unfold afterRead
  cases failed : fails world.reads with
  | true =>
      exact ⟨room, passed, done, .inr ⟨rfl, failed, [], by simp, .inl rfl, lines⟩, items⟩
  | false =>
      refine ⟨room, passed_succ passed failed, done, ?_⟩
      have got := read_piece limit world.rest
      generalize piece limit world.rest = line at got ⊢
      cases got with
      | @line front plain short cut =>
          have split : linesOf world.rest = (front ++ ['\n']) ::
              linesOf (world.rest.drop (front ++ ['\n']).length) := by
            rw [List.length_append, List.length_singleton, ← linesOf_line plain, ← cut]
          have deliver (command : Text) (right : command = item (front ++ ['\n'])) :
              Known fails text { world with phase := .putting command
                                            rest := world.rest.drop (front ++ ['\n']).length
                                            reads := world.reads + 1 } done :=
            ⟨_, right, by rw [lines, split], items⟩
          by_cases long : limit ≤ (front ++ ['\n']).length
          · have next : (if limit ≤ (front ++ ['\n']).length then
                if endsLine (front ++ ['\n']) then Phase.putting invalidCommand else .skipping
                else .putting (strip (front ++ ['\n']))) = .putting invalidCommand := by
              rw [if_pos long, endsLine_line, if_pos rfl]
            simp only [Bool.false_eq_true, if_false, List.append_eq_nil_iff, List.cons_ne_self,
              and_false, next]
            exact deliver _ (by rw [item, if_neg (Nat.not_lt.mpr long)])
          · simp only [Bool.false_eq_true, if_false, List.append_eq_nil_iff, List.cons_ne_self,
              and_false, long]
            exact deliver _ (by rw [item, if_pos (Nat.lt_of_not_le long)])
      | part plain short cut stopped =>
          by_cases none : line = []
          · subst none
            have past : world.rest = [] := by simpa [limit] using stopped
            simp only [Bool.false_eq_true, if_false, if_true]
            refine ⟨.inl ⟨rfl, ?_, ?_⟩, items⟩
            · rw [lines, past]
              simp [linesOf]
            · simp [past]
          · by_cases long : limit ≤ line.length
            · simp only [Bool.false_eq_true, if_false, none, long, if_true, endsLine_part plain]
              exact ⟨line, plain, long, by rw [lines]; congr 2, items⟩
            · have last : world.rest.drop line.length = [] :=
                stopped.resolve_left fun full => long (Nat.le_of_eq full.symm)
              simp only [Bool.false_eq_true, if_false, none, long]
              refine ⟨line, by rw [item, if_pos (Nat.lt_of_not_le long)], ?_, items⟩
              rw [last] at cut ⊢
              rw [lines, cut, List.append_nil, linesOf_last plain none]
              rfl

theorem skipping_keeps (inv : Inv fails text world) (phase : world.phase = .skipping)
    (step : advance fails world = some next) : Inv fails text next := by
  obtain ⟨room, passed, done, known⟩ := inv
  rw [Known, phase] at known
  obtain ⟨front, plain, long, lines, items⟩ := known
  rw [advance, phase] at step
  cases step
  unfold afterRead
  cases failed : fails world.reads with
  | true =>
      exact ⟨room, passed, done, .inr ⟨rfl, failed, front, plain, .inr long, lines⟩, items⟩
  | false =>
      refine ⟨room, passed_succ passed failed, done, ?_⟩
      have got := read_piece limit world.rest
      generalize piece limit world.rest = line at got ⊢
      have front_some : front ≠ [] := by
        rintro rfl
        simp [limit] at long
      have past (line : Text) : item (front ++ line) = invalidCommand := by
        rw [item, if_neg]
        rw [List.length_append]
        omega
      cases got with
      | @line behind more short cut =>
          have whole : '\n' ∉ front ++ behind := by simp [plain, more]
          simp only [Bool.false_eq_true, if_false, endsLine_line, not_true_eq_false, and_false]
          refine ⟨front ++ (behind ++ ['\n']), (past _).symm, ?_, items⟩
          rw [lines, cut, ← List.append_assoc, linesOf_line whole, List.length_append,
            List.length_singleton, ← cut, List.append_assoc]
      | part more short cut stopped =>
          by_cases none : line = []
          · subst none
            have over_rest : world.rest = [] := by simpa [limit] using stopped
            simp only [Bool.false_eq_true, if_false, ne_eq, not_true_eq_false, false_and]
            refine ⟨front, by simpa using (past []).symm, ?_, items⟩
            rw [lines, over_rest, List.append_nil, linesOf_last plain front_some]
            rfl
          · simp only [Bool.false_eq_true, if_false, ne_eq, none, not_false_eq_true,
              endsLine_part more, and_self, if_true]
            refine ⟨front ++ line, by simp [plain, more], ?_, ?_, items⟩
            · rw [List.length_append]
              omega
            · rw [lines, List.append_assoc, ← cut]

theorem advance_keeps (inv : Inv fails text world) (step : advance fails world = some next) :
    Inv fails text next := by
  cases phase : world.phase with
  | reading => exact reading_keeps inv phase step
  | skipping => exact skipping_keeps inv phase step
  | putting command =>
      obtain ⟨room, passed, done, known⟩ := inv
      rw [Known, phase] at known
      obtain ⟨line, rfl, lines, items⟩ := known
      rw [advance, phase] at step
      simp only at step
      split at step
      · rename_i free
        cases step
        refine ⟨by simpa [Nat.succ_le_iff] using free, passed, done ++ [line], ?_, ?_⟩
        · rw [lines, List.append_assoc, List.singleton_append]
        · rw [List.map_append, ← items, World.items, World.items, List.append_assoc]
          rfl
      · cases step
  | ending mark =>
      obtain ⟨room, passed, done, known⟩ := inv
      rw [Known, phase] at known
      obtain ⟨ended, items⟩ := known
      rw [advance, phase] at step
      simp only at step
      split at step
      · rename_i free
        cases step
        refine ⟨by simpa [Nat.succ_le_iff] using free, passed, done, mark, ended, ?_⟩
        rw [← items, World.items, World.items, List.append_assoc]
      · cases step
  | ended =>
      rw [advance, phase] at step
      cases step

/-- The supervisor takes from the front, whatever the thread is at. -/
theorem take_keeps (inv : Inv fails text world) (step : take world = some next) :
    Inv fails text next := by
  obtain ⟨room, passed, done, known⟩ := inv
  unfold take at step
  split at step
  · cases step
  · rename_i command queue shape
    cases step
    have same : World.items { world with queue := queue, taken := world.taken ++ [command] } =
        world.items := by
      rw [World.items, World.items, shape, List.append_assoc]
      rfl
    refine ⟨?_, passed, done, ?_⟩
    · rw [shape] at room
      exact Nat.le_of_succ_le room
    · unfold Known at known ⊢
      rw [same]
      exact known

theorem step_keeps (inv : Inv fails text world) (step : Step fails world next) :
    Inv fails text next :=
  step.elim (advance_keeps inv) (take_keeps inv)

theorem start_inv (fails : Nat → Bool) (text : Text) : Inv fails text { rest := text } :=
  ⟨Nat.zero_le _, fun _ before => absurd before (Nat.not_lt_zero _), [], rfl, rfl⟩

theorem reach_inv (reach : Machine.Reach (Step fails) { rest := text } world) :
    Inv fails text world :=
  Machine.reach_keeps (start_inv fails text) (fun _ _ => step_keeps) reach

/-- The items, of which the first are taken: those of the lines that have been read, and behind them
the mark of the end, or of a read that failed. -/
inductive Delivered (fails : Nat → Bool) (text : Text) (world : World) (done : List Text) : Prop
  | underWay (phase : world.phase ≠ .ended) (lines : done <+: linesOf text)
      (items : world.items = done.map item)
  | endOfStream (phase : world.phase = .ended) (lines : done = linesOf text)
      (items : world.items = done.map item ++ [endOfInput])
  | failedRead (phase : world.phase = .ended) (failed : fails world.reads = true)
      (lines : ∃ front, '\n' ∉ front ∧ (front = [] ∨ limit ≤ front.length) ∧
        linesOf text = done ++ linesOf (front ++ world.rest))
      (items : world.items = done.map item ++ [inputError])

theorem Known.delivered {done : List Text} (known : Known fails text world done) :
    Delivered fails text world done := by
  unfold Known at known
  split at known
  · rename_i phase
    exact .underWay (by rw [phase]; nofun) ⟨_, known.1.symm⟩ known.2
  · rename_i phase
    obtain ⟨front, -, -, lines, items⟩ := known
    exact .underWay (by rw [phase]; nofun) ⟨_, lines.symm⟩ items
  · rename_i phase
    obtain ⟨line, -, lines, items⟩ := known
    exact .underWay (by rw [phase]; nofun) ⟨_, lines.symm⟩ items
  · rename_i phase
    obtain ⟨⟨-, lines, -⟩ | ⟨-, -, front, -, -, lines⟩, items⟩ := known
    · exact .underWay (by rw [phase]; nofun) ⟨[], by rw [lines, List.append_nil]⟩ items
    · exact .underWay (by rw [phase]; nofun) ⟨_, lines.symm⟩ items
  · rename_i phase
    obtain ⟨mark, ⟨rfl, lines, -⟩ | ⟨rfl, failed, lines⟩, items⟩ := known
    · exact .endOfStream phase lines.symm items
    · exact .failedRead phase failed lines items

end Steps

/-! ### Progress -/

section Progress

variable {fails : Nat → Bool} {text : Text} {world next : World}

def Phase.weight : Phase → Nat
  | .reading => 3
  | .skipping => 6
  | .putting _ => 5
  | .ending _ => 2
  | .ended => 0

theorem Phase.weight_le (phase : Phase) : phase.weight ≤ 6 := by
  cases phase <;> simp [Phase.weight]

def World.left (world : World) : Nat :=
  6 * world.rest.length + world.phase.weight + world.queue.length

theorem piece_length_le (most : Nat) (rest : Text) : (piece most rest).length ≤ rest.length := by
  induction most generalizing rest with
  | zero => exact Nat.zero_le _
  | succ most more =>
      cases rest with
      | nil => exact Nat.le_refl _
      | cons char rest =>
          rw [piece]
          split
          · exact Nat.succ_le_succ (Nat.zero_le _)
          · exact Nat.succ_le_succ (more rest)

/-- A read makes the stream shorter, or finds its end or fails. -/
theorem afterRead_left (next : Text → Phase) (failed : 2 < world.phase.weight)
    (past : (next []).weight < world.phase.weight) :
    (afterRead fails world next).left < world.left := by
  have bound := piece_length_le limit world.rest
  unfold afterRead
  split
  · have ending : (Phase.ending inputError).weight = 2 := rfl
    simp only [World.left, ending]
    omega
  · simp only [World.left, List.length_drop]
    by_cases none : piece limit world.rest = []
    · rw [none]
      simp only [List.length_nil]
      omega
    · have some := List.length_pos_iff.mpr none
      have weight := (next (piece limit world.rest)).weight_le
      omega

theorem advance_left (step : advance fails world = some next) : next.left < world.left := by
  cases phase : world.phase with
  | reading =>
      rw [advance, phase] at step
      cases step
      exact afterRead_left _ (by simp [phase, Phase.weight]) (by simp [phase, Phase.weight])
  | skipping =>
      rw [advance, phase] at step
      cases step
      exact afterRead_left _ (by simp [phase, Phase.weight]) (by simp [phase, Phase.weight])
  | putting command =>
      rw [advance, phase] at step
      simp only at step
      split at step
      · cases step
        simp only [World.left, phase, Phase.weight, List.length_append, List.length_singleton]
        omega
      · cases step
  | ending mark =>
      rw [advance, phase] at step
      simp only at step
      split at step
      · cases step
        simp only [World.left, phase, Phase.weight, List.length_append, List.length_singleton]
        omega
      · cases step
  | ended =>
      rw [advance, phase] at step
      cases step

theorem step_left (step : Step fails world next) : next.left < world.left := by
  rcases step with thread | taken
  · exact advance_left thread
  · unfold take at taken
    split at taken
    · cases taken
    · rename_i shape
      cases taken
      simp only [World.left, shape, List.length_cons]
      omega

/-- Only a full queue stops the thread before its end. -/
theorem stuck_iff :
    (¬ ∃ next, Step fails world next) ↔ world.phase = .ended ∧ world.queue = [] := by
  constructor
  · intro stuck
    have empty : world.queue = [] := by
      cases shape : world.queue with
      | nil => rfl
      | cons command queue => exact absurd ⟨_, .inr (by simp only [take, shape]; rfl)⟩ stuck
    refine ⟨?_, empty⟩
    have room : world.queue.length < capacity := by
      rw [empty]
      decide
    cases phase : world.phase with
    | ended => rfl
    | reading => exact absurd ⟨_, .inl (by simp only [advance, phase]; rfl)⟩ stuck
    | skipping => exact absurd ⟨_, .inl (by simp only [advance, phase]; rfl)⟩ stuck
    | putting command =>
        exact absurd ⟨_, .inl (by simp only [advance, phase, room, if_true]; rfl)⟩ stuck
    | ending mark =>
        exact absurd ⟨_, .inl (by simp only [advance, phase, room, if_true]; rfl)⟩ stuck
  · rintro ⟨phase, empty⟩ ⟨next, thread | taken⟩
    · simp [advance, phase] at thread
    · simp [take, empty] at taken

/-- No run goes on for ever. -/
theorem finite (run : Nat → World) (steps : ∀ time, Step fails (run time) (run (time + 1))) :
    False := by
  have bound (time : Nat) : (run time).left + time ≤ (run 0).left := by
    induction time with
    | zero => exact Nat.le_refl _
    | succ time before =>
        have less := step_left (steps time)
        omega
  have last := bound ((run 0).left + 1)
  omega

end Progress

/-! ### Requests -/

section Requests

variable {line command : Text} {id : Nat}

/-- The parts of a line that the request expression matches. -/
theorem matchRequest_parts (matched : matchRequest line = some (id, command)) :
    ∃ label, line = "request ".toList ++ (label ++ ' ' :: command) ∧
      isPositive 8 label = true ∧ isCommand command = true := by
  unfold matchRequest at matched
  split at matched
  · rename_i starts
    obtain ⟨body, rfl⟩ := List.isPrefixOf_iff_prefix.mp starts
    dsimp only at matched
    have body_is : ("request ".toList ++ body).drop 8 = body := rfl
    rw [body_is] at matched
    split at matched
    · rename_i accepted
      simp only [Bool.and_eq_true, decide_eq_true_eq] at accepted
      simp only [Option.some.injEq, Prod.mk.injEq] at matched
      obtain ⟨⟨label, some⟩, legal⟩ := accepted
      refine ⟨body.takeWhile (· ≠ ' '), ?_, label, matched.2 ▸ legal⟩
      rw [← matched.2]
      have blank : body.dropWhile (· ≠ ' ') = ' ' :: (body.dropWhile (· ≠ ' ')).tail := by
        obtain ⟨first, rest, shape⟩ := List.exists_cons_of_ne_nil some
        have stop := List.head?_dropWhile_not (· ≠ ' ') body
        rw [shape] at stop
        have space : first = ' ' := by simpa using stop
        rw [shape, space]
        rfl
      rw [← blank, List.takeWhile_append_dropWhile]
    · cases matched
  · cases matched

theorem length_intercalate_le {words : List Text} {most : Nat}
    (short : ∀ word ∈ words, word.length ≤ most) :
    ([' '].intercalate words).length ≤ words.length * (most + 1) := by
  induction words with
  | nil => simp
  | cons first rest more =>
      simp only [List.forall_mem_cons] at short
      have others := more short.2
      cases rest with
      | nil =>
          simp only [List.intercalate_singleton, List.length_cons, List.length_nil]
          omega
      | cons second rest =>
          rw [List.intercalate_cons_cons]
          simp only [List.length_append, List.length_cons, List.length_nil] at others ⊢
          rw [Nat.succ_mul]
          omega

theorem render_length {n : Nat} {a b : List Nat} (operands : Operands n a b) :
    (render n a b).length ≤ 95 := by
  have short : ∀ word ∈ (a ++ b).map Decimal.digits, word.length ≤ 10 := by
    simp only [List.forall_mem_map]
    intro value given
    refine (Decimal.length_digits_le_iff (by decide)).mpr ?_
    exact Nat.lt_of_le_of_lt (operands.small value given) (by decide)
  have values := length_intercalate_le short
  have count : (Decimal.digits n).length ≤ 1 :=
    (Decimal.length_digits_le_iff (by decide)).mpr (Nat.lt_of_le_of_lt operands.count.2 (by decide))
  have length : ((a ++ b).map Decimal.digits).length = 2 * n := by
    rw [List.length_map, List.length_append, operands.first, operands.second]
    omega
  have low := operands.count.1
  have high := operands.count.2
  have some : (a ++ b).map Decimal.digits ≠ [] := List.ne_nil_of_length_pos (by omega)
  rw [render, List.intercalate_cons_cons, List.intercalate_cons_of_ne_nil some]
  simp only [List.length_append, List.length_singleton] at values ⊢
  have name : "VADD".toList.length = 4 := rfl
  omega

/-- The last character of words between blanks is that of the last word. -/
theorem getLast?_intercalate {words : List Text} {last : Text} (some : last ≠ []) :
    ([' '].intercalate (words ++ [last])).getLast? = last.getLast? := by
  induction words with
  | nil => simp
  | cons first rest more =>
      rw [List.cons_append, List.intercalate_cons_of_ne_nil (by simp), List.getLast?_append, more]
      cases shape : last.getLast? with
      | none => exact absurd (List.getLast?_eq_none_iff.mp shape) some
      | some char => rfl

theorem isSpace_of_isDigit {char : Char} (digit : char.isDigit = true) : isSpace char = false := by
  have range : 48 ≤ char.toNat ∧ char.toNat ≤ 57 := by
    simpa [Char.isDigit, UInt32.le_iff_toNat_le] using digit
  simp only [isSpace, decide_eq_false_iff_not]
  omega

theorem render_last {n : Nat} {a b : List Nat} (operands : Operands n a b) :
    ∃ char, (render n a b).getLast? = some char ∧ isSpace char = false := by
  have low := operands.count.1
  have some : b ≠ [] := List.ne_nil_of_length_pos (operands.second ▸ low)
  obtain ⟨front, last, shape⟩ := List.eq_nil_or_concat b |>.resolve_left some
  rw [List.concat_eq_append] at shape
  subst shape
  have words : "VADD".toList :: Decimal.digits n :: (a ++ (front ++ [last])).map Decimal.digits =
      ("VADD".toList :: Decimal.digits n :: (a ++ front).map Decimal.digits) ++
        [Decimal.digits last] := by
    simp
  rw [render, words, getLast?_intercalate (Decimal.digits_ne_nil last)]
  cases shape : (Decimal.digits last).getLast? with
  | none => exact absurd (List.getLast?_eq_none_iff.mp shape) (Decimal.digits_ne_nil last)
  | some char =>
      exact ⟨char, rfl, isSpace_of_isDigit
        (Decimal.isDigit_of_mem_digits (List.mem_of_getLast? shape))⟩

theorem signed_last {text : Text} (signed : isSigned text = true) :
    text.length ≤ 20 ∧ ∃ char, text.getLast? = some char ∧ isSpace char = false := by
  have digits_last {digits : Text} (some : 1 ≤ digits.length) (all : digits.all isDigit = true) :
      ∃ char, digits.getLast? = Option.some char ∧ isSpace char = false := by
    cases shape : digits.getLast? with
    | none =>
        rw [List.getLast?_eq_none_iff.mp shape] at some
        cases some
    | some char =>
        have digit := List.all_eq_true.mp all char (List.mem_of_getLast? shape)
        rw [isDigit_eq] at digit
        exact ⟨char, rfl, isSpace_of_isDigit digit⟩
  simp only [isSigned, Bool.and_eq_true, decide_eq_true_eq] at signed
  obtain ⟨⟨some, short⟩, all⟩ := signed
  cases text with
  | nil => simp at some
  | cons first rest =>
      by_cases negative : first = '-'
      · simp only [List.head?_cons, negative, if_true, List.tail_cons] at some short all
        obtain ⟨char, last, space⟩ := digits_last some all
        refine ⟨by rw [List.length_cons]; omega, char, ?_, space⟩
        rw [List.getLast?_cons, last]
        rfl
      · simp only [List.head?_cons, Option.some.injEq, negative, if_false] at some short all
        exact ⟨Nat.le_succ_of_le short, digits_last some all⟩

def Accepted (command : Text) : Prop :=
  isCommand command = true ∧
    ("VADD ".toList.isPrefixOf command = true → ∃ vectors, parse command = .ok vectors)

theorem accepted_length (accepted : Accepted command) :
    command.length ≤ 95 ∧ ∃ char, command.getLast? = some char ∧ isSpace char = false := by
  obtain ⟨legal, parsed⟩ := accepted
  simp only [isCommand, Bool.or_eq_true, Bool.and_eq_true, List.any_eq_true,
    decide_eq_true_eq] at legal
  have behind {name : Text} (length : name.length = 4) (starts : name.isPrefixOf command = true)
      (signed : isSigned (command.drop 4) = true) :
      command.length ≤ 95 ∧ ∃ char, command.getLast? = some char ∧ isSpace char = false := by
    obtain ⟨text, rfl⟩ := List.isPrefixOf_iff_prefix.mp starts
    rw [← length, List.drop_left] at signed
    obtain ⟨short, char, last, space⟩ := signed_last signed
    refine ⟨?_, char, by rw [List.getLast?_append, last]; rfl, space⟩
    rw [List.length_append]
    omega
  rcases legal with ((⟨name, listed, rfl⟩ | ⟨starts, signed⟩) | ⟨starts, signed⟩) | ⟨⟨starts, -⟩, -⟩
  · have all : ∀ name ∈ ["INFO", "PROPERTIES", "PROBE", "VKENUM", "PIXEL", "COHERENT", "GET"],
        name.toList.length ≤ 95 ∧
          (name.toList.getLast?.any fun char => !isSpace char) = true := by decide +kernel
    obtain ⟨short, last⟩ := all name listed
    refine ⟨short, ?_⟩
    cases shape : name.toList.getLast? with
    | none => simp [shape] at last
    | some char => exact ⟨char, rfl, by simpa [shape] using last⟩
  · exact behind rfl starts signed
  · exact behind rfl starts signed
  · obtain ⟨⟨n, a, b⟩, parsed⟩ := parsed starts
    obtain ⟨operands, rfl⟩ := parse_eq_ok.mp parsed
    exact ⟨render_length operands, render_last operands⟩

theorem strip_line {first last : Char} {rest : Text} (head : isSpace first = false)
    (ends : (first :: rest).getLast? = some last) (tail : isSpace last = false) :
    strip (first :: rest ++ ['\n']) = first :: rest := by
  obtain ⟨front, shape⟩ := List.getLast?_eq_some_iff.mp ends
  have newline : isSpace '\n' = true := by decide
  rw [strip, List.cons_append, List.dropWhile_cons_of_neg (by simp [head]), ← List.cons_append,
    shape, List.reverse_append, List.reverse_singleton, List.singleton_append,
    List.dropWhile_cons_of_pos newline, List.reverse_append, List.reverse_singleton,
    List.singleton_append, List.dropWhile_cons_of_neg (by simp [tail])]
  simp

/-- A request that is accepted is delivered as it is typed. -/
theorem item_request (matched : matchRequest line = some (id, command))
    (parsed : "VADD ".toList.isPrefixOf command = true → ∃ vectors, parse command = .ok vectors) :
    (line ++ ['\n']).length < limit ∧ item (line ++ ['\n']) = line := by
  obtain ⟨label, rfl, positive, legal⟩ := matchRequest_parts matched
  obtain ⟨-, -, few⟩ := isPositive_iff.mp positive
  obtain ⟨short, last, ends, space⟩ := accepted_length ⟨legal, parsed⟩
  have name : "request ".toList.length = 8 := rfl
  have fits : ("request ".toList ++ (label ++ ' ' :: command) ++ ['\n']).length < limit := by
    simp only [List.length_append, List.length_cons, List.length_nil, limit, name]
    omega
  refine ⟨fits, ?_⟩
  rw [item, if_pos fits]
  have spelled : "request ".toList = 'r' :: "equest ".toList := rfl
  have ending : ('r' :: ("equest ".toList ++ (label ++ ' ' :: command))).getLast? = some last := by
    rw [← List.cons_append, List.getLast?_append, List.getLast?_append, List.getLast?_cons, ends]
    rfl
  rw [spelled, List.cons_append]
  exact strip_line (by decide) ending space

end Requests

/-- In every run each line that was read is one item, in their order, and one mark stands behind
them: that of the end, or that of the first read that failed, in front of the next line or behind an
over-long part of it. A run ends only when all of it has been taken, and every run ends. What the
supervisor accepts is delivered as it is typed. -/
theorem stdinCommands_items :
    (∀ fails text world, Machine.Reach (Step fails) { rest := text } world →
      world.queue.length ≤ capacity ∧ (∀ read < world.reads, fails read = false) ∧
      ∃ done, Delivered fails text world done) ∧
    (∀ fails world, (¬ ∃ next, Step fails world next) ↔ world.phase = .ended ∧ world.queue = []) ∧
    (∀ fails, ¬ ∃ run : Nat → World, ∀ time, Step fails (run time) (run (time + 1))) ∧
    ∀ line id command, matchRequest line = some (id, command) →
      ("VADD ".toList.isPrefixOf command = true → ∃ vectors, parse command = .ok vectors) →
      (line ++ ['\n']).length < limit ∧ item (line ++ ['\n']) = line := by
  refine ⟨fun fails text world reach => ?_, fun _ _ => stuck_iff, fun _ => ?_,
    fun _ _ _ matched parsed => item_request matched parsed⟩
  · obtain ⟨room, passed, done, known⟩ := reach_inv reach
    exact ⟨room, passed, done, known.delivered⟩
  · rintro ⟨run, steps⟩
    exact finite run steps

theorem stdinCommands_items_sample :
    item ("request 1 SET -5".toList ++ ['\n']) = "request 1 SET -5".toList :=
  (stdinCommands_items.2.2.2 "request 1 SET -5".toList 1 "SET -5".toList (by decide +kernel)
    fun starts => absurd starts (by decide +kernel)).2

end Bscp.StdinCommands
