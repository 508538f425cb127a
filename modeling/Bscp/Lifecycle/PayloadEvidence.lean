import Bscp.Lifecycle.HostTrace

/-!
`NativeOwner.trace` and the two questions it is read for: whether the payload of a
CID is ready (`ready`) and whether its Guest has finished and shut down
(`guest_exit`). The records of all machines share one trace, and the reader sees
any part of the record that is being written.
-/

namespace Bscp.PayloadEvidence

open HostTrace Lines

/-- A trace with the records whose write has begun and those that are complete,
oldest first. -/
structure Journal where
  trace : Trace := {}
  begun : List Line := []
  complete : List Line := []

def whole (trace : Trace) : Bool :=
  match trace.writing with
  | some ⟨_, []⟩ => true
  | _ => false

def Journal.step (journal : Journal) (write : Write) : Journal :=
  let next := journal.trace.step write
  { trace := next
    begun := match write with
      | .record line =>
          if journal.trace.writing.isNone && next.writing.isSome then journal.begun ++ [line]
          else journal.begun
      | _ => journal.begun
    complete := match write with
      | .grow _ =>
          if !whole journal.trace && whole next then
            journal.complete ++ journal.begun.getLast?.toList
          else journal.complete
      | _ => journal.complete }

def run (writes : List Write) : Journal := Machine.play Journal.step {} writes

/-- `NativeOwner.trace`: the size is taken first and the text is read later. -/
def trace (first later : Trace) : Except Fault Text :=
  if first.file.length ≤ limit then .ok later.file
  else .error ⟨.runtimeError, "trace limit exceeded"⟩

/-- `\w` of a text that is ASCII. -/
def wordChar (char : Char) : Bool := char.isAlphanum || char == '_'

/-- `\b` behind a digit. -/
def wordEnd : Text → Bool
  | [] => true
  | char :: _ => !wordChar char

/-- `(?:\s|$)`. -/
def spaceOrEnd : Text → Bool
  | [] => true
  | char :: _ => isSpace char

def snakeReady (cid : Nat) : Text := "notify_payload_ready cid=".toList ++ digits cid

def camelReady (cid : Nat) : Text := "notifyPayloadReady cid=".toList ++ digits cid

def payloadReady (cid : Nat) (text : Text) : Bool :=
  search (snakeReady cid) wordEnd text || search (camelReady cid) wordEnd text

def finishedZero (cid : Nat) : Text :=
  "notifyPayloadFinished cid=".toList ++ digits cid ++ " exit_code=0".toList

def diedShutdown (cid : Nat) : Text :=
  "callback_on_died cid=".toList ++ digits cid ++ " reason=r#SHUTDOWN".toList

def exitEvidence (cid : Nat) (text : Text) : Bool :=
  search (finishedZero cid) spaceOrEnd text && search (diedShutdown cid) spaceOrEnd text

section Statement

def ready (cid : Nat) : Line := .notice (.payloadReady cid)

def finished (cid : Nat) : Line := .notice (.payloadFinished cid 0)

def shutdown (cid : Nat) : Line := .notice (.died cid .shutdown)

/-- What the two tests say of a CID at a moment of the trace, with the size of the
file taken at an earlier moment. -/
structure Agrees (first later : Journal) (cid : Nat) : Prop where
  unlimited : trace first.trace later.trace = .ok later.trace.file
  readyOnly : payloadReady cid later.trace.file = true → ready cid ∈ later.begun
  exitOnly : exitEvidence cid later.trace.file = true →
    finished cid ∈ later.begun ∧ shutdown cid ∈ later.begun
  readySeen : ready cid ∈ later.complete → payloadReady cid later.trace.file = true
  exitSeen : finished cid ∈ later.complete → shutdown cid ∈ later.complete →
    exitEvidence cid later.trace.file = true

/-- The file ends inside the digits of another CID, right where they spell this one. -/
def CutInside (journal : Journal) (cid : Nat) : Prop :=
  ∃ other, other ≠ cid ∧ journal.begun = journal.complete ++ [ready other] ∧
    journal.trace.file = fileText journal.complete ++ camelReady cid

end Statement

section Journals

def tailLines : Tail → List Line
  | .clean => []
  | .under line | .broken line => [line]

structure Kept (journal : Journal) (tail : Tail) (torn : Text) : Prop where
  sound : Sound journal.trace journal.complete tail torn
  begun : journal.begun = journal.complete ++ tailLines tail

variable {journal : Journal} {tail : Tail} {torn : Text}

theorem whole_of_free {trace : Trace} (free : trace.writing = none) : whole trace = false := by
  rw [whole, free]

theorem whole_of_under {trace : Trace} {line : Line} (fits : Tail.Fits trace torn (.under line)) :
    whole trace = false := by
  obtain ⟨_, left, short, busy, _⟩ := fits
  cases left with
  | nil => exact absurd rfl short
  | cons char left => rw [whole, busy]

theorem Kept.record (kept : Kept journal tail torn) (line : Line) :
    ∃ tail' torn', Kept (journal.step (.record line)) tail' torn' := by
  obtain ⟨sound, begun⟩ := kept
  cases lock : journal.trace.writing with
  | some append =>
      have waits : journal.trace.step (.record line) = journal.trace := by
        rw [Trace.step, Trace.record, lock]
      refine ⟨tail, torn, ?_, ?_⟩
      · simpa [Journal.step, waits] using sound
      · simpa [Journal.step, waits, lock] using begun
  | none =>
      obtain ⟨lines', tail', torn', next, follows⟩ := sound.step (.record line)
      cases follows with
      | same =>
          -- The trace has refused the line: it has failed, or the line is too long.
          have refused : (journal.trace.step (.record line)).writing = none := by
            rcases Trace.record_free lock line with none | some
            · exact none
            · have fits := next.fits
              cases tail with
              | clean =>
                  obtain ⟨_, ⟨free, _⟩ | ⟨_, busy, _⟩⟩ := fits
                  · exact free
                  · rw [Trace.step, some] at busy
                    simp at busy
              | under _ =>
                  obtain ⟨_, _, _, busy, _⟩ := sound.fits
                  rw [lock] at busy
                  cases busy
              | broken _ => exact fits.1
          refine ⟨tail, torn, next, ?_⟩
          simpa [Journal.step, lock, refused] using begun
      | opened line clean what =>
          cases what
          subst clean
          obtain ⟨_, _, _, busy, _⟩ := next.fits
          refine ⟨.under line, [], next, ?_⟩
          simpa [Journal.step, lock, busy, tailLines] using begun
      | grown _ _ _ _ what => cases what
      | completed _ _ _ what => cases what
      | broke _ _ what => cases what

theorem Kept.grow (kept : Kept journal tail torn) (count : Nat) :
    ∃ tail' torn', Kept (journal.step (.grow count)) tail' torn' := by
  obtain ⟨sound, begun⟩ := kept
  obtain ⟨lines', tail', torn', next, follows⟩ := sound.step (.grow count)
  cases follows with
  | same =>
      have still : (!whole journal.trace && whole (journal.trace.step (.grow count))) = false := by
        cases tail with
        | clean =>
            obtain ⟨_, ⟨free, _⟩ | ⟨_, busy, _⟩⟩ := sound.fits
            · rw [Trace.step, (Trace.still free).1, whole_of_free free]
              rfl
            · rw [whole, busy]
              rfl
        | under line => rw [whole_of_under next.fits, Bool.and_false]
        | broken line => rw [whole_of_free next.fits.1, Bool.and_false]
      exact ⟨tail, torn, by simpa [Journal.step, still] using next,
        by simpa [Journal.step, still] using begun⟩
  | grown line _ _ under _ =>
      subst under
      have unfinished := whole_of_under next.fits
      exact ⟨.under line, torn', by simpa [Journal.step, unfinished] using next,
        by simpa [Journal.step, unfinished] using begun⟩
  | completed line _ under _ =>
      subst under
      have before := whole_of_under sound.fits
      have after : whole (journal.trace.step (.grow count)) = true := by
        obtain ⟨_, _, _, busy, _⟩ := sound.fits
        obtain ⟨_, ⟨free, _⟩ | ⟨_, ended, _⟩⟩ := next.fits
        · rw [Trace.step, Trace.grow_busy busy] at free
          cases free
        · rw [whole, ended]
      have last : journal.begun.getLast? = some line := by simp [begun, tailLines]
      refine ⟨.clean, [], ?_, ?_⟩
      · simpa [Journal.step, before, after, last] using next
      · simpa [Journal.step, before, after, last, tailLines] using begun
  | opened _ _ what => cases what
  | broke _ _ what => cases what

theorem Kept.step (kept : Kept journal tail torn) (write : Write) :
    ∃ tail' torn', Kept (journal.step write) tail' torn' := by
  cases write with
  | record line => exact kept.record line
  | grow count => exact kept.grow count
  | written =>
      obtain ⟨lines', tail', torn', next, follows⟩ := kept.sound.step .written
      cases follows with
      | same => exact ⟨tail, torn, next, kept.begun⟩
      | opened _ _ what => cases what
      | grown _ _ _ _ what => cases what
      | completed _ _ _ what => cases what
      | broke _ _ what => cases what
  | writeFails =>
      obtain ⟨lines', tail', torn', next, follows⟩ := kept.sound.step .writeFails
      cases follows with
      | same => exact ⟨tail, torn, next, kept.begun⟩
      | broke line under _ =>
          subst under
          exact ⟨.broken line, torn, next, kept.begun⟩
      | opened _ _ what => cases what
      | grown _ _ _ _ what => cases what
      | completed _ _ _ what => cases what

theorem run_kept (writes : List Write) : ∃ tail torn, Kept (run writes) tail torn := by
  have step : ∀ (journal : Journal) (write : Write), (∃ tail torn, Kept journal tail torn) →
      ∃ tail torn, Kept (journal.step write) tail torn := by
    rintro journal write ⟨_, _, kept⟩
    exact kept.step write
  exact Machine.play_keeps step writes {} ⟨.clean, [], Sound.start, rfl⟩

end Journals

section Texts

def readyStart : Text := "notifyPayloadReady cid".toList

def snakeStart : Text := "notify_payload_ready cid".toList

def finishedStart : Text := "notifyPayloadFinished cid".toList

def diedStart : Text := "callback_on_died cid".toList

def exitWord : Text := " exit_code".toList

def reasonWord : Text := " reason".toList

theorem readyStart_chars : readyStart = ['n', 'o', 't', 'i', 'f', 'y', 'P', 'a', 'y', 'l', 'o',
    'a', 'd', 'R', 'e', 'a', 'd', 'y', ' ', 'c', 'i', 'd'] :=
  String.toList_ofList

theorem snakeStart_chars : snakeStart = ['n', 'o', 't', 'i', 'f', 'y', '_', 'p', 'a', 'y', 'l',
    'o', 'a', 'd', '_', 'r', 'e', 'a', 'd', 'y', ' ', 'c', 'i', 'd'] :=
  String.toList_ofList

theorem finishedStart_chars : finishedStart = ['n', 'o', 't', 'i', 'f', 'y', 'P', 'a', 'y', 'l',
    'o', 'a', 'd', 'F', 'i', 'n', 'i', 's', 'h', 'e', 'd', ' ', 'c', 'i', 'd'] :=
  String.toList_ofList

theorem diedStart_chars : diedStart = ['c', 'a', 'l', 'l', 'b', 'a', 'c', 'k', '_', 'o', 'n', '_',
    'd', 'i', 'e', 'd', ' ', 'c', 'i', 'd'] :=
  String.toList_ofList

theorem exitWord_chars : exitWord = [' ', 'e', 'x', 'i', 't', '_', 'c', 'o', 'd', 'e'] :=
  String.toList_ofList

theorem reasonWord_chars : reasonWord = [' ', 'r', 'e', 'a', 's', 'o', 'n'] :=
  String.toList_ofList

theorem mark_not_mem_starts : '=' ∉ readyStart ∧ '=' ∉ snakeStart ∧ '=' ∉ finishedStart ∧
    '=' ∉ diedStart := by
  rw [readyStart_chars, snakeStart_chars, finishedStart_chars, diedStart_chars]
  decide

/-- Each notice has the CID first. -/
theorem starts_last : readyStart.getLast? = some 'd' ∧ snakeStart.getLast? = some 'd' ∧
    finishedStart.getLast? = some 'd' ∧ diedStart.getLast? = some 'd' := by
  rw [readyStart_chars, snakeStart_chars, finishedStart_chars, diedStart_chars]
  decide

theorem exitWord_plain : '=' ∉ exitWord ∧ exitWord.getLast? ≠ some 'd' ∧ exitWord ≠ [] := by
  rw [exitWord_chars]
  decide

theorem reasonWord_plain : '=' ∉ reasonWord ∧ reasonWord.getLast? ≠ some 'd' ∧ reasonWord ≠ [] := by
  rw [reasonWord_chars]
  decide

def start : Notice → Text
  | .payloadReady _ => readyStart
  | .payloadFinished _ _ => finishedStart
  | .died _ _ => diedStart

def rest : Notice → Text
  | .payloadReady cid => digits cid
  | .payloadFinished cid exitCode => digits cid ++ exitWord ++ '=' :: signed exitCode
  | .died cid reason => digits cid ++ reasonWord ++ '=' :: reason.text

theorem text_cut (said : Notice) : said.text = start said ++ '=' :: rest said := by
  cases said with
  | payloadReady cid =>
      have mark : "notifyPayloadReady cid=".toList = readyStart ++ ['='] := by
        rw [readyStart_chars, String.toList_ofList]
        rfl
      change "notifyPayloadReady cid=".toList ++ digits cid = readyStart ++ '=' :: digits cid
      rw [mark]
      simp only [List.append_assoc, List.cons_append, List.nil_append]
  | payloadFinished cid exitCode =>
      have mark : "notifyPayloadFinished cid=".toList = finishedStart ++ ['='] := by
        rw [finishedStart_chars, String.toList_ofList]
        rfl
      have code : " exit_code=".toList = exitWord ++ ['='] := by
        rw [exitWord_chars, String.toList_ofList]
        rfl
      change "notifyPayloadFinished cid=".toList ++ digits cid ++ " exit_code=".toList ++
        signed exitCode =
          finishedStart ++ '=' :: (digits cid ++ exitWord ++ '=' :: signed exitCode)
      rw [mark, code]
      simp only [List.append_assoc, List.cons_append, List.nil_append]
  | died cid reason =>
      have mark : "callback_on_died cid=".toList = diedStart ++ ['='] := by
        rw [diedStart_chars, String.toList_ofList]
        rfl
      have why : " reason=".toList = reasonWord ++ ['='] := by
        rw [reasonWord_chars, String.toList_ofList]
        rfl
      change "callback_on_died cid=".toList ++ digits cid ++ " reason=".toList ++ reason.text =
        diedStart ++ '=' :: (digits cid ++ reasonWord ++ '=' :: reason.text)
      rw [mark, why]
      simp only [List.append_assoc, List.cons_append, List.nil_append]

theorem mark_not_mem_digits (number : Nat) : '=' ∉ digits number := fun member =>
  absurd (Json.digit_toDigits member) (by decide)

theorem mark_not_mem_signed (number : Int) : '=' ∉ signed number := by
  cases number with
  | ofNat number => exact mark_not_mem_digits number
  | negSucc number =>
      intro member
      rcases List.mem_cons.mp member with same | later
      · cases same
      · exact mark_not_mem_digits _ later

theorem mark_not_mem_reason (reason : DeathReason) : '=' ∉ reason.text := by
  have table : ∀ entry ∈ deathReasons, '=' ∉ entry.2 := by
    unfold deathReasons
    repeat rw [String.toList_ofList]
    decide
  unfold DeathReason.text
  split
  case isTrue _ =>
      rw [String.toList_ofList]
      decide
  case isFalse _ =>
      unfold DeathReason.debug
      split
      case h_1 entry found => exact table entry (List.mem_of_find?_eq_some found)
      case h_2 _ => exact mark_not_mem_signed reason.value

theorem mark_not_mem_start (said : Notice) : '=' ∉ start said := by
  cases said with
  | payloadReady _ => exact mark_not_mem_starts.1
  | payloadFinished _ _ => exact mark_not_mem_starts.2.2.1
  | died _ _ => exact mark_not_mem_starts.2.2.2

theorem mark_not_mem_event (row : Row) : '=' ∉ (Line.event row).text := by
  have numbers := fun number : Nat => mark_not_mem_digits number
  simp only [digits] at numbers
  have phase : '=' ∉ row.phase.text := by
    cases row.phase
    · rw [Phase.text_bound]
      decide
    · rw [Phase.text_retired]
      decide
  have names : '=' ∉ heading ++ "cid".toList ++ "dev".toList ++ "ino".toList ++ "phase".toList ++
      "pid".toList ++ "uid".toList := by
    have heading_chars : heading = _ := String.toList_ofList
    rw [heading_chars]
    repeat rw [String.toList_ofList]
    decide
  simp only [List.mem_append, not_or] at names
  simp only [Line.text, Json.renderFlat, Row.fields, Json.renderMembers, Json.Field.render,
    List.mem_append, List.mem_cons, numbers, phase, names, List.not_mem_nil, or_false, false_or,
    not_or]
  decide

/-- A text that ends its first part like a CID does not stand behind the first
equals sign of a notice. -/
theorem occurs_notice {said : Notice} {front opening finish behind : Text} (plain : '=' ∉ opening)
    (ended : opening.getLast? = some 'd')
    (same : said.text = front ++ (opening ++ '=' :: finish) ++ behind) :
    start said = front ++ opening ∧ rest said = finish ++ behind := by
  rw [text_cut] at same
  rcases occurs_mark (mark_not_mem_start said) plain same with here | ⟨onward, later⟩
  · exact here
  exfalso
  have inside : ∀ {text : Text}, text = onward ++ (opening ++ '=' :: finish) ++ behind →
      '=' ∈ text := by
    rintro _ rfl
    simp
  -- The second equals sign, where there is one, is behind another word.
  have second : ∀ {number : Nat} {word last : Text}, '=' ∉ word → '=' ∉ last →
      word.getLast? ≠ some 'd' → word ≠ [] →
      digits number ++ word ++ '=' :: last = onward ++ (opening ++ '=' :: finish) ++ behind →
      False := by
    intro number word last clean ending other nonempty equal
    have whole : '=' ∉ digits number ++ word := by simp [mark_not_mem_digits, clean]
    rcases occurs_mark whole plain equal with ⟨left, _⟩ | ⟨further, right⟩
    · have lastOf := congrArg List.getLast? left
      rw [List.getLast?_append_of_ne_nil _ nonempty, List.getLast?_append, ended] at lastOf
      exact other lastOf
    · exact ending (by rw [right]; simp)
  cases said with
  | payloadReady cid => exact mark_not_mem_digits cid (inside later)
  | payloadFinished cid exitCode =>
      exact second exitWord_plain.1 (mark_not_mem_signed exitCode) exitWord_plain.2.1
        exitWord_plain.2.2 later
  | died cid reason =>
      exact second reasonWord_plain.1 (mark_not_mem_reason reason) reasonWord_plain.2.1
        reasonWord_plain.2.2 later

theorem occurs_line_notice {line : Line} {front opening finish behind : Text}
    (plain : '=' ∉ opening) (ended : opening.getLast? = some 'd')
    (same : line.text = front ++ (opening ++ '=' :: finish) ++ behind) :
    ∃ said, line = .notice said ∧ start said = front ++ opening ∧ rest said = finish ++ behind := by
  cases line with
  | notice said => exact ⟨said, rfl, occurs_notice plain ended same⟩
  | event row => exact absurd (by rw [same]; simp) (mark_not_mem_event row)

theorem digits_injective {one other : Nat} (same : digits one = digits other) : one = other := by
  have values := congrArg (fun text => Nat.ofDigitChars 10 text 0) same
  simpa [digits, Nat.ofDigitChars_ten_toDigits] using values

theorem blank_not_mem_digits (number : Nat) : ' ' ∉ digits number := fun member =>
  absurd (Json.digit_toDigits member) (by decide)

/-- The start of a notice tells its kind. -/
theorem start_suffix {said : Notice} {front opening : Text} (same : start said = front ++ opening) :
    (opening = readyStart → front = [] ∧ ∃ cid, said = .payloadReady cid) ∧
      (opening = finishedStart → ∃ cid exitCode, said = .payloadFinished cid exitCode) ∧
      (opening = diedStart → ∃ cid reason, said = .died cid reason) ∧ opening ≠ snakeStart := by
  have kinds : ∀ text ∈ [readyStart, finishedStart, diedStart],
      (readyStart <:+ text → text = readyStart) ∧ (finishedStart <:+ text → text = finishedStart) ∧
        (diedStart <:+ text → text = diedStart) ∧ ¬ snakeStart <:+ text := by
    rw [readyStart_chars, snakeStart_chars, finishedStart_chars, diedStart_chars]
    decide +kernel
  have apart : readyStart ≠ finishedStart ∧ readyStart ≠ diedStart ∧ finishedStart ≠ diedStart := by
    rw [readyStart_chars, finishedStart_chars, diedStart_chars]
    decide
  have suffix : opening <:+ start said := ⟨front, same.symm⟩
  have listed : start said ∈ [readyStart, finishedStart, diedStart] := by
    cases said <;> simp [start]
  obtain ⟨isReady, isFinished, isDied, notSnake⟩ := kinds (start said) listed
  refine ⟨?_, ?_, ?_, ?_⟩
  · rintro rfl
    have here := isReady suffix
    rw [here] at same
    refine ⟨List.self_eq_append_left.mp same, ?_⟩
    cases said with
    | payloadReady cid => exact ⟨cid, rfl⟩
    | payloadFinished _ _ => exact absurd here.symm apart.1
    | died _ _ => exact absurd here.symm apart.2.1
  · rintro rfl
    have here := isFinished suffix
    cases said with
    | payloadReady _ => exact absurd here apart.1
    | payloadFinished cid exitCode => exact ⟨cid, exitCode, rfl⟩
    | died _ _ => exact absurd here.symm apart.2.2
  · rintro rfl
    have here := isDied suffix
    cases said with
    | payloadReady _ => exact absurd here apart.2.1
    | payloadFinished _ _ => exact absurd here apart.2.2
    | died cid reason => exact ⟨cid, reason, rfl⟩
  · rintro rfl
    exact notSnake suffix

/-- A number with a word behind it is cut at the blank. -/
theorem number_cut {one other : Nat} {word last more : Text}
    (same : digits one ++ ' ' :: (word ++ last) = digits other ++ ' ' :: (word ++ more)) :
    one = other ∧ last = more := by
  obtain ⟨numbers, words⟩ := cut_unique (blank_not_mem_digits one) (blank_not_mem_digits other) same
  exact ⟨digits_injective numbers, List.append_cancel_left words⟩

theorem signed_chars (number : Int) :
    (signed number).all (fun char => char == '-' || char.isDigit) = true := by
  have plain : ∀ number : Nat, (digits number).all (fun char => char == '-' || char.isDigit) = true :=
    fun number => List.all_eq_true.mpr fun char member => by simp [Json.digit_toDigits member]
  cases number with
  | ofNat number => exact plain number
  | negSucc number =>
      rw [signed, List.all_cons, plain]
      rfl

/-- No other death reason is printed with this name in front. -/
theorem shutdown_of_text {reason : DeathReason} {behind : Text}
    (named : reason.text = "r#SHUTDOWN".toList ++ behind) : reason = .shutdown := by
  have table : ∀ entry ∈ deathReasons, "r#SHUTDOWN".toList <+: entry.2 → entry.1 = 3 := by
    unfold deathReasons
    repeat rw [String.toList_ofList]
    decide +kernel
  have begins : "r#SHUTDOWN".toList <+: reason.text := ⟨behind, named.symm⟩
  unfold DeathReason.text at begins
  split at begins
  case isTrue same => exact same
  case isFalse other =>
      unfold DeathReason.debug at begins
      split at begins
      case h_1 entry found =>
          have value := table entry (List.mem_of_find?_eq_some found) begins
          have key : entry.1 = reason.value := by simpa using List.find?_some found
          exact absurd (by rw [DeathReason.shutdown, ← value, key]) other
      case h_2 _ =>
          obtain ⟨more, number⟩ := begins
          have letter : 'r' ∈ signed reason.value := by
            rw [← number]
            rw [String.toList_ofList]
            exact List.mem_append_left _ List.mem_cons_self
          have digit := List.all_eq_true.mp (signed_chars reason.value) 'r' letter
          cases digit

theorem camelReady_line {line : Line} {cid : Nat} {front behind : Text}
    (same : line.text = front ++ camelReady cid ++ behind) :
    ∃ other, line = ready other ∧ front = [] ∧ digits other = digits cid ++ behind := by
  have mark : camelReady cid = readyStart ++ '=' :: digits cid := text_cut (.payloadReady cid)
  rw [mark] at same
  obtain ⟨said, rfl, begins, ends⟩ := occurs_line_notice mark_not_mem_starts.1 starts_last.1 same
  obtain ⟨empty, other, rfl⟩ := (start_suffix begins).1 rfl
  exact ⟨other, rfl, empty, ends⟩

theorem snakeReady_line {line : Line} {cid : Nat} {front behind : Text} :
    line.text ≠ front ++ snakeReady cid ++ behind := by
  intro same
  have mark : snakeReady cid = snakeStart ++ '=' :: digits cid := by
    have cut : "notify_payload_ready cid=".toList = snakeStart ++ ['='] := by
      rw [snakeStart_chars, String.toList_ofList]
      rfl
    change "notify_payload_ready cid=".toList ++ digits cid = _
    rw [cut]
    simp only [List.append_assoc, List.cons_append, List.nil_append]
  rw [mark] at same
  obtain ⟨said, rfl, begins, _⟩ := occurs_line_notice mark_not_mem_starts.2.1 starts_last.2.1 same
  exact (start_suffix begins).2.2.2 rfl

theorem finishedZero_line {line : Line} {cid : Nat} {front behind : Text}
    (same : line.text = front ++ finishedZero cid ++ behind) : line = finished cid := by
  have cut : "notifyPayloadFinished cid=".toList = finishedStart ++ ['='] := by
    rw [finishedStart_chars, String.toList_ofList]
    rfl
  have mark : finishedZero cid = finishedStart ++ '=' :: (digits cid ++ " exit_code=0".toList) := by
    change "notifyPayloadFinished cid=".toList ++ digits cid ++ " exit_code=0".toList = _
    rw [cut]
    simp only [List.append_assoc, List.cons_append, List.nil_append]
  rw [mark] at same
  obtain ⟨said, rfl, begins, ends⟩ := occurs_line_notice mark_not_mem_starts.2.2.1 starts_last.2.2.1
    same
  obtain ⟨other, exitCode, rfl⟩ := (start_suffix begins).2.1 rfl
  have code : digits other ++ ' ' :: ("exit_code=".toList ++ signed exitCode) =
      digits cid ++ ' ' :: ("exit_code=".toList ++ ('0' :: behind)) := by
    have left : exitWord ++ ['='] = ' ' :: "exit_code=".toList := by
      rw [exitWord_chars, String.toList_ofList]
      rfl
    have right : " exit_code=0".toList = ' ' :: ("exit_code=".toList ++ ['0']) := by
      rw [String.toList_ofList, String.toList_ofList]
      rfl
    calc digits other ++ ' ' :: ("exit_code=".toList ++ signed exitCode)
        = digits other ++ ((exitWord ++ ['=']) ++ signed exitCode) := by
          rw [left, List.cons_append]
      _ = rest (.payloadFinished other exitCode) := by
          simp only [rest, List.append_assoc, List.cons_append, List.nil_append]
      _ = digits cid ++ " exit_code=0".toList ++ behind := ends
      _ = digits cid ++ ' ' :: ("exit_code=".toList ++ ('0' :: behind)) := by
          rw [right]
          simp only [List.append_assoc, List.cons_append, List.nil_append]
  obtain ⟨rfl, zero⟩ := number_cut code
  have none : exitCode = 0 := by
    cases exitCode with
    | ofNat number =>
        by_contra positive
        have above : 0 < number := by
          rcases Nat.eq_zero_or_pos number with rfl | above
          · exact absurd rfl positive
          · exact above
        exact Json.head_toDigits above zero rfl
    | negSucc number =>
        obtain ⟨sign, _⟩ := List.cons.inj zero
        cases sign
  rw [none]
  rfl

theorem diedShutdown_line {line : Line} {cid : Nat} {front behind : Text}
    (same : line.text = front ++ diedShutdown cid ++ behind) : line = shutdown cid := by
  have cut : "callback_on_died cid=".toList = diedStart ++ ['='] := by
    rw [diedStart_chars, String.toList_ofList]
    rfl
  have mark : diedShutdown cid =
      diedStart ++ '=' :: (digits cid ++ " reason=r#SHUTDOWN".toList) := by
    change "callback_on_died cid=".toList ++ digits cid ++ " reason=r#SHUTDOWN".toList = _
    rw [cut]
    simp only [List.append_assoc, List.cons_append, List.nil_append]
  rw [mark] at same
  obtain ⟨said, rfl, begins, ends⟩ := occurs_line_notice mark_not_mem_starts.2.2.2 starts_last.2.2.2
    same
  obtain ⟨other, reason, rfl⟩ := (start_suffix begins).2.2.1 rfl
  have why : digits other ++ ' ' :: ("reason=".toList ++ reason.text) =
      digits cid ++ ' ' :: ("reason=".toList ++ ("r#SHUTDOWN".toList ++ behind)) := by
    have left : reasonWord ++ ['='] = ' ' :: "reason=".toList := by
      rw [reasonWord_chars, String.toList_ofList]
      rfl
    have right : " reason=r#SHUTDOWN".toList = ' ' :: ("reason=".toList ++ "r#SHUTDOWN".toList) := by
      rw [String.toList_ofList, String.toList_ofList, String.toList_ofList]
      rfl
    calc digits other ++ ' ' :: ("reason=".toList ++ reason.text)
        = digits other ++ ((reasonWord ++ ['=']) ++ reason.text) := by
          rw [left, List.cons_append]
      _ = rest (.died other reason) := by
          simp only [rest, List.append_assoc, List.cons_append, List.nil_append]
      _ = digits cid ++ " reason=r#SHUTDOWN".toList ++ behind := ends
      _ = digits cid ++ ' ' :: ("reason=".toList ++ ("r#SHUTDOWN".toList ++ behind)) := by
          rw [right]
          simp only [List.append_assoc, List.cons_append]
  obtain ⟨rfl, named⟩ := number_cut why
  rw [shutdown, shutdown_of_text named]

end Texts

section Evidence

variable {journal : Journal} {tail : Tail} {torn pattern : Text} {follow : Text → Bool} {cid : Nat}

theorem Kept.torn_line (kept : Kept journal tail torn) (some : torn ≠ []) :
    ∃ (line : Line) (more : Text), journal.begun = journal.complete ++ [line] ∧
      line.text = torn ++ more := by
  have fits := kept.sound.fits
  have begun := kept.begun
  cases tail with
  | clean => exact absurd fits.1 some
  | under line =>
      obtain ⟨_, left, short, _, split, _⟩ := fits
      obtain ⟨more, whole⟩ := prefix_of_short split short
      exact ⟨line, more, begun, whole.symm⟩
  | broken line =>
      obtain ⟨more, whole⟩ := fits.2.2
      exact ⟨line, more, begun, whole.symm⟩

/-- A pattern is found in a complete record, or in the torn one and then before the
end of what is seen of it. -/
theorem Kept.found (kept : Kept journal tail torn) (single : '\n' ∉ pattern) (some : pattern ≠ [])
    (found : search pattern follow journal.trace.file = true) :
    (∃ line ∈ journal.complete, ∃ front behind rest : Text,
      line.text = front ++ pattern ++ behind ∧
      follow (behind ++ '\n' :: rest) = true) ∨
      ∃ (line : Line) (front behind more : Text), journal.begun = journal.complete ++ [line] ∧
        torn = front ++ pattern ++ behind ∧ follow behind = true ∧
        line.text = front ++ pattern ++ (behind ++ more) := by
  have lines : ∀ text ∈ journal.complete.map Line.text, '\n' ∉ text := by
    intro text member
    obtain ⟨line, _, rfl⟩ := List.mem_map.mp member
    exact line.newline_not_mem
  rw [kept.sound.file] at found
  rcases search_unlines single lines found with
    ⟨text, member, front, behind, rest, here, follows⟩ | ⟨front, behind, here, follows⟩
  · obtain ⟨line, inside, rfl⟩ := List.mem_map.mp member
    exact .inl ⟨line, inside, front, behind, rest, here, follows⟩
  · have tornSome : torn ≠ [] := by
      rw [here]
      simp [some]
    obtain ⟨line, more, begun, whole⟩ := kept.torn_line tornSome
    refine .inr ⟨line, front, behind, more, begun, here, follows, ?_⟩
    rw [whole, here]
    simp only [List.append_assoc]

theorem Kept.complete_begun (kept : Kept journal tail torn) {line : Line}
    (member : line ∈ journal.complete) : line ∈ journal.begun := by
  rw [kept.begun]
  exact List.mem_append_left _ member

/-- A pattern that names its record is only found where that record was begun. -/
theorem Kept.named (kept : Kept journal tail torn) (single : '\n' ∉ pattern) (some : pattern ≠ [])
    {line : Line}
    (named : ∀ {other : Line} {front behind}, other.text = front ++ pattern ++ behind →
      other = line)
    (found : search pattern follow journal.trace.file = true) : line ∈ journal.begun := by
  rcases kept.found single some found with
    ⟨other, member, front, behind, _, here, _⟩ | ⟨other, front, behind, more, begun, _, _, here⟩
  · exact kept.complete_begun (named here ▸ member)
  · rw [begun, named here]
    exact List.mem_append_right _ List.mem_cons_self

theorem digit_of_mem {char : Char} {number : Nat} (member : char ∈ digits number) :
    char.isDigit = true := Json.digit_toDigits member

theorem wordEnd_digits {front behind text : Text} {number : Nat}
    (same : digits number = front ++ (behind ++ text)) {more : Text}
    (ends : wordEnd (behind ++ more) = true) : behind = [] := by
  cases behind with
  | nil => rfl
  | cons char behind =>
      have digit : char.isDigit = true := by
        apply @digit_of_mem char number
        rw [same]
        simp
      simp [wordEnd, wordChar, Char.isAlphanum, digit] at ends

theorem pattern_single (cid : Nat) : '\n' ∉ camelReady cid ∧ '\n' ∉ snakeReady cid ∧
    '\n' ∉ finishedZero cid ∧ '\n' ∉ diedShutdown cid := by
  have number : '\n' ∉ digits cid := fun member =>
    absurd (Json.digit_toDigits member) (by decide)
  have words : '\n' ∉ "notifyPayloadReady cid=".toList ∧
      '\n' ∉ "notify_payload_ready cid=".toList ∧ '\n' ∉ "notifyPayloadFinished cid=".toList ∧
      '\n' ∉ " exit_code=0".toList ∧ '\n' ∉ "callback_on_died cid=".toList ∧
      '\n' ∉ " reason=r#SHUTDOWN".toList := by
    repeat rw [String.toList_ofList]
    decide
  obtain ⟨camel, snake, finished, code, died, reason⟩ := words
  refine ⟨?_, ?_, ?_, ?_⟩
  · exact fun member => (List.mem_append.mp member).elim camel number
  · exact fun member => (List.mem_append.mp member).elim snake number
  · exact fun member => (List.mem_append.mp member).elim
      (fun first => (List.mem_append.mp first).elim finished number) code
  · exact fun member => (List.mem_append.mp member).elim
      (fun first => (List.mem_append.mp first).elim died number) reason

theorem pattern_some (cid : Nat) : camelReady cid ≠ [] ∧ snakeReady cid ≠ [] ∧
    finishedZero cid ≠ [] ∧ diedShutdown cid ≠ [] := by
  have words : "notifyPayloadReady cid=".toList ≠ [] ∧ "notify_payload_ready cid=".toList ≠ [] ∧
      " exit_code=0".toList ≠ [] ∧ " reason=r#SHUTDOWN".toList ≠ [] := by
    repeat rw [String.toList_ofList]
    decide
  obtain ⟨camel, snake, code, reason⟩ := words
  exact ⟨List.append_ne_nil_of_left_ne_nil camel _, List.append_ne_nil_of_left_ne_nil snake _,
    List.append_ne_nil_of_right_ne_nil _ code, List.append_ne_nil_of_right_ne_nil _ reason⟩

/-- The ready test is right unless the file ends inside another CID. -/
theorem Kept.ready (kept : Kept journal tail torn)
    (found : payloadReady cid journal.trace.file = true) :
    ready cid ∈ journal.begun ∨ CutInside journal cid := by
  rcases Bool.or_eq_true_iff.mp found with snake | camel
  · rcases kept.found (pattern_single cid).2.1 (pattern_some cid).2.1 snake with
      ⟨_, _, _, _, _, here, _⟩ | ⟨_, _, _, _, _, _, _, here⟩
    · exact absurd here snakeReady_line
    · exact absurd here snakeReady_line
  · rcases kept.found (pattern_single cid).1 (pattern_some cid).1 camel with
      ⟨line, member, front, behind, rest, here, ends⟩ |
      ⟨line, front, behind, more, begun, seen, ends, here⟩
    · obtain ⟨other, rfl, _, same⟩ := camelReady_line here
      have whole : digits other = digits cid ++ (behind ++ []) := by simpa using same
      have none : behind = [] := wordEnd_digits whole ends
      rw [none, List.append_nil] at same
      exact .inl (kept.complete_begun (digits_injective same ▸ member))
    · obtain ⟨other, rfl, rfl, same⟩ := camelReady_line here
      have last : wordEnd (behind ++ []) = true := by simpa using ends
      have none : behind = [] := wordEnd_digits same last
      by_cases own : other = cid
      · rw [begun, own]
        exact .inl (List.mem_append_right _ List.mem_cons_self)
      · refine .inr ⟨other, own, begun, ?_⟩
        rw [kept.sound.file, seen, none]
        simp only [List.nil_append, List.append_nil]

theorem Kept.exit (kept : Kept journal tail torn)
    (found : exitEvidence cid journal.trace.file = true) :
    finished cid ∈ journal.begun ∧ shutdown cid ∈ journal.begun := by
  obtain ⟨ended, died⟩ := Bool.and_eq_true_iff.mp found
  exact ⟨kept.named (pattern_single cid).2.2.1 (pattern_some cid).2.2.1 finishedZero_line ended,
    kept.named (pattern_single cid).2.2.2 (pattern_some cid).2.2.2 diedShutdown_line died⟩

theorem Kept.seen (kept : Kept journal tail torn) {line : Line} (member : line ∈ journal.complete)
    (follows : ∀ rest, follow ('\n' :: rest) = true) :
    search line.text follow journal.trace.file = true := by
  rw [kept.sound.file]
  exact search_mem (List.mem_map_of_mem member) rfl follows

theorem finished_text (cid : Nat) : (finished cid).text = finishedZero cid := by
  have code : " exit_code=".toList ++ signed 0 = " exit_code=0".toList := by
    rw [String.toList_ofList, String.toList_ofList]
    rfl
  change "notifyPayloadFinished cid=".toList ++ digits cid ++ " exit_code=".toList ++ signed 0 =
    "notifyPayloadFinished cid=".toList ++ digits cid ++ " exit_code=0".toList
  rw [List.append_assoc, code]

theorem shutdown_text (cid : Nat) : (shutdown cid).text = diedShutdown cid := by
  have why : " reason=".toList ++ DeathReason.shutdown.text = " reason=r#SHUTDOWN".toList := by
    have name : DeathReason.shutdown.text = "r#SHUTDOWN".toList := rfl
    rw [name, String.toList_ofList, String.toList_ofList, String.toList_ofList]
    rfl
  change "callback_on_died cid=".toList ++ digits cid ++ " reason=".toList ++
    DeathReason.shutdown.text =
      "callback_on_died cid=".toList ++ digits cid ++ " reason=r#SHUTDOWN".toList
  rw [List.append_assoc, why]

end Evidence

/-- The reader's tests and the writer's records agree at every moment, except where
the file ends inside the digits of another CID that begin like this one. -/
theorem trace_evidence_exact (writes more : List Write) (cid : Nat) :
    Agrees (run writes) (run (writes ++ more)) cid ↔
      (CutInside (run (writes ++ more)) cid → ready cid ∈ (run (writes ++ more)).begun) := by
  obtain ⟨_, _, first⟩ := run_kept writes
  obtain ⟨tail, torn, kept⟩ := run_kept (writes ++ more)
  constructor
  · rintro agrees ⟨other, _, _, shown⟩
    refine agrees.readyOnly (Bool.or_eq_true_iff.mpr (.inr (search_iff.mpr
      ⟨fileText (run (writes ++ more)).complete, [], ?_, rfl⟩)))
    rw [shown, List.append_nil]
  · intro excused
    refine ⟨?_, fun found => ?_, kept.exit, fun member => ?_, fun ended died => ?_⟩
    · rw [trace, if_pos first.sound.bounded]
    · exact (kept.ready found).elim id excused
    · exact Bool.or_eq_true_iff.mpr (.inr (kept.seen member fun _ => rfl))
    · refine Bool.and_eq_true_iff.mpr ⟨?_, ?_⟩
      · rw [← finished_text]
        exact kept.seen ended fun _ => rfl
      · rw [← shutdown_text]
        exact kept.seen died fun _ => rfl

def cutWrites : List Write := [.record (ready 20480), .grow 27]

theorem cut_record_passes_for_other_cid :
    ¬ Agrees (run cutWrites) (run cutWrites) 2048 := by
  intro agrees
  have listed := agrees.readyOnly (by decide +kernel)
  have begun : (run cutWrites).begun = [ready 20480] := rfl
  rw [begun, List.mem_singleton] at listed
  simp [ready] at listed

end Bscp.PayloadEvidence
