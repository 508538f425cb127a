import Bscp.Json
import Bscp.Lines
import Bscp.Machine

/-!
`host_lifecycle_trace::Trace` and the lines that the host process records in it.
A record grows in the file by any number of characters at a time, and the write
may fail behind any of them. Every line is ASCII, so characters are counted where
the source counts bytes.
-/

namespace Bscp.HostTrace

inductive Phase where
  | bound
  | retired
  deriving DecidableEq, Repr

def Phase.text : Phase → Text
  | .bound => "bound".toList
  | .retired => "retired".toList

theorem Phase.text_bound : Phase.bound.text = ['b', 'o', 'u', 'n', 'd'] := String.toList_ofList

theorem Phase.text_retired : Phase.retired.text = ['r', 'e', 't', 'i', 'r', 'e', 'd'] :=
  String.toList_ofList

structure Row where
  phase : Phase
  cid : Nat
  pid : Nat
  dev : Nat
  ino : Nat
  uid : Nat
  deriving DecidableEq, Repr

def heading : Text := "guestRpcEndpoint ".toList

/-- `serde_json` writes the members of an object in the order of their keys. -/
def Row.fields (row : Row) : List (Text × Json.Field) :=
  [("cid".toList, .nat row.cid), ("dev".toList, .nat row.dev), ("ino".toList, .nat row.ino),
    ("phase".toList, .word row.phase.text), ("pid".toList, .nat row.pid),
    ("uid".toList, .nat row.uid)]

/-- `aidl::DeathReason`, a number of the wire with names for some of its values. -/
structure DeathReason where
  value : Int
  deriving DecidableEq, Repr

inductive Notice where
  | payloadReady (cid : Nat)
  | payloadFinished (cid : Nat) (exitCode : Int)
  | died (cid : Nat) (reason : DeathReason)

def digits (number : Nat) : Text := Nat.toDigits 10 number

def signed : Int → Text
  | .ofNat number => digits number
  | .negSucc number => '-' :: digits (number + 1)

def DeathReason.shutdown : DeathReason := ⟨3⟩

def deathReasons : List (Int × Text) :=
  [(0, "r#INFRASTRUCTURE_ERROR".toList), (1, "r#KILLED".toList), (2, "r#UNKNOWN".toList),
    (3, "r#SHUTDOWN".toList), (4, "r#START_FAILED".toList), (5, "r#REBOOT".toList),
    (6, "r#CRASH".toList), (7, "r#PVM_FIRMWARE_PUBLIC_KEY_MISMATCH".toList),
    (8, "r#PVM_FIRMWARE_INSTANCE_IMAGE_CHANGED".toList),
    (11, "r#MICRODROID_FAILED_TO_CONNECT_TO_VIRTUALIZATION_SERVICE".toList),
    (12, "r#MICRODROID_PAYLOAD_HAS_CHANGED".toList),
    (13, "r#MICRODROID_PAYLOAD_VERIFICATION_FAILED".toList),
    (14, "r#MICRODROID_INVALID_PAYLOAD_CONFIG".toList),
    (15, "r#MICRODROID_UNKNOWN_RUNTIME_ERROR".toList), (16, "r#HANGUP".toList),
    (17, "r#WATCHDOG_REBOOT".toList), (18, "r#HOST_SHUTDOWN".toList)]

/-- `{reason:?}` as `declare_binder_enum` prints it. -/
def DeathReason.debug (reason : DeathReason) : Text :=
  match deathReasons.find? fun entry => entry.1 == reason.value with
  | some entry => entry.2
  | none => signed reason.value

/-- What `callback_on_died` prints for a reason. -/
def DeathReason.text (reason : DeathReason) : Text :=
  if reason = .shutdown then "r#SHUTDOWN".toList else reason.debug

def Notice.text : Notice → Text
  | .payloadReady cid => "notifyPayloadReady cid=".toList ++ digits cid
  | .payloadFinished cid exitCode =>
      "notifyPayloadFinished cid=".toList ++ digits cid ++ " exit_code=".toList ++ signed exitCode
  | .died cid reason =>
      "callback_on_died cid=".toList ++ digits cid ++ " reason=".toList ++ reason.text

inductive Line where
  | notice (notice : Notice)
  | event (row : Row)

def Line.text : Line → Text
  | .notice said => said.text
  | .event row => heading ++ Json.renderFlat row.fields

def limit : Nat := 8 * 1024 * 1024

/-- The call of `append` that holds the lock, and what of its line is not in the
file yet. -/
structure Append where
  line : Text
  left : Text
  deriving DecidableEq, Repr

structure Trace where
  file : Text := []
  bytes : Nat := 0
  failed : Bool := false
  writing : Option Append := none
  deriving DecidableEq, Repr

namespace Trace

/-- The start of `append`, up to `write_all`. -/
def append (trace : Trace) (line : Text) : Trace :=
  if trace.failed then trace
  else if line.getLast? ≠ some '\n' ∨ '\n' ∈ line.dropLast ∨ limit < trace.bytes + line.length then
    { trace with failed := true }
  else { trace with writing := some ⟨line, line⟩ }

def grow (trace : Trace) (count : Nat) : Trace :=
  match trace.writing with
  | some ⟨line, left⟩ =>
      { trace with file := trace.file ++ left.take count, writing := some ⟨line, left.drop count⟩ }
  | none => trace

def written (trace : Trace) : Trace :=
  match trace.writing with
  | some ⟨line, []⟩ => { trace with bytes := trace.bytes + line.length, writing := none }
  | _ => trace

def writeFails (trace : Trace) : Trace :=
  match trace.writing with
  | some _ => { trace with failed := true, writing := none }
  | none => trace

end Trace

/-- What can happen to the trace: a thread that holds the lock records a line, the
file shows more of it, and the call returns or fails. -/
inductive Write where
  | record (line : Line)
  | grow (count : Nat)
  | written
  | writeFails

/-- `record`: the lock is free, or the caller waits. -/
def Trace.record (trace : Trace) (line : Line) : Trace :=
  match trace.writing with
  | some _ => trace
  | none => trace.append (line.text ++ ['\n'])

def Trace.step (trace : Trace) : Write → Trace
  | .record line => trace.record line
  | .grow count => trace.grow count
  | .written => trace.written
  | .writeFails => trace.writeFails

section Lines

open Lines

def printable (char : Char) : Bool := decide (32 ≤ char.toNat ∧ char.toNat < 127)

theorem printable_digits (number : Nat) : (digits number).all printable = true := by
  refine List.all_eq_true.mpr fun char member => ?_
  have digit : char.isDigit = true := Json.digit_toDigits member
  simp only [Char.isDigit, Bool.and_eq_true, decide_eq_true_eq, ge_iff_le] at digit
  have low : 48 ≤ char.toNat := digit.1
  have high : char.toNat ≤ 57 := digit.2
  exact decide_eq_true ⟨by omega, by omega⟩

theorem printable_signed (number : Int) : (signed number).all printable = true := by
  cases number with
  | ofNat number => exact printable_digits number
  | negSucc number =>
      rw [signed, List.all_cons, printable_digits]
      rfl

theorem printable_deathReason (reason : DeathReason) : reason.text.all printable = true := by
  have table : ∀ entry ∈ deathReasons, entry.2.all printable = true := by
    unfold deathReasons
    repeat rw [String.toList_ofList]
    decide
  unfold DeathReason.text
  split
  case isTrue _ =>
      rw [String.toList_ofList]
      decide
  case isFalse _ =>
      unfold DeathReason.debug
      split
      case h_1 entry found => exact table entry (List.mem_of_find?_eq_some found)
      case h_2 _ => exact printable_signed reason.value

theorem Line.printed (line : Line) : line.text.all printable = true := by
  cases line with
  | notice said =>
      cases said with
      | payloadReady cid =>
          change ("notifyPayloadReady cid=".toList ++ digits cid).all printable = true
          rw [List.all_append, printable_digits, String.toList_ofList]
          decide
      | payloadFinished cid exitCode =>
          change ("notifyPayloadFinished cid=".toList ++ digits cid ++ " exit_code=".toList ++
            signed exitCode).all printable = true
          rw [List.all_append, List.all_append, List.all_append, printable_digits, printable_signed]
          repeat rw [String.toList_ofList]
          decide
      | died cid reason =>
          change ("callback_on_died cid=".toList ++ digits cid ++ " reason=".toList ++
            reason.text).all printable = true
          rw [List.all_append, List.all_append, List.all_append, printable_digits,
            printable_deathReason]
          repeat rw [String.toList_ofList]
          decide
  | event row =>
      have word : row.phase.text.all printable = true := by
        cases row.phase
        · rw [Phase.text_bound]
          decide
        · rw [Phase.text_retired]
          decide
      have start : heading = _ := String.toList_ofList
      have numbers := fun number : Nat => printable_digits number
      simp only [digits] at numbers
      simp only [Line.text, Json.renderFlat, Row.fields, Json.renderMembers, Json.Field.render,
        List.all_append, List.all_cons, numbers, word]
      rw [start]
      repeat rw [String.toList_ofList]
      decide

theorem unbroken_of_printed {text : Text} (printed : text.all printable = true) :
    Unbroken text := by
  intro char member
  have range := of_decide_eq_true (List.all_eq_true.mp printed char member)
  simp only [isLineBreak, decide_eq_false_iff_not]
  omega

theorem Line.newline_not_mem (line : Line) : '\n' ∉ line.text := by
  intro member
  have whole := unbroken_of_printed line.printed _ member
  simp [isLineBreak] at whole

/-- A line of the trace passes the form check of `append`. -/
theorem Line.wellFormed (line : Line) : (line.text ++ ['\n']).getLast? = some '\n' ∧
    '\n' ∉ (line.text ++ ['\n']).dropLast := by
  constructor
  · simp
  · simpa using line.newline_not_mem

def fileText (lines : List Line) : Text := unlines (lines.map Line.text)

theorem fileText_append (lines : List Line) (line : Line) :
    fileText (lines ++ [line]) = fileText lines ++ (line.text ++ ['\n']) := by
  simp [fileText]

end Lines

/-- What stands behind the complete lines of the file: nothing, the beginning of a
line that is still being written, or one whose write has failed. -/
inductive Tail where
  | clean
  | under (line : Line)
  | broken (line : Line)

def Tail.Fits (trace : Trace) (torn : Text) : Tail → Prop
  | .clean => torn = [] ∧
      ((trace.writing = none ∧ (trace.failed = false → trace.bytes = trace.file.length)) ∨
        ∃ line : Line, trace.writing = some ⟨line.text ++ ['\n'], []⟩ ∧ trace.failed = false ∧
          trace.file.length = trace.bytes + (line.text ++ ['\n']).length)
  | .under line => trace.failed = false ∧ ∃ left, left ≠ [] ∧
      trace.writing = some ⟨line.text ++ ['\n'], left⟩ ∧ torn ++ left = line.text ++ ['\n'] ∧
      trace.file.length + left.length = trace.bytes + (line.text ++ ['\n']).length ∧
      trace.file.length + left.length ≤ limit
  | .broken line => trace.writing = none ∧ trace.failed = true ∧ torn <+: line.text

structure Sound (trace : Trace) (lines : List Line) (tail : Tail) (torn : Text) : Prop where
  file : trace.file = fileText lines ++ torn
  unbroken : '\n' ∉ torn
  bounded : trace.file.length ≤ limit
  fits : tail.Fits trace torn

inductive Follows (write : Write) (lines : List Line) (tail : Tail) (torn : Text) :
    List Line → Tail → Text → Prop
  | same : Follows write lines tail torn lines tail torn
  | opened (line : Line) (clean : tail = .clean) (what : write = .record line) :
      Follows write lines tail torn lines (.under line) []
  | grown (line : Line) (count : Nat) (more : Text) (under : tail = .under line)
      (what : write = .grow count) : Follows write lines tail torn lines tail more
  | completed (line : Line) (count : Nat) (under : tail = .under line)
      (what : write = .grow count) : Follows write lines tail torn (lines ++ [line]) .clean []
  | broke (line : Line) (under : tail = .under line) (what : write = .writeFails) :
      Follows write lines tail torn lines (.broken line) torn

section Steps

variable {trace : Trace} {lines : List Line} {tail : Tail} {torn : Text}

theorem Sound.start : Sound {} [] .clean [] where
  file := rfl
  unbroken := by simp
  bounded := Nat.zero_le _
  fits := ⟨rfl, .inl ⟨rfl, fun _ => rfl⟩⟩

/-- With the lock free, a tail is clean or was left by a failed write. -/
theorem Sound.free (sound : Sound trace lines tail torn) (free : trace.writing = none) :
    (tail = .clean ∧ torn = [] ∧ (trace.failed = false → trace.bytes = trace.file.length)) ∨
      trace.failed = true := by
  obtain ⟨_, _, _, fits⟩ := sound
  cases tail with
  | clean =>
      obtain ⟨empty, ⟨_, counted⟩ | ⟨line, busy, _⟩⟩ := fits
      · exact .inl ⟨rfl, empty, counted⟩
      · rw [free] at busy
        cases busy
  | under line =>
      obtain ⟨_, left, _, busy, _⟩ := fits
      rw [free] at busy
      cases busy
  | broken line => exact .inr fits.2.1

theorem Sound.record (sound : Sound trace lines tail torn) (line : Line) :
    ∃ lines' tail' torn', Sound (trace.record line) lines' tail' torn' ∧
      Follows (.record line) lines tail torn lines' tail' torn' := by
  unfold Trace.record
  split
  case h_1 _ _ => exact ⟨_, _, _, sound, .same⟩
  case h_2 free =>
      unfold Trace.append
      rcases Bool.eq_false_or_eq_true trace.failed with failed | fine
      · exact ⟨_, _, _, by simpa [failed] using sound, .same⟩
      · obtain ⟨rfl, rfl, counted⟩ | failed := sound.free free
        · obtain ⟨ended, single⟩ := line.wellFormed
          rw [if_neg (by simp [fine])]
          split
          case isTrue refused =>
              exact ⟨lines, .clean, [], ⟨sound.file, sound.unbroken, sound.bounded, rfl,
                .inl ⟨free, by simp⟩⟩, .same⟩
          case isFalse accepted =>
              have room : trace.bytes + (line.text ++ ['\n']).length ≤ limit := by
                rw [not_or, not_or] at accepted
                exact Nat.not_lt.mp accepted.2.2
              have size := counted fine
              refine ⟨lines, .under line, [], ⟨sound.file, sound.unbroken, sound.bounded, fine,
                line.text ++ ['\n'], by simp, rfl, rfl, ?_, ?_⟩, .opened line rfl rfl⟩
              · exact congrArg (· + _) size.symm
              · exact Nat.le_trans (Nat.le_of_eq (congrArg (· + _) size.symm)) room
        · rw [fine] at failed
          cases failed

/-- A line that gets the lock is refused, or all of it is still to be written. -/
theorem Trace.record_free (free : trace.writing = none) (line : Line) :
    (trace.record line).writing = none ∨
      (trace.record line).writing = some ⟨line.text ++ ['\n'], line.text ++ ['\n']⟩ := by
  rw [Trace.record, free]
  unfold Trace.append
  simp only
  split
  case isTrue _ => exact .inl free
  case isFalse _ =>
      split
      case isTrue _ => exact .inl free
      case isFalse _ => exact .inr rfl

/-- What is short of the newline is a part of the line alone. -/
theorem prefix_of_short {front left text : Text} (split : front ++ left = text ++ ['\n'])
    (short : left ≠ []) : front <+: text := by
  have whole : front <+: text ++ ['\n'] := ⟨left, split⟩
  have size := congrArg List.length split
  have positive := List.length_pos_of_ne_nil short
  simp only [List.length_append, List.length_cons, List.length_nil] at size
  exact List.prefix_of_prefix_length_le whole (List.prefix_append _ _) (by omega)

theorem newline_not_mem_of_prefix {front : Text} {line : Line} (part : front <+: line.text) :
    '\n' ∉ front := fun member => line.newline_not_mem (part.subset member)

/-- With the lock free nothing is written and nothing fails. -/
theorem Trace.still (free : trace.writing = none) :
    trace.grow = (fun _ => trace) ∧ trace.written = trace ∧ trace.writeFails = trace := by
  refine ⟨funext fun count => ?_, ?_, ?_⟩
  · rw [Trace.grow, free]
  · rw [Trace.written, free]
  · rw [Trace.writeFails, free]

theorem Trace.grow_busy {line left : Text} (busy : trace.writing = some ⟨line, left⟩)
    (count : Nat) : trace.grow count =
      { trace with file := trace.file ++ left.take count, writing := some ⟨line, left.drop count⟩ } := by
  rw [Trace.grow, busy]

theorem Sound.grow (sound : Sound trace lines tail torn) (count : Nat) :
    ∃ lines' tail' torn', Sound (trace.grow count) lines' tail' torn' ∧
      Follows (.grow count) lines tail torn lines' tail' torn' := by
  have fits := sound.fits
  cases tail with
  | clean =>
      refine ⟨lines, .clean, torn, ?_, .same⟩
      obtain ⟨empty, ⟨free, _⟩ | ⟨line, busy, fine, size⟩⟩ := fits
      · rw [(Trace.still free).1]
        exact sound
      · -- All of the line is in the file and only the return is outstanding.
        have still : trace.grow count = trace := by
          cases trace
          simp_all [Trace.grow]
        rw [still]
        exact sound
  | under line =>
      obtain ⟨fine, left, short, busy, split, size, room⟩ := fits
      have shown : (left.take count).length + (left.drop count).length = left.length := by
        rw [← List.length_append, List.take_append_drop]
      rw [Trace.grow_busy busy]
      by_cases whole : left.drop count = []
      · have all : left.take count = left := by
          simpa [whole] using List.take_append_drop count left
        refine ⟨lines ++ [line], .clean, [], ⟨?_, by simp, ?_, rfl, .inr ⟨line, ?_, fine, ?_⟩⟩,
          .completed line count rfl rfl⟩
        · simp only [all]
          rw [fileText_append, sound.file, List.append_assoc, split, List.append_nil]
        · simp only [all, List.length_append]
          exact room
        · simp only [whole]
        · simp only [all]
          rw [List.length_append]
          exact size
      · have onward : (torn ++ left.take count) ++ left.drop count = line.text ++ ['\n'] := by
          rw [List.append_assoc, List.take_append_drop, split]
        have longer : (trace.file ++ left.take count).length + (left.drop count).length =
            trace.file.length + left.length := by
          rw [List.length_append]
          omega
        refine ⟨lines, .under line, torn ++ left.take count, ⟨?_, ?_, ?_, fine, left.drop count,
          whole, rfl, onward, longer.trans size, ?_⟩, .grown line count _ rfl rfl⟩
        · simp only [sound.file, List.append_assoc]
        · exact newline_not_mem_of_prefix (prefix_of_short onward whole)
        · simp only
          omega
        · simp only
          omega
  | broken line =>
      refine ⟨lines, .broken line, torn, ?_, .same⟩
      rw [(Trace.still fits.1).1]
      exact sound

theorem Sound.written (sound : Sound trace lines tail torn) :
    ∃ lines' tail' torn', Sound trace.written lines' tail' torn' ∧
      Follows .written lines tail torn lines' tail' torn' := by
  refine ⟨lines, tail, torn, ?_, .same⟩
  have fits := sound.fits
  cases tail with
  | clean =>
      obtain ⟨empty, ⟨free, counted⟩ | ⟨line, busy, fine, size⟩⟩ := fits
      · rw [(Trace.still free).2.1]
        exact sound
      · have returned : trace.written =
            { trace with
              bytes := trace.bytes + (line.text ++ ['\n']).length
              writing := none } := by
          rw [Trace.written, busy]
        rw [returned]
        exact ⟨sound.file, sound.unbroken, sound.bounded, empty, .inl ⟨rfl, fun _ => size.symm⟩⟩
  | under line =>
      obtain ⟨fine, left, short, busy, rest⟩ := fits
      have waiting : trace.written = trace := by
        cases left with
        | nil => exact absurd rfl short
        | cons char left => rw [Trace.written, busy]
      rw [waiting]
      exact sound
  | broken line =>
      rw [(Trace.still fits.1).2.1]
      exact sound

theorem Sound.writeFails (sound : Sound trace lines tail torn) :
    ∃ lines' tail' torn', Sound trace.writeFails lines' tail' torn' ∧
      Follows .writeFails lines tail torn lines' tail' torn' := by
  have fits := sound.fits
  have failing : ∀ append, trace.writing = some append →
      trace.writeFails = { trace with failed := true, writing := none } := by
    intro append busy
    rw [Trace.writeFails, busy]
  cases tail with
  | clean =>
      refine ⟨lines, .clean, torn, ?_, .same⟩
      obtain ⟨empty, ⟨free, counted⟩ | ⟨line, busy, fine, size⟩⟩ := fits
      · rw [(Trace.still free).2.2]
        exact sound
      · rw [failing _ busy]
        exact ⟨sound.file, sound.unbroken, sound.bounded, empty, .inl ⟨rfl, by simp⟩⟩
  | under line =>
      obtain ⟨fine, left, short, busy, split, rest⟩ := fits
      refine ⟨lines, .broken line, torn, ?_, .broke line rfl rfl⟩
      rw [failing _ busy]
      exact ⟨sound.file, sound.unbroken, sound.bounded, rfl, rfl, prefix_of_short split short⟩
  | broken line =>
      refine ⟨lines, .broken line, torn, ?_, .same⟩
      rw [(Trace.still fits.1).2.2]
      exact sound

theorem Sound.step (sound : Sound trace lines tail torn) (write : Write) :
    ∃ lines' tail' torn', Sound (trace.step write) lines' tail' torn' ∧
      Follows write lines tail torn lines' tail' torn' := by
  cases write with
  | record line => exact sound.record line
  | grow count => exact sound.grow count
  | written => exact sound.written
  | writeFails => exact sound.writeFails

end Steps

end Bscp.HostTrace
