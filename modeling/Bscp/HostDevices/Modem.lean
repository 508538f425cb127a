import Bscp.Lifecycle.HostTrace
import Bscp.Packets
import Bscp.Python
import Mathlib.Data.Nat.Digits.Defs

/-!
The AT modem of the host (`AtModem` of `modem_simulator_windows.py`). A command line is looked up
whole, or cut into parts that are looked up one by one. A handler gives the lines of its answer,
the last of which is a final result, or raises when it converts too long a number.
-/

namespace Bscp.HostDevices.Modem

open HostTrace (digits)

/-- What the tables of Unicode say: `str.upper`, and the value of a decimal digit. -/
structure Tables where
  upper : Text → Text
  decimal : Char → Option (Fin 10)

/-- The most digits that `int` converts, and that `str` shows of a number. -/
def INT_MAX_STR_DIGITS : Nat := 4300

structure Converted where
  value : Nat
  short : value < 10 ^ INT_MAX_STR_DIGITS
  deriving DecidableEq, Repr

def Converted.zero : Converted where
  value := 0
  short := Nat.pow_pos (by decide)

def NET_REGISTRATION_HOME : Nat := 1
def M_MODEM_TECH_LTE : Nat := 14
def K_AREA_CODE : Text := "2142".toList
def K_CELL_ID : Text := "0000B804".toList
def DEFAULT_IMEI : Text := "867400022047199".toList
def DEFAULT_IMSI : Text := "311740010000001".toList
def DEFAULT_ICCID : Text := "89014103211118510720".toList
def DEFAULT_OPERATOR_NUMERIC : Text := "311740".toList
def DEFAULT_OPERATOR_LONG : Text := "Android Virtual Operator".toList
def DEFAULT_OPERATOR_SHORT : Text := "Android".toList
def CME_NOT_SUPPORTED : Text := "+CME ERROR: 4".toList
def OK : Text := "OK".toList

def normalizeCommand (tables : Tables) (command : Text) : Text :=
  let command := (tables.upper (strip command)).filter (· ≠ '\n')
  if "AT".toList.isPrefixOf command then command.drop 2 else command

structure PdpContext where
  cid : Converted
  active : Bool := true
  ipType : Text := "IP".toList
  apn : Text := []
  address : Text := []
  gateway : Text := []
  dns : Text := []
  deriving DecidableEq, Repr

structure ModemState where
  rilAddress : Text
  rilGateway : Text
  rilDns : Text
  radioOn : Bool := false
  voiceReg : Nat := NET_REGISTRATION_HOME
  dataReg : Nat := NET_REGISTRATION_HOME
  cregMode : Converted := .zero
  cgregMode : Converted := .zero
  ceregMode : Converted := .zero
  pdpContexts : Dict Nat PdpContext := []
  deriving DecidableEq, Repr

abbrev Handler := ModemState → Except Fault (List Text) × ModemState

def always (answer : List Text) : Handler := fun state => (.ok answer, state)

def line (start : String) (rest : List Text) : Text := start.toList ++ rest.flatten

def behind (start text : Text) : Option Text :=
  if start.isPrefixOf text then some (text.drop start.length) else none

/-- `re.search`: the first place at which the pattern fits. -/
def search {α : Type} (pattern : Text → Option α) : Text → Option α
  | [] => pattern []
  | char :: rest =>
      match pattern (char :: rest) with
      | some found => some found
      | none => search pattern rest

def unquoted (text : Text) : Text :=
  ((text.dropWhile (· == '"')).reverse.dropWhile (· == '"')).reverse

section Handlers

variable (tables : Tables)

def number (text : Text) : Option (Text × Text) :=
  let shown := text.takeWhile fun char => (tables.decimal char).isSome
  if shown = [] then none else some (shown, text.drop shown.length)

def searchNumber (start : String) (command : Text) : Option Text :=
  search (fun text => (behind start.toList text).bind fun rest => (number tables rest).map Prod.fst)
    command

def valueOf (shown : Text) : Nat :=
  Nat.ofDigits 10 ((shown.filterMap tables.decimal).map Fin.val).reverse

theorem valueOf_short {shown : Text} (short : shown.length ≤ INT_MAX_STR_DIGITS) :
    valueOf tables shown < 10 ^ INT_MAX_STR_DIGITS := by
  have below : ∀ digit ∈ ((shown.filterMap tables.decimal).map Fin.val).reverse, digit < 10 := by
    intro digit member
    obtain ⟨figure, _, rfl⟩ := List.mem_map.mp (List.mem_reverse.mp member)
    exact figure.isLt
  have few := List.length_filterMap_le tables.decimal shown
  have bound := Nat.ofDigits_lt_base_pow_length (by decide) below
  rw [List.length_reverse, List.length_map] at bound
  exact Nat.lt_of_lt_of_le bound (Nat.pow_le_pow_right (by decide) (by omega))

def int (shown : Text) : Except Fault Converted :=
  if short : shown.length ≤ INT_MAX_STR_DIGITS then
    .ok ⟨valueOf tables shown, valueOf_short tables short⟩
  else .error ⟨.valueError, "Exceeds the limit (4300 digits) for integer string conversion"⟩

/-- What a handler does with the number it converts. -/
def converting (shown : Text) (next : Converted → Handler) : Handler := fun state =>
  match int tables shown with
  | .error fault => (.error fault, state)
  | .ok value => next value state

def handlePing : Handler := fun state => (.ok [OK], state)

def handleOk (_command : Text) : Handler := fun state => (.ok [OK], state)

def handleCfunQuery : Handler := fun state =>
  (.ok [line "+CFUN: " [digits (if state.radioOn then 1 else 0)], OK], state)

def handleCfunSet (command : Text) : Handler :=
  match searchNumber tables "+CFUN=" command with
  | none => always [CME_NOT_SUPPORTED]
  | some shown => converting tables shown fun mode state =>
      if mode.value = 0 then
        (.ok [OK], { state with radioOn := false, voiceReg := 0, dataReg := 0 })
      else if mode.value = 1 then
        (.ok [OK], { state with radioOn := true, voiceReg := NET_REGISTRATION_HOME,
                                dataReg := NET_REGISTRATION_HOME })
      else (.ok [CME_NOT_SUPPORTED], state)

def registeredSuffix (state : ModemState) : List Text :=
  if state.voiceReg = NET_REGISTRATION_HOME ∨ state.voiceReg = 5 then
    [",\"".toList, K_AREA_CODE, "\",\"".toList, K_CELL_ID, "\",1".toList]
  else []

def dataSuffix (state : ModemState) : List Text :=
  if state.dataReg = NET_REGISTRATION_HOME ∨ state.dataReg = 5 then
    [",\"".toList, K_AREA_CODE, "\",\"".toList, K_CELL_ID, "\",".toList, digits M_MODEM_TECH_LTE]
  else []

def registration (start : String) (query : String) (told : ModemState → List Text)
    (set : ModemState → Converted → ModemState) (command : Text) : Handler :=
  if command.getLast? = some '?' then fun state => (.ok [line query (told state), OK], state)
  else
    match searchNumber tables start command with
    | some shown => converting tables shown fun mode state => (.ok [OK], set state mode)
    | none => always [CME_NOT_SUPPORTED]

def handleCreg : Text → Handler :=
  registration tables "+CREG=" "+CREG: "
    (fun state => digits state.cregMode.value :: ",".toList :: digits state.voiceReg ::
      registeredSuffix state)
    (fun state mode => { state with cregMode := mode })

def handleCgreg : Text → Handler :=
  registration tables "+CGREG=" "+CGREG: "
    (fun state => digits state.cgregMode.value :: ",".toList :: digits state.dataReg :: dataSuffix state)
    (fun state mode => { state with cgregMode := mode })

def handleCereg : Text → Handler :=
  registration tables "+CEREG=" "+CEREG: "
    (fun state => digits state.ceregMode.value :: ",".toList :: digits state.dataReg :: dataSuffix state)
    (fun state mode => { state with ceregMode := mode })

def handleCopsQuery : Handler := fun state =>
  if !state.radioOn then (.ok ["+COPS: 0,0,0".toList, OK], state)
  else (.ok [line "+COPS: 0,2," [DEFAULT_OPERATOR_NUMERIC], OK], state)

def handleCopsRequestOperator : Handler := fun state =>
  if !state.radioOn then (.ok [CME_NOT_SUPPORTED], state)
  else
    (.ok [line "+COPS: 0,0," [DEFAULT_OPERATOR_LONG], line "+COPS: 0,1," [DEFAULT_OPERATOR_SHORT],
      line "+COPS: 0,2," [DEFAULT_OPERATOR_NUMERIC], OK], state)

def handleCopsScan : Handler := fun state =>
  if !state.radioOn then (.ok [CME_NOT_SUPPORTED], state)
  else
    (.ok [line "+COPS: (2,\"" [DEFAULT_OPERATOR_LONG, "\",\"".toList, DEFAULT_OPERATOR_SHORT,
      "\",\"".toList, DEFAULT_OPERATOR_NUMERIC, "\",".toList, digits M_MODEM_TECH_LTE,
      "),".toList], OK], state)

def handleCopsSet (command : Text) : Handler := fun state =>
  if "+COPS=3,".toList.isPrefixOf command then (.ok [OK], state) else (.ok [OK], state)

def handleCsq : Handler := fun state =>
  (.ok [
    "+CSQ: 20,99,120,120,120,120,120,120,20,95,10,120,120,120,120,120,120,120,120,120,120".toList,
    OK], state)

def handleCgsn (command : Text) : Handler := fun state =>
  if command = "+CGSN".toList then (.ok [DEFAULT_IMEI, OK], state)
  else (.ok [DEFAULT_IMEI, OK], state)

def handleCpinSet (_command : Text) : Handler := fun state => (.ok [OK], state)

def handleClck (command : Text) : Handler := fun state =>
  let fields := command.splitOn ','
  if 2 ≤ fields.length ∧ strip (fields.getD 1 []) = ['2'] then
    (.ok ["+CLCK: 0".toList, OK], state)
  else (.ok [OK], state)

/-- `\+CGDCONT=(\d+),([^,]*),([^,]*)`. -/
def contextPattern (command : Text) : Option (Text × Text × Text) := do
  let rest ← behind "+CGDCONT=".toList command
  let (shown, rest) ← number tables rest
  let rest ← behind [','] rest
  let first := rest.takeWhile (· ≠ ',')
  let rest ← behind [','] (rest.drop first.length)
  return (shown, first, rest.takeWhile (· ≠ ','))

def handleCgdcontSet (command : Text) : Handler :=
  match contextPattern tables command with
  | none => always [CME_NOT_SUPPORTED]
  | some (shown, first, second) => converting tables shown fun cid state =>
      let ipType := unquoted first
      let context : PdpContext :=
        { cid := cid
          ipType := if ipType = [] then "IP".toList else ipType
          apn := unquoted second
          address := state.rilAddress
          gateway := state.rilGateway
          dns := state.rilDns }
      (.ok [OK], { state with pdpContexts := state.pdpContexts.put cid.value context })

def handleCgdcontQuery : Handler := fun state =>
  (.ok ((state.pdpContexts.map fun entry =>
    line "+CGDCONT: " [digits entry.2.cid.value, [','], entry.2.ipType, [','], entry.2.apn,
      [','], entry.2.address, ",0,0".toList]) ++ [OK]), state)

def handleCgactSet (_command : Text) : Handler := fun state => (.ok [OK], state)

def handleCgactQuery : Handler := fun state =>
  (.ok (((state.pdpContexts.filter fun entry => entry.2.active).map fun entry =>
    line "+CGACT: " [digits entry.2.cid.value, ",1".toList]) ++ [OK]), state)

def handleCgcontrdp (command : Text) : Handler :=
  match searchNumber tables "+CGCONTRDP=" command with
  | none => always [CME_NOT_SUPPORTED]
  | some shown => converting tables shown fun cid state =>
      match state.pdpContexts.find cid.value with
      | none => (.ok ["+CME ERROR: 21".toList], state)
      | some context =>
          if !context.active then (.ok ["+CME ERROR: 21".toList], state)
          else
            (.ok [line "+CGCONTRDP: " [digits context.cid.value, ",5,".toList, context.apn,
              [','], context.address, [','], context.gateway, [','], context.dns], OK], state)

/-- `\+CGDATA=[^,]*,(\d+)`. -/
def dataPattern (text : Text) : Option Text := do
  let rest ← behind "+CGDATA=".toList text
  let rest ← behind [','] (rest.dropWhile (· ≠ ','))
  let (shown, _) ← number tables rest
  return shown

def handleCgdata (command : Text) : Handler :=
  match search (dataPattern tables) command with
  | none => always ["ERROR".toList]
  | some shown => converting tables shown fun cid state =>
      if (state.pdpContexts.find cid.value).isSome then (.ok ["CONNECT".toList], state)
      else (.ok ["ERROR".toList], state)

def handleDial (command : Text) : Handler := fun state =>
  if ['D'].isPrefixOf command ∧ ¬ "D*99".toList.isPrefixOf command then (.ok [OK], state)
  else (.ok [OK], state)

def startHandlers : List (Text × (Text → Handler)) :=
  [("+CFUN=".toList, handleCfunSet tables),
    ("+CREG".toList, handleCreg tables),
    ("+CGREG".toList, handleCgreg tables),
    ("+CEREG".toList, handleCereg tables),
    ("+COPS=".toList, handleCopsSet),
    ("+CGDCONT=".toList, handleCgdcontSet tables),
    ("+CGACT=".toList, handleCgactSet),
    ("+CGCONTRDP".toList, handleCgcontrdp tables),
    ("+CGDATA".toList, handleCgdata tables),
    ("+CGSN".toList, handleCgsn),
    ("+CPIN=".toList, handleCpinSet),
    ("+CRSM=".toList, handleOk),
    ("+CSIM=".toList, handleOk),
    ("+CLCK=".toList, handleClck),
    ("+CCHO=".toList, handleOk),
    ("+CCHC=".toList, handleOk),
    ("+CGLA=".toList, handleOk),
    ("+CPWD=".toList, handleOk),
    ("+CPINR=".toList, handleOk),
    ("+CHLD=".toList, handleOk),
    ("+VTS=".toList, handleOk),
    ("+CUSD=".toList, handleOk),
    ("D".toList, handleDial)]

end Handlers

def exactHandlers : Dict Text Handler :=
  [([], handlePing),
    ("+CFUN?".toList, handleCfunQuery),
    ("+CPIN?".toList, always ["+CPIN: READY".toList, OK]),
    ("+COPS?".toList, handleCopsQuery),
    ("+COPS=3,0;+COPS?;+COPS=3,1;+COPS?;+COPS=3,2;+COPS?".toList, handleCopsRequestOperator),
    ("+COPS=?".toList, handleCopsScan),
    ("+CSQ".toList, handleCsq),
    ("+CIMI".toList, always [DEFAULT_IMSI, OK]),
    ("+CICCID".toList, always [DEFAULT_ICCID, OK]),
    ("+CGDCONT?".toList, handleCgdcontQuery),
    ("+CGACT?".toList, handleCgactQuery),
    ("+CGSN".toList, always [DEFAULT_IMEI, OK]),
    ("+CMEE=1".toList, handleOk []),
    ("+CMOD=0".toList, handleOk []),
    ("+CSSN=0,1".toList, handleOk []),
    ("+COLP=0".toList, handleOk []),
    ("+CSCS=\"HEX\"".toList, handleOk []),
    ("+CMGF=0".toList, handleOk []),
    ("+CGQREQ=1".toList, handleOk []),
    ("+CGQMIN=1".toList, handleOk []),
    ("+CGEREP=1,0".toList, handleOk []),
    ("+WSOS=0".toList, handleOk []),
    ("E0Q0V1".toList, handleOk []),
    ("S0=0".toList, handleOk []),
    ("D*99***1#".toList, handleOk []),
    ("+CTEC?".toList, always [line "+CTEC: " [digits M_MODEM_TECH_LTE], OK]),
    ("+CTEC=?".toList, always [line "+CTEC: (" [digits M_MODEM_TECH_LTE, [')']], OK])]

section Dispatch

variable (tables : Tables)

def dispatchOne (command : Text) : Handler :=
  match exactHandlers.find command with
  | some handler => handler
  | none =>
      match (startHandlers tables).find? fun entry => entry.1.isPrefixOf command with
      | some entry => entry.2 command
      | none =>
          if command.getLast? = some '?' then always [OK]
          else if '=' ∈ command then always [OK]
          else always [CME_NOT_SUPPORTED]

def overParts : List Text → Handler
  | [], state => (.ok [], state)
  | part :: parts, state =>
      let part := strip part
      if part = [] then overParts parts state
      else
        match dispatchOne tables part state with
        | (.error fault, state) => (.error fault, state)
        | (.ok first, state) =>
            let later := overParts parts state
            (later.1.map (first ++ ·), later.2)

def dispatch (rawCommand : Text) : Handler := fun state =>
  let command := normalizeCommand tables rawCommand
  if command = [] then (.ok [OK], state)
  else
    match exactHandlers.find command with
    | some handler => handler state
    | none => overParts tables (command.splitOn ';') state

end Dispatch

/-! Final results. -/

/-- A result code, or a line that begins as an error of the equipment. -/
def isFinal (response : Text) : Bool :=
  response = OK || response = "ERROR".toList || response = "CONNECT".toList ||
    "+CME ERROR".toList.isPrefixOf response

def OneFinal (responses : List Text) : Prop :=
  responses.getLast?.any isFinal = true ∧ ∀ response ∈ responses.dropLast, isFinal response = false

instance (responses : List Text) : Decidable (OneFinal responses) :=
  inferInstanceAs (Decidable (_ ∧ _))

def clear (start : Text) : Bool :=
  [OK, "ERROR".toList, "CONNECT".toList, "+CME ERROR".toList].all fun code =>
    !start.isPrefixOf code && !code.isPrefixOf start

/-- The codes, letter by letter. -/
theorem codes_chars : [OK, "ERROR".toList, "CONNECT".toList, "+CME ERROR".toList] =
    [['O', 'K'], ['E', 'R', 'R', 'O', 'R'], ['C', 'O', 'N', 'N', 'E', 'C', 'T'],
      ['+', 'C', 'M', 'E', ' ', 'E', 'R', 'R', 'O', 'R']] := by
  have ok : OK = _ := String.toList_ofList
  rw [ok]
  repeat rw [String.toList_ofList]

theorem isFinal_of (chars : List Char) : isFinal (String.ofList chars).toList =
    (decide (chars = ['O', 'K']) || decide (chars = ['E', 'R', 'R', 'O', 'R']) ||
      decide (chars = ['C', 'O', 'N', 'N', 'E', 'C', 'T']) ||
        ['+', 'C', 'M', 'E', ' ', 'E', 'R', 'R', 'O', 'R'].isPrefixOf chars) := by
  obtain ⟨ok, others⟩ := List.cons.inj codes_chars
  obtain ⟨error, others⟩ := List.cons.inj others
  obtain ⟨connect, others⟩ := List.cons.inj others
  rw [isFinal, ok, error, connect, (List.cons.inj others).1, String.toList_ofList]

theorem clear_of {chars : List Char}
    (apart : ([['O', 'K'], ['E', 'R', 'R', 'O', 'R'], ['C', 'O', 'N', 'N', 'E', 'C', 'T'],
      ['+', 'C', 'M', 'E', ' ', 'E', 'R', 'R', 'O', 'R']].all fun code =>
        !chars.isPrefixOf code && !code.isPrefixOf chars) = true) :
    clear (String.ofList chars).toList = true := by
  rw [clear, codes_chars, String.toList_ofList]
  exact apart

theorem line_clear {start : String} (rest : List Text) (apart : clear start.toList = true) :
    isFinal (line start rest) = false := by
  have begins : start.toList <+: line start rest := List.prefix_append _ _
  -- A result code that the line is, or begins with, would be comparable with its start.
  have other : ∀ code ∈ [OK, "ERROR".toList, "CONNECT".toList, "+CME ERROR".toList],
      ¬ code <+: line start rest := by
    intro code member inside
    have both := List.all_eq_true.mp apart code member
    simp only [Bool.and_eq_true, Bool.not_eq_true', Bool.eq_false_iff, ne_eq,
      List.isPrefixOf_iff_prefix] at both
    rcases List.prefix_or_prefix_of_prefix begins inside with here | there
    · exact both.1 here
    · exact both.2 there
  have same : ∀ code ∈ [OK, "ERROR".toList, "CONNECT".toList, "+CME ERROR".toList],
      line start rest ≠ code := fun code member equal => other code member ⟨[], by simp [equal]⟩
  have error : "+CME ERROR".toList.isPrefixOf (line start rest) = false :=
    Bool.eq_false_iff.mpr fun found => other _ (by simp) (List.isPrefixOf_iff_prefix.mp found)
  simp only [isFinal, error, Bool.or_false, Bool.or_eq_false_iff, decide_eq_false_iff_not]
  exact ⟨⟨same OK (by simp), same _ (by simp)⟩, same _ (by simp)⟩

namespace OneFinal

theorem single {response : Text} (final : isFinal response = true) : OneFinal [response] :=
  ⟨final, List.forall_mem_nil _⟩

theorem ok : OneFinal [OK] := single ((isFinal_of _).trans rfl)

theorem unsupported : OneFinal [CME_NOT_SUPPORTED] := single ((isFinal_of _).trans rfl)

/-- Lines of information before an answer. -/
theorem behind {information responses : List Text}
    (plain : ∀ response ∈ information, isFinal response = false) (one : OneFinal responses) :
    OneFinal (information ++ responses) := by
  have some_line : responses ≠ [] := by
    rintro rfl
    cases one.1
  constructor
  · rw [List.getLast?_append_of_ne_nil _ some_line]
    exact one.1
  · rw [List.dropLast_append_of_ne_nil some_line]
    intro response member
    rcases List.mem_append.mp member with first | last
    · exact plain response first
    · exact one.2 response last

theorem told {information : List Text} (plain : ∀ response ∈ information, isFinal response = false) :
    OneFinal (information ++ [OK]) := behind plain ok

/-- Answers, each with its own result, are one answer when there is one of them. -/
theorem flatten_iff {answers : List (List Text)} (each : ∀ answer ∈ answers, OneFinal answer) :
    OneFinal answers.flatten ↔ answers.length = 1 := by
  match answers, each with
  | [], _ => simp [OneFinal]
  | [answer], each => simpa using each answer (by simp)
  | first :: second :: rest, each =>
      refine ⟨fun one => ?_, fun one => nomatch one⟩
      obtain ⟨final, _⟩ := each first (by simp)
      obtain ⟨other, _⟩ := each second (by simp)
      obtain ⟨result, last, found⟩ : ∃ result, first.getLast? = some result ∧ isFinal result = true := by
        cases shape : first.getLast? with
        | none => rw [shape] at final; cases final
        | some result => rw [shape] at final; exact ⟨result, rfl, final⟩
      have more : (second :: rest).flatten ≠ [] := by
        intro none
        rw [List.flatten_cons, List.append_eq_nil_iff] at none
        rw [none.1] at other
        cases other
      -- The first result stands before the end.
      have early : result ∈ (first :: second :: rest).flatten.dropLast := by
        rw [List.flatten_cons, List.dropLast_append_of_ne_nil more]
        exact List.mem_append_left _ (List.mem_of_getLast? last)
      rw [one.2 result early] at found
      cases found

end OneFinal

def Legible (shown : Option Text) : Prop := ∀ digits ∈ shown, digits.length ≤ INT_MAX_STR_DIGITS

/-- What comes of a command that gives these digits to `int`: lines with one final result, or an
error when they are too many. -/
def Outcome (shown : Option Text) : Except Fault (List Text) → Prop
  | .ok responses => Legible shown ∧ OneFinal responses
  | .error _ => ¬ Legible shown

theorem legible_none : Legible none := fun _ member => by cases member

theorem legible_some {shown : Text} :
    Legible (some shown) ↔ shown.length ≤ INT_MAX_STR_DIGITS := by
  refine ⟨fun legible => legible shown rfl, fun short digits member => ?_⟩
  cases member
  exact short

namespace Outcome

theorem plain {responses : List Text} (one : OneFinal responses) : Outcome none (.ok responses) :=
  ⟨legible_none, one⟩

theorem ok : Outcome none (.ok [OK]) := plain .ok

theorem unsupported : Outcome none (.ok [CME_NOT_SUPPORTED]) := plain .unsupported

theorem single {response : Text} (final : isFinal response = true) :
    Outcome none (.ok [response]) := plain (.single final)

theorem told {information : List Text} (plain : ∀ response ∈ information, isFinal response = false) :
    Outcome none (.ok (information ++ [OK])) := Outcome.plain (.told plain)

theorem converted {shown : Option Text} {result : Except Fault (List Text)}
    (legible : Legible shown) (outcome : Outcome none result) : Outcome shown result := by
  cases result with
  | error fault => exact absurd legible_none outcome
  | ok responses => exact ⟨legible, outcome.2⟩

end Outcome

def Answers (shown : Option Text) (handler : Handler) : Prop :=
  ∀ state, Outcome shown (handler state).1

namespace Answers

theorem always_ok {information : List Text}
    (plain : ∀ response ∈ information, isFinal response = false) :
    Answers none (always (information ++ [OK])) := fun _ => .told plain

theorem unsupported : Answers none (always [CME_NOT_SUPPORTED]) := fun _ => .unsupported

theorem ok (command : Text) : Answers none (handleOk command) := fun _ => .ok

variable (tables : Tables) (command : Text)

theorem converting {shown : Text} {next : Converted → Handler}
    (each : ∀ value, Answers none (next value)) :
    Answers (some shown) (converting tables shown next) := by
  intro state
  unfold Modem.converting int
  by_cases short : shown.length ≤ INT_MAX_STR_DIGITS
  · rw [dif_pos short]
    exact .converted (legible_some.mpr short) (each _ state)
  · rw [dif_neg short]
    exact fun legible => short (legible_some.mp legible)

theorem cfunSet : Answers (searchNumber tables "+CFUN=" command) (handleCfunSet tables command) := by
  unfold handleCfunSet
  cases searchNumber tables "+CFUN=" command with
  | none => exact .unsupported
  | some shown =>
      refine .converting tables fun mode state => ?_
      split
      · exact .ok
      · split
        · exact .ok
        · exact .unsupported

def registered (start : String) (command : Text) : Option Text :=
  if command.getLast? = some '?' then none else searchNumber tables start command

theorem registration {start query : String} {told : ModemState → List Text}
    {set : ModemState → Converted → ModemState} (apart : clear query.toList = true) :
    Answers (registered tables start command)
      (registration tables start query told set command) := by
  unfold Modem.registration registered
  split
  · exact fun _ => @Outcome.told [_] (by simpa using line_clear _ apart)
  · cases searchNumber tables start command with
    | none => exact .unsupported
    | some shown => exact .converting tables fun _ _ => .ok

theorem copsSet : Answers none (handleCopsSet command) := by
  intro state
  unfold handleCopsSet
  split <;> exact .ok

theorem cgsn : Answers none (handleCgsn command) := by
  intro state
  have plain : isFinal DEFAULT_IMEI = false := (isFinal_of _).trans rfl
  unfold handleCgsn
  split <;> exact @Outcome.told [_] (by simpa using plain)

theorem clck : Answers none (handleClck command) := by
  intro state
  have plain : isFinal "+CLCK: 0".toList = false := (isFinal_of _).trans rfl
  unfold handleClck
  dsimp only
  split
  · exact @Outcome.told [_] (by simpa using plain)
  · exact .ok

theorem cgdcontSet : Answers ((contextPattern tables command).map Prod.fst)
    (handleCgdcontSet tables command) := by
  unfold handleCgdcontSet
  cases contextPattern tables command with
  | none => exact .unsupported
  | some found => exact .converting tables fun _ _ => .ok

theorem cgcontrdp :
    Answers (searchNumber tables "+CGCONTRDP=" command) (handleCgcontrdp tables command) := by
  have unknown : isFinal "+CME ERROR: 21".toList = true := (isFinal_of _).trans rfl
  unfold handleCgcontrdp
  cases searchNumber tables "+CGCONTRDP=" command with
  | none => exact .unsupported
  | some shown =>
      refine .converting tables fun cid state => ?_
      split
      · exact .single unknown
      · split
        · exact .single unknown
        · exact @Outcome.told [_] (by simpa using line_clear _ (clear_of rfl))

theorem cgdata : Answers (search (dataPattern tables) command) (handleCgdata tables command) := by
  have error : isFinal "ERROR".toList = true := (isFinal_of _).trans rfl
  have connect : isFinal "CONNECT".toList = true := (isFinal_of _).trans rfl
  unfold handleCgdata
  cases search (dataPattern tables) command with
  | none => exact fun _ => .single error
  | some shown =>
      refine .converting tables fun cid state => ?_
      split
      · exact .single connect
      · exact .single error

theorem dial : Answers none (handleDial command) := by
  intro state
  unfold handleDial
  split <;> exact .ok

theorem cfunQuery : Answers none handleCfunQuery := fun _ =>
  @Outcome.told [_] (by simpa using line_clear _ (clear_of rfl))

theorem copsQuery : Answers none handleCopsQuery := by
  intro state
  have plain : isFinal "+COPS: 0,0,0".toList = false := (isFinal_of _).trans rfl
  unfold handleCopsQuery
  split
  · exact @Outcome.told [_] (by simpa using plain)
  · exact @Outcome.told [_] (by simpa using line_clear _ (clear_of rfl))

theorem copsRequestOperator : Answers none handleCopsRequestOperator := by
  intro state
  unfold handleCopsRequestOperator
  split
  · exact .unsupported
  · refine @Outcome.told [_, _, _] ?_
    simp only [List.forall_mem_cons]
    exact ⟨line_clear _ (clear_of rfl), line_clear _ (clear_of rfl),
      line_clear _ (clear_of rfl), List.forall_mem_nil _⟩

theorem copsScan : Answers none handleCopsScan := by
  intro state
  unfold handleCopsScan
  split
  · exact .unsupported
  · exact @Outcome.told [_] (by simpa using line_clear _ (clear_of rfl))

theorem csq : Answers none handleCsq := fun _ =>
  @Outcome.told [_] (by
    simp only [List.forall_mem_cons]
    exact ⟨(isFinal_of _).trans rfl, List.forall_mem_nil _⟩)

theorem cgdcontQuery : Answers none handleCgdcontQuery := fun _ =>
  Outcome.told fun response member => by
    obtain ⟨entry, _, rfl⟩ := List.mem_map.mp member
    exact line_clear _ (clear_of rfl)

theorem cgactQuery : Answers none handleCgactQuery := fun _ =>
  Outcome.told fun response member => by
    obtain ⟨entry, _, rfl⟩ := List.mem_map.mp member
    exact line_clear _ (clear_of rfl)

end Answers

theorem exact_answers : ∀ entry ∈ exactHandlers, Answers none entry.2 := by
  have same : ∀ {information : Text}, isFinal information = false →
      Answers none (always [information, OK]) := fun plain =>
    @Answers.always_ok [_] (by simpa using plain)
  simp only [exactHandlers, List.forall_mem_cons]
  exact ⟨fun _ => .ok, Answers.cfunQuery, same ((isFinal_of _).trans rfl), Answers.copsQuery,
    Answers.copsRequestOperator, Answers.copsScan, Answers.csq, same ((isFinal_of _).trans rfl),
    same ((isFinal_of _).trans rfl), Answers.cgdcontQuery, Answers.cgactQuery,
    same ((isFinal_of _).trans rfl),
    .ok _, .ok _, .ok _, .ok _, .ok _, .ok _, .ok _, .ok _, .ok _, .ok _, .ok _, .ok _, .ok _,
    same (line_clear _ (clear_of rfl)), same (line_clear _ (clear_of rfl)),
    List.forall_mem_nil _⟩

section Dispatch

variable (tables : Tables)

def startNumbers : List (Text → Option Text) :=
  [searchNumber tables "+CFUN=",
    Answers.registered tables "+CREG=",
    Answers.registered tables "+CGREG=",
    Answers.registered tables "+CEREG=",
    fun _ => none,
    fun command => (contextPattern tables command).map Prod.fst,
    fun _ => none,
    searchNumber tables "+CGCONTRDP=",
    search (dataPattern tables)] ++ List.replicate 14 fun _ => none

theorem start_answers (command : Text) :
    List.Forall₂ (fun entry shown => Answers (shown command) (entry.2 command))
      (startHandlers tables) (startNumbers tables) := by
  have ok : Answers none (handleOk command) := .ok command
  simp only [startHandlers, startNumbers, List.replicate, List.cons_append, List.nil_append,
    List.forall₂_cons]
  exact ⟨.cfunSet tables command, .registration tables command (clear_of rfl),
    .registration tables command (clear_of rfl),
    .registration tables command (clear_of rfl), .copsSet command,
    .cgdcontSet tables command, fun _ => .ok, .cgcontrdp tables command, .cgdata tables command,
    .cgsn command, fun _ => .ok, ok, ok, .clck command, ok, ok, ok, ok, ok, ok, ok, ok,
    .dial command, .nil⟩

/-- The digits that a part of a command gives to `int`. -/
def converted (part : Text) : Option Text :=
  match exactHandlers.find part with
  | some _ => none
  | none =>
      (((startHandlers tables).zip (startNumbers tables)).find? fun entry =>
        entry.1.1.isPrefixOf part).bind fun entry => entry.2 part

/-- The handler that is found among the handlers is the one beside what it gives to `int`. -/
theorem find_zip {handlers : List (Text × (Text → Handler))} {numbers : List (Text → Option Text)}
    {command : Text} (answers : List.Forall₂
      (fun entry shown => Answers (shown command) (entry.2 command)) handlers numbers) :
    let wanted := fun entry : Text × (Text → Handler) => entry.1.isPrefixOf command
    let beside := ((handlers.zip numbers).find? fun entry => wanted entry.1).bind fun entry =>
      entry.2 command
    (handlers.find? wanted = none ∧ beside = none) ∨
      ∃ entry, handlers.find? wanted = some entry ∧ Answers beside (entry.2 command) := by
  induction answers with
  | nil => exact .inl ⟨rfl, rfl⟩
  | @cons entry shown _ _ here _ next =>
      dsimp only at next ⊢
      rw [List.zip_cons_cons, List.find?_cons, List.find?_cons]
      cases entry.1.isPrefixOf command with
      | true => exact .inr ⟨entry, rfl, here⟩
      | false => exact next

theorem find_answers {command : Text} {handler : Handler}
    (found : exactHandlers.find command = some handler) : Answers none handler :=
  exact_answers _ (Dict.find_mem found)

theorem dispatchOne_answers (command : Text) :
    Answers (converted tables command) (dispatchOne tables command) := by
  unfold dispatchOne converted
  cases found : exactHandlers.find command with
  | some handler => exact find_answers found
  | none =>
      dsimp only
      rcases find_zip (start_answers tables command) with ⟨missing, nothing⟩ | ⟨entry, same, answers⟩
      · rw [missing, nothing]
        dsimp only
        split
        · exact fun _ => .ok
        · split
          · exact fun _ => .ok
          · exact .unsupported
      · rw [same]
        exact answers

def parts (command : Text) : List Text := ((command.splitOn ';').map strip).filter (· ≠ [])

/-- What comes of parts: each has its result, unless one of them has too many digits. -/
def Joined (parts : List Text) : Except Fault (List Text) → Prop
  | .ok responses => (∀ part ∈ parts, Legible (converted tables part)) ∧
      ∃ answers : List (List Text), responses = answers.flatten ∧
        (∀ answer ∈ answers, OneFinal answer) ∧ answers.length = parts.length
  | .error _ => ∃ part ∈ parts, ¬ Legible (converted tables part)

theorem overParts_joined (split : List Text) (state : ModemState) :
    Joined tables ((split.map strip).filter (· ≠ [])) (overParts tables split state).1 := by
  induction split generalizing state with
  | nil => exact ⟨List.forall_mem_nil _, [], rfl, List.forall_mem_nil _, rfl⟩
  | cons part rest next =>
      unfold overParts
      rw [List.map_cons]
      by_cases blank : strip part = []
      · rw [if_pos blank, List.filter_cons_of_neg (by simpa using blank)]
        exact next state
      · rw [if_neg blank, List.filter_cons_of_pos (by simpa using blank)]
        have here := dispatchOne_answers tables (strip part) state
        generalize dispatchOne tables (strip part) state = first at here ⊢
        obtain ⟨fault | responses, after⟩ := first
        · exact ⟨_, List.mem_cons_self, here⟩
        · have later := next after
          dsimp only
          generalize overParts tables rest after = others at later ⊢
          obtain ⟨fault | more, last⟩ := others
          · obtain ⟨other, member, many⟩ := later
            exact ⟨other, List.mem_cons_of_mem _ member, many⟩
          · obtain ⟨legible, answers, rfl, each, count⟩ := later
            exact ⟨List.forall_mem_cons.mpr ⟨here.1, legible⟩, responses :: answers, rfl,
              List.forall_mem_cons.mpr ⟨here.2, each⟩, congrArg Nat.succ count⟩

def Final : Except Fault (List Text) → Prop
  | .ok responses => OneFinal responses
  | .error _ => False

instance : (result : Except Fault (List Text)) → Decidable (Final result)
  | .ok responses => inferInstanceAs (Decidable (OneFinal responses))
  | .error _ => inferInstanceAs (Decidable False)

theorem joined_final {split : List Text} {result : Except Fault (List Text)}
    (joined : Joined tables split result) :
    Final result ↔ ∃ part, split = [part] ∧ Legible (converted tables part) := by
  cases result with
  | error fault =>
      obtain ⟨part, member, many⟩ := joined
      refine ⟨False.elim, fun one => ?_⟩
      obtain ⟨only, rfl, legible⟩ := one
      rw [List.mem_singleton.mp member] at many
      exact many legible
  | ok responses =>
      obtain ⟨legible, answers, rfl, each, count⟩ := joined
      change OneFinal answers.flatten ↔ _
      rw [OneFinal.flatten_iff each, count, List.length_eq_one_iff]
      refine exists_congr fun part => ⟨fun same => ⟨same, ?_⟩, And.left⟩
      exact legible part (by rw [same]; exact List.mem_singleton_self part)

def Single (rawCommand : Text) : Prop :=
  let command := normalizeCommand tables rawCommand
  command = [] ∨ command ∈ exactHandlers.keys ∨
    ∃ part, parts command = [part] ∧ Legible (converted tables part)

theorem dispatch_iff (rawCommand : Text) (state : ModemState) :
    Final (dispatch tables rawCommand state).1 ↔ Single tables rawCommand := by
  unfold dispatch Single
  dsimp only
  split
  · next empty => exact ⟨fun _ => .inl empty, fun _ => OneFinal.ok⟩
  · next some_text =>
      cases found : exactHandlers.find (normalizeCommand tables rawCommand) with
      | some handler =>
          have listed : normalizeCommand tables rawCommand ∈ exactHandlers.keys :=
            List.mem_map.mpr ⟨_, Dict.find_mem found, rfl⟩
          have answered := find_answers found state
          refine ⟨fun _ => .inr (.inl listed), fun _ => ?_⟩
          dsimp only
          cases result : (handler state).1 with
          | error fault =>
              rw [result] at answered
              exact absurd legible_none answered
          | ok responses =>
              rw [result] at answered
              exact answered.2
      | none =>
          have absent := (Dict.find_none_iff _ _).mp found
          dsimp only
          rw [joined_final tables (overParts_joined tables _ state)]
          simp [some_text, absent, parts]

def session : ModemState → List Text → List (Except Fault (List Text))
  | _, [] => []
  | state, command :: commands =>
      let first := dispatch tables command state
      first.1 :: session first.2 commands

/-- Along every run, a command has one final result, at the end of its answer, exactly when it is
answered as a whole or has one part whose number is not too long. -/
theorem session_final_iff (state : ModemState) (commands : List Text) :
    List.Forall₂ (fun command answer => Final answer ↔ Single tables command) commands
      (session tables state commands) := by
  induction commands generalizing state with
  | nil => exact .nil
  | cons command commands next => exact .cons (dispatch_iff tables command state) (next _)

end Dispatch

def ascii : Tables where
  upper text := text.map Char.toUpper
  decimal char :=
    if '0' ≤ char ∧ char ≤ '9' then some (Fin.ofNat 10 (char.toNat - '0'.toNat)) else none

def fresh : ModemState where
  rilAddress := "192.168.97.2/30".toList
  rilGateway := "192.168.97.1".toList
  rilDns := "8.8.8.8".toList

/-- Two parts have two final results, and no part has none. -/
theorem compound_answers :
    ¬ Final (dispatch ascii "AT+CSQ;+CSQ\r".toList fresh).1 ∧
      ¬ Final (dispatch ascii "AT;".toList fresh).1 := by
  decide +kernel

end Bscp.HostDevices.Modem
