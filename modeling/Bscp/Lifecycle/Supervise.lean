import Bscp.Lifecycle.BoundOwner
import Bscp.Lifecycle.ComputeProtocol

/-!
`lifecycle.supervise`, `entry.state`, `entry.can_resume` and the record that
`runtime.run` writes for a result. The owner is any object with the operations
that the supervisor calls; they act on a state of their own, and each may answer
anything or raise. Keys of the result that hold copied evidence and that nothing
reads (tracebacks, role evidence, log and cleanup copies) are left out.
-/

namespace Bscp.Supervise

open Script ComputeProtocol
open BoundOwner (ResourceState StorageState)

inductive RunState where
  | prepared
  | starting
  | running
  | stopping
  | stopped
  | failed
  | unknown
  deriving DecidableEq, Repr

inductive TaskResult where
  | notRequested
  | unknown
  | success
  | failed
  deriving DecidableEq, Repr

inductive RequestState where
  | pending
  | complete
  | unknown
  deriving DecidableEq, Repr

structure Request where
  id : Nat
  command : Text
  state : RequestState := .pending
  response : Option Text := none
  task : Option Task := none
  deriving DecidableEq, Repr

inductive Note where
  | ownerStarted
  | ownedPayloadReady
  | liveStatus
  | rejectedRequest
  | requestPending
  | requestComplete
  | rejectedControlCommand
  | stopRequested
  | guestNaturalExit
  | serviceCleanupSeparate
  | healthyStopped
  | failurePreserved
  | terminalUnknown
  | ownerMustBeRetained
  deriving DecidableEq, Repr

structure Cleanup (Snap : Type) where
  ownerTerminal : Bool := false
  resourceState : Option ResourceState := none
  storageSnapshot : Option (Reply Snap) := none
  forcedJobCleanup : Bool := false
  deriving DecidableEq, Repr

structure Result (Snap : Type) where
  state : RunState := .starting
  stopReply : Option Text := none
  guestExit : Option Int := none
  serviceCleaned : Bool := false
  storageReleased : Option Bool := none
  storageState : StorageState := .unverified
  forcedGuest : Option Bool := some false
  events : List Note := []
  taskResult : TaskResult := .notRequested
  resourceState : ResourceState := .unknown
  needsRecovery : Bool := false
  deadlineReached : Bool := false
  request : Option Request := none
  storageSnapshot : Option (Reply Snap) := none
  error : Option Fault := none
  normalGuestExitProven : Option Bool := none
  recordingError : Option Fault := none
  failureCleanup : Option (Reply (Cleanup Snap)) := none
  cleanupError : Option Fault := none
  forcedMacosCleanup : Bool := false
  forcedLinuxCleanup : Bool := false
  forcedJobCleanup : Bool := false
  ownerTerminal : Option Bool := none
  deriving DecidableEq, Repr

/-- The operations of an owner on its own state, the attributes that the
supervisor reads, and the one that it writes. -/
structure Owner (Ω Snap : Type) where
  start : Script Ω Fault Unit
  ready : Script Ω Fault Bool
  observe : Script Ω Fault Unit
  request : Text → Script Ω Fault (Reply Text)
  guestDone : Script Ω Fault Bool
  stop : Script Ω Fault (Reply Text)
  guestExit : Script Ω Fault (Reply Int)
  cleanupServices : Script Ω Fault Unit
  snapshot : Script Ω Fault (Reply Snap)
  failureCleanup : Script Ω Fault (Reply (Cleanup Snap))
  setTransportUnknown : Bool → Ω → Ω
  forcedMacosCleanupRequested : Ω → Bool
  forcedLinuxCleanupRequested : Ω → Bool
  forcedCleanupRequested : Ω → Bool

inductive Call (Snap : Type) where
  | start (answer : Except Fault Unit)
  | ready (answer : Except Fault Bool)
  | observe (answer : Except Fault Unit)
  | request (command : Text) (answer : Except Fault (Reply Text))
  | guestDone (answer : Except Fault Bool)
  | stop (answer : Except Fault (Reply Text))
  | guestExit (answer : Except Fault (Reply Int))
  | cleanupServices (answer : Except Fault Unit)
  | snapshot (answer : Except Fault (Reply Snap))
  | failureCleanup (answer : Except Fault (Reply (Cleanup Snap)))

/-- The supervisor's variables beside the owner's state. `ticks` and `polls`
count the readings of the clock and of the command queue; `calls` and `emissions`
(the results, each with the owner's state that `emit` found), newest first, are not
read by the supervisor. -/
structure World (Ω Snap : Type) where
  owner : Ω
  result : Result Snap := {}
  lastRequest : Nat := 0
  ticks : Nat := 0
  polls : Nat := 0
  calls : List (Call Snap) := []
  emissions : List (Result Snap × Ω) := []

def World.emitted {Ω Snap : Type} (world : World Ω Snap) : List (Result Snap) :=
  world.emissions.map Prod.fst

/-- What surrounds the owner: the clock in milliseconds, the command queue, the
deadline's seconds and the caller's `emit`. -/
structure Surroundings (Ω Snap : Type) where
  clock : Nat → Int
  commands : Nat → Option Text
  timeout : Int
  emit : Result Snap → Script Ω Fault Unit

/-- `-?[0-9]{1,19}` -/
def isSigned (text : Text) : Bool :=
  let digits := if text.head? = some '-' then text.tail else text
  decide (1 ≤ digits.length ∧ digits.length ≤ 19) && digits.all isDigit

/-- The second group of the request expression. -/
def isCommand (text : Text) : Bool :=
  ["INFO", "PROPERTIES", "PROBE", "VKENUM", "PIXEL", "COHERENT", "GET"].any
    (fun name => decide (text = name.toList)) ||
  ("SET ".toList.isPrefixOf text && isSigned (text.drop 4)) ||
  ("ADD ".toList.isPrefixOf text && isSigned (text.drop 4)) ||
  ("VADD ".toList.isPrefixOf text && text.drop 5 ≠ [] &&
    (text.drop 5).all (fun char => char ≠ '\r' && char ≠ '\n'))

/-- `re.fullmatch` of a request line: its id and its command. -/
def matchRequest (line : Text) : Option (Nat × Text) :=
  if "request ".toList.isPrefixOf line then
    let body := line.drop 8
    let id := body.takeWhile (· ≠ ' ')
    let rest := body.dropWhile (· ≠ ' ')
    if isPositive 8 id && decide (rest ≠ []) && isCommand rest.tail then some (number id, rest.tail)
    else none
  else none

/-- The digits of a line `VALUE -?(?:0|[1-9][0-9]*)` and whether it is negative. -/
def matchValue (response : Text) : Option (Bool × Text) :=
  if "VALUE ".toList.isPrefixOf response && response.getLast? = some '\n' then
    let text := (response.drop 6).dropLast
    let negative := decide (text.head? = some '-')
    let digits := if negative then text.tail else text
    if decide (digits = ['0']) || isPositive digits.length digits then some (negative, digits)
    else none
  else none

section Model

variable {Ω Snap : Type} [DecidableEq Snap] [EmptyCollection Snap]
variable (owner : Owner Ω Snap) (around : Surroundings Ω Snap)

abbrev Step (Ω Snap α : Type) := Script (World Ω Snap) Fault α

/-- A part that acts on the owner's state only. -/
def inside {α : Type} (part : Script Ω Fault α) : Step Ω Snap α := fun world =>
  let (outcome, after) := part world.owner
  (outcome, { world with owner := after })

def ask {α : Type} (event : Except Fault α → Call Snap) (operation : Script Ω Fault α) :
    Step Ω Snap α := fun world =>
  match operation world.owner with
  | (.done value, after) =>
      (.done value, { world with owner := after, calls := event (.ok value) :: world.calls })
  | (.raised error, after) =>
      (.raised error, { world with owner := after, calls := event (.error error) :: world.calls })
  | (.unfinished, after) => (.unfinished, { world with owner := after })

def update (change : Result Snap → Result Snap) : Step Ω Snap Unit :=
  Script.modify fun world => { world with result := change world.result }

def clock : Step Ω Snap Int := fun world =>
  (.done (around.clock world.ticks), { world with ticks := world.ticks + 1 })

def getNowait : Step Ω Snap (Option Text) := fun world =>
  (.done (around.commands world.polls), { world with polls := world.polls + 1 })

def guestDone : Step Ω Snap Bool := ask .guestDone owner.guestDone

def setTransportUnknown (unknown : Bool) : Step Ω Snap Unit :=
  Script.modify fun world => { world with owner := owner.setTransportUnknown unknown world.owner }

def note (event : Note) : Step Ω Snap Unit := do
  update fun result =>
    let events := result.events ++ [event]
    { result with events := events.drop (events.length - 64) }
  let world ← Script.get
  Script.modify fun world =>
    { world with emissions := (world.result, world.owner) :: world.emissions }
  inside (around.emit world.result)

def startUp (deadline : Int) (fuel : Nat) : Step Ω Snap Unit := do
  ask .start owner.start
  note around .ownerStarted
  loop (do
    let ready ← ask .ready owner.ready
    if ready then Script.ret (.leave ()) else do
      let now ← clock around
      if now ≥ deadline then Script.raise ⟨.timeoutError, "startup deadline"⟩
      else Script.ret .again) fuel
  update fun result => { result with state := .running, resourceState := .live }
  note around .ownedPayloadReady

def judge (command response : Text) : Step Ω Snap Unit := do
  update fun result => { result with
    taskResult := match result.request.bind Request.task with
      | some task => if task.outcome = .success then .success else .failed
      | none => .unknown }
  if command = "GET".toList ∨ "SET ".toList.isPrefixOf command ∨ "ADD ".toList.isPrefixOf command then
    match matchValue response with
    | none => Script.ret ()
    | some (negative, digits) =>
        -- `int` refuses more digits than this.
        if 4300 < digits.length then
          Script.raise ⟨.valueError, "Exceeds the limit (4300 digits) for integer string conversion"⟩
        else
          let value : Int := if negative then - (number digits : Int) else number digits
          given (decide (-(2 ^ 63) ≤ value ∧ value < 2 ^ 63))
            (update fun result => { result with taskResult := .success })
  else
    given (decide (command = "INFO".toList ∧
        response = "HEADLESS_COUNTER_V1 GUEST_ENCRYPTED_STORAGE\n".toList))
      (update fun result => { result with taskResult := .success })

/-- The inner `try` of an accepted request. -/
def exchange (command : Text) : Step Ω Snap Unit := do
  note around .requestPending
  setTransportUnknown owner false
  let reply ← ask (.request command) (owner.request command)
  match reply with
  | .other => Script.raise ⟨.unknown, "incomplete request response"⟩
  | .value response =>
      if ¬ singleLine response then Script.raise ⟨.unknown, "incomplete request response"⟩ else do
        given ("VADD ".toList.isPrefixOf command) (do
          let task ← Script.ofExcept (validateResponse command response)
          update fun result => { result with
            request := result.request.map fun request => { request with task := some task } })
        update fun result => { result with
          request := result.request.map fun request =>
            { request with state := .complete, response := some response } }
        judge command response
        note around .requestComplete

def request (id : Nat) (command : Text) : Step Ω Snap Unit := do
  Script.modify fun world => { world with
    lastRequest := id
    result := { world.result with
      taskResult := .unknown, request := some { id := id, command := command } } }
  setTransportUnknown owner true
  handle (exchange owner around command) fun exc => do
    setTransportUnknown owner true
    update fun result => { result with
      request := result.request.map fun request => { request with state := .unknown } }
    Script.raise exc

def requestLine (line : Text) : Step Ω Snap Unit := do
  let world ← Script.get
  match matchRequest line with
  | none => note around .rejectedRequest
  | some (id, command) =>
      if id ≤ world.lastRequest then note around .rejectedRequest
      else if "VADD ".toList.isPrefixOf command then
        match parse command with
        | .error _ => note around .rejectedRequest
        | .ok _ => request owner around id command
      else request owner around id command

def turn (deadline : Int) : Step Ω Snap (Next Unit) := do
  ask .observe owner.observe
  let done ← guestDone owner
  if done then Script.raise ⟨.unknown, "Guest ended without this controller STOP"⟩ else do
    let now ← clock around
    if now ≥ deadline then do
      update fun result => { result with deadlineReached := true }
      Script.ret (.leave ())
    else do
      let command ← getNowait around
      match command with
      | none => Script.ret .again
      | some command =>
          if command = "status".toList then do
            note around .liveStatus
            Script.ret .again
          else if command = "__INPUT_ERROR__".toList then
            Script.raise ⟨.unknown, "control input reader failed"⟩
          else if "request ".toList.isPrefixOf command then do
            requestLine owner around command
            Script.ret .again
          else if command = "stop".toList ∨ command = "__EOF__".toList then Script.ret (.leave ())
          else do
            note around .rejectedControlCommand
            Script.ret .again

def stopGuest (fuel : Nat) : Step Ω Snap Unit := do
  update fun result => { result with state := .stopping }
  note around .stopRequested
  let reply ← ask .stop owner.stop
  match reply with
  | .other => Script.raise ⟨.attributeError, "strip"⟩
  | .value reply => do
      update fun result => { result with stopReply := some (strip reply) }
      if reply ≠ "BYE\n".toList then
        Script.raise ⟨.unknown, "STOP response missing/malformed; never retry"⟩
      else do
        let now ← clock around
        loop (do
          let done ← guestDone owner
          if done then Script.ret (.leave ()) else do
            let later ← clock around
            if later ≥ now + 30000 then Script.raise ⟨.timeoutError, "Guest shutdown deadline"⟩
            else Script.ret .again) fuel

def release : Step Ω Snap Unit := do
  let code ← ask .guestExit owner.guestExit
  if code ≠ .value 0 then Script.raise ⟨.unknown, "Guest did not exit naturally with zero"⟩ else do
    update fun result => { result with guestExit := some 0 }
    note around .guestNaturalExit
    ask .cleanupServices owner.cleanupServices
    update fun result => { result with serviceCleaned := true }
    note around .serviceCleanupSeparate
    let snapshot ← ask .snapshot owner.snapshot
    update fun result => { result with storageSnapshot := some snapshot }
    if snapshot = .other ∨ snapshot = .value ∅ then
      Script.raise ⟨.unknown, "missing storage release evidence"⟩
    else do
      update fun result => { result with
        storageReleased := some true, storageState := .released, state := .stopped,
        resourceState := .reaped }
      note around .healthyStopped

def ordinary (deadline : Int) (fuel : Nat) : Step Ω Snap Unit := do
  startUp owner around deadline fuel
  loop (turn owner around deadline) fuel
  stopGuest owner around fuel
  release owner around

def safeNote (event : Note) : Step Ω Snap Unit :=
  handle (note around event) fun exc =>
    update fun result => { result with recordingError := some exc }

/-- `owner.failure_cleanup()` with the reading of its answer. -/
def cleanUp : Step Ω Snap Unit := do
  let reply ← ask .failureCleanup owner.failureCleanup
  update fun result => { result with failureCleanup := some reply }
  match reply with
  | .other => Script.raise ⟨.attributeError, "get"⟩
  | .value cleanup =>
      given (decide (cleanup.resourceState = some .reaped)) (
        match cleanup.storageSnapshot with
        | some (.value snapshot) =>
            if snapshot = ∅ then
              Script.raise ⟨.unknown, "REAPED cleanup lacks storage release evidence"⟩
            else update fun result => { result with
              resourceState := .reaped, storageSnapshot := some (.value snapshot),
              storageReleased := some true, storageState := .released }
        | _ => Script.raise ⟨.unknown, "REAPED cleanup lacks storage release evidence"⟩)

/-- The `except` branch. Reading a cleanup answer that is no dictionary raises
out of the supervisor. -/
def failure (exc : Fault) : Step Ω Snap Unit := do
  update fun result => { result with
    state := .unknown, resourceState := .unknown, needsRecovery := true, error := some exc,
    forcedGuest := none, normalGuestExitProven := some false }
  safeNote around .failurePreserved
  handle (cleanUp owner) fun exc => update fun result => { result with cleanupError := some exc }
  let world ← Script.get
  given (owner.forcedMacosCleanupRequested world.owner)
    (update fun result => { result with forcedMacosCleanup := true })
  given (owner.forcedLinuxCleanupRequested world.owner)
    (update fun result => { result with forcedLinuxCleanup := true })
  match world.result.failureCleanup.getD (.value {}) with
  | .other => Script.raise ⟨.attributeError, "get"⟩
  | .value cleanup => do
      given (cleanup.forcedJobCleanup || owner.forcedCleanupRequested world.owner)
        (update fun result => { result with forcedJobCleanup := true })
      update fun result => { result with ownerTerminal := some cleanup.ownerTerminal }
      safeNote around (if cleanup.ownerTerminal then .terminalUnknown else .ownerMustBeRetained)

def supervise (fuel : Nat) : Step Ω Snap (Result Snap) := do
  let now ← clock around
  handle (ordinary owner around (now + 1000 * around.timeout) fuel) (failure owner around)
  let world ← Script.get
  Script.ret world.result

end Model

/-- The record that `runtime.run` keeps, with the keys that deciding about a
resume reads. A missing or foreign state is no state. -/
structure Record (Snap : Type) where
  state : Option RunState := none
  exit : Option (Result Snap) := none
  storageSnapshot : Option (Reply Snap) := none
  taskResult : Option TaskResult := none
  resourceState : Option ResourceState := none
  needsRecovery : Option Bool := none
  deriving DecidableEq, Repr

section Record

variable {Snap : Type}

def emitRecord (record : Record Snap) (result : Result Snap) : Record Snap :=
  { record with
    state := some result.state
    exit := some result
    storageSnapshot := result.storageSnapshot
    taskResult := some result.taskResult
    resourceState := some result.resourceState
    needsRecovery := some result.needsRecovery }

def need (ok : Bool) (text : String) : Except Fault Unit :=
  if ok then .ok () else .error ⟨.valueError, text⟩

def recordState (record : Record Snap) : Except Fault RunState :=
  match record.state with
  | none => .error ⟨.valueError, "invalid state"⟩
  | some .starting | some .running | some .stopping => .ok .unknown
  | some .stopped =>
      match record.exit with
      | none => .ok .unknown
      | some exit =>
          if exit.guestExit = some 0 ∧ exit.stopReply = some "BYE".toList ∧
              exit.serviceCleaned = true ∧ exit.storageReleased = some true ∧
              exit.forcedGuest = some false then .ok .stopped
          else .ok .unknown
  | some state => .ok state

variable [DecidableEq Snap] [EmptyCollection Snap]

def canResume (record : Record Snap) (snapshot : Snap) : Except Fault Unit := do
  need (record.needsRecovery.getD false = false) "recovery-required instance cannot resume"
  need (record.resourceState.getD .reaped = .reaped) "resources not proven reaped"
  let state ← recordState record
  need (state = .stopped) "only proven healthy STOPPED can resume"
  need (snapshot ≠ ∅ && record.storageSnapshot = some (.value snapshot))
    "state identity/content mismatch"

end Record

end Bscp.Supervise
