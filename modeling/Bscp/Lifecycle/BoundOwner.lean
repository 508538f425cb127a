import Bscp.Python
import Mathlib.Data.List.Sort
import Mathlib.Data.List.Nodup

/-!
`bound_owner.BoundInstance`: one-shot termination and reaping of the two members
of a dedicated session. The callbacks (inventory, process handles, log release,
storage snapshot) answer from tapes, so each may say anything or raise at every
call. The receipt keeps the keys that some method reads or that a caller's
decision rests on; its constant keys and the copy of the members are left out.
-/

namespace Bscp.BoundOwner

open Script Session

abbrev Pid := Nat
abbrev Handle := Nat

inductive Role where
  | guest
  | virtmgr
  | launcher
  | client
  | unowned
  deriving DecidableEq, Repr

structure Identity where
  start : String
  sid : Nat
  exe : String
  cmd : String
  role : Role
  auditToken : Option (List Nat)
  deriving DecidableEq, Repr

abbrev Inventory := Dict Pid Identity

structure Members where
  rows : Inventory
  distinct : rows.keys.Nodup
  controller : Pid
  apart : controller ∉ rows.keys
  roles : List.Perm (rows.map fun row => row.2.role) [.guest, .virtmgr]
  session : ∀ row ∈ rows, ∀ other ∈ rows, row.2.sid = other.2.sid

def Members.pids (members : Members) : List Pid := members.rows.keys

/-- `BoundInstance.__init__`. The dictionary's keys are distinct by its type. -/
def init (controller : Pid) (rows : Inventory) (distinct : rows.keys.Nodup) :
    Except Fault Members :=
  if apart : rows ≠ [] ∧ controller ∉ rows.keys then
    if roles : List.Perm (rows.map fun row => row.2.role) [.guest, .virtmgr] then
      if session : ∀ row ∈ rows, ∀ other ∈ rows, row.2.sid = other.2.sid then
        .ok ⟨rows, distinct, controller, apart.2, roles, session⟩
      else .error ⟨.valueError, "mixed sessions"⟩
    else .error ⟨.valueError,
      "this candidate requires exactly the persistent service and GPU-off Guest"⟩
  else .error ⟨.valueError, "invalid member set"⟩

inductive ResourceState where
  | unknown
  | live
  | reaped
  deriving DecidableEq, Repr

inductive StorageState where
  | unverified
  | released
  deriving DecidableEq, Repr

inductive Attempt where
  | reserved
  | returnedNotExitProof
  deriving DecidableEq, Repr

structure Signal where
  pid : Pid
  attempt : Attempt
  deriving DecidableEq, Repr

structure Receipt (Snap : Type) where
  resourceState : ResourceState := .unknown
  storageState : StorageState := .unverified
  storageReleased : Option Bool := none
  storageSnapshot : Option Snap := none
  signals : List Signal := []
  errors : List Fault := []
  observationBudgetSeconds : Option Nat := none
  observationExpired : Bool := false
  identityObservationBlocked : Bool := false
  observationError : Option Fault := none
  observationPending : Option Bool := none
  processesExited : Bool := false
  retained : Option (List Pid) := none
  endpointRetired : Bool := false
  deriving DecidableEq, Repr

structure Bound (Snap : Type) where
  fds : Dict Pid Handle := []
  opens : Nat := 0
  attempts : List Pid := []
  closeAttempts : List Pid := []
  armed : Bool := false
  cleanupAttempted : Bool := false
  receipt : Receipt Snap := {}
  deriving DecidableEq, Repr

inductive Operation where
  | bind
  | terminateOnce (authorized : Bool)
  | observeOnce
  deriving DecidableEq, Repr

/-- What an observer of the instance sees: the public calls, where a binding
ends well, and each callback with its answer. -/
inductive Event (Snap : Type) where
  | begin (operation : Operation)
  | bound
  | inventory (answer : Except Fault Inventory)
  | opened (pid : Pid) (handle : Handle)
  | openFailed (pid : Pid) (error : Fault)
  | exited (handle : Handle) (answer : Except Fault Bool)
  | term (pid : Pid) (handle : Handle) (answer : Except Fault Unit)
  | close (pid : Pid) (handle : Handle) (answer : Except Fault Unit)
  | logsReleased (answer : Except Fault Bool)
  | storageSnapshot (answer : Except Fault (Reply Snap))
  | retirementReady (answer : Except Fault Bool)

/-- The callbacks and the operating system behind them. `exited`, `logsReleased`
and `retirementReady` give what the code tests of the answer: its truth, and
whether it is the constant `True`. -/
structure Callbacks (Snap : Type) where
  inventory : Tape Fault Inventory
  opened : Pid → Tape Fault Unit
  exited : Handle → Tape Fault Bool
  term : Handle → Tape Fault Unit
  close : Handle → Tape Fault Unit
  logsReleased : Tape Fault Bool
  storageSnapshot : Tape Fault (Reply Snap)
  retirementReady : Tape Fault Bool
  clock : Nat → Int

section Model

variable {Snap : Type} [DecidableEq Snap] [EmptyCollection Snap]
variable (members : Members) (calls : Callbacks Snap)

abbrev Run (Snap α : Type) := Script (Session (Bound Snap) (Event Snap)) Fault α

def note (change : Receipt Snap → Receipt Snap) : Run Snap Unit :=
  update fun self => { self with receipt := change self.receipt }

def inventory : Run Snap Inventory := query calls.inventory .inventory

def exited (handle : Handle) : Run Snap Bool := query (calls.exited handle) (.exited handle)

/-- `self.fds[pid]=self.ops.open(pid)`: the handle is new to this instance. -/
def openMember (pid : Pid) : Run Snap Handle := fun session =>
  match calls.opened pid session.turn with
  | .ok () =>
      (.done session.data.opens,
        ⟨{ session.data with
            opens := session.data.opens + 1
            fds := session.data.fds.put pid session.data.opens },
          session.turn + 1, .opened pid session.data.opens :: session.history⟩)
  | .error error =>
      (.raised error, ⟨session.data, session.turn + 1, .openFailed pid error :: session.history⟩)

def handleOf (pid : Pid) : Run Snap Handle := do
  let self ← read
  match self.fds.find pid with
  | some handle => Script.ret handle
  | none => Script.raise ⟨.keyError, toString pid⟩

def retain : Run Snap (Receipt Snap) := do
  update fun self => { self with receipt :=
    { self.receipt with retained := some (self.fds.keys.insertionSort (· ≤ ·)) } }
  let self ← read
  Script.ret self.receipt

def bindMember (pid : Pid) : Run Snap Unit := do
  let handle ← openMember calls pid
  let gone ← exited calls handle
  require (!gone) "member exited during binding"
  let now ← inventory calls
  require (now.same members.rows) "identity changed during binding"

def bind : Run Snap Unit := do
  mark (.begin .bind)
  let self ← read
  require (self.fds.isEmpty && !self.armed) "binding not replayable"
  handle
    (do
      let now ← inventory calls
      require (now.same members.rows) "initial membership/identity mismatch"
      each (members.pids.insertionSort (· ≤ ·)) (bindMember members calls)
      mark .bound
      update fun self => { self with armed := true })
    (fun exc => do
      note fun receipt => { receipt with errors := receipt.errors ++ [exc] }
      Script.raise exc)

/-- The loop of `validate`; its value says whether some member is pending. -/
def compareMembers (now : Inventory) : Inventory → Bool → Run Snap Bool
  | [], pending => Script.ret pending
  | (pid, identity) :: rest, pending => do
      let handle ← handleOf pid
      let gone ← exited calls handle
      require (match now.find pid with
        | none => true
        | some current => decide (current = identity)) "generation/identity changed"
      compareMembers now rest (pending || (now.find pid).isSome == gone)

def validate : Run Snap Bool := do
  let now ← inventory calls
  require (now.keys.all fun pid => decide (pid ∈ members.pids)) "new unowned session member"
  let pending ← compareMembers calls now members.rows false
  Script.ret (!pending)

/-- The reserved signal: the receipt names it before `ops.term` is called. -/
def signal (pid : Pid) (handle : Handle) : Run Snap Unit := do
  update fun self => { self with attempts := pid :: self.attempts }
  note fun receipt => { receipt with signals := receipt.signals ++ [⟨pid, .reserved⟩] }
  query (calls.term handle) (.term pid handle)
  note fun receipt => { receipt with
    signals := receipt.signals.dropLast ++ [⟨pid, .returnedNotExitProof⟩] }

/-- One turn of the signal loop: false ends the loop, as a passed deadline or a
pending snapshot does; an exited member is skipped. -/
def signalOnce (deadline : Int) (pid : Pid) : Run Snap Bool := do
  let now ← sense calls.clock
  if now ≥ deadline then Script.ret false else do
    let ready ← validate members calls
    if !ready then Script.ret false else do
      let handle ← handleOf pid
      let gone ← exited calls handle
      if gone then Script.ret true else do
        signal calls pid handle
        Script.ret true

def signalEach (deadline : Int) : List Pid → Run Snap Unit
  | [] => Script.ret ()
  | pid :: rest => do
      let onward ← signalOnce members calls deadline pid
      if onward then signalEach deadline rest else Script.ret ()

/-- `all(self.ops.exited(fd) for fd in self.fds.values())` -/
def allExited : List Handle → Run Snap Bool
  | [] => Script.ret true
  | handle :: rest => do
      let gone ← exited calls handle
      if gone then allExited rest else Script.ret false

def closeMember (entry : Pid × Handle) : Run Snap Unit := do
  update fun self => { self with closeAttempts := entry.1 :: self.closeAttempts }
  query (calls.close entry.2) (.close entry.1 entry.2)
  update fun self => { self with fds := self.fds.remove entry.1 }

/-- The inner `try` of `observe_once`: the inventory and whether every handle has
reported its exit. An error here blocks the instance for good. -/
def observeIdentity : Run Snap (Inventory × Bool) :=
  handle
    (do
      let now ← inventory calls
      require (now.keys.all fun pid => decide (pid ∈ members.pids)) "new unowned session member"
      require (now.all fun row => decide (members.rows.find row.1 = some row.2))
        "generation/identity changed"
      let self ← read
      let gone ← allExited calls (self.fds.map Prod.snd)
      Script.ret (now, gone))
    (fun exc => do
      note fun receipt => { receipt with
        identityObservationBlocked := true, errors := receipt.errors ++ [exc] }
      Script.raise exc)

/-- The release half of `observe_once`, for an empty inventory and exited handles. -/
def reap (logsReleased : Run Snap Bool) (storageSnapshot : Run Snap (Reply Snap)) :
    Run Snap Unit := do
  note fun receipt => { receipt with processesExited := true }
  let released ← logsReleased
  require released "reader/log release unproven"
  let snapshot ← storageSnapshot
  match snapshot with
  | .other => Script.raise ⟨.runtimeError, "storage release unproven"⟩
  | .value snapshot => do
      require (decide (snapshot ≠ ∅)) "storage release unproven"
      let self ← read
      each self.fds (closeMember calls)
      note fun receipt => { receipt with
        storageSnapshot := some snapshot, storageState := .released,
        storageReleased := some true, resourceState := .reaped,
        observationPending := some false }

def observeBody (logsReleased : Run Snap Bool) (storageSnapshot : Run Snap (Reply Snap)) :
    Run Snap Unit := do
  let self ← read
  require self.closeAttempts.isEmpty "close outcome uncertain; no replay"
  let (now, gone) ← observeIdentity members calls
  if !now.isEmpty || !gone then
    note fun receipt => { receipt with observationPending := some true }
  else reap calls logsReleased storageSnapshot

/-- `observe_once` after its begin marker, with the two callbacks of the call. -/
def observeWith (logsReleased : Run Snap Bool) (storageSnapshot : Run Snap (Reply Snap)) :
    Run Snap (Receipt Snap) := do
  let self ← read
  require (self.armed && self.cleanupAttempted) "no completed binding/cleanup attempt"
  if self.receipt.resourceState = .reaped ∨ self.receipt.identityObservationBlocked = true then
    Script.ret self.receipt
  else do
    note fun receipt => { receipt with observationError := none }
    handle (observeBody members calls logsReleased storageSnapshot)
      (fun exc => note fun receipt => { receipt with observationError := some exc })
    retain

def logsReleased : Run Snap Bool := query calls.logsReleased .logsReleased

def storageSnapshot : Run Snap (Reply Snap) := query calls.storageSnapshot .storageSnapshot

def observeOnce : Run Snap (Receipt Snap) := do
  mark (.begin .observeOnce)
  observeWith members calls (logsReleased calls) (storageSnapshot calls)

def observeUntil (observe : Run Snap (Receipt Snap)) (deadline : Int) (fuel : Nat) :
    Run Snap (Option (Receipt Snap)) :=
  loop (do
    let now ← sense calls.clock
    if now < deadline then do
      let result ← observe
      if result.resourceState = .reaped ∨ result.observationError ≠ none then
        Script.ret (.leave (some result))
      else do
        let _ ← sense calls.clock
        Script.ret .again
    else Script.ret (.leave none)) fuel

def terminateBody (deadline : Int) (fuel : Nat) : Run Snap (Option (Receipt Snap)) := do
  let ready ← validate members calls
  let self ← read
  signalEach members calls deadline (if ready then self.fds.keys.insertionSort (· ≤ ·) else [])
  observeUntil calls (observeWith members calls (logsReleased calls) (storageSnapshot calls))
    deadline fuel

/-- The frame of both `terminate_once` methods: the one-shot guard, the five
second budget, and the block on an escaping error. -/
def terminateWith (authorized : Bool) (body : Int → Run Snap (Option (Receipt Snap))) :
    Run Snap (Receipt Snap) := do
  let self ← read
  require (authorized && self.armed) "explicit scoped authorization and binding required"
  require (!self.cleanupAttempted) "cleanup not replayable"
  update fun self => { self with cleanupAttempted := true }
  let now ← sense calls.clock
  note fun receipt => { receipt with observationBudgetSeconds := some 5 }
  let early ← handle
    (do
      let early ← body (now + 5)
      match early with
      | some receipt => Script.ret (some receipt)
      | none => do
          note fun receipt => { receipt with observationExpired := true }
          Script.ret none)
    (fun exc => do
      note fun receipt => { receipt with
        errors := receipt.errors ++ [exc], identityObservationBlocked := true }
      Script.ret none)
  match early with
  | some receipt => Script.ret receipt
  | none => retain

def terminateOnce (authorized : Bool) (fuel : Nat) : Run Snap (Receipt Snap) := do
  mark (.begin (.terminateOnce authorized))
  terminateWith calls authorized fun deadline => terminateBody members calls deadline fuel

/-- The public methods of an instance. A subclass shares `bind` and brings its
own two others. -/
structure Methods (Snap : Type) where
  bind : Run Snap Unit
  terminateOnce : Bool → Run Snap (Receipt Snap)
  observeOnce : Run Snap (Receipt Snap)

def methods (fuel : Nat) : Methods Snap where
  bind := bind members calls
  terminateOnce authorized := terminateOnce members calls authorized fuel
  observeOnce := observeOnce members calls

def Methods.perform (methods : Methods Snap) : Operation → Run Snap Unit
  | .bind => methods.bind
  | .terminateOnce authorized => do
      let _ ← methods.terminateOnce authorized
      Script.ret ()
  | .observeOnce => do
      let _ ← methods.observeOnce
      Script.ret ()

/-- A caller that goes on to the next call whatever the last one raised. -/
def Methods.serve (methods : Methods Snap) (operations : List Operation) : Run Snap Unit :=
  each operations fun operation => handle (methods.perform operation) fun _ => Script.ret ()

def Methods.after (methods : Methods Snap) (operations : List Operation) :
    Session (Bound Snap) (Event Snap) :=
  (methods.serve operations ⟨{}, 0, []⟩).2

end Model

/-! The histories a bound instance may leave. `release` is what the log callback
of a reaping call shows, newest first, and `mayTerm` what has to precede a TERM. -/
section Statement

variable {Snap : Type}

def opened (history : List (Event Snap)) : List (Pid × Handle) :=
  history.filterMap fun
    | .opened pid handle => some (pid, handle)
    | _ => none

def terms (history : List (Event Snap)) : List Pid :=
  history.filterMap fun
    | .term pid _ _ => some pid
    | _ => none

def closes (history : List (Event Snap)) : List Handle :=
  history.filterMap fun
    | .close _ handle _ => some handle
    | _ => none

/-- No member is listed that was not expected, and each listed one is as recorded. -/
def Agrees (members : Members) (now : Inventory) : Prop :=
  ∀ pid identity, now.find pid = some identity → members.rows.find pid = some identity

/-- The last inventory agreed with the members; only exit polls came after it. -/
def Checked (members : Members) (earlier : List (Event Snap)) : Prop :=
  ∃ (polls : List (Event Snap)) (now : Inventory) (before : List (Event Snap)),
    earlier = polls ++ Event.inventory (.ok now) :: before ∧
    (∀ event ∈ polls, ∃ handle answer, event = Event.exited handle answer) ∧ Agrees members now

/-- The newest public call is the first authorized `terminate_once` after a
binding that ended well. -/
def FirstTermination (earlier : List (Event Snap)) : Prop :=
  ∃ inside since before : List (Event Snap),
    earlier = inside ++ Event.begin (.terminateOnce true) :: (since ++ Event.bound :: before) ∧
    (∀ operation, Event.begin operation ∉ inside) ∧ Event.begin (.terminateOnce true) ∉ since

/-- The newest events are closes that succeeded; before them, in the same call,
an empty inventory, an exit report of every handle, the released log and a
storage snapshot that is not empty. -/
def Released [EmptyCollection Snap] (release earlier : List (Event Snap)) : Prop :=
  ∃ (closed : List (Event Snap)) (snapshot : Snap) (polls before : List (Event Snap)),
    earlier = closed ++ Event.storageSnapshot (.ok (.value snapshot)) ::
      (release ++ (polls ++ Event.inventory (.ok []) :: before)) ∧
    snapshot ≠ ∅ ∧
    (∀ event ∈ closed, ∃ pid handle, event = Event.close pid handle (.ok ())) ∧
    (∀ event ∈ polls, ∃ handle, event = Event.exited handle (.ok true)) ∧
    ∀ pid handle, (pid, handle) ∈ opened before → Event.exited handle (.ok true) ∈ polls

/-- At some moment the handles could be released, and every handle opened in the
whole history had been closed by then. -/
def Settled [EmptyCollection Snap] (release history : List (Event Snap)) : Prop :=
  ∃ since earlier, history = since ++ earlier ∧ Released release earlier ∧
    ∀ entry ∈ opened history, .close entry.1 entry.2 (.ok ()) ∈ earlier

/-- What `bound_owner` itself asks before a TERM. -/
def MayTerm (members : Members) (earlier : List (Event Snap)) (pid : Pid) (handle : Handle) : Prop :=
  (pid, handle) ∈ opened earlier ∧ Checked members earlier ∧ FirstTermination earlier

def Permitted [EmptyCollection Snap] (release : List (Event Snap))
    (mayTerm : List (Event Snap) → Pid → Handle → Prop) (earlier : List (Event Snap)) :
    Event Snap → Prop
  | .term pid handle _ => pid ∉ terms earlier ∧ mayTerm earlier pid handle
  | .close _ handle _ => handle ∉ closes earlier ∧ Released release earlier
  | _ => True

theorem Methods.after_keeps {methods : Methods Snap} {i : Session (Bound Snap) (Event Snap) → Prop}
    (kept : ∀ operation, Keeps i (methods.perform operation)) (operations : List Operation)
    (reached : i (methods.after operations)) (more : List Operation) :
    i (methods.after (operations ++ more)) := by
  unfold Methods.after Methods.serve
  rw [each_append]
  exact Keeps.after (fun _ => Keeps.rescued kept more) reached

theorem opened_append (later earlier : List (Event Snap)) :
    opened (later ++ earlier) = opened later ++ opened earlier := List.filterMap_append

theorem closes_append (later earlier : List (Event Snap)) :
    closes (later ++ earlier) = closes later ++ closes earlier := List.filterMap_append

def Closed (closed : List (Event Snap)) : Prop :=
  ∀ event ∈ closed, ∃ pid handle, event = .close pid handle (.ok ())

theorem Closed.opened {closed : List (Event Snap)} (only : Closed closed) :
    opened closed = [] := by
  refine List.filterMap_eq_nil_iff.mpr fun event member => ?_
  obtain ⟨pid, handle, rfl⟩ := only event member
  rfl

theorem Settled.later [EmptyCollection Snap] {release history : List (Event Snap)}
    (settled : Settled release history) (event : Event Snap)
    (same : opened (event :: history) = opened history) : Settled release (event :: history) := by
  obtain ⟨since, earlier, split, released, every⟩ := settled
  exact ⟨event :: since, earlier, by rw [split]; rfl, released, same ▸ every⟩

theorem FirstTermination.later {earlier : List (Event Snap)} (first : FirstTermination earlier)
    (newer : List (Event Snap)) (same : ∀ operation, .begin operation ∉ newer) :
    FirstTermination (newer ++ earlier) := by
  obtain ⟨inside, since, before, split, calm, once⟩ := first
  refine ⟨newer ++ inside, since, before, by rw [split, List.append_assoc], ?_, once⟩
  intro operation member
  rcases List.mem_append.mp member with new | old
  · exact same operation new
  · exact calm operation old

/-- Only exit polls since an inventory that was taken on `history`. -/
def Polled (now : Inventory) (history later : List (Event Snap)) : Prop :=
  ∃ polls, later = polls ++ .inventory (.ok now) :: history ∧
    ∀ event ∈ polls, ∃ handle answer, event = .exited handle answer

/-- Later events belong to the call that was under way. -/
theorem Polled.sameCall {now : Inventory} {history later : List (Event Snap)}
    (polled : Polled now history later) :
    ∃ newer, later = newer ++ history ∧ ∀ operation, Event.begin operation ∉ newer := by
  obtain ⟨polls, rfl, only⟩ := polled
  refine ⟨polls ++ [.inventory (.ok now)], by simp, fun operation member => ?_⟩
  rcases List.mem_append.mp member with poll | taken
  · obtain ⟨handle, answer, same⟩ := only _ poll
    cases same
  · simp at taken

theorem Polled.sameTerms {now : Inventory} {history later : List (Event Snap)}
    (polled : Polled now history later) : terms later = terms history := by
  obtain ⟨polls, rfl, only⟩ := polled
  have none_ : terms polls = [] := by
    refine List.filterMap_eq_nil_iff.mpr fun event member => ?_
    obtain ⟨handle, answer, rfl⟩ := only event member
    rfl
  simp only [terms, List.filterMap_append] at none_ ⊢
  simp [none_]

theorem Polled.exited {now : Inventory} {history later : List (Event Snap)}
    (polled : Polled now history later) (handle : Handle) (answer : Except Fault Bool) :
    Polled now history (.exited handle answer :: later) := by
  obtain ⟨polls, rfl, only⟩ := polled
  refine ⟨.exited handle answer :: polls, rfl, fun event member => ?_⟩
  rcases List.mem_cons.mp member with newest | old
  · exact ⟨_, _, newest⟩
  · exact only event old

end Statement

end Bscp.BoundOwner
