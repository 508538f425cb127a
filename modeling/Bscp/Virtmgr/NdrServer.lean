import Bscp.Machine
import Mathlib.Logic.Function.Basic

/-!
The managed NDR server (`WindowsNdrServerLifecycle.cpp`) and the Rust driver over it
(`drive_until_joined` of `windows_ndr_server.rs`). What is done under `mLock` is one step; the
join gate is taken before that lock and kept while a caller waits or joins. The loop thread,
the connecting threads and any number of callers take their steps in any order.
-/

namespace Bscp.Virtmgr.NdrServer

inductive Phase where
  | new
  | starting
  | ready
  | stopping
  | loopExited
  | joined
  deriving DecidableEq, Repr

def Phase.number : Phase → Nat
  | .new => 0
  | .starting => 1
  | .ready => 2
  | .stopping => 3
  | .loopExited => 4
  | .joined => 5

/-! The status codes, as `utils/Errors.h` has them for Windows. -/

def unknownError : Int := -2147483648

def noMemory : Int := -12

def invalidOperation : Int := -40

def deadObject : Int := -32

def wouldBlock : Int := unknownError + 4

def windowsTimedOut : Int := unknownError + 5

/-- What a call reports: its own status, and the snapshot. -/
structure Observation where
  operation : Int
  state : Nat
  loopStatus : Int
  deriving DecidableEq, Repr

namespace Observation

def ready (o : Observation) : Bool := o.operation = 0 && o.state = 2 && o.loopStatus = 0

def joined (o : Observation) : Bool := o.operation = 0 && o.state = 5

def joinPending (o : Observation) : Bool :=
  o.operation = -110 && (o.state = 1 || o.state = 3 || o.state = 4)

def startPending (o : Observation) : Bool := o.operation = -110 && (o.state = 0 || o.state = 1)

end Observation

inductive Pc where
  | idle
  /-- Inside `startWindowsNdr`, before the lock. -/
  | starting
  /-- Inside `shutdownJoinWindowsNdr`, before the lock. -/
  | stopping
  /-- On the condition variable. -/
  | waiting
  /-- At the join, without the lock. -/
  | joining
  deriving DecidableEq, Repr

inductive Loop where
  | unborn
  | begun
  | running
  | accepting
  | ended (result : Int)
  | exited
  deriving DecidableEq, Repr

structure Native where
  state : Phase := .new
  loopStatus : Int := 0
  managed : Bool := false
  stopRequested : Bool := false
  /-- `mJoinThread` is there, and has not been joined. -/
  joinThread : Bool := false
  joinThreadRunning : Bool := false
  /-- `mShutdownTrigger`, and whether it is triggered. -/
  trigger : Option Bool := none
  connecting : Nat := 0
  sessions : Nat := 0
  gate : Option Nat := none
  pc : Nat → Pc := fun _ => .idle
  loop : Loop := .unborn
  /-- What has happened so far: the loop threads that were started, and whether a join failed. -/
  started : Nat := 0
  joinFailed : Bool := false

namespace Native

/-- `latchWindowsNdrErrorLocked`. -/
def latch (s : Native) (value : Int) : Native :=
  { s with loopStatus := if value ≠ 0 && s.loopStatus = 0 then value else s.loopStatus }

def snapshot (s : Native) (operation : Int) : Observation := ⟨operation, s.state.number, s.loopStatus⟩

/-- What the events of the triggers answer: that of the server, and those of the sessions. -/
structure Events where
  server : Bool
  sessions : Bool

/-- `requestWindowsNdrStopLocked`. -/
def requestStop (s : Native) (events : Events) : Native :=
  let stopped := { s with
    stopRequested := true
    state := if s.state.number < 4 then .stopping else s.state
    trigger := s.trigger.map (· || events.server) }
  if (s.trigger.isSome && !events.server) || (0 < s.sessions && !events.sessions) then
    stopped.latch unknownError
  else stopped

def leave (s : Native) (thread : Nat) : Native :=
  { s with gate := none, pc := Function.update s.pc thread .idle }

def enter (s : Native) (thread : Nat) (pc : Pc) : Native :=
  { s with gate := some thread, pc := Function.update s.pc thread pc }

def startable (s : Native) : Bool :=
  s.state = .new && !s.joinThread && !s.joinThreadRunning && s.trigger.isNone

def quiet (s : Native) : Bool :=
  s.state = .loopExited && !s.joinThreadRunning && s.connecting = 0 && s.sessions = 0

/-- `waitWindowsNdrReady` at the moment that it returns. -/
def ready (s : Native) (timedOut : Int) : Observation :=
  match s.state with
  | .new => s.snapshot timedOut
  | .starting => s.snapshot timedOut
  | .ready => s.snapshot 0
  | _ => s.snapshot (if s.loopStatus = 0 then deadObject else s.loopStatus)

/-- How the loop thread begins: no memory or an exception, an acceptor that is dead, or well. -/
inductive Beginning where
  | throws (result : Int)
  | noTrigger
  | dead
  | well
  deriving DecidableEq, Repr

def loopBegin (s : Native) (beginning : Beginning) (events : Events) : Native :=
  let s := { s with joinThreadRunning := true }
  match beginning with
  | .throws result => { s with loop := .ended result }
  | .noTrigger => { s.requestStop events with loop := .ended noMemory }
  | .dead => { requestStop { s with trigger := some false } events with loop := .ended deadObject }
  | .well =>
      if s.stopRequested then
        { requestStop { s with trigger := some false } events with loop := .running }
      else { s with trigger := some false, state := .ready, loop := .running }

def loopCheck (s : Native) : Native :=
  if s.stopRequested then { s with loop := .ended 0 }
  else if s.trigger = some true then { s with loop := .ended deadObject }
  else { s with loop := .accepting }

inductive Accepting where
  | nothing
  | connection
  | fails (result : Int)
  deriving DecidableEq, Repr

def loopAccept (s : Native) (accepting : Accepting) : Native :=
  match accepting with
  | .nothing => { s with loop := .running }
  | .connection =>
      -- a trigger that came in between: the connection is dropped
      if s.trigger = some true then { s with loop := .running }
      else { s with connecting := s.connecting + 1, loop := .running }
  | .fails result => { s with loop := .ended result }

def loopEnd (s : Native) (result : Int) (events : Events) : Native :=
  { requestStop (s.latch result) events with
    joinThreadRunning := false
    state := .loopExited
    loop := .exited }

end Native

open Native

/-- A step of the native side, and what a call returns that ends with it. `timedOut` is the code
of `TIMED_OUT`. -/
inductive Step (timedOut : Int) : Native → Option (Nat × Observation) → Native → Prop
  | startBlocked {s : Native} (thread : Nat) (here : s.pc thread = .idle) (held : s.gate ≠ none) :
      Step timedOut s (some (thread, s.snapshot wouldBlock)) s
  | startEnter {s : Native} (thread : Nat) (here : s.pc thread = .idle) (free : s.gate = none) :
      Step timedOut s none (s.enter thread .starting)
  | startRefused {s : Native} {thread : Nat} (here : s.pc thread = .starting)
      (refused : s.startable = false) :
      Step timedOut s (some (thread, s.snapshot invalidOperation)) (s.leave thread)
  | startFails {s : Native} {thread : Nat} (here : s.pc thread = .starting)
      (startable : s.startable = true) (status : Int)
      (code : status = noMemory ∨ status = unknownError) :
      Step timedOut s (some (thread, s.snapshot status))
        (leave { s.latch status with managed := true, state := .loopExited } thread)
  | startOk {s : Native} {thread : Nat} (here : s.pc thread = .starting)
      (startable : s.startable = true) :
      Step timedOut s (some (thread, s.snapshot 0))
        (leave { s with
          managed := true
          state := .starting
          joinThread := true
          loop := .begun
          started := s.started + 1 } thread)
  | waitReady {s : Native} (thread : Nat) (here : s.pc thread = .idle) :
      Step timedOut s (some (thread, s.ready timedOut)) s
  | joinBlocked {s : Native} (thread : Nat) (here : s.pc thread = .idle) (held : s.gate ≠ none) :
      Step timedOut s (some (thread, s.snapshot wouldBlock)) s
  | joinEnter {s : Native} (thread : Nat) (here : s.pc thread = .idle) (free : s.gate = none) :
      Step timedOut s none (s.enter thread .stopping)
  | joinRefused {s : Native} {thread : Nat} (here : s.pc thread = .stopping)
      (refused : s.managed = false ∧
        (s.joinThread = true ∨ s.joinThreadRunning = true ∨ s.trigger ≠ none)) :
      Step timedOut s (some (thread, s.snapshot invalidOperation)) (s.leave thread)
  | joinAlready {s : Native} {thread : Nat} (here : s.pc thread = .stopping)
      (joined : s.state = .joined) :
      Step timedOut s (some (thread, s.snapshot 0)) (leave { s with managed := true } thread)
  | joinNew {s : Native} {thread : Nat} (here : s.pc thread = .stopping) (new : s.state = .new)
      (alone : s.managed = true ∨
        (s.joinThread = false ∧ s.joinThreadRunning = false ∧ s.trigger = none)) :
      Step timedOut s (some (thread, ⟨0, Phase.joined.number, s.loopStatus⟩))
        (leave { s with managed := true, stopRequested := true, state := .joined } thread)
  | joinWait {s : Native} {thread : Nat} (here : s.pc thread = .stopping) (events : Events)
      (going : s.state ≠ .joined ∧ s.state ≠ .new)
      (alone : s.managed = true ∨
        (s.joinThread = false ∧ s.joinThreadRunning = false ∧ s.trigger = none)) :
      Step timedOut s none
        (enter (requestStop { s with managed := true } events) thread .waiting)
  | joinTimeout {s : Native} {thread : Nat} (here : s.pc thread = .waiting)
      (busy : s.quiet = false) :
      Step timedOut s (some (thread, s.snapshot timedOut)) (s.leave thread)
  | joinGoes {s : Native} {thread : Nat} (here : s.pc thread = .waiting) (done : s.quiet = true) :
      Step timedOut s none (s.enter thread .joining)
  | joinFails {s : Native} {thread : Nat} (here : s.pc thread = .joining)
      (unjoined : s.joinThread = true) :
      Step timedOut s (some (thread, (s.latch unknownError).snapshot unknownError))
        (leave { s.latch unknownError with joinFailed := true } thread)
  | joinOk {s : Native} {thread : Nat} (here : s.pc thread = .joining)
      (ended : s.joinThread = true → s.loop = .exited) :
      Step timedOut s (some (thread, ⟨0, Phase.joined.number, s.loopStatus⟩))
        (leave { s with joinThread := false, trigger := none, state := .joined } thread)
  | loopBegin {s : Native} (here : s.loop = .begun) (beginning : Beginning) (events : Events)
      (failed : ∀ result, beginning = .throws result → result ≠ 0) :
      Step timedOut s none (s.loopBegin beginning events)
  | loopCheck {s : Native} (here : s.loop = .running) : Step timedOut s none s.loopCheck
  | loopAccept {s : Native} (here : s.loop = .accepting) (accepting : Accepting)
      (failed : ∀ result, accepting = .fails result → result ≠ 0) :
      Step timedOut s none (s.loopAccept accepting)
  | loopEnd {s : Native} {result : Int} (here : s.loop = .ended result) (events : Events) :
      Step timedOut s none (s.loopEnd result events)
  | connectEnds {s : Native} (some_connecting : 0 < s.connecting) :
      Step timedOut s none { s with connecting := s.connecting - 1 }
  | connectSession {s : Native} (some_connecting : 0 < s.connecting)
      (untriggered : s.trigger = some false) :
      Step timedOut s none
        { s with connecting := s.connecting - 1, sessions := s.sessions + 1 }
  | sessionEnds {s : Native} (some_sessions : 0 < s.sessions) :
      Step timedOut s none { s with sessions := s.sessions - 1 }

/-! The driver. -/

inductive Driver where
  /-- At the top of the loop. -/
  | top
  /-- Inside `wait_ready`, at the native call, and after it. -/
  | observes
  | observed (value : Observation)
  /-- Inside `shutdown_join`. -/
  | joins
  | returned (value : Observation)
  | failed (value : Observation)
  deriving DecidableEq, Repr

structure Joint where
  native : Native := {}
  stop : Bool := false
  driver : Driver := .top

/-- The driver's calls are those of thread 0; a call of any other thread is another caller's. -/
inductive Joint.Step (timedOut : Int) : Joint → Joint → Prop
  | native {j : Joint} {after : Native} {event : Option (Nat × Observation)}
      (step : NdrServer.Step timedOut j.native event after)
      (others : ∀ value, event ≠ some (0, value)) (same : after.pc 0 = j.native.pc 0) :
      Step timedOut j { j with native := after }
  | shutdown (j : Joint) : Step timedOut j { j with stop := true }
  | looks {j : Joint} (here : j.driver = .top) (running : j.stop = false) :
      Step timedOut j { j with driver := .observes }
  | observes {j : Joint} (here : j.driver = .observes) (idle : j.native.pc 0 = .idle) :
      Step timedOut j { j with driver := .observed (j.native.ready timedOut) }
  | unpublishable {j : Joint} {value : Observation} (here : j.driver = .observed value)
      (stopped : j.stop = true) (ready : value.ready = true) :
      Step timedOut j { j with driver := .failed value }
  | stops {j : Joint} {value : Observation} (here : j.driver = .observed value)
      (publishable : ¬(j.stop = true ∧ value.ready = true)) (past : 3 ≤ value.state ∧ value.state ≤ 5) :
      Step timedOut j { j with stop := true, driver := .top }
  | goesOn {j : Joint} {value : Observation} (here : j.driver = .observed value)
      (publishable : ¬(j.stop = true ∧ value.ready = true))
      (under : ¬(3 ≤ value.state ∧ value.state ≤ 5))
      (well : value.ready = true ∨ value.startPending = true) :
      Step timedOut j { j with driver := .top }
  | gives {j : Joint} {value : Observation} (here : j.driver = .observed value)
      (publishable : ¬(j.stop = true ∧ value.ready = true))
      (under : ¬(3 ≤ value.state ∧ value.state ≤ 5))
      (ill : value.ready = false ∧ value.startPending = false) :
      Step timedOut j { j with driver := .failed value }
  | joins {j : Joint} (here : j.driver = .top) (stopped : j.stop = true) :
      Step timedOut j { j with driver := .joins }
  | calls {j : Joint} {after : Native} (here : j.driver = .joins)
      (step : NdrServer.Step timedOut j.native none after)
      (mine : after.pc 0 ≠ j.native.pc 0 ∧ after.pc 0 ≠ .starting) :
      Step timedOut j { j with native := after }
  | joined {j : Joint} {after : Native} {value : Observation} (here : j.driver = .joins)
      (step : NdrServer.Step timedOut j.native (some (0, value)) after)
      (join : j.native.pc 0 ≠ .idle ∨ j.native.gate ≠ none ∧ value = j.native.snapshot wouldBlock)
      (done : value.joined = true) :
      Step timedOut j { j with native := after, driver := .returned value }
  | again {j : Joint} {after : Native} {value : Observation} (here : j.driver = .joins)
      (step : NdrServer.Step timedOut j.native (some (0, value)) after)
      (join : j.native.pc 0 ≠ .idle ∨ j.native.gate ≠ none ∧ value = j.native.snapshot wouldBlock)
      (undone : value.joined = false) (pending : value.joinPending = true) :
      Step timedOut j { j with native := after, driver := .top }
  | gaveUp {j : Joint} {after : Native} {value : Observation} (here : j.driver = .joins)
      (step : NdrServer.Step timedOut j.native (some (0, value)) after)
      (join : j.native.pc 0 ≠ .idle ∨ j.native.gate ≠ none ∧ value = j.native.snapshot wouldBlock)
      (undone : value.joined = false) (past : value.joinPending = false) :
      Step timedOut j { j with native := after, driver := .failed value }

end Bscp.Virtmgr.NdrServer
