import Mathlib.Data.List.Basic
import Mathlib.Logic.Function.Basic

/-!
The life of an initial client session (`windows-platform/WindowsInitialSessionLifecycle.cpp`, with
the functions of `RpcSession.cpp` that share its lists). What is done under `mMutex` without
releasing it is one step; a call of `shutdownJoinWindowsInitial` is at one of the places below
whenever it has released the mutex. Threads, calls and clients take their steps in any order. What
a connection, a channel, a listener or a thread returns or throws is not for the session to decide,
and a wait may run out at any time. Every thread has a number; so has every connection, in the
order in which they are made.
-/

namespace Bscp.LocalRpc.InitialSession

/-- `status_t`, as far as the session tells its values apart. -/
inductive Status where
  | ok
  | badValue
  | deadObject
  | invalidOperation
  | noMemory
  | timedOut
  | unknownError
  | wouldBlock
  | other (code : Int)
  deriving DecidableEq, Repr

/-- Where an incoming thread is, from `addWindowsInitialIncoming` to the end of
`runWindowsInitialIncoming`. -/
inductive Place where
  | absent
  | starting
  /-- Before `readConnectionInit`. -/
  | initialising (connection : Nat)
  | started (connection : Option Nat) (status : Status)
  /-- Before the startup status is shown to whoever added the thread. -/
  | observing (connection : Option Nat) (status : Status)
  | looping (connection : Nat)
  /-- Before `requestWindowsInitialStop`. -/
  | stopping (connection : Option Nat) (failure : Status)
  | removing (connection : Option Nat) (failure : Status)
  | recording (failure : Status) (removed : Bool)
  | finishing
  | done
  deriving DecidableEq, Repr

inductive CallPlace where
  | fresh
  /-- Before the join gate is tried. -/
  | gating
  /-- Before the mutex is taken for the first time. -/
  | entering (gated : Bool)
  /-- At the head of the loop that waits for what is pending. -/
  | waiting
  | joining (rest : List Nat)
  | closing (rest : List Nat)
  /-- Before the root is closed. -/
  | releasing
  | finalising
  /-- In `sendObituaries`. -/
  | dying
  | returning (gated : Bool) (status : Status) (state : Nat) (setup : Status)
  | done
  deriving DecidableEq, Repr

structure Call where
  thread : Nat := 0
  place : CallPlace := .fresh
  deriving DecidableEq, Repr

structure World where
  /-- `mWindowsClientOwner` is set. -/
  owner : Bool := true
  maxIncomingThreads : Nat := 0
  stop : Bool := false
  state : Nat := 0
  setupStatus : Status := .ok
  setupAttempted : Bool := false
  setupActive : Bool := false
  finished : Nat := 0
  finalizeAttempted : Bool := false
  finalizeStatus : Status := .unknownError
  threads : List Nat := []
  joinable : Nat → Bool := fun _ => false
  incoming : List Nat := []
  maxIncoming : Nat := 0
  outgoing : List Nat := []
  retired : List Nat := []
  /-- `mWindowsClosingConnections`. -/
  closing : List Nat := []
  exclusive : Nat → Option Nat := fun _ => none
  waitingThreads : Nat := 0
  nextConnection : Nat := 0
  /-- `mWindowsInitialJoinGate`. -/
  gate : Option Nat := none
  place : Nat → Place := fun _ => .absent
  call : Nat → Call := fun _ => {}

namespace World

def goes (w : World) (thread : Nat) (place : Place) : World :=
  { w with place := Function.update w.place thread place }

def turns (w : World) (call : Nat) (place : CallPlace) : World :=
  { w with call := Function.update w.call call { w.call call with place := place } }

/-- `requestWindowsInitialStopLocked`; the shutdown trigger is there and cannot be set, or not. -/
def requestStop (w : World) (broken : Bool) : World :=
  { w with
    stop := true
    state := if w.state < 3 then 3 else w.state
    setupStatus := if broken ∧ w.setupStatus = .ok then .unknownError else w.setupStatus }

/-- The first failure of the setup is kept. -/
def fails (w : World) (failure : Status) : World :=
  { w with setupStatus := if failure ≠ .ok ∧ w.setupStatus = .ok then failure else w.setupStatus }

def ownsOutgoing (w : World) (thread : Nat) : Prop :=
  ∃ connection ∈ w.outgoing, w.exclusive connection = some thread

def pending (w : World) : Prop :=
  w.setupActive = true ∨ w.finished < w.threads.length ∨ 0 < w.waitingThreads ∨
    ∃ connection ∈ w.outgoing, (w.exclusive connection).isSome

def leaves (w : World) (call : Nat) (gated : Bool) (status : Status) : World :=
  w.turns call (.returning gated status w.state w.setupStatus)

/-- `sendObituaries` runs callbacks; at any other place of a call its thread does nothing else. -/
def free (w : World) (thread : Nat) : Prop :=
  ∀ call, (w.call call).thread = thread →
    (w.call call).place = .fresh ∨ (w.call call).place = .dying ∨ (w.call call).place = .done

def collect (w : World) : World :=
  { w with
    threads := []
    closing := w.closing ++ w.retired ++ w.outgoing
    retired := []
    outgoing := [] }

end World

inductive Event where
  | silent
  | setupBegins
  | setupEnds (status : Status)
  | stops
  | registers (thread : Nat)
  /-- A connection is made, incoming or outgoing. -/
  | makes (connection : Nat)
  | observes (thread : Nat) (status : Status)
  | retires (connection : Nat)
  | finishes (thread : Nat)
  | begins (call thread : Nat)
  | joins (call thread : Nat) (ok : Bool)
  | closes (connection : Nat) (status : Status)
  | rootCloses (code : Nat)
  | obituaries
  | returns (call : Nat) (status : Status) (state : Nat) (setup : Status)
  deriving DecidableEq, Repr

inductive Acts : World → Event → World → Prop
  | requests (w : World) (broken : Bool) : Acts w .stops (w.requestStop broken)
  | setupBegins {w : World} (first : w.setupAttempted = false) (going : w.stop = false) :
      Acts w .setupBegins { w with setupAttempted := true, setupActive := true, state := 1 }
  | setupFails {w : World} {status : Status} (active : w.setupActive = true)
      (failed : status ≠ .ok) (broken : Bool) :
      Acts w (.setupEnds status)
        ({ w.fails status with setupActive := false }.requestStop broken)
  | setupStopped {w : World} (active : w.setupActive = true) (stopped : w.stop = true) :
      Acts w (.setupEnds .deadObject) { w with setupActive := false }
  | setupEnds {w : World} (active : w.setupActive = true) (going : w.stop = false) :
      Acts w (.setupEnds .ok) { w with setupActive := false, state := 2 }
  -- `addOutgoingConnection`, in the setup
  | addsOutgoing {w : World} {thread : Nat} (active : w.setupActive = true)
      (free : w.free thread) :
      Acts w (.makes w.nextConnection)
        { w with
          outgoing := w.outgoing ++ [w.nextConnection]
          exclusive := Function.update w.exclusive w.nextConnection (some thread)
          nextConnection := w.nextConnection + 1 }
  -- `ExclusiveConnection`
  | uses {w : World} {thread connection : Nat} (free : w.free thread)
      (member : connection ∈ w.outgoing) (available : w.exclusive connection = none) :
      Acts w .silent
        { w with exclusive := Function.update w.exclusive connection (some thread) }
  | unuses (w : World) (connection : Nat) :
      Acts w .silent { w with exclusive := Function.update w.exclusive connection none }
  | waits (w : World) (waitingThreads : Nat) :
      Acts w .silent { w with waitingThreads := waitingThreads }
  -- `addWindowsInitialIncoming`: the thread is new, and in the map before it can take the mutex
  | registers {w : World} {thread : Nat} (going : w.stop = false)
      (new : w.place thread = .absent) (unused : ∀ call, (w.call call).place ≠ .fresh →
        (w.call call).place ≠ .done → (w.call call).thread ≠ thread) :
      Acts w (.registers thread)
        ({ w with
            threads := w.threads ++ [thread]
            joinable := Function.update w.joinable thread true }.goes thread .starting)

inductive Runs (thread : Nat) : World → Event → World → Prop
  | assigns {w : World} (here : w.place thread = .starting)
      (room : w.incoming.length < w.maxIncomingThreads)
      (open_ : w.maxIncoming ≤ w.incoming.length) :
      Runs thread w (.makes w.nextConnection)
        ({ w with
            incoming := w.incoming ++ [w.nextConnection]
            maxIncoming := w.incoming.length + 1
            exclusive := Function.update w.exclusive w.nextConnection (some thread)
            nextConnection := w.nextConnection + 1 }.goes thread
          (.initialising w.nextConnection))
  | assignRefused {w : World} (here : w.place thread = .starting)
      (full : w.maxIncomingThreads ≤ w.incoming.length ∨ w.incoming.length < w.maxIncoming) :
      Runs thread w .silent (w.goes thread (.started none .deadObject))
  | assignThrows {w : World} {status : Status} (here : w.place thread = .starting)
      (thrown : status = .noMemory ∨ status = .unknownError) :
      Runs thread w .silent (w.goes thread (.started none status))
  | initialises {w : World} {connection : Nat} (here : w.place thread = .initialising connection)
      (status : Status) :
      Runs thread w .silent (w.goes thread (.started (some connection) status))
  | starts {w : World} {connection : Option Nat}
      (here : w.place thread = .started connection .ok) :
      Runs thread w .silent (w.goes thread (.observing connection .ok))
  | startFails {w : World} {connection : Option Nat} {status : Status}
      (here : w.place thread = .started connection status) (failed : status ≠ .ok)
      (broken : Bool) :
      Runs thread w .stops ((w.requestStop broken).goes thread (.observing connection status))
  | observes {w : World} {connection : Nat}
      (here : w.place thread = .observing (some connection) .ok) :
      Runs thread w (.observes thread .ok) (w.goes thread (.looping connection))
  | observesFailure {w : World} {connection : Option Nat} {status : Status}
      (here : w.place thread = .observing connection status) (failed : status ≠ .ok) :
      Runs thread w (.observes thread status) (w.goes thread (.stopping connection status))
  | commandFails {w : World} {connection : Nat} {failure : Status}
      (here : w.place thread = .looping connection) (failed : failure ≠ .ok) :
      Runs thread w .silent (w.goes thread (.stopping (some connection) failure))
  | stops {w : World} {connection : Option Nat} {failure : Status}
      (here : w.place thread = .stopping connection failure) (broken : Bool) :
      Runs thread w .stops ((w.requestStop broken).goes thread (.removing connection failure))
  | removesNothing {w : World} {failure : Status}
      (here : w.place thread = .removing none failure) :
      Runs thread w .silent (w.goes thread (.recording failure true))
  -- the listener is called when the last one is removed, and may throw
  | removes {w : World} {connection : Nat} {failure : Status}
      (here : w.place thread = .removing (some connection) failure)
      (member : connection ∈ w.incoming) (thrown : Option Status) :
      Runs thread w (.retires connection)
        ({ w with
            retired := w.retired ++ [connection]
            incoming := w.incoming.erase connection }.goes thread
          (.recording (thrown.getD failure) thrown.isNone))
  | removeFails {w : World} {connection : Nat} {failure status : Status}
      (here : w.place thread = .removing (some connection) failure)
      (thrown : status = .noMemory ∨ status = .unknownError) :
      Runs thread w .silent (w.goes thread (.recording status false))
  -- a thread that could not remove its connection does not count as finished
  | records {w : World} {failure : Status} {removed : Bool}
      (here : w.place thread = .recording failure removed) :
      Runs thread w .silent
        ((w.fails failure).goes thread (if removed then .finishing else .done))
  | finishes {w : World} (here : w.place thread = .finishing) :
      Runs thread w (.finishes thread)
        ({ w with finished := w.finished + 1 }.goes thread .done)

def errorBusy : Nat := 170

inductive Calls (call : Nat) : World → Event → World → Prop
  -- no place for the answers, or no end of the wait
  | refuses {w : World} (here : (w.call call).place = .fresh) :
      Calls call w (.returns call .badValue w.state w.setupStatus) (w.turns call .done)
  | begins {w : World} {thread : Nat} (here : (w.call call).place = .fresh)
      (free : w.free thread) :
      Calls call w (.begins call thread)
        { w with call := Function.update w.call call ⟨thread, .gating⟩ }
  | takesGate {w : World} (here : (w.call call).place = .gating) (open_ : w.gate = none) :
      Calls call w .silent ({ w with gate := some call }.turns call (.entering true))
  | missesGate {w : World} (here : (w.call call).place = .gating) :
      Calls call w .silent (w.turns call (.entering false))
  | ownerless {w : World} {gated : Bool} (here : (w.call call).place = .entering gated)
      (none : w.owner = false) :
      Calls call w .silent (w.leaves call gated .invalidOperation)
  | blocked {w : World} {gated : Bool} (here : (w.call call).place = .entering gated)
      (some : w.owner = true) (broken : Bool)
      (busy : (w.call call).thread ∈ w.threads ∨ w.ownsOutgoing (w.call call).thread ∨
        gated = false) :
      Calls call w .stops ((w.requestStop broken).leaves call gated .wouldBlock)
  | past {w : World} (here : (w.call call).place = .entering true) (some : w.owner = true)
      (broken : Bool) (external : (w.call call).thread ∉ w.threads)
      (unused : ¬w.ownsOutgoing (w.call call).thread) (released : w.state = 5) :
      Calls call w .stops ((w.requestStop broken).leaves call true .ok)
  | enters {w : World} (here : (w.call call).place = .entering true) (some : w.owner = true)
      (broken : Bool) (external : (w.call call).thread ∉ w.threads)
      (unused : ¬w.ownsOutgoing (w.call call).thread) (live : w.state ≠ 5) :
      Calls call w .stops ((w.requestStop broken).turns call .waiting)
  | timesOut {w : World} (here : (w.call call).place = .waiting) (pending : w.pending) :
      Calls call w .silent (w.leaves call true .timedOut)
  | reserveFails {w : World} (here : (w.call call).place = .waiting) (ready : ¬w.pending)
      (early : w.state < 4) : Calls call w .silent (w.leaves call true .noMemory)
  | proceeds {w : World} (here : (w.call call).place = .waiting) (ready : ¬w.pending)
      (early : w.state < 4) : Calls call w .silent (w.turns call (.joining w.threads))
  | resumes {w : World} (here : (w.call call).place = .waiting) (ready : ¬w.pending)
      (late : 4 ≤ w.state) : Calls call w .silent (w.turns call (.closing w.closing))
  -- `join` returns when the thread has ended
  | joins {w : World} {thread : Nat} {rest : List Nat}
      (here : (w.call call).place = .joining (thread :: rest))
      (joinable : w.joinable thread = true) (ended : w.place thread = .done) :
      Calls call w (.joins call thread true)
        ({ w with joinable := Function.update w.joinable thread false }.turns call
          (.joining rest))
  | joinFails {w : World} {thread : Nat} {rest : List Nat}
      (here : (w.call call).place = .joining (thread :: rest))
      (joinable : w.joinable thread = true) :
      Calls call w (.joins call thread false) (w.leaves call true .unknownError)
  | joinSkips {w : World} {thread : Nat} {rest : List Nat}
      (here : (w.call call).place = .joining (thread :: rest))
      (joined : w.joinable thread = false) :
      Calls call w .silent (w.turns call (.joining rest))
  | collects {w : World} (here : (w.call call).place = .joining [])
      (empty : w.incoming = []) :
      Calls call w .silent
        ({ w.collect with state := 4 }.turns call (.closing w.collect.closing))
  | collectFails {w : World} (here : (w.call call).place = .joining [])
      (left : w.incoming ≠ []) :
      Calls call w .silent (w.collect.leaves call true .unknownError)
  | closes {w : World} {connection : Nat} {rest : List Nat}
      (here : (w.call call).place = .closing (connection :: rest)) :
      Calls call w (.closes connection .ok) (w.turns call (.closing rest))
  | closeFails {w : World} {connection : Nat} {rest : List Nat} {status : Status}
      (here : (w.call call).place = .closing (connection :: rest)) (failed : status ≠ .ok) :
      Calls call w (.closes connection status) (w.leaves call true status)
  -- not a channel of the client
  | closeRefuses {w : World} {connection : Nat} {rest : List Nat}
      (here : (w.call call).place = .closing (connection :: rest)) :
      Calls call w .silent (w.leaves call true .unknownError)
  | clears {w : World} (here : (w.call call).place = .closing []) :
      Calls call w .silent ({ w with closing := [] }.turns call .releasing)
  | rootCloses {w : World} (here : (w.call call).place = .releasing) :
      Calls call w (.rootCloses 0) (w.turns call .finalising)
  | rootFails {w : World} {code : Nat} (here : (w.call call).place = .releasing)
      (failed : code ≠ 0) :
      Calls call w (.rootCloses code)
        (w.leaves call true (if code = errorBusy then .wouldBlock else .unknownError))
  | attempted {w : World} (here : (w.call call).place = .finalising)
      (again : w.finalizeAttempted = true) :
      Calls call w .silent (w.leaves call true w.finalizeStatus)
  | obituaries {w : World} (here : (w.call call).place = .finalising)
      (first : w.finalizeAttempted = false) :
      Calls call w .obituaries ({ w with finalizeAttempted := true }.turns call .dying)
  | obituariesThrow {w : World} (here : (w.call call).place = .dying) :
      Calls call w .silent ((w.fails .unknownError).leaves call true .unknownError)
  | completes {w : World} (here : (w.call call).place = .dying) :
      Calls call w .silent
        ({ w with finalizeStatus := .ok, state := 5 }.leaves call true .ok)
  | returns {w : World} {gated : Bool} {status setup : Status} {state : Nat}
      (here : (w.call call).place = .returning gated status state setup) :
      Calls call w (.returns call status state setup)
        ({ w with gate := if gated then none else w.gate }.turns call .done)

inductive Step : World → Event → World → Prop
  | acts {w next : World} {event : Event} (step : Acts w event next) : Step w event next
  | runs {w next : World} {event : Event} (thread : Nat) (step : Runs thread w event next) :
      Step w event next
  | calls {w next : World} {event : Event} (call : Nat) (step : Calls call w event next) :
      Step w event next

def initial (owner : Bool) (maxIncomingThreads : Nat) : World :=
  { owner := owner, maxIncomingThreads := maxIncomingThreads }

end Bscp.LocalRpc.InitialSession
