import Bscp.Machine
import Mathlib.Logic.Function.Basic
import Mathlib.Tactic.Simps.Basic

/-!
One `VmInstance` of the desktop host (`crosvm.rs`, `virtualmachine.rs`) with the
threads that share it: callers of `VirtualMachine::start` and of `kill`, the exit
monitor, the hangup monitor, the Guest's notifications, `registerCallback`,
`startHostVsockTcpBridge` and `getState`. What holds a mutex from its first to its
last effect is one step. `VmState::start` holds the lock of `vm_state` over several
steps; what it leaves there meanwhile no other thread can see.
-/

namespace Bscp.Virtmgr

inductive Platform where
  | macos
  | windows
  | linux
  deriving DecidableEq, Repr

structure Config where
  platform : Platform
  /-- `is_shutting_down`, which the environment of the process decides. -/
  shuttingDown : Bool
  requiresVmService : Bool
  detectHangup : Bool
  deriving DecidableEq, Repr

inductive VmState where
  | notStarted
  | running
  | shuttingDown
  | dead
  | failed
  deriving DecidableEq, Repr

inductive PayloadState where
  | starting
  | started
  | ready
  | finished
  | hangup
  deriving DecidableEq, Repr

/-- The order of the variants. -/
def PayloadState.rank : PayloadState → Nat
  | .starting => 0
  | .started => 1
  | .ready => 2
  | .finished => 3
  | .hangup => 4

/-- `update_payload_state`: only forward transitions are allowed. -/
def PayloadState.update (current new : PayloadState) : PayloadState :=
  if current.rank < new.rank then new else current

inductive Child where
  | none
  | alive
  | exited
  deriving DecidableEq, Repr

inductive StopAction where
  | shutdownAsync
  | auditTokenTerm
  | controlExit
  deriving DecidableEq, Repr

inductive Caller where
  | client (number : Nat)
  | hangup
  deriving DecidableEq, Repr

inductive Kill where
  | idle
  /-- The state has been looked at; `first` has moved it. -/
  | entered (first : Bool)
  | sweeping
  /-- The bridges have been taken out and these flags are still to be cleared. -/
  | storing (flags : List Nat)
  /-- The guest agent has been read. -/
  | requesting (agent : Bool)
  | waiting
  | observing
  /-- The state has left `ShuttingDown` on Linux and the exit monitor is joined. -/
  | joining
  /-- A later call on Linux, which sends on the channel of the first. -/
  | queued
  | returned (ok : Bool)
  deriving DecidableEq, Repr

inductive Start where
  | idle
  | retained
  | served
  /-- Inside `VmState::start`, with the lock of `vm_state`. -/
  | preparing
  | spawned
  | bound (ok : Bool)
  | monitored (ok : Bool)
  | guarded (ok : Bool)
  /-- The lock is free again and the RPC server is to be started. -/
  | opening
  | failed
  | releasing
  | returned (ok : Bool)
  deriving DecidableEq, Repr

inductive Monitor where
  | absent
  | waiting
  /-- The child is reaped; this many more looks at its exit event are left. -/
  | observing (left : Nat)
  | cleaning
  | published
  | storing (flags : List Nat)
  /-- `callback_on_died` holds the callbacks; these are still to be called. -/
  | notifying (left : List Nat)
  | leaving
  | gone
  deriving DecidableEq, Repr

inductive Hangup where
  | absent
  | watching
  | timedOut
  /-- The child was seen running after the timeout. -/
  | overdue
  | killing
  | gone
  deriving DecidableEq, Repr

structure Bridge where
  host : Nat
  guest : Nat
  flag : Nat
  deriving DecidableEq, Repr

/-- Who keeps the lock of `vm_state`: a call inside `VmState::start`, or one that has
panicked with it and left it poisoned. -/
inductive Holder where
  | start (number : Nat)
  | panicked
  deriving DecidableEq, Repr

inductive Reported where
  | notStarted
  | starting
  | started
  | ready
  | finished
  | dead
  deriving DecidableEq, Repr

structure State where
  vm : VmState := .notStarted
  locked : Option Holder := none
  payload : PayloadState := .starting
  agent : Bool := false
  child : Child := .none
  peer : Bool := false
  /-- `NOTE_EXIT` of the original child has been delivered. -/
  noteExit : Bool := false
  /-- `term_attempted`, or `exit_requested`. -/
  stopAttempted : Bool := false
  monitor : Monitor := .absent
  /-- `may_release`. -/
  mayRelease : Bool := false
  hangup : Hangup := .absent
  /-- The first call of `kill` on Linux still has its `shutdown_finished_rx`. -/
  receiver : Bool := false
  kill : Caller → Kill := fun _ => .idle
  start : Nat → Start := fun _ => .idle
  registered : Bool := true
  owned : Bool := false
  callbacks : List Nat := []
  bridges : List Bridge := []
  active : Nat → Bool := fun _ => false
  /-- What has happened so far: the stop actions, what the monitor has seen, the
  callbacks accepted and told, the bridges made, the answers of `getState`. -/
  issued : List StopAction := []
  waited : Bool := false
  observed : Bool := false
  diedCalled : Bool := false
  accepted : List Nat := []
  died : List Nat := []
  made : List Bridge := []
  reports : List Reported := []

namespace State

@[simps] def setKill (state : State) (caller : Caller) (kill : Kill) : State :=
  { state with kill := Function.update state.kill caller kill }

@[simps] def setStart (state : State) (number : Nat) (start : Start) : State :=
  { state with start := Function.update state.start number start }

/-- `get_state`, which reads the payload state with `vm_state` locked. -/
def report (state : State) : Reported :=
  match state.vm with
  | .notStarted => .notStarted
  | .running =>
      match state.payload with
      | .starting => .starting
      | .started => .started
      | .ready => .ready
      | .finished => .finished
      | .hangup => .dead
  | .shuttingDown => .finished
  | .dead => .dead
  | .failed => .dead

/-- The original child's exit can be seen: through its exit event on macOS, through
the process itself elsewhere. -/
def exitSeen (state : State) : Platform → Bool
  | .macos => state.peer && state.noteExit
  | .windows | .linux => decide (state.child = .exited)

end State

/-- `VirtualMachine::start`, up to the decision what becomes of a failed start. -/
inductive StartStep (config : Config) (number : Nat) : State → State → Prop
  | hostShutdown {s : State} (here : s.start number = .idle)
      (shuttingDown : config.shuttingDown = true) :
      -- `callback_on_died` holds the callbacks until it has cleared them.
      StartStep config number s { s.setStart number (.returned false) with
        diedCalled := true
        died := s.died ++ s.callbacks
        callbacks := [] }
  | refuse {s : State} (here : s.start number = .idle) (up : config.shuttingDown = false) :
      StartStep config number s (s.setStart number (.returned false))
  | retain {s : State} (here : s.start number = .idle) (up : config.shuttingDown = false)
      (free : s.owned = false) (listed : s.registered = true) :
      StartStep config number s { s.setStart number .retained with owned := true }
  | serve {s : State} (here : s.start number = .retained) :
      StartStep config number s (s.setStart number .served)
  | serveFails {s : State} (here : s.start number = .retained)
      (needed : config.requiresVmService = true) :
      StartStep config number s (s.setStart number .failed)
  | enter {s : State} (here : s.start number = .served) (free : s.locked = none)
      (fresh : s.vm = .notStarted) :
      StartStep config number s
        { s.setStart number .preparing with locked := some (.start number) }
  | enterLate {s : State} (here : s.start number = .served) (free : s.locked = none)
      (late : s.vm ≠ .notStarted) :
      StartStep config number s (s.setStart number .failed)
  | enterPoisoned {s : State} (here : s.start number = .served)
      (poisoned : s.locked = some .panicked) :
      StartStep config number s (s.setStart number (.returned false))
  | prepareFails {s : State} (here : s.start number = .preparing) :
      StartStep config number s
        { s.setStart number .failed with vm := .failed, locked := none }
  | spawn {s : State} (here : s.start number = .preparing) :
      StartStep config number s { s.setStart number .spawned with child := .alive }
  | bindPeer {s : State} (here : s.start number = .spawned) (bound : config.platform ≠ .linux) :
      StartStep config number s { s.setStart number (.bound true) with peer := true }
  | bindFails {s : State} (here : s.start number = .spawned) (bound : config.platform ≠ .linux) :
      StartStep config number s (s.setStart number (.bound false))
  | bindNone {s : State} (here : s.start number = .spawned) (linux : config.platform = .linux) :
      StartStep config number s (s.setStart number (.bound true))
  | monitor {s : State} {ok : Bool} (here : s.start number = .bound ok) :
      StartStep config number s { s.setStart number (.monitored ok) with monitor := .waiting }
  | guard {s : State} {ok : Bool} (here : s.start number = .monitored ok) :
      StartStep config number s { s.setStart number (.guarded ok) with
        hangup := if config.detectHangup then .watching else s.hangup }
  | publish {s : State} {ok : Bool} (here : s.start number = .guarded ok) :
      StartStep config number s { s.setStart number (if ok then .opening else .failed) with
        vm := .running
        locked := none }
  | opens {s : State} (here : s.start number = .opening) :
      StartStep config number s (s.setStart number (.returned true))
  | openFails {s : State} (here : s.start number = .opening)
      (windows : config.platform = .windows) :
      StartStep config number s (s.setStart number .failed)
  | keep {s : State} (here : s.start number = .failed) (asks : config.platform ≠ .linux)
      (free : s.locked = none) (running : s.vm = .running) :
      StartStep config number s (s.setStart number (.returned false))
  | giveUp {s : State} (here : s.start number = .failed) (asks : config.platform ≠ .linux)
      (free : s.locked = none) (idle : s.vm ≠ .running) :
      StartStep config number s (s.setStart number .releasing)
  | giveUpUnasked {s : State} (here : s.start number = .failed) (linux : config.platform = .linux) :
      StartStep config number s (s.setStart number .releasing)
  | release {s : State} (here : s.start number = .releasing) :
      StartStep config number s { s.setStart number (.returned false) with
        registered := false
        owned := false }
  | releaseFails {s : State} (here : s.start number = .releasing) :
      StartStep config number s (s.setStart number (.returned false))

/-- `kill`: the calls of macOS and Windows, and those of Linux. Time may run out at any
moment of the wait. -/
inductive KillStep (config : Config) (caller : Caller) : State → State → Prop
  | first {s : State} (here : s.kill caller = .idle)
      (called : caller = .hangup → s.hangup = .killing) (free : s.locked = none)
      (running : s.vm = .running) :
      KillStep config caller s { s.setKill caller (.entered true) with
        vm := .shuttingDown
        receiver := decide (config.platform = .linux) }
  | later {s : State} (here : s.kill caller = .idle)
      (called : caller = .hangup → s.hangup = .killing) (free : s.locked = none)
      (stopping : s.vm = .shuttingDown) :
      KillStep config caller s (s.setKill caller (.entered false))
  | refuse {s : State} (here : s.kill caller = .idle)
      (called : caller = .hangup → s.hangup = .killing) (free : s.locked = none)
      (other : s.vm ≠ .running ∧ s.vm ≠ .shuttingDown) :
      KillStep config caller s (s.setKill caller (.returned false))
  | poisoned {s : State} (here : s.kill caller = .idle)
      (called : caller = .hangup → s.hangup = .killing) (poisoned : s.locked = some .panicked) :
      KillStep config caller s (s.setKill caller (.returned false))
  | ownerMissing {s : State} {first : Bool} (here : s.kill caller = .entered first)
      (windows : config.platform = .windows) (missing : s.child = .none) :
      KillStep config caller s (s.setKill caller (.returned false))
  | proceed {s : State} {first : Bool} (here : s.kill caller = .entered first)
      (owner : config.platform = .windows → s.child ≠ .none) :
      KillStep config caller s (s.setKill caller
        (if first then .sweeping else if config.platform = .linux then .queued else .waiting))
  | take {s : State} (here : s.kill caller = .sweeping) :
      KillStep config caller s
        { s.setKill caller (.storing (s.bridges.map Bridge.flag)) with bridges := [] }
  | store {s : State} {flag : Nat} {rest : List Nat}
      (here : s.kill caller = .storing (flag :: rest)) :
      KillStep config caller s { s.setKill caller (.storing rest) with
        active := Function.update s.active flag false }
  | ask {s : State} (here : s.kill caller = .storing []) :
      KillStep config caller s (s.setKill caller (.requesting s.agent))
  | shutdown {s : State} (here : s.kill caller = .requesting true)
      (told : config.platform ≠ .linux) (ok : Bool) :
      KillStep config caller s
        { s.setKill caller (if ok then .waiting else .returned false) with
          issued := .shutdownAsync :: s.issued }
  | shutdownAnyway {s : State} (here : s.kill caller = .requesting true)
      (linux : config.platform = .linux) :
      KillStep config caller s
        { s.setKill caller .waiting with issued := .shutdownAsync :: s.issued }
  | killChild {s : State} (here : s.kill caller = .requesting false)
      (linux : config.platform = .linux) :
      KillStep config caller s (s.setKill caller .waiting)
  | killChildFails {s : State} (here : s.kill caller = .requesting false)
      (linux : config.platform = .linux) :
      KillStep config caller s { s.setKill caller (.returned false) with receiver := false }
  | terminate {s : State} (here : s.kill caller = .requesting false)
      (macos : config.platform = .macos) (bound : s.peer = true) (unseen : s.noteExit = false)
      (unattempted : s.stopAttempted = false) (ok : Bool) :
      KillStep config caller s
        { s.setKill caller (if ok then .waiting else .returned false) with
          stopAttempted := true
          issued := .auditTokenTerm :: s.issued }
  | terminateExited {s : State} (here : s.kill caller = .requesting false)
      (macos : config.platform = .macos) (seen : s.exitSeen .macos = true) :
      KillStep config caller s (s.setKill caller .waiting)
  | terminateRefused {s : State} (here : s.kill caller = .requesting false)
      (macos : config.platform = .macos) :
      KillStep config caller s (s.setKill caller (.returned false))
  | requestExit {s : State} (here : s.kill caller = .requesting false)
      (windows : config.platform = .windows) (unattempted : s.stopAttempted = false) (ok : Bool) :
      KillStep config caller s
        { s.setKill caller (if ok then .waiting else .returned false) with
          stopAttempted := true
          issued := .controlExit :: s.issued }
  | requestRefused {s : State} (here : s.kill caller = .requesting false)
      (windows : config.platform = .windows) (attempted : s.stopAttempted = true) :
      KillStep config caller s (s.setKill caller (.returned false))
  | wake {s : State} (here : s.kill caller = .waiting) (observes : config.platform ≠ .linux)
      (free : s.locked = none) (dead : s.vm = .dead) :
      KillStep config caller s (s.setKill caller .observing)
  | expire {s : State} (here : s.kill caller = .waiting) (observes : config.platform ≠ .linux)
      (free : s.locked = none) (other : s.vm ≠ .dead) :
      KillStep config caller s (s.setKill caller (.returned false))
  | observe {s : State} (here : s.kill caller = .observing)
      (seen : s.exitSeen config.platform = true) :
      KillStep config caller s (s.setKill caller (.returned true))
  | unobserved {s : State} (here : s.kill caller = .observing) :
      KillStep config caller s (s.setKill caller (.returned false))
  | wakeLinux {s : State} (here : s.kill caller = .waiting) (linux : config.platform = .linux)
      (free : s.locked = none) (left : s.vm ≠ .shuttingDown) :
      KillStep config caller s (s.setKill caller .joining)
  | expireLinux {s : State} (here : s.kill caller = .waiting) (linux : config.platform = .linux)
      (free : s.locked = none) (stopping : s.vm = .shuttingDown) :
      KillStep config caller s (s.setKill caller .joining)
  | expirePanics {s : State} (here : s.kill caller = .waiting) (linux : config.platform = .linux)
      (free : s.locked = none) (stopping : s.vm = .shuttingDown) :
      -- `child.kill().unwrap()` with the guard of `vm_state` in hand.
      KillStep config caller s { s.setKill caller (.returned false) with
        receiver := false
        locked := some .panicked }
  | join {s : State} (here : s.kill caller = .joining) (linux : config.platform = .linux)
      (gone : s.monitor = .gone) :
      KillStep config caller s { s.setKill caller (.returned true) with receiver := false }
  | finished {s : State} (here : s.kill caller = .queued) (linux : config.platform = .linux)
      (dropped : s.receiver = false) :
      KillStep config caller s (s.setKill caller (.returned true))

/-- `monitor_vm_exit`, with its scope guard last. -/
inductive MonitorStep (config : Config) : State → State → Prop
  | waitMac {s : State} (here : s.monitor = .waiting) (gone : s.child = .exited)
      (macos : config.platform = .macos) :
      MonitorStep config s { s with monitor := .observing 30, waited := true }
  | waitWindows {s : State} (here : s.monitor = .waiting) (gone : s.child = .exited)
      (windows : config.platform = .windows) :
      MonitorStep config s { s with monitor := .cleaning, waited := true, mayRelease := true }
  | waitLinux {s : State} (here : s.monitor = .waiting) (gone : s.child = .exited)
      (linux : config.platform = .linux) :
      MonitorStep config s { s with monitor := .cleaning, waited := true }
  | waitFails {s : State} (here : s.monitor = .waiting) (strict : config.platform ≠ .linux) :
      MonitorStep config s { s with monitor := .leaving }
  | waitFailsLinux {s : State} (here : s.monitor = .waiting) (linux : config.platform = .linux) :
      MonitorStep config s { s with monitor := .cleaning }
  | observe {s : State} {left : Nat} (here : s.monitor = .observing left)
      (seen : s.exitSeen .macos = true) :
      MonitorStep config s { s with monitor := .cleaning, observed := true, mayRelease := true }
  | observeAgain {s : State} {left : Nat} (here : s.monitor = .observing (left + 1)) :
      MonitorStep config s { s with monitor := .observing left }
  | observeFails {s : State} {left : Nat} (here : s.monitor = .observing left) :
      MonitorStep config s { s with monitor := .leaving }
  | publish {s : State} (here : s.monitor = .cleaning) (free : s.locked = none) :
      MonitorStep config s { s with monitor := .published, vm := .dead }
  | publishPoisoned {s : State} (here : s.monitor = .cleaning)
      (poisoned : s.locked = some .panicked) :
      MonitorStep config s { s with monitor := .leaving }
  | take {s : State} (here : s.monitor = .published) :
      MonitorStep config s
        { s with monitor := .storing (s.bridges.map Bridge.flag), bridges := [] }
  | store {s : State} {flag : Nat} {rest : List Nat} (here : s.monitor = .storing (flag :: rest)) :
      MonitorStep config s { s with
        monitor := .storing rest
        active := Function.update s.active flag false }
  | call {s : State} (here : s.monitor = .storing []) :
      MonitorStep config s { s with monitor := .notifying s.callbacks, diedCalled := true }
  | tell {s : State} {callback : Nat} {rest : List Nat}
      (here : s.monitor = .notifying (callback :: rest)) :
      MonitorStep config s { s with monitor := .notifying rest, died := s.died ++ [callback] }
  | clear {s : State} (here : s.monitor = .notifying []) :
      MonitorStep config s { s with monitor := .leaving, callbacks := [] }
  | release {s : State} (here : s.monitor = .leaving)
      (proven : config.platform = .linux ∨ s.mayRelease = true) :
      MonitorStep config s { s with monitor := .gone, registered := false, owned := false }
  | retain {s : State} (here : s.monitor = .leaving) :
      MonitorStep config s { s with monitor := .gone }

/-- `monitor_payload_hangup`, up to its call of `kill`. -/
inductive HangupStep : State → State → Prop
  | timeout {s : State} (here : s.hangup = .watching) (late : s.payload = .starting) :
      HangupStep s { s with hangup := .timedOut }
  | started {s : State} (here : s.hangup = .watching) (done : s.payload ≠ .starting) :
      HangupStep s { s with hangup := .gone }
  | alive {s : State} (here : s.hangup = .timedOut) (running : s.child = .alive) :
      HangupStep s { s with hangup := .overdue }
  | exited {s : State} (here : s.hangup = .timedOut) : HangupStep s { s with hangup := .gone }
  | update {s : State} (here : s.hangup = .overdue) :
      HangupStep s { s with hangup := .killing, payload := s.payload.update .hangup }

/-- What the Guest and the system do on their own. -/
inductive OutsideStep : State → State → Prop
  | registerAgent {s : State} : OutsideStep s { s with agent := true }
  | notify {s : State} (new : PayloadState) (guest : new ≠ .hangup) :
      OutsideStep s { s with payload := s.payload.update new }
  | exits {s : State} (alive : s.child = .alive) : OutsideStep s { s with child := .exited }
  | deliver {s : State} (gone : s.child = .exited) : OutsideStep s { s with noteExit := true }
  | bridgeEnds {s : State} (flag : Nat) :
      OutsideStep s { s with active := Function.update s.active flag false }

/-- The other calls of `IVirtualMachine`. A callback is one registration of it. -/
inductive ClientStep : State → State → Prop
  | registerCallback {s : State} {callback : Nat} (fresh : callback ∉ s.accepted)
      (free : s.locked = none) (living : s.vm ≠ .dead) :
      ClientStep s { s with
        callbacks := s.callbacks ++ [callback]
        accepted := s.accepted ++ [callback] }
  | startBridge {s : State} {host guest : Nat} (free : s.locked = none) (running : s.vm = .running)
      (hostPort : 1 ≤ host ∧ host ≤ 65535) (guestPort : 1024 ≤ guest)
      (idle : ∀ bridge ∈ s.bridges, bridge.host = host → s.active bridge.flag = false) :
      ClientStep s { s with
        bridges := ⟨host, guest, s.made.length⟩ ::
          s.bridges.filter (fun bridge => bridge.host ≠ host)
        active := Function.update s.active s.made.length true
        made := s.made ++ [⟨host, guest, s.made.length⟩] }
  | getState {s : State} (free : s.locked = none) :
      ClientStep s { s with reports := s.report :: s.reports }

inductive Step (config : Config) : State → State → Prop
  | start {s next : State} (number : Nat) (step : StartStep config number s next) : Step config s next
  | kill {s next : State} (caller : Caller) (step : KillStep config caller s next) :
      Step config s next
  | monitor {s next : State} (step : MonitorStep config s next) : Step config s next
  | hangup {s next : State} (step : HangupStep s next) : Step config s next
  | outside {s next : State} (step : OutsideStep s next) : Step config s next
  | client {s next : State} (step : ClientStep s next) : Step config s next

abbrev Reachable (config : Config) (state : State) : Prop :=
  Machine.Reach (Step config) {} state

section Frames

variable {config : Config} {s next : State}

/-- What `kill` leaves alone, and the one way it moves the state. -/
theorem KillStep.frame {caller : Caller} (step : KillStep config caller s next) :
    next.start = s.start ∧
      (next.locked = s.locked ∨ s.locked = none ∧ s.vm = .shuttingDown ∧
        next.locked = some .panicked) ∧
      next.child = s.child ∧ next.peer = s.peer ∧
      next.noteExit = s.noteExit ∧ next.monitor = s.monitor ∧ next.waited = s.waited ∧
      next.observed = s.observed ∧ next.mayRelease = s.mayRelease ∧
      next.diedCalled = s.diedCalled ∧ next.registered = s.registered ∧ next.owned = s.owned ∧
      next.callbacks = s.callbacks ∧ next.accepted = s.accepted ∧ next.died = s.died ∧
      next.made = s.made ∧ next.payload = s.payload ∧ next.hangup = s.hangup ∧
      next.reports = s.reports ∧
      (next.vm = s.vm ∨ s.vm = .running ∧ next.vm = .shuttingDown ∧ s.locked = none) := by
  cases step <;> simp_all [State.setKill]

theorem HangupStep.frame (step : HangupStep s next) :
    next = { s with hangup := next.hangup, payload := next.payload } := by
  cases step <;> rfl

theorem OutsideStep.frame (step : OutsideStep s next) :
    next = { s with
      agent := next.agent
      payload := next.payload
      child := next.child
      noteExit := next.noteExit
      active := next.active } := by
  cases step <;> rfl

theorem ClientStep.frame (step : ClientStep s next) :
    next = { s with
      callbacks := next.callbacks
      accepted := next.accepted
      bridges := next.bridges
      active := next.active
      made := next.made
      reports := next.reports } := by
  cases step <;> rfl

end Frames

end Bscp.Virtmgr
