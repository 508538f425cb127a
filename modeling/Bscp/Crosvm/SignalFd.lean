import Bscp.Machine
import Mathlib.Data.List.Perm.Basic
import Mathlib.Logic.Function.Basic

/-!
The `SignalFd` of the macOS port (`base/src/sys/linux_macos/signalfd.rs`): a handler for SIGCHLD
writes a byte into the pipe that is the relay's target at that time, and a read takes a byte and
reaps all the children that have exited. The calls come one after the other, each on a thread of
its own choice; each of their system calls is a step, and children exit and signals are delivered
between any two of them.
-/

namespace Bscp.Crosvm.SignalFd

abbrev Thread := Nat

abbrev Pipe := Nat

def SIGCHLD : Nat := 20
def CLD_EXITED : Nat := 1
def CLD_KILLED : Nat := 2

def PIPE_SIZE : Nat := 65536

/-! ### Children -/

inductive Ending where
  | exited (code : UInt8)
  | signaled (signal : { signal : Nat // 0 < signal ∧ signal < 127 }) (core : Bool)
  deriving DecidableEq

def Ending.status : Ending → Nat
  | .exited code => code.toNat * 256
  | .signaled signal core => signal.1 + if core then 128 else 0

def exitCode (status : Nat) : Option Nat :=
  if status % 128 = 0 then some (status / 256 % 256) else none

def termSignal (status : Nat) : Option Nat :=
  if status % 128 ≠ 127 ∧ status % 128 ≠ 0 then some (status % 128) else none

/-- The fields of `signalfd_siginfo` that are not zero. -/
structure Siginfo where
  signo : Nat
  pid : Nat
  code : Nat
  status : Nat
  deriving DecidableEq, Repr

def siginfoFromWaitStatus (signal pid status : Nat) : Siginfo :=
  match exitCode status with
  | some code => ⟨signal, pid, CLD_EXITED, code⟩
  | none =>
      match termSignal status with
      | some sig => ⟨signal, pid, CLD_KILLED, sig⟩
      | none => ⟨signal, pid, CLD_EXITED, 0⟩

structure Child where
  pid : Nat
  ending : Ending
  deriving DecidableEq

def Child.told (child : Child) : Siginfo :=
  match child.ending with
  | .exited code => ⟨SIGCHLD, child.pid, CLD_EXITED, code.toNat⟩
  | .signaled signal _ => ⟨SIGCHLD, child.pid, CLD_KILLED, signal.1⟩

/-- A child that has exited and was not waited for, and the pipe to which the handler wrote when
its signal was delivered. -/
structure Zombie where
  child : Child
  relayed : Option Pipe := none

/-! ### The process -/

inductive Action where
  | relaySignal
  | other (code : Nat)
  deriving DecidableEq

@[ext]
structure Globals where
  opened : List Pipe
  /-- The threads that block SIGCHLD. -/
  blocked : Thread → Bool
  action : Action
  /-- `RELAY_WRITE_FD`; nothing stands for minus one. -/
  relay : Option Pipe

structure Value where
  pipe : Pipe
  signal : Nat
  oldAction : Action
  pending : List Siginfo := []
  creator : Thread

inductive NewStage where
  | pipe
  | store (pipe : Pipe)
  | block (pipe : Pipe)
  | sigaction (pipe : Pipe)
  /-- `sigaction` has failed. -/
  | clear (pipe : Pipe)
  | close (pipe : Pipe)
  | unblock
  deriving DecidableEq

inductive ReadStage where
  | pop
  | byte
  | reap
  | popReaped
  deriving DecidableEq

inductive DropStage where
  | restore
  | clear
  | unblock
  | close
  deriving DecidableEq

inductive Call where
  | none
  | new (stage : NewStage) (thread : Thread) (before : Globals)
  | read (stage : ReadStage) (index : Nat)
  | drop (stage : DropStage) (thread : Thread) (value : Value)

structure State where
  globals : Globals
  bytes : Pipe → Nat := fun _ => 0
  fresh : Pipe := 0
  alive : List Value := []
  zombies : List Zombie := []
  /-- SIGCHLD has been raised and not been delivered. -/
  raised : Bool := false
  call : Call := .none
  /-- All children that have exited, in their order. -/
  exits : List Child := []
  /-- What the reads have returned. -/
  returned : List Siginfo := []
  /-- What was in the queues of values that were dropped. -/
  lost : List Siginfo := []
  /-- The calls of `new` that have failed, each with what it found and what it left. -/
  failed : List (Globals × Globals) := []

/-- The system calls of `block_signal` that can fail. -/
inductive BlockFault where
  | createSigset
  | blockSignal
  | compareBlockedSignals
  deriving DecidableEq

inductive Event where
  | exit (child : Child)
  | deliver (thread : Thread)
  | callNew (thread : Thread) (signal : Nat)
  | callRead (index : Nat)
  | callDrop (thread : Thread) (index : Nat)
  /-- The next step of the call, which succeeds. -/
  | goes
  | failsPipe
  | failsBlock (fault : BlockFault)
  | failsSigaction
  | failsRead
  /-- `waitpid` returns this one of the children. -/
  | reaps (index : Nat)
  deriving DecidableEq

namespace State

variable (s : State)

def setBlocked (thread : Thread) (blocked : Bool) : State :=
  { s with globals := { s.globals with
      blocked := Function.update s.globals.blocked thread blocked } }

def setRelay (relay : Option Pipe) : State :=
  { s with globals := { s.globals with relay := relay } }

def setAction (action : Action) : State :=
  { s with globals := { s.globals with action := action } }

def close (pipe : Pipe) : State :=
  { s with globals := { s.globals with opened := s.globals.opened.erase pipe } }

def enter (call : Call) : State := { s with call := call }

def fail (before : Globals) : State :=
  { s with call := .none, failed := s.failed ++ [(before, s.globals)] }

/-- `relay_signal`. A write to a pipe that is full does nothing. -/
def relaySignal : State :=
  match s.globals.relay with
  | none => s
  | some pipe =>
      if pipe ∈ s.globals.opened ∧ s.bytes pipe < PIPE_SIZE then
        { s with bytes := Function.update s.bytes pipe (s.bytes pipe + 1) }
      else s

/-- The delivery of a signal: one for all the children that have exited. -/
def delivered : State :=
  let s := { s with raised := false }
  match s.globals.action with
  | .other _ => s
  | .relaySignal =>
      { s.relaySignal with
        zombies := s.zombies.map fun zombie => { zombie with relayed := s.globals.relay } }

def newGoes (thread : Thread) (before : Globals) : NewStage → State
  | .pipe =>
      { s with globals := { s.globals with opened := s.fresh :: s.globals.opened }
               bytes := Function.update s.bytes s.fresh 0
               fresh := s.fresh + 1
               call := .new (.store s.fresh) thread before }
  | .store pipe => (s.setRelay (some pipe)).enter (.new (.block pipe) thread before)
  | .block pipe =>
      -- `Error::SignalAlreadyBlocked` is returned as the other errors are, by `?`.
      if s.globals.blocked thread then s.fail before
      else (s.setBlocked thread true).enter (.new (.sigaction pipe) thread before)
  | .sigaction pipe =>
      let value : Value := ⟨pipe, SIGCHLD, s.globals.action, [], thread⟩
      { s.setAction .relaySignal with alive := s.alive ++ [value], call := .none }
  | .clear pipe => (s.setRelay none).enter (.new (.close pipe) thread before)
  | .close pipe => (s.close pipe).enter (.new .unblock thread before)
  | .unblock => (s.setBlocked thread false).fail before

def popQueue (index : Nat) (value : Value) (otherwise : Call) : State :=
  match value.pending with
  | [] => s.enter otherwise
  | first :: rest =>
      { s with alive := s.alive.set index { value with pending := rest }
               returned := s.returned ++ [first]
               call := .none }

def readGoes (index : Nat) (value : Value) : ReadStage → Option State
  | .pop => some (s.popQueue index value (.read .byte index))
  | .byte =>
      if s.bytes value.pipe = 0 then some (s.enter .none)
      else
        some { s with
          bytes := Function.update s.bytes value.pipe (s.bytes value.pipe - 1)
          call := .read .reap index }
  | .reap => if s.zombies.isEmpty then some (s.enter (.read .popReaped index)) else none
  | .popReaped => some (s.popQueue index value .none)

/-- `waitpid` in `reap_available` gives a child. -/
def reaps (index : Nat) (value : Value) (zombie : Zombie) (place : Nat) : State :=
  { s with
    zombies := s.zombies.eraseIdx place
    alive := s.alive.set index { value with pending := value.pending ++
      [siginfoFromWaitStatus value.signal zombie.child.pid zombie.child.ending.status] } }

/-- `drop`. The descriptors and the queue go last. -/
def dropGoes (thread : Thread) (value : Value) : DropStage → State
  | .restore => (s.setAction value.oldAction).enter (.drop .clear thread value)
  | .clear => (s.setRelay none).enter (.drop .unblock thread value)
  | .unblock => (s.setBlocked thread false).enter (.drop .close thread value)
  | .close =>
      let closed := s.close value.pipe
      { closed with lost := s.lost ++ value.pending, call := .none }

end State

open State in
def step (s : State) : Event → Option State
  | .exit child =>
      some { s with zombies := s.zombies ++ [{ child }]
                    raised := true
                    exits := s.exits ++ [child] }
  | .deliver thread =>
      if s.raised ∧ s.globals.blocked thread = false then some s.delivered else none
  | .callNew thread signal =>
      match s.call with
      | .none =>
          if signal ≠ SIGCHLD then some (s.fail s.globals)
          else some (s.enter (.new .pipe thread s.globals))
      | _ => none
  | .callRead index =>
      match s.call, s.alive[index]? with
      | .none, some _ => some (s.enter (.read .pop index))
      | _, _ => none
  | .callDrop thread index =>
      match s.call, s.alive[index]? with
      | .none, some value =>
          some { s with alive := s.alive.eraseIdx index, call := .drop .restore thread value }
      | _, _ => none
  | .goes =>
      match s.call with
      | .none => none
      | .new stage thread before => some (s.newGoes thread before stage)
      | .read stage index => s.alive[index]?.bind fun value => s.readGoes index value stage
      | .drop stage thread value => some (s.dropGoes thread value stage)
  | .failsPipe =>
      match s.call with
      | .new .pipe _ before => some (s.fail before)
      | _ => none
  | .failsBlock fault =>
      match s.call with
      | .new (.block _) thread before =>
          -- `sigismember` is asked after the signal was blocked.
          some (if fault = .compareBlockedSignals then (s.setBlocked thread true).fail before
            else s.fail before)
      | _ => none
  | .failsSigaction =>
      match s.call with
      | .new (.sigaction pipe) thread before => some (s.enter (.new (.clear pipe) thread before))
      | _ => none
  | .failsRead =>
      match s.call with
      | .read .byte _ => some (s.enter .none)
      | _ => none
  | .reaps place =>
      match s.call with
      | .read .reap index =>
          s.alive[index]?.bind fun value =>
            s.zombies[place]?.map fun zombie => s.reaps index value zombie place
      | _ => none

def run (s : State) : List Event → Option State
  | [] => some s
  | event :: events => (step s event).bind fun next => run next events

def Event.isRead : Event → Bool
  | .callRead _ | .goes | .reaps _ => true
  | _ => false

/-! ### What is asked for -/

structure Origin where
  blocked : Thread → Bool
  action : Nat

def Origin.start (origin : Origin) : State where
  globals := ⟨[], origin.blocked, .other origin.action, none⟩

namespace State

def Signalled (s : State) (pipe : Pipe) : Prop :=
  ∃ zombie ∈ s.zombies, zombie.relayed = some pipe

def dropping (s : State) : List Value :=
  match s.call with
  | .drop _ _ value => [value]
  | _ => []

def queued (s : State) : List Siginfo := (s.alive ++ s.dropping).flatMap Value.pending

def waiting (s : State) : List Siginfo := s.zombies.map fun zombie => zombie.child.told

end State

structure Sound (origin : Origin) (s : State) : Prop where
  /-- Each exit is returned once, or is still in a queue or to be reaped. -/
  once : (s.exits.map Child.told).Perm (s.returned ++ s.queued ++ s.waiting ++ s.lost)
  /-- A signal is delivered in the end. -/
  deliverable : s.alive ≠ [] → ∃ thread, s.globals.blocked thread = false
  /-- What has been reaped or signalled makes the descriptor readable. -/
  readable : s.call = .none → ∀ value ∈ s.alive, (value.pending ≠ [] ∨ s.Signalled value.pipe) →
    0 < s.bytes value.pipe
  /-- Reads return all of it. -/
  returns : s.call = .none → ∀ value ∈ s.alive, (value.pending ≠ [] ∨ s.Signalled value.pipe) →
    ∃ events after, (∀ event ∈ events, event.isRead = true) ∧ run s events = some after ∧
      after.returned = s.returned ++ value.pending ++ s.waiting
  /-- A failed `new` leaves everything as it was. -/
  failed : ∀ pair ∈ s.failed, pair.2 = pair.1
  /-- After the last value nothing is left of it. -/
  restored : s.call = .none → s.alive = [] →
    s.globals.blocked = origin.blocked ∧ s.globals.action = .other origin.action ∧
      s.globals.relay = none

/-- No second value is made, on a thread that blocks the signal neither itself nor alone; a value
is dropped where it was made; and a read that has reaped a child reaps no other one unless there is
a byte left. -/
def Allowed (s : State) : Event → Prop
  | .goes =>
      match s.call with
      | .new (.store _) _ _ => s.alive = []
      | .new (.block _) thread _ => s.globals.blocked thread = false ∧
          ∃ other, other ≠ thread ∧ s.globals.blocked other = false
      | _ => True
  | .failsBlock _ => False
  | .callDrop thread index => ∀ value, s.alive[index]? = some value → value.creator = thread
  | .reaps _ =>
      match s.call with
      | .read _ index => ∀ value, s.alive[index]? = some value →
          value.pending = [] ∨ 0 < s.bytes value.pipe
      | _ => True
  | _ => True

def Does (s : State) (event : Event) (next : State) : Prop := step s event = some next

def DoesAllowed (s : State) (event : Event) (next : State) : Prop :=
  Does s event next ∧ Allowed s event

end Bscp.Crosvm.SignalFd
