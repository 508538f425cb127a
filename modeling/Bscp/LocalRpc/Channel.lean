import Bscp.Machine
import Mathlib.Data.UInt
import Mathlib.Logic.Function.Basic

/-!
One channel of the local-RPC bridge (`WindowsLocalRpcBridge.c`): two mailboxes of one
record each, filled by `Server_TrySend` and `pushChannel`, emptied by `popChannel` and
`Server_TryReceive`, and swept by the closes and rundowns of the channel and of its
session. A call checks the channel when it takes its lock and keeps the lock until it
is done; the session's `closing` is set without that lock. What only moves bytes and
handles is left out: a record is its number and its sequence.
-/

namespace Bscp.LocalRpc

/-- `association`: 0, 1, 2 and 3. -/
inductive Association where
  | unassociated
  | associating
  | associated
  | refused
  deriving DecidableEq, Repr

inductive Status where
  | success
  | operationAborted
  | accessDenied
  | invalidData
  | busy
  | noMoreItems
  | failed
  deriving DecidableEq, Repr

inductive Direction where
  | inbound
  | outbound
  deriving DecidableEq, Repr

structure Record where
  number : Nat
  sequence : UInt64
  deriving DecidableEq, Repr

inductive Call where
  | trySend (generation sequence : UInt64)
  | tryReceive (generation : UInt64)
  | pop
  | push (sequence : UInt64)
  deriving DecidableEq, Repr

def Call.puts : Call → Option (Direction × UInt64)
  | .trySend _ sequence => some (.inbound, sequence)
  | .push sequence => some (.outbound, sequence)
  | _ => none

def Call.takes : Call → Option Direction
  | .tryReceive _ => some .outbound
  | .pop => some .inbound
  | _ => none

/-- Where a thread stands. What it holds a reference to the channel by is a number, and
0 is the context handle. -/
inductive Pc where
  | idle
  /-- The checks have passed under the channel's lock. -/
  | inside (call : Call) (holder : Nat)
  /-- `WLR_CHANNEL_rundown` has taken the channel out of the registry. -/
  | unlinked
  /-- `WLR_SESSION_rundown` has set the session's flag. -/
  | flagged
  /-- The mailboxes are swept; `drops` tells whether the reference goes next. -/
  | swept (holder : Nat) (drops : Bool)
  /-- The session's sweep, inside the registry. -/
  | sweptSession
  /-- The last reference is gone. -/
  | freeing
  deriving DecidableEq, Repr

structure State where
  generation : UInt64
  closing : Bool := false
  sessionClosing : Bool := false
  association : Association := .unassociated
  box : Direction → Option Record := fun _ => none
  /-- `nextIn` and `nextOut`. -/
  next : Direction → UInt64 := fun _ => 1
  lock : Option Nat := none
  refs : List Nat := [0]
  registered : Bool := true
  pc : Nat → Pc := fun _ => .idle
  /-- The records that takers hold, and those that a sweeping thread has taken out. -/
  held : List Record := []
  doomed : List (Nat × Record) := []
  /-- What has happened so far. -/
  created : Nat := 0
  put : Direction → List Record := fun _ => []
  taken : Direction → List Record := fun _ => []
  released : List Record := []

namespace State

def setPc (s : State) (thread : Nat) (pc : Pc) : State :=
  { s with pc := Function.update s.pc thread pc }

def emptied (s : State) (thread : Nat) : List (Nat × Record) :=
  ((s.box .inbound).toList ++ (s.box .outbound).toList).map fun record => (thread, record)

/-- What every close does with the channel's lock. -/
def sweep (s : State) (thread : Nat) : State :=
  { s with closing := true, doomed := s.emptied thread ++ s.doomed, box := fun _ => none }

def Uses (s : State) (thread holder : Nat) : Prop :=
  (∃ call, s.pc thread = .inside call holder) ∨ (∃ drops, s.pc thread = .swept holder drops) ∨
    (holder = 0 ∧ s.pc thread = .sweptSession) ∨ (holder = 0 ∧ s.pc thread = .unlinked)

end State

/-- The checks of each call, in the order of the source. -/
def Call.check (s : State) : Call → Status
  | .trySend generation sequence =>
      if s.closing || s.sessionClosing then .operationAborted
      else if s.association ≠ .associated then .accessDenied
      else if s.generation ≠ generation then .accessDenied
      else if sequence ≠ s.next .inbound then .invalidData
      else if (s.box .inbound).isSome then .busy
      else .success
  | .tryReceive generation =>
      if s.closing || s.sessionClosing then .operationAborted
      else if s.association ≠ .associated then .accessDenied
      else if s.generation ≠ generation then .accessDenied
      else if (s.box .outbound).isNone then .noMoreItems
      else .success
  | .pop =>
      if s.closing || s.sessionClosing then .operationAborted
      else if (s.box .inbound).isNone then .noMoreItems
      else .success
  | .push sequence =>
      if s.closing || s.sessionClosing then .operationAborted
      else if s.association ≠ .associated then .accessDenied
      else if (s.box .outbound).isSome then .busy
      else if sequence ≠ s.next .outbound then .invalidData
      else .success

/-- A call that fails its checks, or before them, returns and changes nothing; it is no
step. -/
inductive Step : State → State → Prop
  | enter {s : State} (thread holder : Nat) (call : Call) (here : s.pc thread = .idle)
      (live : holder ∈ s.refs) (free : s.lock = none) (passes : call.check s = .success) :
      Step s { s.setPc thread (.inside call holder) with lock := some thread }
  | makeFails {s : State} {thread holder : Nat} {call : Call} {direction : Direction}
      {sequence : UInt64} (here : s.pc thread = .inside call holder)
      (puts : call.puts = some (direction, sequence)) :
      Step s { s.setPc thread .idle with lock := none }
  | makeBreaks {s : State} {thread holder : Nat} {call : Call} {direction : Direction}
      {sequence : UInt64} (here : s.pc thread = .inside call holder)
      (puts : call.puts = some (direction, sequence)) :
      -- A record was begun and is released by the call itself.
      Step s { s.setPc thread .idle with
        lock := none
        created := s.created + 1
        released := ⟨s.created, sequence⟩ :: s.released }
  | putIn {s : State} {thread holder : Nat} {call : Call} {direction : Direction}
      {sequence : UInt64} (here : s.pc thread = .inside call holder)
      (puts : call.puts = some (direction, sequence)) :
      Step s { s.setPc thread .idle with
        lock := none
        created := s.created + 1
        box := Function.update s.box direction (some ⟨s.created, sequence⟩)
        next := Function.update s.next direction (s.next direction + 1)
        put := Function.update s.put direction (s.put direction ++ [⟨s.created, sequence⟩]) }
  | takeOut {s : State} {thread holder : Nat} {call : Call} {direction : Direction}
      {record : Record} (here : s.pc thread = .inside call holder)
      (takes : call.takes = some direction) (found : s.box direction = some record) :
      Step s { s.setPc thread .idle with
        lock := none
        box := Function.update s.box direction none
        held := record :: s.held
        taken := Function.update s.taken direction (s.taken direction ++ [record]) }
  | releaseHeld {s : State} {record : Record} (held : record ∈ s.held) :
      Step s { s with held := s.held.erase record, released := record :: s.released }
  | associate {s : State} (free : s.lock = none) (fresh : s.association = .unassociated)
      (living : s.closing = false ∧ s.sessionClosing = false) :
      Step s { s with association := .associating }
  | associated {s : State} (free : s.lock = none) (begun : s.association = .associating)
      (living : s.closing = false ∧ s.sessionClosing = false) :
      Step s { s with association := .associated }
  | refused {s : State} (free : s.lock = none) (begun : s.association = .associating) :
      Step s { s with association := .refused }
  | borrow {s : State} (holder : Nat) (listed : s.registered = true) (fresh : holder ∉ s.refs) :
      -- `lookup` and `tryAcceptInternal`.
      Step s { s with refs := holder :: s.refs }
  | giveBack {s : State} (thread holder : Nat) (here : s.pc thread = .idle)
      (live : holder ∈ s.refs) (other : holder ≠ 0) :
      Step s (s.setPc thread (.swept holder true))
  | unlink {s : State} (thread : Nat) (here : s.pc thread = .idle) (listed : s.registered = true)
      (free : ∀ other, s.pc other ≠ .sweptSession) :
      Step s { s.setPc thread .unlinked with registered := false }
  | rundown {s : State} {thread : Nat} (here : s.pc thread = .unlinked) (free : s.lock = none) :
      Step s ((s.sweep thread).setPc thread (.swept 0 true))
  | shutdown {s : State} (thread holder : Nat) (drops : Bool) (here : s.pc thread = .idle)
      (live : holder ∈ s.refs) (other : holder ≠ 0) (free : s.lock = none) :
      -- `WlrAcceptedShutdown`, and the beginning of `WlrAcceptedClose`.
      Step s ((s.sweep thread).setPc thread (.swept holder drops))
  | flag {s : State} (thread : Nat) (here : s.pc thread = .idle) :
      Step s { s.setPc thread .flagged with sessionClosing := true }
  | sweepSession {s : State} {thread : Nat} (here : s.pc thread = .flagged)
      (listed : s.registered = true) (free : s.lock = none) :
      Step s ((s.sweep thread).setPc thread .sweptSession)
  | skipSession {s : State} {thread : Nat} (here : s.pc thread = .flagged)
      (unlisted : s.registered = false) : Step s (s.setPc thread .idle)
  | releaseDoomed {s : State} {thread : Nat} {record : Record} (doomed : (thread, record) ∈ s.doomed) :
      Step s { s with
        doomed := s.doomed.erase (thread, record)
        released := record :: s.released }
  | finish {s : State} {thread : Nat} (here : s.pc thread = .sweptSession ∨ s.pc thread = .freeing ∨
        ∃ holder, s.pc thread = .swept holder false)
      (done : ∀ entry ∈ s.doomed, entry.1 ≠ thread) : Step s (s.setPc thread .idle)
  | drop {s : State} {thread holder : Nat} (here : s.pc thread = .swept holder true)
      (done : ∀ entry ∈ s.doomed, entry.1 ≠ thread) (live : holder ∈ s.refs)
      (unused : ∀ other, other ≠ thread → ¬s.Uses other holder) (more : s.refs.erase holder ≠ []) :
      Step s { s.setPc thread .idle with refs := s.refs.erase holder }
  | dropLast {s : State} {thread holder : Nat} (here : s.pc thread = .swept holder true)
      (done : ∀ entry ∈ s.doomed, entry.1 ≠ thread) (live : holder ∈ s.refs)
      (unused : ∀ other, other ≠ thread → ¬s.Uses other holder) (last : s.refs.erase holder = []) :
      Step s { s.setPc thread .freeing with
        refs := []
        doomed := s.emptied thread ++ s.doomed
        box := fun _ => none }

abbrev Reachable (generation : UInt64) (s : State) : Prop :=
  Machine.Reach Step { generation := generation } s

end Bscp.LocalRpc
