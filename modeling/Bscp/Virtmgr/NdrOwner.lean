import Bscp.Machine
import Bscp.Virtmgr.NdrServer
import Mathlib.Algebra.Ring.Nat

/-!
The owner of the native NDR resources (`windows_ndr_server.rs`): a node for each server that was
created, held by a `WindowsNdrServer` or by the list of retained owners. Every operation holds
the lock of what it changes from its first line to its last, so it is one step here; what the
native calls answer, and what they leave in their out-pointers, are arguments. No operation
panics under a lock, so no lock is ever poisoned.
-/

namespace Bscp.Virtmgr.NdrOwner

open NdrServer (Observation)

/-- An `io::Error`: a kind of its own, or `failure(where, code)`. -/
inductive Failure where
  | invalidInput
  | notFound
  | other (place code : String)
  deriving DecidableEq, Repr

abbrev Pointer := Option Nat

structure Resources where
  id : Nat
  server : Pointer := none
  cap : Pointer := none
  listenerOwned : Bool := false
  last : Observation := ⟨0, 0, 0⟩
  joined : Bool := false
  ambiguous : Bool := false
  deriving DecidableEq, Repr

def Resources.holds (node : Resources) : Bool :=
  node.server.isSome || node.cap.isSome || node.listenerOwned

/-- `WindowsNdrServer`. Its `inner` is emptied by `Drop` only, so a value that is there has its
node. -/
structure Server where
  inner : Resources
  stopRequested : Bool
  deriving DecidableEq, Repr

inductive Call where
  | releaseServer
  | releaseAcceptor
  | stop
  deriving DecidableEq, Repr

/-- A call that was made: the owner's fields at that moment, the status, and what it left in the
pointer. -/
structure Event where
  call : Call
  owner : Resources
  status : Int
  left : Pointer
  deriving DecidableEq, Repr

/-! ### `create` -/

/-- `WlrStartOwnedListener`. -/
structure Listening where
  status : Nat
  cap : Pointer

/-- `ARpcServer_newWindowsNdr`. -/
structure Factory where
  result : Int
  cap : Pointer
  server : Pointer

/-- Where a node goes at the end of `create`. -/
inductive Created where
  | live (node : Resources)
  | retained (node : Resources) (failure : Failure)
  | dropped (node : Resources) (failure : Failure)

def create (id : Nat) (listening : Listening) (factory : Factory) : Created :=
  let value : Resources := { id := id, cap := listening.cap }
  if listening.status ≠ 0 then
    if value.cap.isSome then
      .retained { value with ambiguous := true }
        (.other "listener failure retained owner"
          (toString id ++ ", status=" ++ toString listening.status))
    else .dropped value (.other "listener creation" (toString listening.status))
  else
    let value := { value with
      listenerOwned := true
      cap := factory.cap
      server := factory.server }
    if factory.result ≠ 0 then
      .retained { value with ambiguous := value.server.isSome || value.cap.isNone }
        (.other "server factory retained owner"
          (toString id ++ ", factory=" ++ toString factory.result))
    else if value.server.isNone || value.cap.isSome then
      .retained { value with ambiguous := true }
        (.other "native ownership contract violated; retained owner" (toString id))
    else .live value

/-! ### The operations of a server -/

/-- `start`; `status` is what `ARpcServer_startWindowsNdr` answers. -/
def start (s : Server) (maxThreads : Nat) (status : Int) : Server × Except Failure Unit :=
  if maxThreads = 0 then (s, .error .invalidInput)
  else if s.stopRequested then (s, .error (.other "start" "stop already requested"))
  else if s.inner.ambiguous || s.inner.server.isNone || s.inner.last.state ≠ 0 then
    (s, .error (.other "start" "not verified New"))
  else if status ≠ 0 then (s, .error (.other "start" (toString status)))
  else
    ({ s with inner := { s.inner with last := { s.inner.last with state := 1 } } }, .ok ())

def millis (budget : Nat) : Except Failure Nat :=
  if budget < 2 ^ 32 - 1 then .ok budget else .error .invalidInput

def waitReady (s : Server) (budget : Nat) (observed : Observation) :
    Server × Except Failure Observation :=
  match millis budget with
  | .error failure => (s, .error failure)
  | .ok _ =>
      if s.inner.ambiguous || s.inner.server.isNone then
        (s, .error (.other "observe" "server not available"))
      else
        let s := { s with inner := { s.inner with last := observed } }
        if s.stopRequested && observed.ready then
          (s, .error (.other "observe" "stop requested; READY not publishable"))
        else (s, .ok observed)

def shutdown (s : Server) : Server := { s with stopRequested := true }

def shutdownJoin (s : Server) (budget : Nat) (observed : Observation) :
    Server × Except Failure Observation :=
  match millis budget with
  | .error failure => (s, .error failure)
  | .ok _ =>
      let s := shutdown s
      if s.inner.ambiguous || s.inner.server.isNone then
        (s, .error (.other "shutdown/join" "server not available"))
      else
        ({ s with inner := { s.inner with
            last := observed
            joined := s.inner.joined || observed.joined } }, .ok observed)

/-! ### `release_joined` -/

structure Answer where
  status : Int
  left : Pointer

structure Releasing where
  server : Answer
  acceptor : Answer
  stop : Int

/-- A part of `release_joined`: the node after it, the calls made, and the failure it ends in. -/
structure Stage where
  node : Resources
  calls : List Event := []
  failure : Option Failure := none

def Stage.andThen (stage : Stage) (next : Resources → Stage) : Stage :=
  match stage.failure with
  | some _ => stage
  | none =>
      let after := next stage.node
      { after with calls := stage.calls ++ after.calls }

def releaseServer (g : Resources) (answer : Answer) : Stage :=
  if g.server.isNone then { node := g }
  else if !g.joined then { node := g, failure := some (.other "release" "not Joined") }
  else
    let called : Stage :=
      { node := { g with server := answer.left }
        calls := [⟨.releaseServer, g, answer.status, answer.left⟩] }
    if answer.status ≠ 0 then
      { called with failure := some (.other "release" (toString answer.status)) }
    else if answer.left.isSome then
      { called with
        node := { called.node with ambiguous := true }
        failure := some (.other "release" "success did not consume server") }
    else called

def releaseAcceptor (g : Resources) (answer : Answer) : Stage :=
  if g.cap.isNone then { node := g }
  else
    let called : Stage :=
      { node := { g with cap := answer.left }
        calls := [⟨.releaseAcceptor, g, answer.status, answer.left⟩] }
    if answer.status ≠ 0 then
      { called with failure := some (.other "acceptor release" (toString answer.status)) }
    else if answer.left.isSome then
      { called with
        node := { called.node with ambiguous := true }
        failure := some (.other "release" "success did not consume acceptor") }
    else called

def stopListener (g : Resources) (status : Int) : Stage :=
  if !g.listenerOwned then { node := g }
  else
    let called : Stage := { node := g, calls := [⟨.stop, g, status, none⟩] }
    if status ≠ 0 then
      { called with failure := some (.other "listener stop" (toString status)) }
    else { called with node := { g with listenerOwned := false } }

def releaseJoined (g : Resources) (natives : Releasing) : Stage :=
  if g.ambiguous then
    { node := g
      failure := some (.other "release" "ambiguous native contract; retained for diagnosis") }
  else
    (releaseServer g natives.server).andThen fun g =>
      (releaseAcceptor g natives.acceptor).andThen fun g => stopListener g natives.stop

/-! ### The registry and the values that are there -/

/-- `NEXT_ID`, the servers that are there, `RETAINED`; and what has happened: the nodes let go,
the nodes as `create` made them, and the releasing calls in their order. -/
structure World where
  nextId : Nat := 1
  live : List Server := []
  retained : List Resources := []
  freed : List Resources := []
  made : List Resources := []
  calls : List Event := []
  deriving DecidableEq, Repr

namespace World

def retain (w : World) (value : Resources) : World := { w with retained := value :: w.retained }

def retainedOwnerIds (w : World) : List Nat := w.retained.map (·.id)

def unlink (id : Nat) : List Resources → Option (Resources × List Resources)
  | [] => none
  | value :: next =>
      if value.id = id then some (value, next)
      else (unlink id next).map fun (found, rest) => (found, value :: rest)

def recoverRetained (w : World) (id : Nat) : World × Except Failure Server :=
  match unlink id w.retained with
  | none => (w, .error .notFound)
  | some (value, rest) =>
      let server : Server := ⟨value, true⟩
      ({ w with retained := rest, live := w.live ++ [server] }, .ok server)

/-- `new_listener`: `endpoint` is the text in UTF-16. -/
def newListener (w : World) (endpoint : List Nat) (listening : Listening) (factory : Factory) :
    World × Except Failure Server :=
  if endpoint = [] ∨ 0 ∈ endpoint then (w, .error .invalidInput)
  else if w.nextId + 1 = 2 ^ 64 then (w, .error (.other "owner IDs" "exhausted"))
  else
    let claimed := { w with nextId := w.nextId + 1 }
    match create w.nextId listening factory with
    | .live node =>
        let server : Server := ⟨node, false⟩
        ({ claimed with live := w.live ++ [server], made := node :: w.made }, .ok server)
    | .retained node failure =>
        (retain { claimed with made := node :: w.made } node, .error failure)
    | .dropped node failure =>
        ({ claimed with made := node :: w.made, freed := node :: w.freed }, .error failure)

def on (w : World) (k : Nat) (operation : Server → Server × Except Failure α) : World :=
  match w.live[k]? with
  | none => w
  | some s => { w with live := w.live.set k (operation s).1 }

def release (w : World) (k : Nat) (natives : Releasing) : World :=
  match w.live[k]? with
  | none => w
  | some s =>
      let stage := releaseJoined s.inner natives
      { w with
        live := w.live.set k { s with inner := stage.node }
        calls := w.calls ++ stage.calls }

def drop (w : World) (k : Nat) : World :=
  match w.live[k]? with
  | none => w
  | some s =>
      let without := { w with live := w.live.eraseIdx k }
      if s.inner.holds then retain without s.inner
      else { without with freed := s.inner :: w.freed }

end World

inductive Op where
  | create (endpoint : List Nat) (listening : Listening) (factory : Factory)
  | recoverRetained (id : Nat)
  | start (k maxThreads : Nat) (status : Int)
  | waitReady (k budget : Nat) (observed : Observation)
  | shutdown (k : Nat)
  | shutdownJoin (k budget : Nat) (observed : Observation)
  | release (k : Nat) (natives : Releasing)
  | drop (k : Nat)

def World.step (w : World) : Op → World
  | .create endpoint listening factory => (w.newListener endpoint listening factory).1
  | .recoverRetained id => (w.recoverRetained id).1
  | .start k maxThreads status => w.on k fun s => start s maxThreads status
  | .waitReady k budget observed => w.on k fun s => waitReady s budget observed
  | .shutdown k => w.on k fun s => (shutdown s, (.ok () : Except Failure Unit))
  | .shutdownJoin k budget observed => w.on k fun s => shutdownJoin s budget observed
  | .release k natives => w.release k natives
  | .drop k => w.drop k

end Bscp.Virtmgr.NdrOwner
