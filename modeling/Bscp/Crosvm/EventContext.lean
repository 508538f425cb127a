import Bscp.WriteBehind

/-!
The `EventContext` of the macOS port (`base/src/sys/macos/poll.rs`). An operation changes the map
of the descriptors under the lock, and afterwards, without it, the filters of the kqueue one after
the other. Operations of several threads go on at the same time, and a change may fail.
-/

namespace Bscp.Crosvm.EventContext

abbrev RawDescriptor := Int
abbrev Token := UInt64
abbrev Errno := Nat

def ENOENT : Errno := 2
def EEXIST : Errno := 17

inductive EventType where
  | none
  | read
  | write
  | readWrite
  deriving DecidableEq

inductive Filter where
  | read
  | write
  deriving DecidableEq

structure FdState where
  eventType : EventType
  token : Token
  deriving DecidableEq

abbrev Key := RawDescriptor × Filter

abbrev Queue := Key → Option Token

structure Context where
  state : RawDescriptor → Option FdState
  queue : Queue

/-! ### The kqueue -/

inductive Change where
  | delete (filter : Filter)
  | add (filter : Filter) (token : Token)
  deriving DecidableEq

def Change.filter : Change → Filter
  | .delete filter | .add filter _ => filter

def Change.value : Change → Option Token
  | .delete _ => none
  | .add _ token => some token

/-- One entry of a change list. The system may refuse it, and there must be a filter to delete. -/
def kevent (queue : Queue) (fd : RawDescriptor) (change : Change) (failure : Option Errno) :
    Except Errno Queue :=
  match failure with
  | some errno => .error errno
  | none =>
      if change.value = none ∧ queue (fd, change.filter) = none then .error ENOENT
      else .ok (Function.update queue (fd, change.filter) change.value)

def filters : EventType → List Filter
  | .none => []
  | .read => [.read]
  | .write => [.write]
  | .readWrite => [.read, .write]

/-- The changes of `remove_filters`, each of which is a call. -/
def removeFilters (eventType : EventType) : List Change := (filters eventType).map .delete

/-- The change list of `apply_kevents`, which is one call. -/
def applyKevents (eventType : EventType) (token : Token) : List Change :=
  (filters eventType).map fun filter => .add filter token

/-- How the code takes the result of a change: `remove_filters` goes on after `ENOENT`. -/
def applyChange (queue : Queue) (fd : RawDescriptor) (change : Change) (failure : Option Errno) :
    Except Errno Queue :=
  match change, kevent queue fd change failure with
  | _, .ok queue => .ok queue
  | .delete _, .error errno => if errno = ENOENT then .ok queue else .error errno
  | .add .., .error errno => .error errno

/-! ### Operations -/

inductive Operation where
  | addForEvent (fd : RawDescriptor) (eventType : EventType) (token : Token)
  | modify (fd : RawDescriptor) (eventType : EventType) (token : Token)
  | delete (fd : RawDescriptor)

def Operation.fd : Operation → RawDescriptor
  | .addForEvent fd .. | .modify fd .. | .delete fd => fd

inductive Entered where
  | done (result : Except Errno Unit)
  /-- The new entry, the changes that are to follow, and whether the entry is taken out again if
  one of them fails. -/
  | changed (entry : Option FdState) (todo : List Change) (undoes : Bool)

def Operation.enter : Operation → Option FdState → Entered
  | .addForEvent _ eventType token, none =>
      .changed (some ⟨eventType, token⟩) (applyKevents eventType token) true
  | .addForEvent .., some _ => .done (.error EEXIST)
  | .modify _ eventType token, some old =>
      .changed (some ⟨eventType, token⟩)
        (removeFilters old.eventType ++ applyKevents eventType token) false
  | .modify .., none => .done (.error ENOENT)
  | .delete _, some old => .changed none (removeFilters old.eventType) false
  | .delete _, none => .done (.ok ())

structure Call where
  fd : RawDescriptor
  todo : List Change
  undoes : Bool
  /-- An add that has failed, and has not taken its entry out yet. -/
  undoing : Option Errno
  /-- Not of the code: a change has been made. -/
  made : Bool
  /-- Not of the code: no other operation on the descriptor was in progress at the start, and none
  has changed the map since. -/
  alone : Bool
  /-- Not of the code: the entry before and after the operation changed it. -/
  found : Option FdState
  left : Option FdState
  /-- Not of the code: what was registered at that time. -/
  registered : Filter → Option Token

inductive Progress where
  | running (call : Call)
  | returned (result : Except Errno Unit)

def Call.advance (call : Call) (context : Context) (failure : Option Errno) :
    Context × Progress :=
  match call.undoing with
  | some errno =>
      ({ context with state := Function.update context.state call.fd none },
        .returned (.error errno))
  | none => match call.todo with
    | [] => (context, .returned (.ok ()))
    | change :: rest => match applyChange context.queue call.fd change failure with
      | .ok queue =>
          ({ context with queue := queue }, .running { call with todo := rest, made := true })
      | .error errno =>
          if call.undoes then (context, .running { call with todo := [], undoing := some errno })
          else (context, .returned (.error errno))

structure System where
  context : Context
  running : List Call

def System.start : System := ⟨⟨fun _ => none, fun _ => none⟩, []⟩

inductive Action where
  | enter (operation : Operation)
  | advance (index : Nat) (failure : Option Errno)

def Call.overlapped (fd : RawDescriptor) (call : Call) : Call :=
  if call.fd = fd then { call with alone := false } else call

def System.enter (system : System) (fd : RawDescriptor) (entry : Option FdState)
    (todo : List Change) (undoes : Bool) : System where
  context := { system.context with state := Function.update system.context.state fd entry }
  running := system.running.map (Call.overlapped fd) ++
    [{ fd := fd, todo := todo, undoes := undoes, undoing := none, made := false,
       alone := system.running.all (·.fd ≠ fd), found := system.context.state fd, left := entry,
       registered := fun filter => system.context.queue (fd, filter) }]

def System.step (system : System) : Action → System × Option (Except Errno Unit)
  | .enter operation => match operation.enter (system.context.state operation.fd) with
    | .done result => (system, some result)
    | .changed entry todo undoes => (system.enter operation.fd entry todo undoes, none)
  | .advance index failure => match system.running[index]? with
    | none => (system, none)
    | some call => match call.advance system.context failure with
      | (context, .running call) => (⟨context, system.running.set index call⟩, none)
      | (context, .returned result) => (⟨context, system.running.eraseIdx index⟩, some result)

def run (system : System) (actions : List Action) : System :=
  actions.foldl (fun system action => (system.step action).1) system

def described (entry : Option FdState) (filter : Filter) : Option Token :=
  entry.bind fun state => if filter ∈ filters state.eventType then some state.token else none

def Context.Agrees (context : Context) : Prop :=
  ∀ fd filter, context.queue (fd, filter) = described (context.state fd) filter

end Bscp.Crosvm.EventContext
