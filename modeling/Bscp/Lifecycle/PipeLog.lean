import Bscp.Machine
import Mathlib.Logic.Function.Basic

/-!
`pipe_log.PipeLog`: a thread drains a pipe into a bounded file, while other threads close the write
end and ask for a receipt. Each read or write of a shared field is a step of its own, and so are
each call of the system and the recording of a fault; what a call does and how it ends is chosen
with the step.
-/

namespace Bscp.PipeLog

inductive Operation where
  | read
  | writeFlush
  | closeRead
  | closeFile
  | closeWrite
  deriving DecidableEq, Repr

structure Receipt where
  eof : Bool := false
  finished : Bool := false
  readerAlive : Bool := false
  kept : Nat := 0
  dropped : Nat := 0
  error : Option Operation := none
  errors : List Operation := []
  writeCloseUnknown : Bool := false
  deriving DecidableEq, Repr

/-- Where the reader is, with its chunk and the number of bytes of it that are to be kept. -/
inductive Reader where
  | reading
  | counting (data : List UInt8)
  | writing (data : List UInt8) (n : Nat)
  | flushing (data : List UInt8) (n : Nat)
  | keeping (data : List UInt8) (n : Nat)
  | dropping (data : List UInt8) (n : Nat)
  | closingRead
  | closingFile
  | finishing
  | ending
  | ended
  deriving DecidableEq, Repr

/-- Where a caller is; `within` says that `sent` was called by `finish`. The fields of a receipt are
read one after the other. -/
inductive Caller where
  | idle
  | looking
  | lookingMark
  | checking (within : Bool)
  | marking (within : Bool)
  | closing (within : Bool)
  | clearing (within : Bool)
  | faulting (within : Bool)
  | joining
  | receiving (field : Nat) (receipt : Receipt)
  deriving DecidableEq, Repr

/-- `written` and `consumed` are what has been written to the pipe and read from it, `ends` counts
its open write ends. `pending` has been given to the file and is not in it yet. -/
structure State (ι : Type) where
  limit : Int
  kept : Nat := 0
  dropped : Nat := 0
  error : Option Operation := none
  errors : List Operation := []
  eof : Bool := false
  finished : Bool := false
  writeFd : Bool := true
  writeCloseAttempted : Bool := false
  reader : Reader := .reading
  callers : ι → Caller := fun _ => .idle
  written : List UInt8 := []
  consumed : List UInt8 := []
  pipe : List UInt8 := []
  ends : Nat := 1
  content : List UInt8 := []
  pending : List UInt8 := []
  completed : Nat := 0
  closes : Nat := 0
  receipts : List Receipt := []

variable {ι : Type}

namespace State

def fault (state : State ι) (operation : Operation) : State ι :=
  { state with
    error := some (state.error.getD operation)
    errors := state.errors ++ [operation] }

def store (state : State ι) (bytes : List UInt8) (count : Nat) : State ι :=
  { state with
    content := state.content ++ (state.pending ++ bytes).take count
    pending := (state.pending ++ bytes).drop count }

def forget (state : State ι) (count : Nat) : State ι :=
  { state with pending := state.pending.take count }

def call [DecidableEq ι] (state : State ι) (caller : ι) (next : Caller) : State ι :=
  { state with callers := Function.update state.callers caller next }

end State

/-- How a call of the system ends: whether it raises, and how many bytes it treats before. -/
structure Choice where
  fails : Bool := false
  first : Nat := 0
  second : Nat := 0

def chunk (pipe : List UInt8) (count : Nat) : List UInt8 := pipe.take (min 65536 (max 1 count))

def readerStep (state : State ι) (choice : Choice) : Option (State ι) :=
  match state.reader with
  | .reading =>
      if choice.fails then some { state.fault .read with reader := .closingRead }
      else if state.pipe = [] then
        if state.ends = 0 then some { state with eof := true, reader := .closingRead } else none
      else
        let data := chunk state.pipe choice.first
        some { state with
          pipe := state.pipe.drop data.length
          consumed := state.consumed ++ data
          reader := .counting data }
  | .counting data =>
      let n := if state.error.isSome then 0
        else min data.length (max 0 (state.limit - state.kept)).toNat
      some { state with reader := if n = 0 then .dropping data 0 else .writing data n }
  | .writing data n =>
      if choice.fails then
        let stored := state.store (data.take n) choice.first
        some { (stored.forget choice.second).fault .writeFlush with reader := .dropping data 0 }
      else some { state.store (data.take n) choice.first with reader := .flushing data n }
  | .flushing data n =>
      if choice.fails then
        some { ((state.store [] choice.first).forget choice.second).fault .writeFlush with
          reader := .dropping data 0 }
      else some { state.store [] state.pending.length with reader := .keeping data n }
  | .keeping data n => some { state with kept := state.kept + n, reader := .dropping data n }
  | .dropping data n =>
      some { state with
        dropped := state.dropped + (data.length - n)
        completed := state.completed + data.length
        reader := .reading }
  | .closingRead =>
      if choice.fails then some { state.fault .closeRead with reader := .closingFile }
      else some { state with reader := .closingFile }
  | .closingFile =>
      if choice.fails then
        some { ((state.store [] choice.first).forget choice.second).fault .closeFile with
          reader := .finishing }
      else some { state.store [] state.pending.length with reader := .finishing }
  | .finishing => some { state with finished := true, reader := .ending }
  | .ending => some { state with reader := .ended }
  | .ended => none

def Caller.after (within : Bool) : Caller := if within then .joining else .idle

def receive (state : State ι) (field : Nat) (receipt : Receipt) : Receipt :=
  match field with
  | 0 => { receipt with eof := state.eof }
  | 1 => { receipt with finished := state.finished }
  | 2 => { receipt with readerAlive := decide (state.reader ≠ .ended) }
  | 3 => { receipt with kept := state.kept }
  | 4 => { receipt with dropped := state.dropped }
  | 5 => { receipt with error := state.error }
  | 6 => { receipt with errors := state.errors }
  | _ => { receipt with writeCloseUnknown := state.writeFd }

/-- What a caller does next: a call, or the next step of the one it is in. -/
inductive Action where
  | sent
  | finish
  | step (fails : Bool) (released : Nat)

/-- `sent` and `finish`. The wait of `finish` ends at any time. Closing may release write ends even
if it raises. -/
def callerStep [DecidableEq ι] (state : State ι) (caller : ι) (action : Action) :
    Option (State ι) :=
  match state.callers caller, action with
  | .idle, .sent => some (state.call caller (.checking false))
  | .idle, .finish => some (state.call caller .looking)
  | .looking, .step _ _ =>
      some (state.call caller (if state.writeFd then .lookingMark else .joining))
  | .lookingMark, .step _ _ =>
      some (state.call caller (if state.writeCloseAttempted then .joining else .checking true))
  | .checking within, .step _ _ =>
      some (state.call caller
        (if state.writeCloseAttempted then Caller.after within else .marking within))
  | .marking within, .step _ _ =>
      some { state.call caller (.closing within) with writeCloseAttempted := true }
  | .closing within, .step fails released =>
      some { state.call caller (if fails then .faulting within else .clearing within) with
        ends := state.ends - released
        closes := state.closes + 1 }
  | .clearing within, .step _ _ =>
      some { state.call caller (Caller.after within) with writeFd := false }
  | .faulting within, .step _ _ =>
      some ((state.call caller (Caller.after within)).fault .closeWrite)
  | .joining, .step _ _ => some (state.call caller (.receiving 0 {}))
  | .receiving field receipt, .step _ _ =>
      let receipt := receive state field receipt
      if field < 7 then some (state.call caller (.receiving (field + 1) receipt))
      else some { state.call caller .idle with receipts := receipt :: state.receipts }
  | _, _ => none

/-- What happens next; the writers write, pass their end on and close it. -/
inductive Move (ι : Type) where
  | reader (choice : Choice)
  | caller (caller : ι) (action : Action)
  | write (bytes : List UInt8)
  | share
  | release

def step [DecidableEq ι] (state : State ι) : Move ι → Option (State ι)
  | .reader choice => readerStep state choice
  | .caller caller action => callerStep state caller action
  | .write bytes =>
      if 0 < state.ends then
        some { state with written := state.written ++ bytes, pipe := state.pipe ++ bytes }
      else none
  | .share => if 0 < state.ends then some { state with ends := state.ends + 1 } else none
  | .release => if 0 < state.ends then some { state with ends := state.ends - 1 } else none

def Moves [DecidableEq ι] (state next : State ι) : Prop := ∃ move, step state move = some next

end Bscp.PipeLog
