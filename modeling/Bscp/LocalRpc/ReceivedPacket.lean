import Mathlib.Data.List.Basic
import Mathlib.Data.UInt
import Mathlib.Tactic.Common

/-!
`WindowsNdrReceivedPacket`: a record that was received and decoded, its payload read once
from the front, each handle given out once. What the kernel answers is an argument of each
operation.
-/

namespace Bscp.LocalRpc

inductive Failure where
  | noMoreItems
  | busy
  | operationAborted
  | invalidHandle
  | processAborted
  | accessDenied
  | notEnoughMemory
  | outOfMemory
  | invalidData
  | invalidParameter
  | genFailure
  | other (code : UInt32)
  deriving DecidableEq, Repr

inductive Role where
  | serverInbound
  | clientReply
  deriving DecidableEq, Repr

/-- `disposed_`: 0, 1 and 2. -/
inductive Disposition where
  | kept
  | taken
  | discarded
  deriving DecidableEq, Repr

structure Packet where
  role : Role
  sequence : UInt64
  payload : List UInt8
  handles : List Nat
  disposed : List Disposition
  consumed : Nat := 0
  failed : Bool := false
  finished : Bool := false
  deriving DecidableEq, Repr

namespace Packet

def decoded (role : Role) (sequence : UInt64) (payload : List UInt8) (handles : List Nat) : Packet where
  role := role
  sequence := sequence
  payload := payload
  handles := handles
  disposed := List.replicate handles.length .kept

def readPayloadExact (p : Packet) (size : Nat) : Except Failure (List UInt8) × Packet :=
  if p.failed || p.finished then (.error .operationAborted, p)
  else if size > p.payload.length - p.consumed then (.error .invalidData, { p with failed := true })
  else (.ok ((p.payload.drop p.consumed).take size), { p with consumed := p.consumed + size })

/-- The duplicate of a handle goes by the number of the original. -/
def takeDuplicatedHandle (p : Packet) (index : Nat) (duplicate : Option Failure) :
    Except Failure Nat × Packet :=
  if p.failed || p.finished then (.error .operationAborted, p)
  else match p.handles[index]?, p.disposed[index]? with
    | some handle, some .kept =>
        match duplicate with
        | some failure => (.error failure, { p with failed := true })
        | none => (.ok handle, { p with disposed := p.disposed.set index .taken })
    | _, _ => (.error .invalidData, { p with failed := true })

def discardRemainingHandles (p : Packet) : Option Failure × Packet :=
  if p.failed || p.finished then (some .operationAborted, p)
  else
    (none, { p with
      disposed := p.disposed.map fun disposition =>
        if disposition = .kept then .discarded else disposition })

/-- What `finishValidatedPhase` meets: the seal, the snapshot of the caller's process, and
whether closing the record was clean. -/
structure Closing where
  seals : Option Failure
  snapshot : Except Failure Nat
  clean : Bool

def finishValidatedPhase (p : Packet) (closing : Closing) : Except Failure (Option Nat) × Packet :=
  let failed := { p with failed := true }
  if p.failed || p.finished then (.error .operationAborted, p)
  else if p.consumed ≠ p.payload.length then (.error .invalidData, failed)
  else if Disposition.kept ∈ p.disposed then (.error .invalidData, failed)
  else
    let finished := { p with finished := true }
    let proved : Except Failure (Option Nat) :=
      match p.role, closing.seals, closing.snapshot with
      | .clientReply, _, _ => .ok none
      | .serverInbound, some failure, _ => .error failure
      | .serverInbound, none, .error failure => .error failure
      | .serverInbound, none, .ok process => .ok (some process)
    match proved with
    | .error failure => (.error failure, failed)
    | .ok proof =>
        if closing.clean then (.ok proof, finished)
        else (.error .genFailure, { finished with failed := true })

def Sane (p : Packet) : Prop := p.failed = false ∧ p.finished = false

variable {p : Packet}

theorem readPayloadExact_ok (sane : p.Sane) {size : Nat} (fits : size ≤ p.payload.length - p.consumed) :
    p.readPayloadExact size =
      (.ok ((p.payload.drop p.consumed).take size), { p with consumed := p.consumed + size }) := by
  unfold readPayloadExact
  rw [sane.1, sane.2]
  exact if_neg (Nat.not_lt.2 fits)

theorem takeDuplicatedHandle_ok {index handle : Nat} {duplicate : Option Failure} {after : Packet}
    (took : p.takeDuplicatedHandle index duplicate = (.ok handle, after)) :
    p.handles[index]? = some handle ∧ after = { p with disposed := p.disposed.set index .taken } := by
  unfold takeDuplicatedHandle at took
  split at took
  · cases took
  · split at took
    · split at took
      · cases took
      · cases took
        exact ⟨‹_›, rfl⟩
    · cases took

end Packet

end Bscp.LocalRpc
