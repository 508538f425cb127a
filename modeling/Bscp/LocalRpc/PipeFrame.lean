import Bscp.Framing
import Bscp.LocalRpc.PacketCodec

/-!
`RpcTransportWindowsPipeFrame` over `RpcTransportWindowsPipe`: bytes in frames, on a pipe that
keeps their order. A call is begun, which is when it looks at the poison, and ended later, with
all that the kernel did for it; a call that reads and one that writes may overlap. What the
kernel does is an argument: how many bytes each operation moves, and what goes wrong.
-/

namespace Bscp.LocalRpc.PipeFrame

def kMaxFrameBytes : Nat := 64 * 1024 * 1024

def headerSize : Nat := 8

def unsupported : Transport.Status := .other (-130)

structure Source where
  base : Nat
  bytes : List UInt8
  deriving DecidableEq, Repr

structure Target where
  base : Nat
  len : Nat
  deriving DecidableEq, Repr

def Target.advance (t : Target) (consumed : Nat) : Target := ⟨t.base + consumed, t.len - consumed⟩

/-! The byte transport. -/

abbrev Refusal := { status : Transport.Status // status ≠ .ok }

/-- One operation of `transfer`: what ends the call before it, how many bytes the kernel reports,
and what ends the call after it, although bytes may have been moved. -/
structure Chunk where
  before : Option Refusal := none
  bytes : Nat
  after : Option Refusal := none

/-- One call of `transfer`: no trigger, another call that is busy or no cancellation ends it at
once. When the operations come to an end before the call does, it has not returned yet. -/
structure Transfer where
  refusal : Option Refusal := none
  chunks : List Chunk

/-- The status, none for a call that has not returned, the bytes that went through the kernel,
and those by which the vectors were advanced. -/
structure Moved where
  status : Option Transport.Status
  moved : Nat
  advanced : Nat
  deriving DecidableEq, Repr

def maxRequest : Nat := 16 * 1024 * 1024

/-- The kernel moves no more than is asked for and no more than there is. -/
def transferLoop : List Chunk → List Nat → Nat → Moved
  | chunks, lens, available =>
      match lens.dropWhile (· = 0), chunks with
      | [], _ => ⟨some .ok, 0, 0⟩
      | _ :: _, [] => ⟨none, 0, 0⟩
      | len :: rest, chunk :: more =>
          let requested := min len maxRequest
          let moved := min (min chunk.bytes requested) available
          match chunk.before, chunk.after with
          | some status, _ => ⟨some status.1, 0, 0⟩
          | none, some status => ⟨some status.1, moved, 0⟩
          | none, none =>
              if moved = 0 then ⟨some .deadObject, 0, 0⟩
              else if chunk.bytes > requested then ⟨some .unknownError, moved, 0⟩
              else
                let last := transferLoop more ((len - moved) :: rest) (available - moved)
                ⟨last.status, moved + last.moved, moved + last.advanced⟩

def transfer (t : Transfer) (lens : List Nat) (available : Nat) : Moved :=
  match t.refusal with
  | some status => ⟨some status.1, 0, 0⟩
  | none => transferLoop t.chunks lens available

/-! The frames. -/

def frameLength (header : List UInt8) : Option Nat :=
  let length := (PacketCodec.read32 header 0).toNat
  if PacketCodec.read32 header 4 ≠ 0 || length = 0 || length > kMaxFrameBytes then none
  else some length

def frameHeader (total : Nat) : List UInt8 := PacketCodec.u32 (UInt32.ofNat total) ++ [0, 0, 0, 0]

structure WriteCall where
  iovs : Option (List Source)
  /-- There are descriptors. -/
  fds : Bool
  deriving DecidableEq, Repr

def WriteCall.bytes (c : WriteCall) : List UInt8 := (c.iovs.getD []).flatMap Source.bytes

def WriteCall.lens (c : WriteCall) : List Nat := (c.iovs.getD []).map fun iov => iov.bytes.length

/-- `valid`, of the starts and the lengths; no vector stands for a null pointer or a negative
count. -/
def valid : Option (List (Nat × Nat)) → Bool
  | none => false
  | some iovs => iovs.all fun iov => iov.1 ≠ 0 || iov.2 = 0

def frameTotal (lens : List Nat) : Option Nat :=
  lens.foldl (fun total len => total.bind fun total =>
    if len > kMaxFrameBytes - total then none else some (total + len)) (some 0)

/-- What a reading call works with: the vectors that are full and the others, `mRemaining`, what
the pipe still holds and what was taken out of it, and the bytes that were given. -/
structure Reading where
  full : List Target := []
  iovs : List Target
  remaining : Nat
  rest : List UInt8
  consumed : List UInt8
  delivered : List UInt8
  deriving DecidableEq, Repr

/-- The loop of `interruptableReadFully`: a status of none for a call that has not returned. -/
def readLoop : List Transfer → Reading → Option Transport.Status × Reading
  | transfers, r =>
      match r.iovs.dropWhile (·.len = 0), transfers with
      | [], _ => (some .ok, { r with full := r.full ++ r.iovs, iovs := [] })
      | _ :: _, [] => (none, r)
      | iov :: more, first :: later =>
          let full := r.full ++ r.iovs.takeWhile (·.len = 0)
          if r.remaining = 0 then
            let head := transfer first [headerSize] r.rest.length
            let header := r.rest.take headerSize
            let after := { r with
              full := full
              iovs := iov :: more
              rest := r.rest.drop head.moved
              consumed := r.consumed ++ r.rest.take head.moved }
            if head.status = some .ok then
              if PacketCodec.read32 header 4 ≠ 0 then (some unsupported, after)
              else
                match frameLength header with
                | none => (some .badValue, after)
                | some length => readLoop later { after with remaining := length }
            else (head.status, after)
          else
            let amount := min r.remaining iov.len
            let part := transfer first [amount] r.rest.length
            let after := { r with
              full := full
              iovs := iov.advance part.advanced :: more
              remaining := r.remaining - part.advanced
              rest := r.rest.drop part.moved
              consumed := r.consumed ++ r.rest.take part.moved
              delivered := r.delivered ++ r.rest.take part.advanced }
            if part.status = some .ok then readLoop later after else (part.status, after)

/-- Where a side of the frame stands: a call that never returns keeps it. -/
inductive Activity (α : Type) where
  | idle
  | inside (call : α)
  | stuck
  deriving DecidableEq, Repr

structure End where
  poisoned : Bool := false
  remaining : Nat := 0
  reading : Activity (List Target) := .idle
  writing : Activity WriteCall := .idle
  /-- What the peer puts on the pipe, in two parts. -/
  consumed : List UInt8 := []
  rest : List UInt8
  /-- The bytes that the reads gave, those put on the pipe, and those of the writes that
  returned OK. -/
  delivered : List UInt8 := []
  put : List UInt8 := []
  sent : List UInt8 := []
  /-- The write that failed on its way, or that never returned. -/
  broken : Option WriteCall := none
  /-- What the calls returned, the last first. -/
  returned : List Transport.Status := []
  deriving DecidableEq, Repr

namespace End

def gives (e : End) (status : Transport.Status) : End := { e with returned := status :: e.returned }

/-- A frame over no transport is poisoned from the start. -/
def start (bytes : Bool) (stream : List UInt8) : End := { poisoned := !bytes, rest := stream }

def pollRead (e : End) (bytes : Transport.Status) : Transport.Status :=
  if e.poisoned then .deadObject else bytes

def refuses (e : End) (call : WriteCall) : Option Transport.Status :=
  if e.poisoned then some .deadObject
  else if !valid (call.iovs.map fun iovs => iovs.map fun iov => (iov.base, iov.bytes.length)) then
    some .badValue
  else if call.fds then some unsupported
  else match frameTotal call.lens with
    | none => some .badValue
    | some 0 => some .ok
    | some (_ + 1) => none

def beginWrite (e : End) (call : WriteCall) : End :=
  if e.writing ≠ .idle then e
  else match e.refuses call with
    | some status => e.gives status
    | none => { e with writing := .inside call }

def fail (e : End) (status : Transport.Status) : End := { e.gives status with poisoned := true }

def endWrite (e : End) (head body : Transfer) : End :=
  match e.writing with
  | .inside call =>
      let header := frameHeader call.bytes.length
      let first := transfer head [headerSize] headerSize
      if first.status = some .ok then
        let second := transfer body call.lens call.bytes.length
        let after := { e with put := e.put ++ header ++ call.bytes.take second.moved }
        match second.status with
        | none => { after with writing := .stuck, broken := some call }
        | some .ok => { after.gives .ok with writing := .idle, sent := e.sent ++ call.bytes }
        | some status => { after.fail status with writing := .idle, broken := some call }
      else
        let after := { e with put := e.put ++ header.take first.moved }
        match first.status with
        | none => { after with writing := .stuck, broken := some call }
        | some status => { after.fail status with writing := .idle, broken := some call }
  | _ => e

def beginRead (e : End) (iovs : Option (List Target)) : End :=
  if e.reading ≠ .idle then e
  else if e.poisoned then e.gives .deadObject
  else match iovs with
    | none => e.gives .badValue
    | some targets =>
        if !valid (some (targets.map fun iov => (iov.base, iov.len))) then e.gives .badValue
        else { e with reading := .inside targets }

def work (e : End) (iovs : List Target) : Reading where
  iovs := iovs
  remaining := e.remaining
  rest := e.rest
  consumed := e.consumed
  delivered := e.delivered

def endRead (e : End) (transfers : List Transfer) : End :=
  match e.reading with
  | .inside iovs =>
      let (status, last) := readLoop transfers (e.work iovs)
      let after := { e with
        remaining := last.remaining
        rest := last.rest
        consumed := last.consumed
        delivered := last.delivered }
      match status with
      | none => { after with reading := .stuck }
      | some .ok => { after.gives .ok with reading := .idle }
      | some status => { after.fail status with reading := .idle }
  | _ => e

end End

inductive Move where
  | beginWrite (call : WriteCall)
  | endWrite (head body : Transfer)
  | beginRead (iovs : Option (List Target))
  | endRead (transfers : List Transfer)

def End.step (e : End) : Move → End
  | .beginWrite call => e.beginWrite call
  | .endWrite head body => e.endWrite head body
  | .beginRead iovs => e.beginRead iovs
  | .endRead transfers => e.endRead transfers

end Bscp.LocalRpc.PipeFrame
