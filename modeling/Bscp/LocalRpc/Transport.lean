import Bscp.LocalRpc.ReceivedPacket
import Bscp.Machine

/-!
The reading side of `RpcTransportNdr`: records are received one at a time, a phase is opened
for each and finished, and whatever goes wrong stops the transport. `shutdown` may come at
any moment; the other operations exclude one another, and a read that waits for its record
is a step for each round of its loop.
-/

namespace Bscp.LocalRpc.Transport

inductive Status where
  | ok
  | wouldBlock
  | deadObject
  | permissionDenied
  | noMemory
  | badValue
  | unknownError
  | invalidOperation
  | cancelled
  | other (code : Int)
  deriving DecidableEq, Repr

def error : Failure → Status
  | .noMoreItems => .wouldBlock
  | .busy => .wouldBlock
  | .operationAborted => .deadObject
  | .invalidHandle => .deadObject
  | .processAborted => .deadObject
  | .accessDenied => .permissionDenied
  | .notEnoughMemory => .noMemory
  | .outOfMemory => .noMemory
  | .invalidData => .badValue
  | .invalidParameter => .badValue
  | _ => .unknownError

inductive Phase where
  | connectionHeader
  | sessionId
  | newSessionResponse
  | connectionInit
  | command
  deriving DecidableEq, Repr

/-- `sizeof(RpcWireHeader)`, and of `mHeader`. -/
def wireHeaderSize : Nat := 16

def kNdrBinderPacketMax : Nat := 614399

def kNdrDescriptorMax : Nat := 253

/-- `RpcWireHeader::bodySize`: the second word, the lowest byte first. -/
def bodySize (header : List UInt8) : Nat :=
  ((header.drop 4).take 4).foldr (fun byte rest => byte.toNat + 256 * rest) 0

structure State where
  /-- `mOwner->initial`: the client's side of the channel. -/
  client : Bool
  /-- `mOwner->process`. -/
  process : Nat
  stopped : Bool := false
  packet : Option Packet := none
  phaseOpen : Bool := false
  descriptorsDone : Bool := false
  phase : Phase := .command
  readBytes : Nat := 0
  nextRead : UInt64 := 1
  header : List UInt8 := List.replicate wireHeaderSize 0
  /-- What has happened so far: the packets received, and the phases opened. -/
  received : Nat := 0
  opened : Nat := 0

namespace State

def fail (t : State) (status : Status) : Status × State :=
  (if status = .ok then .unknownError else status, { t with stopped := true })

def shapeFits (phase : Phase) (size : Nat) (handles : Nat) : Bool :=
  match phase with
  | .connectionHeader => size = 16 && handles = 0
  | .sessionId => size = 32 && handles = 0
  | .newSessionResponse => size = 8 && handles = 0
  | .connectionInit => size = 8 && handles = 0
  | .command => wireHeaderSize ≤ size

def validateShape (t : State) : Status × State :=
  match t.packet with
  | none => (.ok, t)
  | some packet =>
      if !t.phaseOpen then (.ok, t)
      else if shapeFits t.phase packet.payload.length packet.handles.length then (.ok, t)
      else t.fail .badValue

def role (t : State) : Role := if t.client then .clientReply else .serverInbound

structure Receive where
  live : Option Failure
  packet : Except Failure (Role × UInt64 × List UInt8 × List Nat)

def loadPacket (t : State) (receive : Receive) : Status × State :=
  if t.stopped then (.deadObject, t)
  else if t.packet.isSome then (.ok, t)
  else match t.client, receive.live, receive.packet with
    | true, some failure, _ => t.fail (error failure)
    | _, _, .error .noMoreItems => (.wouldBlock, t)
    | _, _, .error failure => t.fail (error failure)
    | _, _, .ok (role, sequence, payload, handles) =>
        let t := { t with
          packet := some (Packet.decoded role sequence payload handles)
          received := t.received + 1 }
        if sequence ≠ t.nextRead || role ≠ t.role then t.fail .badValue else t.validateShape

def pollRead (t : State) (receive : Receive) : Status × State :=
  match t.loadPacket receive with
  | (.ok, t) =>
      match t.packet with
      | some packet => if t.readBytes < packet.payload.length then (.ok, t) else (.wouldBlock, t)
      | none => (.wouldBlock, t)
  | refused => refused

/-- A value outside the enumeration is none. -/
def beginNdrRecord (t : State) (phase : Option Phase) : Status × State :=
  if t.stopped then (.deadObject, t)
  else if t.phaseOpen then t.fail .invalidOperation
  else match phase with
    | none => t.fail .badValue
    | some phase =>
        validateShape { t with
          phase := phase
          phaseOpen := true
          descriptorsDone := false
          readBytes := 0
          header := List.replicate wireHeaderSize 0
          opened := t.opened + 1 }

/-- What `finishNdrRecord` meets after the packet is closed: whether the client's channel
lives, and what comparing the processes answers if it fails. -/
structure Finishing where
  closing : Packet.Closing
  live : Option Failure
  compared : Option Failure

def proves (t : State) (proof : Option Nat) (finishing : Finishing) : Option Status :=
  match t.client, proof with
  | true, some _ => some .permissionDenied
  | true, none => finishing.live.map error
  | false, none => some .permissionDenied
  | false, some process =>
      match finishing.compared with
      | some failure => some (error failure)
      | none => if process = t.process then none else some (error .accessDenied)

def finishNdrRecord (t : State) (finishing : Finishing) : Status × Option Nat × State :=
  let refuse (t : State) (status : Status) : Status × Option Nat × State :=
    ((t.fail status).1, none, (t.fail status).2)
  if t.stopped then (.deadObject, none, t)
  else match t.packet with
    | none => refuse t .invalidOperation
    | some packet =>
        if !t.phaseOpen then refuse t .invalidOperation
        else if t.readBytes ≠ packet.payload.length || !t.descriptorsDone then refuse t .badValue
        else if t.phase = .command && bodySize t.header ≠ packet.payload.length - wireHeaderSize then
          refuse t .badValue
        else match packet.finishValidatedPhase finishing.closing with
          | (.error failure, packet) => refuse { t with packet := some packet } (error failure)
          | (.ok proof, packet) =>
              match t.proves proof finishing with
              | some status => refuse { t with packet := some packet } status
              | none =>
                  let t := { t with packet := none, phaseOpen := false, readBytes := 0 }
                  if t.nextRead = UInt64.ofNat (2 ^ 64 - 1) then refuse t .badValue
                  else (.ok, proof, { t with nextRead := t.nextRead + 1 })

/-! `interruptableReadFully`. -/

structure Iovec where
  base : Bool
  len : Nat

/-- No vector stands for a null pointer or a negative count. -/
def iovSize : Option (List Iovec) → Option Nat
  | none => none
  | some iovs => iovs.foldl (fun total iov => total.bind fun total =>
      if (!iov.base && iov.len ≠ 0) || iov.len > kNdrBinderPacketMax - total then none
      else some (total + iov.len)) (some 0)

structure Adoption where
  duplicate : Option Failure
  adopt : Option Status

def takeHandles (take : Nat → Adoption) : List Nat → Packet → Except Status (List Nat) × Packet
  | [], packet => (.ok [], packet)
  | index :: rest, packet =>
      match packet.takeDuplicatedHandle index (take index).duplicate with
      | (.error failure, packet) => (.error (error failure), packet)
      | (.ok handle, packet) =>
          match (take index).adopt with
          | some status => (.error status, packet)
          | none =>
              match takeHandles take rest packet with
              | (.error status, packet) => (.error status, packet)
              | (.ok handles, packet) => (.ok (handle :: handles), packet)

structure Cursor where
  packet : Packet
  readBytes : Nat
  header : List UInt8

/-- The first bytes are kept in `mHeader` as well. -/
def saveHeader (header : List UInt8) (readBytes : Nat) (bytes : List UInt8) : List UInt8 :=
  if readBytes < wireHeaderSize then
    let save := min bytes.length (wireHeaderSize - readBytes)
    header.take readBytes ++ bytes.take save ++ header.drop (readBytes + save)
  else header

def copyOut : List Iovec → Cursor → Option Failure × List UInt8 × Cursor
  | [], cursor => (none, [], cursor)
  | iov :: rest, cursor =>
      match cursor.packet.readPayloadExact iov.len with
      | (.error failure, packet) => (some failure, [], { cursor with packet := packet })
      | (.ok bytes, packet) =>
          let (failure, more, last) := copyOut rest
            { packet := packet
              readBytes := cursor.readBytes + iov.len
              header := saveHeader cursor.header cursor.readBytes bytes }
          (failure, bytes ++ more, last)

structure ReadCall where
  iovs : List Iovec
  total : Nat
  fds : Option Nat

structure Round where
  triggered : Bool
  receive : Receive
  pause : Status
  allocates : Bool
  take : Nat → Adoption

/-- The handles go with the first bytes. -/
def handOver (t : State) (packet : Packet) (call : ReadCall) (round : Round) :
    Except Status (List Nat) × Packet :=
  if t.descriptorsDone then (.ok [], packet)
  else match call.fds with
    | none =>
        if packet.handles.length ≠ 0 then (.error .badValue, packet)
        else match packet.discardRemainingHandles with
          | (some failure, packet) => (.error (error failure), packet)
          | (none, packet) => (.ok [], packet)
    | some previous =>
        if previous > kNdrDescriptorMax ||
            packet.handles.length > kNdrDescriptorMax - previous then (.error .badValue, packet)
        else if !round.allocates then (.error .noMemory, packet)
        else takeHandles round.take (List.range packet.handles.length) packet

structure Reply where
  status : Status
  data : List UInt8 := []
  handles : List Nat := []

def deliver (t : State) (packet : Packet) (call : ReadCall) (round : Round) : Reply × State :=
  if call.total > packet.payload.length - t.readBytes then
    ({ status := (t.fail .badValue).1 }, (t.fail .badValue).2)
  else match t.handOver packet call round with
    | (.error status, packet) =>
        let t := { t with packet := some packet }
        ({ status := (t.fail status).1 }, (t.fail status).2)
    | (.ok handles, packet) =>
        let (failure, data, last) := copyOut call.iovs ⟨packet, t.readBytes, t.header⟩
        let t := { t with
          descriptorsDone := true
          packet := some last.packet
          readBytes := last.readBytes
          header := last.header }
        match failure with
        | some failure =>
            ({ status := (t.fail (error failure)).1, data := data, handles := handles },
              (t.fail (error failure)).2)
        | none => ({ status := .ok, data := data, handles := handles }, t)

/-- One round; no reply means that the call goes on waiting. -/
def readRound (t : State) (call : ReadCall) (round : Round) : Option Reply × State :=
  if round.triggered then (some { status := (t.fail .cancelled).1 }, (t.fail .cancelled).2)
  else match t.loadPacket round.receive with
    | (.ok, t) =>
        match t.packet with
        | some packet =>
            let (reply, t) := t.deliver packet call round
            (some reply, t)
        | none => (some { status := .deadObject }, t)
    | (.wouldBlock, t) =>
        let paused := if t.stopped then .deadObject else round.pause
        if paused = .ok then (none, t)
        else (some { status := (t.fail paused).1 }, (t.fail paused).2)
    | (status, t) => (some { status := status }, t)

/-- The beginning of a read: a reply at once, or a call that waits. -/
def startRead (t : State) (iovs : Option (List Iovec)) (fds : Option Nat) :
    (Reply ⊕ ReadCall) × State :=
  if t.stopped then (.inl { status := .deadObject }, t)
  else match iovs, iovSize iovs with
    | some vectors, some total =>
        if !t.phaseOpen then (.inl { status := (t.fail .badValue).1 }, (t.fail .badValue).2)
        else if total = 0 then (.inl { status := .ok }, t)
        else (.inr ⟨vectors, total, fds⟩, t)
    | _, _ => (.inl { status := (t.fail .badValue).1 }, (t.fail .badValue).2)

end State

/-! Runs. -/

inductive Operation where
  | shutdown
  | poll
  | begin (phase : Option Phase)
  | read
  | finish (proof : Bool)
  deriving DecidableEq, Repr

/-- What an operation has returned, and when: `busy` if it found another one under way, the
packets received and the phases opened by then. -/
structure Entry where
  operation : Operation
  reply : State.Reply
  busy : Bool := false
  proof : Option Nat := none
  received : Nat
  opened : Nat

/-- A transport, the read that is under way, and what was returned so far, the last first. -/
structure Run where
  transport : State
  reading : Option State.ReadCall := none
  log : List Entry := []

inductive Move where
  | shutdown (status : Status)
  | poll (receive : State.Receive)
  | begin (phase : Option Phase)
  | finish (proof : Bool) (finishing : State.Finishing)
  | read (iovs : Option (List State.Iovec)) (fds : Option Nat)
  | round (round : State.Round)

namespace Run

def returns (run : Run) (operation : Operation) (reply : State.Reply) (transport : State) : Run :=
  { transport := transport
    log := ⟨operation, reply, false, none, transport.received, transport.opened⟩ :: run.log }

def refuses (run : Run) (operation : Operation) : Run :=
  { run with
    log := ⟨operation, { status := .invalidOperation }, true, none, run.transport.received,
      run.transport.opened⟩ :: run.log }

def step (run : Run) : Move → Run
  | .shutdown status =>
      { run with
        transport := { run.transport with stopped := true }
        log := ⟨.shutdown, { status := status }, false, none, run.transport.received,
          run.transport.opened⟩ :: run.log }
  | .poll receive =>
      if run.reading.isSome then run.refuses .poll
      else
        let (status, transport) := run.transport.pollRead receive
        run.returns .poll { status := status } transport
  | .begin phase =>
      if run.reading.isSome then run.refuses (.begin phase)
      else
        let (status, transport) := run.transport.beginNdrRecord phase
        run.returns (.begin phase) { status := status } transport
  | .finish false _ =>
      { run with
        log := ⟨.finish false, { status := .badValue }, false, none, run.transport.received,
          run.transport.opened⟩ :: run.log }
  | .finish true finishing =>
      if run.reading.isSome then run.refuses (.finish true)
      else
        let (status, proof, transport) := run.transport.finishNdrRecord finishing
        { transport := transport
          log := ⟨.finish true, { status := status }, false, proof, transport.received,
            transport.opened⟩ :: run.log }
  | .read iovs fds =>
      if run.reading.isSome then run.refuses .read
      else match run.transport.startRead iovs fds with
        | (.inl reply, transport) => run.returns .read reply transport
        | (.inr call, transport) => { run with transport := transport, reading := some call }
  | .round round =>
      match run.reading with
      | none => run
      | some call =>
          match run.transport.readRound call round with
          | (some reply, transport) => run.returns .read reply transport
          | (none, transport) => { run with transport := transport }

end Run

def start (client : Bool) (process : Nat) : Run :=
  { transport := { client := client, process := process } }

abbrev play (client : Bool) (process : Nat) (moves : List Move) : Run :=
  Machine.play Run.step (start client process) moves

end Bscp.LocalRpc.Transport
