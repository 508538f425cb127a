import Bscp.LocalRpc.ChannelDelivery
import Bscp.LocalRpc.PacketCodecRoundTrip
import Bscp.LocalRpc.TransportRead

/-!
The writing side of `RpcTransportNdr`: `interruptableWriteFully` makes one packet of its
vectors and descriptors and offers it to the channel until it is taken, with the same sequence
each time. The writer and its channel run side by side, with all that others do to the channel
and all that can interrupt the writer.
-/

namespace Bscp.LocalRpc.Writing

open Transport (error kNdrDescriptorMax)
open PacketCodec (Handle Kernel Encoded encodeWindowsNdrPacket)

/-- An `iovec`: where it starts, and the bytes from there on. -/
structure Vector where
  base : Nat
  bytes : List UInt8
  deriving DecidableEq, Repr

namespace Vector

def iovec (v : Vector) : Transport.State.Iovec := ⟨v.base ≠ 0, v.bytes.length⟩

def advanced (v : Vector) : Vector := ⟨v.base + v.bytes.length, []⟩

end Vector

/-- The arguments of a call. No vector stands for a null pointer or a negative count. -/
structure Write where
  vectors : Option (List Vector)
  fds : Option (List Nat)
  deriving DecidableEq, Repr

namespace Write

def size (w : Write) : Option Nat :=
  Transport.State.iovSize (w.vectors.map fun vectors => vectors.map Vector.iovec)

def bytes (w : Write) : List UInt8 := (w.vectors.getD []).flatMap Vector.bytes

def descriptors (w : Write) : List Nat := w.fds.getD []

end Write

/-- What a call meets before it comes to the channel: the memory for the bytes and for the
handles, `bscp_fd_to_handle`, and what the encoder meets. -/
structure Preparation where
  buffer : Bool
  reserve : Bool
  toHandle : Nat → Except Transport.Status Handle
  kernel : Kernel
  memory : Nat → Bool

inductive Prepared where
  | nothing
  | fails (status : Transport.Status)
  | sends (packet : Encoded)

def prepare (write : Write) (p : Preparation) : Prepared :=
  match write.size with
  | none => .fails .badValue
  | some 0 => if write.descriptors = [] then .nothing else .fails .badValue
  | some (_ + 1) =>
      if !p.buffer then .fails .noMemory
      else if kNdrDescriptorMax < write.descriptors.length then .fails .badValue
      else if write.fds.isSome && !p.reserve then .fails .noMemory
      else match write.descriptors.mapM p.toHandle with
        | .error status => .fails status
        | .ok handles =>
            match encodeWindowsNdrPacket p.kernel p.memory write.bytes handles with
            | (some failure, _) => .fails (error failure)
            | (none, packet) => .sends packet

/-- A call that has returned, with its vectors as it leaves them. What became of its packet is
noted: whether the channel had taken it, and whether the answer was lost. -/
structure Return where
  write : Write
  status : Transport.Status
  vectors : Option (List Vector)
  packet : Option Encoded := none
  accepted : Bool := false
  lost : Bool := false
  deriving DecidableEq, Repr

inductive Phase where
  | idle
  | looping (write : Write) (packet : Encoded)
  | calling (write : Write) (packet : Encoded)
  | pausing (write : Write) (packet : Encoded)
  | accepted (write : Write) (packet : Encoded)
  deriving DecidableEq, Repr

/-- A packet that was offered to the channel and may still be put in. -/
structure Flight where
  packet : Encoded
  sequence : UInt64
  deriving DecidableEq, Repr

structure Writer where
  /-- `mOwner->initial`: the client's side of the channel. -/
  client : Bool
  stopped : Bool := false
  /-- The client's channel is `P_PUBLISHED`. -/
  published : Bool := true
  nextWrite : UInt64 := 1
  phase : Phase := .idle
  flight : Option Flight := none
  /-- What has happened so far. -/
  returned : List Return := []
  deriving DecidableEq, Repr

/-- What a round meets on its way to the channel. Whatever refuses it there, the other
operation on the client's channel or a peer that is gone, has not offered the packet. -/
structure Round where
  triggered : Bool
  early : Option Failure

inductive Answer where
  | success
  | refused (failure : Failure)
  /-- `WLR_RPC_AMBIGUOUS`: the call may have been served, or may be so later. -/
  | lost
  deriving DecidableEq, Repr

inductive Event where
  | call (write : Write) (preparation : Preparation)
  | round (round : Round)
  | answer (answer : Answer)
  | paused (status : Transport.Status)
  /-- The duplicated handles are closed. -/
  | finish (closes : Bool)
  | shutdown

namespace Writer

def shutdown (w : Writer) : Writer := { w with stopped := true, published := false }

def give (w : Writer) (result : Return) : Writer :=
  { w with phase := .idle, returned := w.returned ++ [result] }

def fail (w : Writer) (result : Return) : Writer :=
  w.shutdown.give
    { result with status := if result.status = .ok then .unknownError else result.status }

def call (w : Writer) (write : Write) (preparation : Preparation) : Writer :=
  if w.phase ≠ .idle then
    { w with returned := w.returned ++ [⟨write, .invalidOperation, write.vectors, none, false, false⟩] }
  else if w.stopped then w.give ⟨write, .deadObject, write.vectors, none, false, false⟩
  else match prepare write preparation with
    | .nothing => w.give ⟨write, .ok, write.vectors, none, false, false⟩
    | .fails status => w.fail ⟨write, status, write.vectors, none, false, false⟩
    | .sends packet => { w with phase := .looping write packet }

/-- The packet was refused: again later, or not at all. -/
def refuse (w : Writer) (write : Write) (packet : Encoded) (failure : Failure) : Writer :=
  if failure = .busy then { w with phase := .pausing write packet }
  else w.fail ⟨write, error failure, write.vectors, some packet, false, false⟩

def round (w : Writer) (round : Round) : Writer :=
  match w.phase with
  | .looping write packet =>
      if w.stopped then w.give ⟨write, .deadObject, write.vectors, some packet, false, false⟩
      else if round.triggered then
        w.fail ⟨write, .cancelled, write.vectors, some packet, false, false⟩
      else if w.client && !w.published then w.refuse write packet .accessDenied
      else match round.early with
        | some failure => w.refuse write packet failure
        | none => { w with phase := .calling write packet, flight := some ⟨packet, w.nextWrite⟩ }
  | _ => w

/-- A success comes after the packet was put in, and a refusal instead of it. -/
def answer (w : Writer) (answer : Answer) : Writer :=
  match w.phase, answer with
  | .calling write packet, .success =>
      if w.flight.isNone then { w with phase := .accepted write packet } else w
  | .calling write packet, .refused failure =>
      if w.flight.isSome then refuse { w with flight := none } write packet failure else w
  | .calling write packet, .lost =>
      if w.client then
        w.fail ⟨write, .unknownError, write.vectors, some packet, w.flight.isNone, true⟩
      else w
  | _, _ => w

def paused (w : Writer) (status : Transport.Status) : Writer :=
  match w.phase with
  | .pausing write packet =>
      if status = .ok then { w with phase := .looping write packet }
      else w.fail ⟨write, status, write.vectors, some packet, false, false⟩
  | _ => w

def finish (w : Writer) (closes : Bool) : Writer :=
  match w.phase with
  | .accepted write packet =>
      if !closes then w.fail ⟨write, .unknownError, write.vectors, some packet, true, false⟩
      else if w.nextWrite = UInt64.ofNat (2 ^ 64 - 1) then
        w.fail ⟨write, .badValue, write.vectors, some packet, true, false⟩
      else
        give { w with nextWrite := w.nextWrite + 1 }
          ⟨write, .ok, write.vectors.map fun vectors => vectors.map Vector.advanced, some packet,
            true, false⟩
  | _ => w

def step (w : Writer) : Event → Writer
  | .call write preparation => w.call write preparation
  | .round round => w.round round
  | .answer answer => w.answer answer
  | .paused status => w.paused status
  | .finish closes => w.finish closes
  | .shutdown => w.shutdown

def sent (w : Writer) : List Encoded :=
  w.returned.filterMap fun result => if result.status = .ok then result.packet else none

def direction (w : Writer) : Direction := if w.client then .inbound else .outbound

end Writer

structure Joint where
  channel : State
  writer : Writer
  contents : Nat → Encoded

/-- Nobody but the writer fills its mailbox, and it does so once for each time that it offers a
packet. All else that happens to the channel is free to happen: takes, closes, and the calls of
the other direction. -/
inductive Joint.Step : Joint → Joint → Prop
  | channel {j : Joint} {after : State} (step : LocalRpc.Step j.channel after)
      (same : after.put j.writer.direction = j.channel.put j.writer.direction) :
      Step j { j with channel := after }
  | put {j : Joint} {after : State} {record : Record} {flight : Flight}
      (step : LocalRpc.Step j.channel after)
      (more : after.put j.writer.direction = j.channel.put j.writer.direction ++ [record])
      (offered : j.writer.flight = some flight) (sequence : record.sequence = flight.sequence) :
      Step j
        { channel := after
          writer := { j.writer with flight := none }
          contents := Function.update j.contents record.number flight.packet }
  | writer (j : Joint) (event : Event) : Step j { j with writer := j.writer.step event }

namespace Joint

def start (client : Bool) (generation : UInt64) : Joint where
  channel := { generation := generation }
  writer := { client := client }
  contents := fun _ => {}

def wire (j : Joint) : List (Encoded × Nat) :=
  (j.channel.put j.writer.direction).map fun record =>
    (j.contents record.number, record.sequence.toNat)

def obtained (j : Joint) : List (Encoded × Nat) :=
  (j.channel.taken j.writer.direction).map fun record =>
    (j.contents record.number, record.sequence.toNat)

abbrev Reachable (client : Bool) (generation : UInt64) (j : Joint) : Prop :=
  Machine.Reach Step (start client generation) j

end Joint

end Bscp.LocalRpc.Writing
