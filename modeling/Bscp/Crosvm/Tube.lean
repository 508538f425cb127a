import Mathlib.Data.List.Basic
import Mathlib.Algebra.Ring.Nat

/-!
A tube over a byte stream (`base/src/sys/unix/tube.rs`, `FramingMode::Byte`), in one of its two
directions: any number of clones of one end send, and any number of clones of the other receive.
A send holds `send_lock` and a receive `recv_lock`, which clones share, so that one of each is on
its way at a time; their calls of the socket move any part of what they ask for, and may fail.
-/

namespace Bscp.Crosvm.Tube

def headerSize : Nat := 8

def maxFrameSize : Nat := 64 * 1024 * 1024

def maxFdCount : Nat := 253

@[ext] structure Packet where
  bytes : List UInt8
  fds : List Nat
  deriving DecidableEq, Repr

def toBe : Nat → Nat → List UInt8
  | 0, _ => []
  | count + 1, n => toBe count (n / 256) ++ [UInt8.ofNat n]

def fromBe (bytes : List UInt8) : Nat := bytes.foldl (fun n byte => n * 256 + byte.toNat) 0

/-- A byte of the stream, and the descriptors that arrive with it. -/
abbrev Item := UInt8 × List Nat

def carry (fds : List Nat) : List UInt8 → List Item
  | [] => []
  | byte :: rest => (byte, fds) :: rest.map fun byte => (byte, [])

namespace Packet

/-- `frame` of `send_packet`: the length as a `u64` in big-endian order, and the message. -/
def frame (p : Packet) : List UInt8 := toBe headerSize p.bytes.length ++ p.bytes

def chunk (p : Packet) (written count : Nat) : List Item :=
  carry (if written = 0 then p.fds else []) ((p.frame.drop written).take count)

end Packet

inductive Receiving where
  | header (maxFds : Nat) (got : List UInt8) (descriptors : List Nat)
  | message (maxFds size : Nat) (got : List UInt8) (descriptors : List Nat)
  deriving DecidableEq, Repr

namespace Receiving

def wants : Receiving → Nat
  | header _ got _ => headerSize - got.length
  | message _ size got _ => size - got.length

def began : Receiving → Bool
  | header _ got _ => got ≠ []
  | message .. => true

/-- A call of `recv_with_fds` that gave some of the stream: no more descriptors than are left. -/
def gets : Receiving → List Item → Receiving
  | header maxFds got descriptors, items =>
      header maxFds (got ++ items.map (·.1))
        (descriptors ++ (items.flatMap (·.2)).take (maxFds - descriptors.length))
  | message maxFds size got descriptors, items =>
      message maxFds size (got ++ items.map (·.1))
        (descriptors ++ (items.flatMap (·.2)).take (maxFds - descriptors.length))

end Receiving

structure World where
  /-- What was sent and not yet received. -/
  stream : List Item := []
  /-- The send that has `send_lock`, and how much of its frame it has `written`. -/
  sending : Option (Packet × Nat) := none
  receiving : Option Receiving := none
  /-- The packets whose frames went out to the last byte, in the order of their sends. -/
  sent : List Packet := []
  /-- The packets that receives returned, in their order. -/
  received : List Packet := []
  /-- The frames that receives have gone over, those with no message in them among them. -/
  consumed : Nat := 0
  /-- A send, a receive, has failed past its first byte. -/
  sendBroken : Bool := false
  recvBroken : Bool := false
  deriving DecidableEq, Repr

inductive Event where
  | silent
  | sendBegins (p : Packet) (maxFds : Nat)
  | sendReturns (p : Packet)
  | sendFails
  | recvBegins (maxFds : Nat)
  | recvReturns (p : Packet)
  /-- `Error::Disconnected` for an empty message, `EMSGSIZE` for one that is too large. -/
  | recvRefuses
  | recvFails
  deriving DecidableEq, Repr

inductive Step : World → Event → World → Prop
  -- an interrupted call is made again
  | interrupted (w : World) : Step w .silent w
  | sendBegins {w : World} (p : Packet) (maxFds : Nat) (free : w.sending = none)
      (usize : p.bytes.length < 2 ^ 64) (known : maxFds ≤ maxFdCount)
      (few : p.fds.length ≤ maxFds) :
      Step w (.sendBegins p maxFds) { w with sending := some (p, 0) }
  | sends {w : World} {p : Packet} {written : Nat} (count : Nat)
      (here : w.sending = some (p, written)) (positive : 0 < count)
      (within : written + count ≤ p.frame.length) :
      Step w .silent
        { w with
          sending := some (p, written + count)
          stream := w.stream ++ p.chunk written count
          sent := if written + count = p.frame.length then w.sent ++ [p] else w.sent }
  | sendReturns {w : World} {p : Packet} {written : Nat} (here : w.sending = some (p, written))
      (all : p.frame.length ≤ written) : Step w (.sendReturns p) { w with sending := none }
  | sendFails {w : World} {p : Packet} {written : Nat} (here : w.sending = some (p, written))
      (more : written < p.frame.length) :
      Step w .sendFails
        { w with sending := none, sendBroken := w.sendBroken || decide (written ≠ 0) }
  | recvBegins {w : World} (maxFds : Nat) (free : w.receiving = none)
      (known : maxFds ≤ maxFdCount) :
      Step w (.recvBegins maxFds) { w with receiving := some (.header maxFds [] []) }
  | gets {w : World} {r : Receiving} (count : Nat) (here : w.receiving = some r)
      (positive : 0 < count) (within : count ≤ r.wants) (there : count ≤ w.stream.length) :
      Step w .silent
        { w with
          receiving := some (r.gets (w.stream.take count))
          stream := w.stream.drop count }
  | sizes {w : World} {maxFds : Nat} {got : List UInt8} {descriptors : List Nat}
      (here : w.receiving = some (.header maxFds got descriptors)) (all : got.length = headerSize)
      (some_size : fromBe got ≠ 0) (small : fromBe got ≤ maxFrameSize) :
      Step w .silent
        { w with receiving := some (.message maxFds (fromBe got) [] descriptors) }
  | empty {w : World} {maxFds : Nat} {got : List UInt8} {descriptors : List Nat}
      (here : w.receiving = some (.header maxFds got descriptors)) (all : got.length = headerSize)
      (no_size : fromBe got = 0) :
      Step w .recvRefuses { w with receiving := none, consumed := w.consumed + 1 }
  | large {w : World} {maxFds : Nat} {got : List UInt8} {descriptors : List Nat}
      (here : w.receiving = some (.header maxFds got descriptors)) (all : got.length = headerSize)
      (large : maxFrameSize < fromBe got) :
      Step w .recvRefuses { w with receiving := none, recvBroken := true }
  | recvReturns {w : World} {maxFds size : Nat} {got : List UInt8} {descriptors : List Nat}
      (here : w.receiving = some (.message maxFds size got descriptors))
      (all : got.length = size) :
      Step w (.recvReturns ⟨got, descriptors⟩)
        { w with
          receiving := none
          received := w.received ++ [⟨got, descriptors⟩]
          consumed := w.consumed + 1 }
  | recvFails {w : World} {r : Receiving} (here : w.receiving = some r) (more : 0 < r.wants) :
      Step w .recvFails
        { w with receiving := none, recvBroken := w.recvBroken || r.began }

def initial : World := {}

end Bscp.Crosvm.Tube
