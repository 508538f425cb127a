import Bscp.LocalRpc.Transport

/-!
`WindowsNdrPacketCodec`: a body and its handles in one packet, and back. A packet has a
header of sixteen bytes, a table with a kind and an index for each handle, and the body; the
handles go beside it in two arrays, files and pipes, and the table keeps their order. A packet
crosses the bridge as a record (`makeRecord` of `WindowsLocalRpcBridge.c`), which has limits of
its own.
-/

namespace Bscp.LocalRpc.PacketCodec

open Transport (kNdrBinderPacketMax kNdrDescriptorMax)

abbrev Handle := UInt64

/-- `INVALID_HANDLE_VALUE`; the null handle is 0. -/
def invalidHandleValue : Handle := 0xffffffffffffffff

def headerSize : Nat := 16

def kNdrEnvelopeMax : Nat := headerSize + 2 * kNdrDescriptorMax + kNdrBinderPacketMax

/-- `MAX_BYTES` and `MAX_HANDLES` of the bridge. -/
def maxBytes : Nat := 614921

def maxHandles : Nat := 253

inductive FileType where
  | unknown
  | disk
  | char
  | pipe
  | remote
  deriving DecidableEq, Repr

/-- What the kernel knows of the handles: `GetFileType` and `GetNamedPipeInfo`. -/
structure Kernel where
  fileType : Handle → FileType
  namedPipeInfo : Handle → Option Failure

/-- The arrays that a handle can go in: kind 0 and kind 1. -/
inductive Kind where
  | file
  | pipe
  deriving DecidableEq, Repr

def Kind.code : Kind → UInt8
  | .file => 0
  | .pipe => 1

def Kind.read (code : UInt8) : Option Kind :=
  if code = 0 then some .file else if code = 1 then some .pipe else none

def notSupported : Failure := .other 50

def missing (handle : Handle) : Bool := handle = 0 || handle = invalidHandleValue

def Kernel.classify (kernel : Kernel) (handle : Handle) : Except Failure Kind :=
  if missing handle then .error .invalidHandle
  else match kernel.fileType handle with
    | .disk => .ok .file
    | .pipe =>
        match kernel.namedPipeInfo handle with
        | some failure => .error failure
        | none => .ok .pipe
    | _ => .error notSupported

-- 'W', 'L', 'R', '1'
def magic : List UInt8 := [0x57, 0x4c, 0x52, 0x31]

def u32 (value : UInt32) : List UInt8 :=
  [value.toUInt8, (value >>> 8).toUInt8, (value >>> 16).toUInt8, (value >>> 24).toUInt8]

def byte (p : List UInt8) (position : Nat) : UInt8 := p.getD position 0

def read32 (p : List UInt8) (position : Nat) : UInt32 :=
  (byte p position).toUInt32 ||| (byte p (position + 1)).toUInt32 <<< 8 |||
    (byte p (position + 2)).toUInt32 <<< 16 ||| (byte p (position + 3)).toUInt32 <<< 24

structure Encoded where
  bytes : List UInt8 := []
  files : List Handle := []
  pipes : List Handle := []
  deriving DecidableEq, Repr

namespace Encoded

def typed (e : Encoded) : Kind → List Handle
  | .file => e.files
  | .pipe => e.pipes

def push (e : Encoded) (handle : Handle) : Kind → Encoded
  | .file =>
      { e with
        bytes := e.bytes ++ [Kind.code .file, UInt8.ofNat e.files.length]
        files := e.files ++ [handle] }
  | .pipe =>
      { e with
        bytes := e.bytes ++ [Kind.code .pipe, UInt8.ofNat e.pipes.length]
        pipes := e.pipes ++ [handle] }

end Encoded

def header (handles body : Nat) : List UInt8 :=
  magic ++ [1, 0, UInt8.ofNat handles, 0] ++ u32 (UInt32.ofNat body) ++ [0, 0, 0, 0]

/-- The loop over the handles. Whether there is memory for the i-th of them is `memory (i + 1)`. -/
def pack (kernel : Kernel) (memory : Nat → Bool) : List Handle → Encoded → Except Failure Encoded
  | [], encoded => .ok encoded
  | handle :: rest, encoded =>
      match kernel.classify handle with
      | .error failure => .error failure
      | .ok kind =>
          if memory (encoded.files.length + encoded.pipes.length + 1) then
            pack kernel memory rest (encoded.push handle kind)
          else .error .notEnoughMemory

/-- The status, none for success, and `*out`. -/
def encodeWindowsNdrPacket (kernel : Kernel) (memory : Nat → Bool) (body : List UInt8)
    (handles : List Handle) : Option Failure × Encoded :=
  if kNdrBinderPacketMax < body.length || kNdrDescriptorMax < handles.length then
    (some .invalidParameter, {})
  else if !memory 0 then (some .notEnoughMemory, {})
  else
    match pack kernel memory handles { bytes := header handles.length body.length } with
    | .error failure => (some failure, {})
    | .ok encoded => (none, { encoded with bytes := encoded.bytes ++ body })

/-- A pointer and its count. The null pointer may come with any count. -/
inductive Span (α : Type) where
  | null (count : UInt32)
  | items (list : List α)
  deriving DecidableEq, Repr

namespace Span

variable {α : Type}

def count : Span α → Nat
  | .null count => count.toNat
  | .items list => list.length

def isNull : Span α → Bool
  | .null _ => true
  | .items _ => false

def list : Span α → List α
  | .null _ => []
  | .items list => list

end Span

/-- `WlrView`, without its sequence and the identity of the request. -/
structure View where
  data : Span UInt8
  files : Span Handle
  pipes : Span Handle
  deriving DecidableEq, Repr

def View.typed (v : View) : Kind → Span Handle
  | .file => v.files
  | .pipe => v.pipes

structure Decoded where
  binderBytes : List UInt8 := []
  orderedHandles : List Handle := []
  deriving DecidableEq, Repr

structure Loop where
  used : Kind → Nat → Bool := fun _ _ => false
  orderedHandles : List Handle := []

def Loop.take (l : Loop) (kind : Kind) (index : Nat) (handle : Handle) : Loop where
  used := fun other position => l.used other position || (other = kind && position = index)
  orderedHandles := l.orderedHandles ++ [handle]

def unpack (v : View) : List (UInt8 × UInt8) → Loop → Except Failure Loop
  | [], loop => .ok loop
  | (code, index) :: rest, loop =>
      match Kind.read code with
      | none => .error .invalidData
      | some kind =>
          if (v.typed kind).count ≤ index.toNat || loop.used kind index.toNat then
            .error .invalidData
          else
            let handle := (v.typed kind).list.getD index.toNat 0
            if missing handle then .error .invalidHandle
            else unpack v rest (loop.take kind index.toNat handle)

def entries (p : List UInt8) (count : Nat) : List (UInt8 × UInt8) :=
  (List.range count).map fun i => (byte p (headerSize + 2 * i), byte p (headerSize + 1 + 2 * i))

def View.fits (v : View) : Bool :=
  !v.data.isNull && headerSize ≤ v.data.count && v.data.count ≤ kNdrEnvelopeMax &&
    v.files.count ≤ kNdrDescriptorMax && v.pipes.count ≤ kNdrDescriptorMax &&
    v.files.count + v.pipes.count ≤ kNdrDescriptorMax &&
    !(v.files.isNull && v.files.count != 0) && !(v.pipes.isNull && v.pipes.count != 0)

def conclude (body : List UInt8) : Except Failure Loop → Option Failure × Decoded
  | .error failure => (some failure, {})
  | .ok loop => (none, ⟨body, loop.orderedHandles⟩)

/-- `room` tells whether the handles can be reserved. -/
def decodeWindowsNdrPacket (room : Bool) (v : View) : Option Failure × Decoded :=
  let p := v.data.list
  let count := (byte p 6).toNat
  let body := (read32 p 8).toNat
  let tableEnd := headerSize + 2 * count
  if !v.fits then (some .invalidData, {})
  else if p.take 4 ≠ magic then (some .invalidData, {})
  else if byte p 4 ≠ 1 || byte p 5 ≠ 0 || byte p 7 ≠ 0 || read32 p 12 ≠ 0 then
    (some .invalidData, {})
  else if count ≠ v.files.count + v.pipes.count || kNdrBinderPacketMax < body ||
      tableEnd + body ≠ v.data.count then
    (some .invalidData, {})
  else if !room then (some .notEnoughMemory, {})
  else conclude ((p.drop tableEnd).take body) (unpack v (entries p count) {})

def Encoded.view (e : Encoded) : View := ⟨.items e.bytes, .items e.files, .items e.pipes⟩

/-- What `makeRecord` meets: the allocations of the record, its data, its files and its pipes,
and `DuplicateHandle`. -/
structure Copying where
  memory : Fin 4 → Bool
  duplicate : Handle → Except Failure Handle

def copyHandle (kernel : Kernel) (copying : Copying) (kind : Kind) (source : Handle) :
    Except Failure Handle :=
  match kind with
  | .pipe =>
      if kernel.fileType source ≠ .pipe || (kernel.namedPipeInfo source).isSome then
        .error .invalidHandle
      else copying.duplicate source
  | .file =>
      if kernel.fileType source ≠ .disk then .error .invalidHandle else copying.duplicate source

def View.withinRecord (v : View) : Bool :=
  v.data.count ≤ maxBytes && v.files.count ≤ maxHandles && v.pipes.count ≤ maxHandles &&
    v.files.count + v.pipes.count ≤ maxHandles && !(v.data.isNull && v.data.count != 0) &&
    !(v.files.isNull && v.files.count != 0) && !(v.pipes.isNull && v.pipes.count != 0)

/-- An array of a record: nothing is allocated for none. -/
def stored {α : Type} (list : List α) : Span α := if list = [] then .null 0 else .items list

/-- The record's view. A token, if there is one, is duplicated last. -/
def makeRecord (kernel : Kernel) (copying : Copying) (v : View) (token : Option Handle) :
    Except Failure View :=
  if !v.withinRecord then .error .invalidParameter
  else if !copying.memory 0 || (v.data.count != 0 && !copying.memory 1) ||
      (v.files.count != 0 && !copying.memory 2) || (v.pipes.count != 0 && !copying.memory 3) then
    .error .notEnoughMemory
  else do
    let files ← v.files.list.mapM (copyHandle kernel copying .file)
    let pipes ← v.pipes.list.mapM (copyHandle kernel copying .pipe)
    match token with
    | none => pure ()
    | some token => discard (copying.duplicate token)
    return ⟨stored v.data.list, stored files, stored pipes⟩

end Bscp.LocalRpc.PacketCodec
