import Bscp.ByteFile

/-!
Android sparse images. The format is what its header and its chunks tell; the two decoders are the
one of `simg2img.py`, which trusts the file, and the one of `create_cf_android_disk.py`, which looks
at every field.
-/

namespace Bscp.Images.Sparse

open Struct (ofLe slice le)

def ANDROID_SPARSE_MAGIC : Nat := 0xED26FF3A
def HEADER_SIZE : Nat := 28
def CHUNK_HEADER_SIZE : Nat := 12
def CHUNK_TYPE_RAW : Nat := 0xCAC1
def CHUNK_TYPE_FILL : Nat := 0xCAC2
def CHUNK_TYPE_DONT_CARE : Nat := 0xCAC3
def CHUNK_TYPE_CRC32 : Nat := 0xCAC4

/-! ### What both decoders do -/

structure Chunk where
  kind : Nat
  blocks : Nat
  size : Nat
  deriving DecidableEq, Repr

/-- `while count: out.write(chunk[:size])`, in no more turns than there are bytes to write. -/
def writeCount (chunk : Bytes) : Nat → Nat → ByteFile → ByteFile
  | 0, _, out => out
  | turns + 1, count, out =>
      if count = 0 then out
      else
        let size := min count chunk.length
        writeCount chunk turns (count - size) (out.write (chunk.take size))

/-- `write_fill`, with the size of the piece that is written again and again. -/
def fillWith (piece : Nat) (out : ByteFile) (value count : Nat) : ByteFile :=
  if value = 0 then out.skip count
  else
    let pattern := le 4 value
    let chunk := (List.replicate (piece / pattern.length) pattern).flatten
    writeCount chunk count count out

/-! ### `simg2img.py` -/

namespace Simg2img

def unpack (width : Nat) (data : Bytes) : Except Fault Nat :=
  if data.length = width then .ok (ofLe data)
  else .error ⟨.other, s!"unpack requires a buffer of {width} bytes"⟩

def field (width : Nat) (rest : Bytes) : Except Fault (Nat × Bytes) := do
  let value ← unpack width (rest.take width)
  return (value, rest.drop width)

/-- `f.read`: minus one stands for everything, and less than that is refused. -/
def read (size : Int) (rest : Bytes) : Except Fault (Bytes × Bytes) :=
  if size < -1 then .error ⟨.valueError, "read length must be non-negative or -1"⟩
  else if size = -1 then .ok (rest, [])
  else .ok (rest.take size.toNat, rest.drop size.toNat)

def writeFill : ByteFile → Nat → Nat → ByteFile := fillWith (1024 * 1024)

structure Copy where
  rest : Bytes
  out : ByteFile
  outBlocks : Nat

def chunkHeader (rest : Bytes) : Except Fault (Chunk × Bytes) := do
  let (chunkType, rest) ← field 2 rest
  let (_reserved, rest) ← field 2 rest
  let (chunkSectors, rest) ← field 4 rest
  let (totalSize, rest) ← field 4 rest
  return ({ kind := chunkType, blocks := chunkSectors, size := totalSize }, rest)

/-- What is done with a chunk behind its header. An unknown type is passed over. -/
def chunkBody (blockSize : Nat) (chunk : Chunk) (copy : Copy) : Except Fault Copy :=
  let dataSize : Int := chunk.size - 12
  let outBlocks := copy.outBlocks + chunk.blocks
  if chunk.kind = CHUNK_TYPE_RAW then do
    let (data, rest) ← read dataSize copy.rest
    return { rest, out := copy.out.write data, outBlocks }
  else if chunk.kind = CHUNK_TYPE_FILL then do
    let (data, rest) ← read dataSize copy.rest
    let fillVal ← unpack 4 data
    return { rest, out := writeFill copy.out fillVal (blockSize * chunk.blocks), outBlocks }
  else if chunk.kind = CHUNK_TYPE_DONT_CARE then
    .ok { copy with out := copy.out.skip (chunk.blocks * blockSize), outBlocks }
  else if chunk.kind = CHUNK_TYPE_CRC32 then do
    let (_, rest) ← read dataSize copy.rest
    return { copy with rest }
  else .ok copy

/-- The loop over the chunks, which tells how far it is at every twentieth of them. -/
def chunks (blockSize totalBlocks : Nat) : Nat → Nat → Copy → Except Fault Copy
  | 0, _, copy => .ok copy
  | left + 1, i, copy => do
      let (chunk, rest) ← chunkHeader copy.rest
      let copy ← chunkBody blockSize chunk { copy with rest }
      if i % 20 = 0 ∧ totalBlocks = 0 then
        .error ⟨.other, "integer division or modulo by zero"⟩
      else chunks blockSize totalBlocks left (i + 1) copy

def fileHeader (rest : Bytes) : Except Fault ((Nat × Nat × Nat) × Bytes) := do
  let (_verMajor, rest) ← field 2 rest
  let (_verMinor, rest) ← field 2 rest
  let (_headerSize, rest) ← field 2 rest
  let (_chunkHdrSize, rest) ← field 2 rest
  let (blockSize, rest) ← field 4 rest
  let (totalBlocks, rest) ← field 4 rest
  let (totalChunks, rest) ← field 4 rest
  let (_crc32, rest) ← field 4 rest
  return ((blockSize, totalBlocks, totalChunks), rest)

def simg2img (src : Bytes) : Except Fault (Bool × Option ByteFile) := do
  let (magic, rest) ← field 4 src
  if magic ≠ ANDROID_SPARSE_MAGIC then return (false, none)
  else
    let ((blockSize, totalBlocks, totalChunks), rest) ← fileHeader rest
    let copy ← chunks blockSize totalBlocks totalChunks 0 { rest, out := {}, outBlocks := 0 }
    let out := copy.out.truncate (totalBlocks * blockSize)
    let actual := out.data.length
    let expected := totalBlocks * blockSize
    return (decide (actual = expected), some out)

end Simg2img

/-! ### `create_cf_android_disk.py` -/

structure Source where
  path : String
  data : Bytes

structure Info where
  fileHeaderSize : Nat
  chunkHeaderSize : Nat
  blockSize : Nat
  totalBlocks : Nat
  totalChunks : Nat
  logicalSize : Nat
  deriving DecidableEq, Repr

def refuse {α : Type} (text : String) : Except Fault α := .error ⟨.valueError, text⟩

def androidSparseInfo (src : Source) : Except Fault (Option Info) :=
  let header := src.data.take HEADER_SIZE
  if header.length < 4 ∨ ofLe (slice header 0 4) ≠ ANDROID_SPARSE_MAGIC then .ok none
  else if header.length ≠ HEADER_SIZE then
    refuse s!"truncated Android sparse header: {src.path}"
  else
    let majorVersion := ofLe (slice header 4 6)
    let minorVersion := ofLe (slice header 6 8)
    let fileHeaderSize := ofLe (slice header 8 10)
    let chunkHeaderSize := ofLe (slice header 10 12)
    let blockSize := ofLe (slice header 12 16)
    let totalBlocks := ofLe (slice header 16 20)
    let totalChunks := ofLe (slice header 20 24)
    if majorVersion ≠ 1 then
      refuse s!"unsupported Android sparse version {majorVersion}.{minorVersion}: {src.path}"
    else if fileHeaderSize < HEADER_SIZE then
      refuse s!"invalid Android sparse file header size: {src.path}"
    else if chunkHeaderSize < CHUNK_HEADER_SIZE then
      refuse s!"invalid Android sparse chunk header size: {src.path}"
    else if blockSize = 0 ∨ totalBlocks = 0 then
      refuse s!"invalid Android sparse geometry: {src.path}"
    else
      .ok (some { fileHeaderSize, chunkHeaderSize, blockSize, totalBlocks, totalChunks
                  logicalSize := blockSize * totalBlocks })

def writeFill : ByteFile → Nat → Nat → ByteFile := fillWith (8 * 1024 * 1024)

def zeroChunk : Bytes := zeros (8 * 1024 * 1024)

/-- The loop of `copy_sparse_raw`. A piece of zeros is stepped over and not written. -/
def copyRaw : Nat → Nat → Bytes → ByteFile → Except Fault (Bytes × ByteFile)
  | 0, _, rest, out => .ok (rest, out)
  | turns + 1, count, rest, out =>
      if count = 0 then .ok (rest, out)
      else
        let size := min count zeroChunk.length
        let chunk := rest.take size
        if chunk.isEmpty then refuse "unexpected end of Android sparse raw chunk"
        else
          let out := if chunk = zeroChunk.take chunk.length then out.skip chunk.length
            else out.write chunk
          copyRaw turns (count - chunk.length) (rest.drop size) out

def copySparseRaw (rest : Bytes) (out : ByteFile) (count : Nat) : Except Fault (Bytes × ByteFile) :=
  copyRaw count count rest out

def hex4 (value : Nat) : String :=
  let digits := Nat.toDigits 16 value
  String.ofList (List.replicate (4 - digits.length) '0' ++ digits)

structure Copying where
  rest : Bytes
  dst : ByteFile
  outputBlocks : Nat

def copyChunk (src : Source) (sparse : Info) (chunkIndex : Nat) (copy : Copying) :
    Except Fault Copying :=
  let header := copy.rest.take sparse.chunkHeaderSize
  let rest := copy.rest.drop sparse.chunkHeaderSize
  if header.length ≠ sparse.chunkHeaderSize then
    refuse s!"truncated Android sparse chunk {chunkIndex}: {src.path}"
  else
    let chunkType := ofLe (slice header 0 2)
    let chunkBlocks := ofLe (slice header 4 8)
    let totalSize := ofLe (slice header 8 12)
    if totalSize < sparse.chunkHeaderSize then
      refuse s!"invalid sparse chunk size at {chunkIndex}: {src.path}"
    else
      let dataSize := totalSize - sparse.chunkHeaderSize
      let outputSize := chunkBlocks * sparse.blockSize
      let outputBlocks := copy.outputBlocks + chunkBlocks
      if chunkType = CHUNK_TYPE_RAW then
        if dataSize ≠ outputSize then refuse s!"invalid raw sparse chunk at {chunkIndex}: {src.path}"
        else do
          let (rest, dst) ← copySparseRaw rest copy.dst outputSize
          return { rest, dst, outputBlocks }
      else if chunkType = CHUNK_TYPE_FILL then
        if dataSize ≠ 4 then refuse s!"invalid fill sparse chunk at {chunkIndex}: {src.path}"
        else if (rest.take 4).length ≠ 4 then
          refuse s!"truncated fill sparse chunk at {chunkIndex}: {src.path}"
        else
          .ok { rest := rest.drop 4
                dst := writeFill copy.dst (ofLe (rest.take 4)) outputSize
                outputBlocks }
      else if chunkType = CHUNK_TYPE_DONT_CARE then
        if dataSize ≠ 0 then
          refuse s!"invalid don't-care sparse chunk at {chunkIndex}: {src.path}"
        else .ok { rest, dst := copy.dst.skip outputSize, outputBlocks }
      else if chunkType = CHUNK_TYPE_CRC32 then
        if dataSize ≠ 4 ∨ (rest.take 4).length ≠ 4 then
          refuse s!"invalid CRC sparse chunk at {chunkIndex}: {src.path}"
        else .ok { copy with rest := rest.drop 4 }
      else
        let typeText := hex4 chunkType
        refuse s!"unknown sparse chunk type 0x{typeText} at {chunkIndex}: {src.path}"

def copyChunks (src : Source) (sparse : Info) : Nat → Nat → Copying → Except Fault Copying
  | 0, _, copy => .ok copy
  | left + 1, chunkIndex, copy => do
      let copy ← copyChunk src sparse chunkIndex copy
      copyChunks src sparse left (chunkIndex + 1) copy

def copyAndroidSparse (src : Source) (dst : ByteFile) (sparse : Info) : Except Fault ByteFile := do
  let rest := src.data.drop sparse.fileHeaderSize
  let copy ← copyChunks src sparse sparse.totalChunks 0 { rest, dst, outputBlocks := 0 }
  if copy.outputBlocks ≠ sparse.totalBlocks then
    let counts := s!"{copy.outputBlocks} != {sparse.totalBlocks}"
    refuse s!"sparse block count mismatch for {src.path}: {counts}"
  else return copy.dst

/-! ### The format -/

structure Header where
  majorVersion : Nat
  fileHeaderSize : Nat
  chunkHeaderSize : Nat
  blockSize : Nat
  totalBlocks : Nat
  totalChunks : Nat
  deriving DecidableEq, Repr

def header (data : Bytes) : Option Header :=
  if HEADER_SIZE ≤ data.length ∧ ofLe (slice data 0 4) = ANDROID_SPARSE_MAGIC then
    some { majorVersion := ofLe (slice data 4 6)
           fileHeaderSize := ofLe (slice data 8 10)
           chunkHeaderSize := ofLe (slice data 10 12)
           blockSize := ofLe (slice data 12 16)
           totalBlocks := ofLe (slice data 16 20)
           totalChunks := ofLe (slice data 20 24) }
  else none

structure Header.Valid (head : Header) : Prop where
  version : head.majorVersion = 1
  header_size : HEADER_SIZE ≤ head.fileHeaderSize
  chunk_size : CHUNK_HEADER_SIZE ≤ head.chunkHeaderSize
  blocks : head.blockSize ≠ 0 ∧ head.totalBlocks ≠ 0

def chunkAt (start : Bytes) : Chunk :=
  { kind := ofLe (slice start 0 2), blocks := ofLe (slice start 4 8), size := ofLe (slice start 8 12) }

def Chunk.Carries (chunk : Chunk) : Prop :=
  chunk.kind = CHUNK_TYPE_RAW ∨ chunk.kind = CHUNK_TYPE_FILL ∨ chunk.kind = CHUNK_TYPE_CRC32

instance (chunk : Chunk) : Decidable chunk.Carries := by unfold Chunk.Carries; infer_instance

def Chunk.Lays (chunk : Chunk) : Prop :=
  chunk.kind = CHUNK_TYPE_RAW ∨ chunk.kind = CHUNK_TYPE_FILL ∨ chunk.kind = CHUNK_TYPE_DONT_CARE

instance (chunk : Chunk) : Decidable chunk.Lays := by unfold Chunk.Lays; infer_instance

def Chunk.payload (blockSize : Nat) (chunk : Chunk) : Option Nat :=
  if chunk.kind = CHUNK_TYPE_RAW then some (chunk.blocks * blockSize)
  else if chunk.kind = CHUNK_TYPE_FILL then some 4
  else if chunk.kind = CHUNK_TYPE_DONT_CARE then some 0
  else if chunk.kind = CHUNK_TYPE_CRC32 then some 4
  else none

def Chunk.counted (chunk : Chunk) : Nat := if chunk.Lays then chunk.blocks else 0

/-- The data of the chunk that begins here, as far as the file has them. A size that is one too
small stands for everything that is left. -/
def carried (headerSize : Nat) (start : Bytes) : Bytes :=
  let chunk := chunkAt start
  let body := start.drop headerSize
  if chunk.Carries then
    if chunk.size + 1 = headerSize then body else body.take (chunk.size - headerSize)
  else []

def following (headerSize : Nat) (start : Bytes) : Bytes :=
  start.drop (headerSize + (carried headerSize start).length)

def cycle (pattern : Bytes) (count : Nat) : Bytes :=
  (List.range count).map fun place => pattern.getD (place % 4) 0

def expansion (headerSize blockSize : Nat) (start : Bytes) : Bytes :=
  let chunk := chunkAt start
  if chunk.kind = CHUNK_TYPE_RAW then carried headerSize start
  else if chunk.kind = CHUNK_TYPE_FILL then
    cycle (carried headerSize start) (chunk.blocks * blockSize)
  else if chunk.kind = CHUNK_TYPE_DONT_CARE then zeros (chunk.blocks * blockSize)
  else []

def starts (headerSize : Nat) : Nat → Bytes → List Bytes
  | 0, _ => []
  | left + 1, start => start :: starts headerSize left (following headerSize start)

def Fits (headerSize blockSize : Nat) (start : Bytes) : Prop :=
  ∃ payload, (chunkAt start).payload blockSize = some payload ∧
    (chunkAt start).size = headerSize + payload ∧ headerSize + payload ≤ start.length

def Readable (start : Bytes) : Prop :=
  CHUNK_HEADER_SIZE ≤ start.length ∧
    ((chunkAt start).Carries → CHUNK_HEADER_SIZE ≤ (chunkAt start).size + 1) ∧
    ((chunkAt start).kind = CHUNK_TYPE_FILL → (carried CHUNK_HEADER_SIZE start).length = 4)

def told (head : Header) (data : Bytes) : List Bytes :=
  starts head.chunkHeaderSize head.totalChunks (data.drop head.fileHeaderSize)

/-- The chunks of a file whose headers are taken to have the smallest sizes. -/
def assumed (head : Header) (data : Bytes) : List Bytes :=
  starts CHUNK_HEADER_SIZE head.totalChunks (data.drop HEADER_SIZE)

structure WellFormed (head : Header) (data : Bytes) : Prop where
  valid : head.Valid
  fits : ∀ start ∈ told head data, Fits head.chunkHeaderSize head.blockSize start
  complete : ((told head data).map fun start => (chunkAt start).counted).sum = head.totalBlocks

structure Runs (head : Header) (data : Bytes) : Prop where
  readable : ∀ start ∈ assumed head data, Readable start
  blocks : head.totalBlocks = 0 → head.totalChunks = 0

def image (head : Header) (data : Bytes) : Bytes :=
  (told head data).flatMap (expansion head.chunkHeaderSize head.blockSize)

/-- The image at the smallest sizes, cut or filled up to the size of the whole. -/
def assumedImage (head : Header) (data : Bytes) : Bytes :=
  let laid := (assumed head data).flatMap (expansion CHUNK_HEADER_SIZE head.blockSize)
  let size := head.totalBlocks * head.blockSize
  laid.take size ++ zeros (size - laid.length)

end Bscp.Images.Sparse
