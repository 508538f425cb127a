import Bscp.ByteFile
import Bscp.Crc32

/-!
The composite disk that `libs/disk` writes (`gpt.rs` and `composite.rs`): a header file with a
protective MBR and the first copy of the partition table, the images of the partitions, each filled
up to a multiple of 4096 bytes, and a footer file with the second copy. Sizes are 64-bit numbers,
and sums of them wrap.
-/

namespace Bscp.Images.CompositeDisk

open Crc32 (crc32)
open Struct (le ofLe slice)

def SECTOR_SIZE : UInt64 := (1 : UInt64) <<< 9
def MBR_PARTITION_ENTRY_SIZE : Nat := 16
def GPT_HEADER_SIZE : Nat := 92
def GPT_NUM_PARTITIONS : Nat := 128
def GPT_PARTITION_ENTRY_SIZE : Nat := 128
def GPT_BEGINNING_SIZE : UInt64 := SECTOR_SIZE * 40
def GPT_END_SIZE : UInt64 := SECTOR_SIZE * 33
def HEADER_PADDING_LENGTH : Nat := SECTOR_SIZE.toNat - GPT_HEADER_SIZE
def PARTITION_ALIGNMENT_SIZE : Nat :=
  GPT_BEGINNING_SIZE.toNat - 2 * SECTOR_SIZE.toNat - GPT_NUM_PARTITIONS * GPT_PARTITION_ENTRY_SIZE
def PARTITION_SIZE_SHIFT : UInt64 := 12

abbrev Uuid := BitVec 128

def LINUX_FILESYSTEM_GUID : Uuid := 0x0FC63DAF848347728E793D69D8477DE4
def EFI_SYSTEM_PARTITION_GUID : Uuid := 0xC12A7328F81F11D2BA4B00A0C93EC93B

def writeGuid (guid : Uuid) : Bytes :=
  le 4 (guid.toNat / 2 ^ 96) ++ le 2 (guid.toNat / 2 ^ 80) ++ le 2 (guid.toNat / 2 ^ 64) ++
    (le 8 guid.toNat).reverse

inductive Failure where
  | duplicateLabel (label : String)
  | notMultiple
  | invalidPath (path : String)
  | writingData
  | invalidDiskSize
  deriving DecidableEq

def Failure.text : Failure → String
  | .duplicateLabel label => "duplicate GPT partition label " ++ label.quote
  | .notMultiple => "read-write partition size is not a multiple of 4096"
  | .invalidPath path => "invalid partition path " ++ path
  | .writingData => "failed to write data: failed to write whole buffer"
  | .invalidDiskSize => "invalid disk size: out of range integral type conversion attempted"

/-! ### Partitions -/

inductive ImagePartitionType where
  | linuxFilesystem
  | efiSystemPartition

def ImagePartitionType.guid : ImagePartitionType → Uuid
  | .linuxFilesystem => LINUX_FILESYSTEM_GUID
  | .efiSystemPartition => EFI_SYSTEM_PARTITION_GUID

structure PartitionInfo where
  label : String
  /-- The path as text, or only what can be shown of it. -/
  path : Except String String
  partitionType : ImagePartitionType
  writable : Bool
  size : UInt64
  partGuid : Option Uuid

def alignToPowerOf2 (val alignLog : UInt64) : UInt64 :=
  let align := (1 : UInt64) <<< alignLog
  ((val + (align - 1)) / align) * align

def PartitionInfo.alignedSize (self : PartitionInfo) : UInt64 :=
  if self.size = 0 then (1 : UInt64) <<< PARTITION_SIZE_SHIFT
  else alignToPowerOf2 self.size PARTITION_SIZE_SHIFT

def utf16 (char : Char) : List UInt16 :=
  if char.val < 0x10000 then [char.val.toUInt16]
  else [(0xd800 : UInt16) ||| ((char.val - 0x10000) >>> 10).toUInt16,
    (0xdc00 : UInt16) ||| ((char.val - 0x10000) &&& 0x3ff).toUInt16]

structure GptPartitionEntry where
  partitionTypeGuid : Uuid
  uniquePartitionGuid : Uuid
  firstLba : UInt64
  lastLba : UInt64
  attributes : UInt64
  partitionName : Vector UInt16 36

def GptPartitionEntry.bytes (self : GptPartitionEntry) : Bytes :=
  writeGuid self.partitionTypeGuid ++ writeGuid self.uniquePartitionGuid ++
    le 8 self.firstLba.toNat ++ le 8 self.lastLba.toNat ++ le 8 self.attributes.toNat ++
      self.partitionName.toList.flatMap fun unit => le 2 unit.toNat

def resized (units : List UInt16) : Vector UInt16 36 :=
  ⟨((units ++ List.replicate 36 0).take 36).toArray, by simp⟩

/-- The identifier is drawn if there is none. -/
def createGptEntry (partition : PartitionInfo) (offset : UInt64) (drawn : Uuid) :
    GptPartitionEntry where
  partitionTypeGuid := partition.partitionType.guid
  uniquePartitionGuid := partition.partGuid.getD drawn
  firstLba := offset / SECTOR_SIZE
  lastLba := (offset + partition.alignedSize) / SECTOR_SIZE - 1
  attributes := 0
  partitionName := resized (partition.label.toList.flatMap utf16)

/-! ### Components -/

structure ComponentDisk where
  filePath : String
  offset : UInt64
  writable : Bool
  deriving DecidableEq

def createComponentDisks (partition : PartitionInfo) (offset : UInt64) (zeroFillerPath : String) :
    Except Failure (List ComponentDisk) := do
  let filler (offset : UInt64) : ComponentDisk := ⟨zeroFillerPath, offset, false⟩
  if partition.size = 0 then
    if partition.writable then throw .notMultiple else return [filler offset]
  let path ← partition.path.mapError .invalidPath
  let image : ComponentDisk := ⟨path, offset, partition.writable⟩
  if partition.size ≠ partition.alignedSize then
    if partition.writable then throw .notMultiple
    else return [image, filler (offset + partition.size)]
  return [image]

/-! ### Tables -/

structure GptHeader where
  headerCrc32 : Nat
  currentLba : UInt64
  backupLba : UInt64
  firstUsableLba : UInt64
  lastUsableLba : UInt64
  diskGuid : Uuid
  partitionEntriesLba : UInt64
  partitionEntriesCrc32 : Nat

def signature : Bytes := [0x45, 0x46, 0x49, 0x20, 0x50, 0x41, 0x52, 0x54]

def GptHeader.bytes (self : GptHeader) : Bytes :=
  signature ++ [0, 0, 1, 0] ++ le 4 GPT_HEADER_SIZE ++ le 4 self.headerCrc32 ++ zeros 4 ++
    le 8 self.currentLba.toNat ++ le 8 self.backupLba.toNat ++ le 8 self.firstUsableLba.toNat ++
      le 8 self.lastUsableLba.toNat ++ writeGuid self.diskGuid ++
        le 8 self.partitionEntriesLba.toNat ++ le 4 GPT_NUM_PARTITIONS ++
          le 4 GPT_PARTITION_ENTRY_SIZE ++ le 4 self.partitionEntriesCrc32

def gptHeader (diskGuid : Uuid) (partitionEntriesCrc32 : Nat) (secondaryTableOffset : UInt64)
    (secondary : Bool) : GptHeader :=
  let primaryHeaderLba : UInt64 := 1
  let secondaryHeaderLba := (secondaryTableOffset + GPT_END_SIZE) / SECTOR_SIZE - 1
  { headerCrc32 := 0
    currentLba := if secondary then secondaryHeaderLba else primaryHeaderLba
    backupLba := if secondary then primaryHeaderLba else secondaryHeaderLba
    firstUsableLba := GPT_BEGINNING_SIZE / SECTOR_SIZE
    lastUsableLba := secondaryTableOffset / SECTOR_SIZE - 1
    diskGuid
    partitionEntriesLba := 2
    partitionEntriesCrc32 }

def writeGptHeader (diskGuid : Uuid) (partitionEntriesCrc32 : Nat) (secondaryTableOffset : UInt64)
    (secondary : Bool) : Bytes :=
  let header := gptHeader diskGuid partitionEntriesCrc32 secondaryTableOffset secondary
  { header with headerCrc32 := (crc32 header.bytes).toNat : GptHeader }.bytes

def writeProtectiveMbr (diskSize : UInt64) : Except Failure Bytes :=
  let numberOfSectors := (diskSize / SECTOR_SIZE).toNat
  if numberOfSectors < 2 ^ 32 then
    .ok (zeros 446 ++ [0x00] ++ zeros 3 ++ [0xEE] ++ zeros 3 ++ le 4 1 ++ le 4 numberOfSectors ++
      zeros (MBR_PARTITION_ENTRY_SIZE * 3) ++ [0x55, 0xAA])
  else .error .invalidDiskSize

def writeBeginning (diskGuid : Uuid) (partitions : Bytes) (partitionEntriesCrc32 : Nat)
    (secondaryTableOffset diskSize : UInt64) : Except Failure Bytes := do
  let mbr ← writeProtectiveMbr diskSize
  return mbr ++ writeGptHeader diskGuid partitionEntriesCrc32 secondaryTableOffset false ++
    zeros HEADER_PADDING_LENGTH ++ partitions ++ zeros PARTITION_ALIGNMENT_SIZE

def writeEnd (diskGuid : Uuid) (partitions : Bytes) (partitionEntriesCrc32 : Nat)
    (secondaryTableOffset diskSize : UInt64) : Bytes :=
  let usedDiskSize := secondaryTableOffset + GPT_END_SIZE
  let padding := diskSize - usedDiskSize
  partitions ++ writeGptHeader diskGuid partitionEntriesCrc32 secondaryTableOffset true ++
    zeros HEADER_PADDING_LENGTH ++ zeros padding.toNat

/-! ### The disk -/

/-- The buffer of the entries, which is full with `GPT_NUM_PARTITIONS` of them. -/
def BUFFER_SIZE : Nat := GPT_NUM_PARTITIONS * GPT_PARTITION_ENTRY_SIZE

structure Progress where
  labels : List (Vector UInt16 36) := []
  written : Bytes := []
  componentDisks : List ComponentDisk
  nextDiskOffset : UInt64 := GPT_BEGINNING_SIZE

def addPartition (zeroFillerPath : String) (progress : Progress) (partition : PartitionInfo)
    (drawn : Uuid) : Except Failure Progress := do
  let gptEntry := createGptEntry partition progress.nextDiskOffset drawn
  if gptEntry.partitionName ∈ progress.labels then throw (.duplicateLabel partition.label)
  if BUFFER_SIZE < progress.written.length + gptEntry.bytes.length then throw .writingData
  let disks ← createComponentDisks partition progress.nextDiskOffset zeroFillerPath
  return { labels := gptEntry.partitionName :: progress.labels
           written := progress.written ++ gptEntry.bytes
           componentDisks := progress.componentDisks ++ disks
           nextDiskOffset := progress.nextDiskOffset + partition.alignedSize }

def addPartitions (zeroFillerPath : String) :
    Progress → List (PartitionInfo × Uuid) → Except Failure Progress
  | progress, [] => return progress
  | progress, (partition, drawn) :: rest => do
      addPartitions zeroFillerPath (← addPartition zeroFillerPath progress partition drawn) rest

structure Paths where
  zeroFiller : String
  header : String
  footer : String

structure Composite where
  header : Bytes
  footer : Bytes
  componentDisks : List ComponentDisk
  length : UInt64

def createCompositeDisk (paths : Paths) (partitions : List (PartitionInfo × Uuid))
    (diskGuid : Uuid) : Except Failure Composite := do
  let progress ← addPartitions paths.zeroFiller
    { componentDisks := [⟨paths.header, 0, false⟩] } partitions
  let secondaryTableOffset := progress.nextDiskOffset
  let diskSize := secondaryTableOffset + GPT_END_SIZE
  let buffer := progress.written ++ zeros (BUFFER_SIZE - progress.written.length)
  let entriesCrc32 := (crc32 buffer).toNat
  let header ← writeBeginning diskGuid buffer entriesCrc32 secondaryTableOffset diskSize
  return { header
           footer := writeEnd diskGuid buffer entriesCrc32 secondaryTableOffset diskSize
           componentDisks :=
             progress.componentDisks ++ [⟨paths.footer, secondaryTableOffset, false⟩]
           length := diskSize }

end Bscp.Images.CompositeDisk
