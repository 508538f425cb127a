import Bscp.ByteFile
import Bscp.Crc32

/-!
The disk that `create_aosp_disk.py` writes: a protective MBR, a table of two partitions with its
backup, the image of super and the data of boot_a. The places are computed first, and the bytes are
then written one behind the other.
-/

namespace Bscp.Images.AospDisk

open Crc32 (crc32)
open Struct (le ofLe slice)

def SECTOR : Nat := 512
def GPT_ENTRY_SIZE : Nat := 128
def GPT_NUM_ENTRIES : Nat := 128
def ALIGN : Nat := 2048

abbrev Guid := { bytes : Bytes // bytes.length = 16 }

structure Partition where
  typeGuid : Guid
  firstLba : Nat
  lastLba : Nat
  ordered : firstLba ≤ lastLba + 1

def Partition.sectors (partition : Partition) : Nat := partition.lastLba + 1 - partition.firstLba

structure Inputs where
  super : Bytes
  aggregate : Bytes
  superType : Guid
  boot : Partition
  superGuid : Guid
  bootGuid : Guid
  diskGuid : Guid

namespace Inputs

variable (i : Inputs)

def bootData : Bytes :=
  slice i.aggregate (i.boot.firstLba * SECTOR) (i.boot.firstLba * SECTOR + i.boot.sectors * SECTOR)

def superStart : Nat := ALIGN
def superSectors : Nat := (i.super.length + SECTOR - 1) / SECTOR
def superEnd : Nat := superStart + i.superSectors - 1
def bootStart : Nat := (i.superEnd + 1 + ALIGN - 1) / ALIGN * ALIGN
def bootEnd : Nat := i.bootStart + i.boot.sectors - 1
def secondaryTable : Nat := i.bootEnd + 1
def diskSectors : Nat := (i.secondaryTable + 32 + 1 + ALIGN - 1) / ALIGN * ALIGN

end Inputs

def utf16 (name : String) : Bytes := name.toList.flatMap fun char => le 2 char.toNat

def gptEntry (typeGuid guid : Guid) (first last : Nat) (name : String) : Except Fault Bytes := do
  let places ← Struct.pack [(8, first), (8, last)]
  return typeGuid.val ++ guid.val ++ places ++ zeros 8 ++
    (utf16 name ++ zeros (72 - (utf16 name).length))

def signature : Bytes := [0x45, 0x46, 0x49, 0x20, 0x50, 0x41, 0x52, 0x54]

structure Header where
  before : Bytes
  behind : Bytes

def Header.bytes (header : Header) (sum : Nat) : Bytes := header.before ++ le 4 sum ++ header.behind

/-- The header with its checksum, which is taken with zeros in the place of it. -/
def Header.sealed (header : Header) : Bytes := header.bytes (crc32 (header.bytes 0)).toNat

def gptHeader (i : Inputs) (place backup table entriesSum : Nat) : Except Fault Header := do
  let revision ← Struct.pack [(4, 0x00010000), (4, 92)]
  let places ← Struct.pack [(4, 0), (8, place), (8, backup), (8, ALIGN), (8, i.secondaryTable - 1)]
  let entries ← Struct.pack [(8, table), (4, GPT_NUM_ENTRIES), (4, GPT_ENTRY_SIZE), (4, entriesSum)]
  return ⟨signature ++ revision, places ++ i.diskGuid.val ++ entries⟩

def protectiveMbr (i : Inputs) : Bytes :=
  let size := min (i.diskSectors - 1) 0xFFFFFFFF
  zeros 450 ++ [0xEE] ++ zeros 3 ++ le 4 1 ++ le 4 size ++ zeros 48 ++ [0x55, 0xAA]

def padTo (file : ByteFile) (expected : Nat) : ByteFile :=
  if file.position < expected then file.write (zeros (expected - file.position)) else file

def writeDisk (i : Inputs) (entries primary backup : Bytes) : ByteFile :=
  let file := ({} : ByteFile).write (protectiveMbr i)
  let file := (file.write primary).write (zeros (SECTOR - primary.length))
  let file := file.write entries
  let file := file.write (zeros ((Inputs.superStart - file.position / SECTOR) * SECTOR))
  let file := padTo (file.write i.super) ((i.superEnd + 1) * SECTOR)
  let file := padTo (file.write i.bootData) ((i.bootEnd + 1) * SECTOR)
  let file := (file.seek (i.secondaryTable * SECTOR)).write entries
  let file := (file.seek ((i.diskSectors - 1) * SECTOR)).write backup
  (file.seek (i.diskSectors * SECTOR - 1)).write [0]

def createDisk (i : Inputs) : Except Fault Bytes := do
  let superEntry ← gptEntry i.superType i.superGuid Inputs.superStart i.superEnd "super"
  let bootEntry ← gptEntry i.boot.typeGuid i.bootGuid i.bootStart i.bootEnd "boot_a"
  let entries := superEntry ++ bootEntry ++ zeros ((GPT_NUM_ENTRIES - 2) * GPT_ENTRY_SIZE)
  let entriesSum := (crc32 entries).toNat
  let primary ← gptHeader i 1 (i.diskSectors - 1) 2 entriesSum
  let backup ← gptHeader i (i.diskSectors - 1) 1 i.secondaryTable entriesSum
  return (writeDisk i entries primary.sealed backup.sealed).data

/-! What a disk has to be. -/

def entryAt (disk : Bytes) (table index : Nat) : Bytes :=
  slice disk (table * SECTOR + index * GPT_ENTRY_SIZE)
    (table * SECTOR + index * GPT_ENTRY_SIZE + GPT_ENTRY_SIZE)

structure Holds (disk : Bytes) (table index : Nat) (name : String) (first last : Nat)
    (content : Bytes) : Prop where
  named : slice (entryAt disk table index) 56 128 = utf16 name ++ zeros (72 - (utf16 name).length)
  begins : ofLe (slice (entryAt disk table index) 32 40) = first
  ends : ofLe (slice (entryAt disk table index) 40 48) = last
  holds : slice disk (first * SECTOR) ((last + 1) * SECTOR) = content

def headerAt (disk : Bytes) (place : Nat) : Bytes :=
  slice disk (place * SECTOR) (place * SECTOR + 92)

/-- A header at a place, with the sums of itself and of its table. -/
structure Intact (disk : Bytes) (place table : Nat) : Prop where
  signed : slice (headerAt disk place) 0 8 = signature
  placed : ofLe (slice (headerAt disk place) 24 32) = place
  pointed : ofLe (slice (headerAt disk place) 72 80) = table
  summed : ofLe (slice (headerAt disk place) 16 20) =
    (crc32 (slice (headerAt disk place) 0 16 ++ zeros 4 ++
      slice (headerAt disk place) 20 92)).toNat
  entries : ofLe (slice (headerAt disk place) 88 92) = (crc32 (slice disk (table * SECTOR)
    (table * SECTOR + GPT_NUM_ENTRIES * GPT_ENTRY_SIZE))).toNat

/-- Both entries of both tables hold what they stand for, nothing overlaps, and both headers are
whole. -/
structure Correct (i : Inputs) (disk : Bytes) : Prop where
  super : ∀ table ∈ [2, i.secondaryTable],
    Holds disk table 0 "super" Inputs.superStart i.superEnd
      (i.super ++ zeros (i.superSectors * SECTOR - i.super.length))
  boot : ∀ table ∈ [2, i.secondaryTable],
    Holds disk table 1 "boot_a" i.bootStart i.bootEnd
      (i.bootData ++ zeros (i.boot.sectors * SECTOR - i.bootData.length))
  apart : 2 + 32 ≤ Inputs.superStart ∧ i.superEnd < i.bootStart ∧ i.bootEnd < i.secondaryTable ∧
    i.secondaryTable + 32 < i.diskSectors ∧ disk.length = i.diskSectors * SECTOR
  primary : Intact disk 1 2
  backup : Intact disk (i.diskSectors - 1) i.secondaryTable

/-! Entries and headers. -/

def entryBytes (typeGuid guid : Guid) (first last : Nat) (name : String) : Bytes :=
  typeGuid.val ++ guid.val ++ (le 8 first ++ le 8 last) ++ zeros 8 ++
    (utf16 name ++ zeros (72 - (utf16 name).length))

theorem gptEntry_inv {typeGuid guid : Guid} {first last : Nat} {name : String} {entry : Bytes}
    (made : gptEntry typeGuid guid first last name = .ok entry) :
    entry = entryBytes typeGuid guid first last name ∧ first < 256 ^ 8 ∧ last < 256 ^ 8 := by
  obtain ⟨places, packed, made⟩ := Struct.bind_inv made
  obtain ⟨rfl, fits⟩ := Struct.pack_inv packed
  cases made
  refine ⟨by simp [entryBytes, Struct.fields], fits (8, first) (by simp), fits (8, last) (by simp)⟩

section Entry

variable (typeGuid guid : Guid) {first last : Nat} {name : String}
  (short : (utf16 name).length ≤ 72)
include short

theorem entryBytes_length : (entryBytes typeGuid guid first last name).length = GPT_ENTRY_SIZE := by
  simp only [entryBytes, List.length_append, typeGuid.property, guid.property, Struct.le_length,
    zeros_length, GPT_ENTRY_SIZE]
  omega

theorem entryBytes_name : slice (entryBytes typeGuid guid first last name) 56 128 =
    utf16 name ++ zeros (72 - (utf16 name).length) := by
  have front : (typeGuid.val ++ guid.val ++ (le 8 first ++ le 8 last) ++ zeros 8).length = 56 := by
    simp only [List.length_append, typeGuid.property, guid.property, Struct.le_length, zeros_length]
  have size : (utf16 name ++ zeros (72 - (utf16 name).length)).length = 72 := by
    rw [List.length_append, zeros_length]
    omega
  have middle := Struct.slice_middle
    (typeGuid.val ++ guid.val ++ (le 8 first ++ le 8 last) ++ zeros 8)
    (utf16 name ++ zeros (72 - (utf16 name).length)) [] rfl
  rw [front, size, List.append_nil] at middle
  exact middle

omit short in
theorem entryBytes_first (fits : first < 256 ^ 8) :
    ofLe (slice (entryBytes typeGuid guid first last name) 32 40) = first := by
  have front : (typeGuid.val ++ guid.val).length = 32 := by
    rw [List.length_append, typeGuid.property, guid.property]
  have middle := Struct.slice_middle (typeGuid.val ++ guid.val) (le 8 first)
    (le 8 last ++ zeros 8 ++ (utf16 name ++ zeros (72 - (utf16 name).length))) rfl
  rw [front, Struct.le_length] at middle
  rw [entryBytes]
  simp only [List.append_assoc] at middle ⊢
  rw [middle, Struct.ofLe_le fits]

omit short in
theorem entryBytes_last (fits : last < 256 ^ 8) :
    ofLe (slice (entryBytes typeGuid guid first last name) 40 48) = last := by
  have front : (typeGuid.val ++ guid.val ++ le 8 first).length = 40 := by
    rw [List.length_append, List.length_append, typeGuid.property, guid.property, Struct.le_length]
  have middle := Struct.slice_middle (typeGuid.val ++ guid.val ++ le 8 first) (le 8 last)
    (zeros 8 ++ (utf16 name ++ zeros (72 - (utf16 name).length))) rfl
  rw [front, Struct.le_length] at middle
  rw [entryBytes]
  simp only [List.append_assoc] at middle ⊢
  rw [middle, Struct.ofLe_le fits]

end Entry

section Header

variable (i : Inputs) (place backup table entriesSum : Nat)

def headerBytes : Header where
  before := signature ++ (le 4 0x00010000 ++ le 4 92)
  behind := (le 4 0 ++ (le 8 place ++ (le 8 backup ++ (le 8 ALIGN ++ le 8 (i.secondaryTable - 1))))) ++
    i.diskGuid.val ++ (le 8 table ++ (le 4 GPT_NUM_ENTRIES ++ (le 4 GPT_ENTRY_SIZE ++ le 4 entriesSum)))

variable {i place backup table entriesSum}

theorem gptHeader_inv {header : Header} (made : gptHeader i place backup table entriesSum = .ok header) :
    header = headerBytes i place backup table entriesSum ∧ place < 256 ^ 8 ∧ table < 256 ^ 8 := by
  obtain ⟨revision, first, made⟩ := Struct.bind_inv made
  obtain ⟨places, second, made⟩ := Struct.bind_inv made
  obtain ⟨entries, third, made⟩ := Struct.bind_inv made
  obtain ⟨rfl, _⟩ := Struct.pack_inv first
  obtain ⟨rfl, fits⟩ := Struct.pack_inv second
  obtain ⟨rfl, more⟩ := Struct.pack_inv third
  cases made
  refine ⟨?_, fits (8, place) (by simp), more (8, table) (by simp)⟩
  simp [headerBytes, Struct.fields]

variable (i place backup table entriesSum) in
theorem headerBytes_length (sum : Nat) :
    ((headerBytes i place backup table entriesSum).bytes sum).length = 92 := by
  simp only [Header.bytes, headerBytes, List.length_append, Struct.le_length, i.diskGuid.property]
  rfl

theorem header_intact {disk : Bytes} (fitsPlace : place < 256 ^ 8) (fitsTable : table < 256 ^ 8)
    (fitsSum : entriesSum < 256 ^ 4)
    (here : headerAt disk place = (headerBytes i place backup table entriesSum).sealed)
    (entries : (crc32 (slice disk (table * SECTOR)
      (table * SECTOR + GPT_NUM_ENTRIES * GPT_ENTRY_SIZE))).toNat = entriesSum) :
    Intact disk place table := by
  let header := headerBytes i place backup table entriesSum
  have before : header.before.length = 16 := rfl
  have behind : header.behind.length = 72 := by
    have all := headerBytes_length i place backup table entriesSum 0
    simp only [Header.bytes, List.length_append, Struct.le_length] at all
    change 16 + 4 + header.behind.length = 92 at all
    omega
  have sealed : headerAt disk place =
      header.before ++ le 4 (crc32 (header.bytes 0)).toNat ++ header.behind := here
  generalize sum : (crc32 (header.bytes 0)).toNat = value at sealed
  have fitsValue : value < 256 ^ 4 := sum ▸ UInt32.toNat_lt _
  have first : slice (headerAt disk place) 0 16 = header.before := by
    rw [sealed, List.append_assoc]
    exact Struct.slice_middle [] header.before _ rfl
  have middle : slice (headerAt disk place) 16 20 = le 4 value := by
    rw [sealed]
    exact Struct.slice_middle header.before (le 4 value) header.behind rfl
  have last : slice (headerAt disk place) 20 92 = header.behind := by
    have rest := Struct.slice_middle (header.before ++ le 4 value) header.behind [] rfl
    rw [List.append_nil, List.length_append, before, behind, Struct.le_length] at rest
    rw [sealed]
    exact rest
  have later : ∀ start stop, slice (headerAt disk place) (20 + start) (20 + stop) =
      slice header.behind start stop := by
    intro start stop
    have rest := Struct.slice_append_right (header.before ++ le 4 value) header.behind start stop
    rw [List.length_append, before, Struct.le_length] at rest
    rw [sealed]
    exact rest
  have front : (le 4 0 ++ (le 8 place ++ (le 8 backup ++ (le 8 ALIGN ++
      le 8 (i.secondaryTable - 1)))) ++ i.diskGuid.val).length = 52 := by
    simp only [List.length_append, Struct.le_length, i.diskGuid.property]
  refine ⟨?_, ?_, ?_, ?_, ?_⟩
  · rw [sealed, List.append_assoc, Struct.slice_append_left _ (by rw [before]; decide)]
    rfl
  · have field : slice header.behind 4 12 = le 8 place := by
      refine Eq.trans ?_ (Struct.slice_middle (le 4 0) (le 8 place) (le 8 backup ++ (le 8 ALIGN ++
        (le 8 (i.secondaryTable - 1) ++ (i.diskGuid.val ++ (le 8 table ++ (le 4 GPT_NUM_ENTRIES ++
          (le 4 GPT_ENTRY_SIZE ++ le 4 entriesSum))))))) rfl)
      simp only [header, headerBytes, List.append_assoc, Struct.le_length]
    exact (congrArg ofLe ((later 4 12).trans field)).trans (Struct.ofLe_le fitsPlace)
  · have field := Struct.slice_middle (le 4 0 ++ (le 8 place ++ (le 8 backup ++ (le 8 ALIGN ++
      le 8 (i.secondaryTable - 1)))) ++ i.diskGuid.val) (le 8 table) (le 4 GPT_NUM_ENTRIES ++
        (le 4 GPT_ENTRY_SIZE ++ le 4 entriesSum)) rfl
    rw [front, Struct.le_length, List.append_assoc] at field
    exact (congrArg ofLe ((later 52 60).trans field)).trans (Struct.ofLe_le fitsTable)
  · rw [middle, first, last, Struct.ofLe_le fitsValue, ← sum]
    rfl
  · have field := Struct.slice_append_right (le 4 0 ++ (le 8 place ++ (le 8 backup ++ (le 8 ALIGN ++
      le 8 (i.secondaryTable - 1)))) ++ i.diskGuid.val) (le 8 table ++ (le 4 GPT_NUM_ENTRIES ++
        (le 4 GPT_ENTRY_SIZE ++ le 4 entriesSum))) 16 20
    have sums := Struct.slice_middle (le 8 table ++ (le 4 GPT_NUM_ENTRIES ++ le 4 GPT_ENTRY_SIZE))
      (le 4 entriesSum) [] rfl
    simp only [List.append_nil, List.append_assoc, List.length_append, Struct.le_length] at sums
    rw [front, sums] at field
    rw [entries]
    exact (congrArg ofLe ((later 68 72).trans field)).trans (Struct.ofLe_le fitsSum)

end Header

/-! The bytes of the disk, part by part. -/

theorem padTo_stands {file : ByteFile} {bytes : Bytes} (stands : file.Stands bytes) (expected : Nat) :
    (padTo file expected).Stands (bytes ++ zeros (expected - bytes.length)) := by
  rw [padTo, stands.position]
  split
  · exact stands.write _
  · next full =>
      rw [Nat.sub_eq_zero_of_le (Nat.le_of_not_lt full), zeros_zero, List.append_nil]
      exact stands

namespace Inputs

variable (i : Inputs)

theorem super_fits : i.super.length ≤ i.superSectors * SECTOR := by
  unfold superSectors SECTOR
  omega

theorem superEnd_succ : i.superEnd + 1 = ALIGN + i.superSectors := by
  unfold superEnd superStart ALIGN
  omega

theorem super_before : i.superEnd + 1 ≤ i.bootStart := by
  unfold bootStart ALIGN
  omega

theorem bootEnd_succ : i.bootEnd + 1 = i.bootStart + i.boot.sectors := by
  have later := i.super_before
  unfold bootEnd
  omega

theorem bootData_fits : i.bootData.length ≤ i.boot.sectors * SECTOR := by
  have size := Struct.slice_length_le i.aggregate (i.boot.firstLba * SECTOR)
    (i.boot.firstLba * SECTOR + i.boot.sectors * SECTOR)
  rw [Nat.add_sub_cancel_left] at size
  exact size

theorem backup_after : i.secondaryTable + 33 ≤ i.diskSectors := by
  unfold diskSectors ALIGN
  omega

theorem mbr_length : (protectiveMbr i).length = SECTOR := by
  simp only [protectiveMbr, List.length_append, zeros_length, Struct.le_length]
  rfl

end Inputs

section Parts

variable (i : Inputs) (entries primary backup : Bytes)

def front : Bytes :=
  protectiveMbr i ++ primary ++ zeros 420 ++ entries ++ zeros (2014 * SECTOR)

def middle : Bytes :=
  i.super ++ zeros (i.superSectors * SECTOR - i.super.length) ++
    (i.bootData ++ zeros ((i.bootEnd + 1) * SECTOR - ((i.superEnd + 1) * SECTOR + i.bootData.length)))

def back : Bytes :=
  zeros ((i.diskSectors - 1) * SECTOR - (i.secondaryTable * SECTOR + 32 * SECTOR)) ++ backup ++
    zeros 419 ++ [0]

variable {i entries primary backup}

theorem front_length (table : entries.length = 32 * SECTOR) (header : primary.length = 92) :
    (front i entries primary).length = ALIGN * SECTOR := by
  simp only [front, List.length_append, i.mbr_length, table, header, zeros_length, SECTOR, ALIGN]

theorem middle_length : (middle i).length = i.secondaryTable * SECTOR - ALIGN * SECTOR := by
  have first := i.super_fits
  have second := i.bootData_fits
  have third := i.superEnd_succ
  have fourth := i.super_before
  have fifth := i.bootEnd_succ
  simp only [middle, List.length_append, zeros_length, Inputs.secondaryTable]
  unfold SECTOR at *
  omega

theorem front_stands (table : entries.length = 32 * SECTOR) (header : primary.length = 92)
    {file : ByteFile} (written : file = ((((({} : ByteFile).write (protectiveMbr i)).write
      primary).write (zeros (SECTOR - primary.length))).write entries)) :
    (file.write (zeros ((Inputs.superStart - file.position / SECTOR) * SECTOR))).Stands
      (front i entries primary) := by
  have stands := (((ByteFile.Stands.start.write (protectiveMbr i)).write primary).write
    (zeros (SECTOR - primary.length))).write entries
  rw [← written] at stands
  have place : file.position = 34 * SECTOR := by
    rw [stands.position]
    simp only [List.length_append, List.length_nil, i.mbr_length, header, table, zeros_length,
      SECTOR]
  have gap : (Inputs.superStart - file.position / SECTOR) * SECTOR = 2014 * SECTOR := by
    rw [place]
    rfl
  have rest : SECTOR - primary.length = 420 := by
    rw [header]
    rfl
  have all := stands.write (zeros ((Inputs.superStart - file.position / SECTOR) * SECTOR))
  rw [gap, rest, List.nil_append] at all
  rw [gap]
  exact all

theorem before_table (table : entries.length = 32 * SECTOR) (header : primary.length = 92) :
    (front i entries primary ++ middle i).length = i.secondaryTable * SECTOR := by
  have later := i.super_before
  have last := i.bootEnd_succ
  have room : ALIGN * SECTOR ≤ i.secondaryTable * SECTOR := by
    refine Nat.mul_le_mul_right _ ?_
    have second := i.superEnd_succ
    unfold Inputs.secondaryTable
    omega
  rw [List.length_append, front_length table header, middle_length]
  omega

theorem writeDisk_data (table : entries.length = 32 * SECTOR) (header : primary.length = 92)
    (other : backup.length = 92) :
    (writeDisk i entries primary backup).data =
      front i entries primary ++ (middle i ++ (entries ++ back i backup)) := by
  have first := i.super_fits
  have second := i.superEnd_succ
  have fourth := i.backup_after
  have before := front_length (i := i) table header
  have start := front_stands (i := i) table header rfl
  have super := padTo_stands (start.write i.super) ((i.superEnd + 1) * SECTOR)
  have superGap : (i.superEnd + 1) * SECTOR - (front i entries primary ++ i.super).length =
      i.superSectors * SECTOR - i.super.length := by
    rw [List.length_append, before, second, Nat.add_mul]
    omega
  rw [superGap] at super
  have boot := padTo_stands (super.write i.bootData) ((i.bootEnd + 1) * SECTOR)
  have bootGap : (front i entries primary ++ i.super ++
      zeros (i.superSectors * SECTOR - i.super.length) ++ i.bootData).length =
        (i.superEnd + 1) * SECTOR + i.bootData.length := by
    simp only [List.length_append, before, zeros_length, second, Nat.add_mul]
    omega
  rw [bootGap] at boot
  have whole : front i entries primary ++ i.super ++
      zeros (i.superSectors * SECTOR - i.super.length) ++ i.bootData ++
        zeros ((i.bootEnd + 1) * SECTOR - ((i.superEnd + 1) * SECTOR + i.bootData.length)) =
          front i entries primary ++ middle i := by
    simp only [middle, List.append_assoc]
  rw [whole] at boot
  have size := before_table (i := i) table header
  have tables := (boot.seek (Nat.le_of_eq size)).write entries
  rw [size, Nat.sub_self, zeros_zero, List.append_nil] at tables
  have tableEnd : (front i entries primary ++ middle i ++ entries).length =
      i.secondaryTable * SECTOR + 32 * SECTOR := by
    rw [List.length_append, size, table]
  have room : i.secondaryTable * SECTOR + 32 * SECTOR ≤ (i.diskSectors - 1) * SECTOR := by
    rw [← Nat.add_mul]
    exact Nat.mul_le_mul_right _ (by omega)
  have headers := (tables.seek (Nat.le_trans (Nat.le_of_eq tableEnd) room)).write backup
  rw [tableEnd] at headers
  have headerEnd : (front i entries primary ++ middle i ++ entries ++
      zeros ((i.diskSectors - 1) * SECTOR - (i.secondaryTable * SECTOR + 32 * SECTOR)) ++
        backup).length = (i.diskSectors - 1) * SECTOR + 92 := by
    rw [List.length_append, List.length_append, tableEnd, zeros_length, other]
    omega
  have last : (i.diskSectors - 1) * SECTOR + 92 + 419 = i.diskSectors * SECTOR - 1 := by
    unfold SECTOR
    omega
  have closing := @ByteFile.Stands.seek _ _ headers (i.diskSectors * SECTOR - 1) (by
    rw [headerEnd, ← last]
    exact Nat.le_add_right _ _)
  rw [headerEnd, ← last, Nat.add_sub_cancel_left] at closing
  have final := @ByteFile.Stands.write_data _ _ closing [0] (by simp)
  rw [last] at final
  refine Eq.trans final ?_
  simp only [back, List.append_assoc]

/-! Where the parts stand. -/

section Places

variable (table : entries.length = 32 * SECTOR) (header : primary.length = 92)
  (other : backup.length = 92) {disk : Bytes}
  (whole : disk = front i entries primary ++ (middle i ++ (entries ++ back i backup)))
include table header whole

theorem first_table : slice disk (2 * SECTOR) (2 * SECTOR + GPT_NUM_ENTRIES * GPT_ENTRY_SIZE) =
    entries := by
  have cut := Struct.slice_middle (protectiveMbr i ++ primary ++ zeros 420) entries
    (zeros (2014 * SECTOR) ++ (middle i ++ (entries ++ back i backup))) rfl
  rw [show (protectiveMbr i ++ primary ++ zeros 420).length = 2 * SECTOR by
    simp only [List.length_append, i.mbr_length, header, zeros_length, SECTOR], table] at cut
  rw [whole, front]
  simp only [List.append_assoc] at cut ⊢
  exact cut

theorem second_table : slice disk (i.secondaryTable * SECTOR)
    (i.secondaryTable * SECTOR + GPT_NUM_ENTRIES * GPT_ENTRY_SIZE) = entries := by
  have cut := Struct.slice_middle (front i entries primary ++ middle i) entries (back i backup) rfl
  rw [before_table table header, table] at cut
  rw [whole, ← List.append_assoc, ← List.append_assoc]
  exact cut

omit table in
theorem first_header : headerAt disk 1 = primary := by
  have cut := Struct.slice_middle (protectiveMbr i) primary (zeros 420 ++ (entries ++
    (zeros (2014 * SECTOR) ++ (middle i ++ (entries ++ back i backup))))) rfl
  rw [i.mbr_length, header] at cut
  rw [headerAt, whole, front, Nat.one_mul]
  simp only [List.append_assoc] at cut ⊢
  exact cut

theorem super_range : slice disk (Inputs.superStart * SECTOR) ((i.superEnd + 1) * SECTOR) =
    i.super ++ zeros (i.superSectors * SECTOR - i.super.length) := by
  have cut := Struct.slice_middle (front i entries primary)
    (i.super ++ zeros (i.superSectors * SECTOR - i.super.length))
    (i.bootData ++ zeros ((i.bootEnd + 1) * SECTOR - ((i.superEnd + 1) * SECTOR +
      i.bootData.length)) ++ (entries ++ back i backup)) rfl
  have fits := i.super_fits
  rw [front_length table header, List.length_append, zeros_length, Nat.add_sub_cancel' fits,
    ← Nat.add_mul, ← i.superEnd_succ] at cut
  rw [whole, middle]
  simp only [List.append_assoc] at cut ⊢
  exact cut

/-- The range of boot_a begins where the data of boot_a has already gone on. -/
theorem boot_range : slice disk (i.bootStart * SECTOR) ((i.bootEnd + 1) * SECTOR) =
    (i.bootData ++ zeros (i.boot.sectors * SECTOR + (i.bootStart - (i.superEnd + 1)) * SECTOR -
      i.bootData.length)).drop ((i.bootStart - (i.superEnd + 1)) * SECTOR) := by
  have fits := i.bootData_fits
  have superFits := i.super_fits
  have before := i.super_before
  have gap : (i.bootEnd + 1) * SECTOR - ((i.superEnd + 1) * SECTOR + i.bootData.length) =
      i.boot.sectors * SECTOR + (i.bootStart - (i.superEnd + 1)) * SECTOR - i.bootData.length := by
    rw [i.bootEnd_succ]
    unfold SECTOR at *
    omega
  have place : (front i entries primary ++ (i.super ++
      zeros (i.superSectors * SECTOR - i.super.length))).length = (i.superEnd + 1) * SECTOR := by
    rw [List.length_append, front_length table header, List.length_append, zeros_length,
      i.superEnd_succ, Nat.add_mul]
    omega
  let data := i.bootData ++ zeros (i.boot.sectors * SECTOR +
    (i.bootStart - (i.superEnd + 1)) * SECTOR - i.bootData.length)
  have size : data.length = (i.bootEnd + 1) * SECTOR - (i.superEnd + 1) * SECTOR := by
    simp only [data, List.length_append, zeros_length, i.bootEnd_succ]
    unfold SECTOR at *
    omega
  have shape : disk = front i entries primary ++ (i.super ++
      zeros (i.superSectors * SECTOR - i.super.length)) ++ (data ++ (entries ++ back i backup)) := by
    rw [whole, middle, gap]
    simp only [data, List.append_assoc]
  have cut := Struct.slice_append_right (front i entries primary ++ (i.super ++
    zeros (i.superSectors * SECTOR - i.super.length))) (data ++ (entries ++ back i backup))
      ((i.bootStart - (i.superEnd + 1)) * SECTOR) data.length
  have start : (i.superEnd + 1) * SECTOR + (i.bootStart - (i.superEnd + 1)) * SECTOR =
      i.bootStart * SECTOR := by
    rw [← Nat.add_mul, Nat.add_sub_cancel' before]
  have stop : (i.superEnd + 1) * SECTOR + data.length = (i.bootEnd + 1) * SECTOR := by
    rw [size, i.bootEnd_succ]
    unfold SECTOR
    omega
  rw [place, start, stop, ← shape, Struct.slice_append_left _ (Nat.le_refl _)] at cut
  rw [cut, slice, List.take_length]

include other

omit other whole in
theorem before_header : (front i entries primary ++ middle i ++ entries ++
    zeros ((i.diskSectors - 1) * SECTOR - (i.secondaryTable * SECTOR + 32 * SECTOR))).length =
      (i.diskSectors - 1) * SECTOR := by
  have last := i.backup_after
  have room : i.secondaryTable * SECTOR + 32 * SECTOR ≤ (i.diskSectors - 1) * SECTOR := by
    rw [← Nat.add_mul]
    exact Nat.mul_le_mul_right _ (by omega)
  rw [List.length_append, List.length_append, before_table table header, table, zeros_length]
  omega

theorem second_header : headerAt disk (i.diskSectors - 1) = backup := by
  have cut := Struct.slice_middle (front i entries primary ++ middle i ++ entries ++
    zeros ((i.diskSectors - 1) * SECTOR - (i.secondaryTable * SECTOR + 32 * SECTOR))) backup
      (zeros 419 ++ [0]) rfl
  rw [before_header table header, other] at cut
  rw [headerAt, whole, back]
  simp only [List.append_assoc] at cut ⊢
  exact cut

theorem disk_length : disk.length = i.diskSectors * SECTOR := by
  have before := before_header (i := i) table header
  have last := i.backup_after
  have shape : disk = (front i entries primary ++ middle i ++ entries ++
      zeros ((i.diskSectors - 1) * SECTOR - (i.secondaryTable * SECTOR + 32 * SECTOR))) ++
        (backup ++ (zeros 419 ++ [0])) := by
    rw [whole, back]
    simp only [List.append_assoc]
  rw [shape, List.length_append, before, List.length_append, List.length_append, other,
    zeros_length, List.length_singleton]
  unfold SECTOR
  omega

end Places

end Parts

/-- Data that stays in its place when it is moved by some bytes is nothing but zeros. -/
theorem shifted_iff {data : Bytes} {room shift : Nat} (fits : data.length ≤ room) :
    (data ++ zeros (room + shift - data.length)).drop shift = data ++ zeros (room - data.length) ↔
      shift = 0 ∨ ∀ byte ∈ data, byte = 0 := by
  have value : ∀ count place : Nat, (data ++ zeros count)[place]?.getD 0 = data[place]?.getD 0 := by
    intro count place
    rw [List.getElem?_append]
    split
    · rfl
    · next outside =>
        rw [List.getElem?_eq_none (Nat.le_of_not_lt outside), zeros, List.getElem?_replicate]
        split <;> rfl
  constructor
  · intro same
    by_cases still : shift = 0
    · exact .inl still
    · refine .inr fun byte member => ?_
      have step : ∀ place : Nat, data[place]?.getD 0 = data[shift + place]?.getD 0 := by
        intro place
        have here := congrArg (fun list => list[place]?.getD 0) same
        simp only [value, List.getElem?_drop] at here
        exact here.symm
      have steps : ∀ count place : Nat, data[place]?.getD 0 = data[count * shift + place]?.getD 0 := by
        intro count
        induction count with
        | zero => simp
        | succ count next =>
            intro place
            rw [next place, step, Nat.succ_mul]
            congr 2
            omega
      obtain ⟨place, inside, rfl⟩ := List.mem_iff_getElem.mp member
      have far : data.length ≤ data.length * shift + place :=
        Nat.le_trans (Nat.le_mul_of_pos_right _ (Nat.pos_of_ne_zero still)) (Nat.le_add_right _ _)
      have gone := steps data.length place
      rw [List.getElem?_eq_none far, List.getElem?_eq_getElem inside] at gone
      exact gone
  · rintro (rfl | blank)
    · rfl
    · have same : data = zeros data.length := List.eq_replicate_of_mem blank
      rw [same, zeros_length, zeros_append, zeros_append, zeros, List.drop_replicate]
      congr 1
      omega

def Inputs.InPlace (i : Inputs) : Prop :=
  i.superSectors % ALIGN = 0 ∨ ∀ byte ∈ i.bootData, byte = 0

theorem boot_shift (i : Inputs) :
    (i.bootStart - (i.superEnd + 1)) * SECTOR = 0 ↔ i.superSectors % ALIGN = 0 := by
  have second := i.superEnd_succ
  unfold Inputs.bootStart
  rw [second]
  unfold ALIGN SECTOR
  omega

section Script

variable (i : Inputs)

def entriesOf : Bytes :=
  entryBytes i.superType i.superGuid Inputs.superStart i.superEnd "super" ++
    entryBytes i.boot.typeGuid i.bootGuid i.bootStart i.bootEnd "boot_a" ++
      zeros ((GPT_NUM_ENTRIES - 2) * GPT_ENTRY_SIZE)

def primaryOf : Bytes :=
  (headerBytes i 1 (i.diskSectors - 1) 2 (crc32 (entriesOf i)).toNat).sealed

def backupOf : Bytes :=
  (headerBytes i (i.diskSectors - 1) 1 i.secondaryTable (crc32 (entriesOf i)).toNat).sealed

variable {i}

theorem createDisk_inv {disk : Bytes} (made : createDisk i = .ok disk) :
    disk = (writeDisk i (entriesOf i) (primaryOf i) (backupOf i)).data ∧
      i.superEnd < 256 ^ 8 ∧ i.bootStart < 256 ^ 8 ∧ i.bootEnd < 256 ^ 8 ∧
      i.diskSectors - 1 < 256 ^ 8 ∧ i.secondaryTable < 256 ^ 8 := by
  obtain ⟨superEntry, first, made⟩ := Struct.bind_inv made
  obtain ⟨bootEntry, second, made⟩ := Struct.bind_inv made
  obtain ⟨primary, third, made⟩ := Struct.bind_inv made
  obtain ⟨backup, fourth, made⟩ := Struct.bind_inv made
  obtain ⟨rfl, _, superFits⟩ := gptEntry_inv first
  obtain ⟨rfl, startFits, endFits⟩ := gptEntry_inv second
  obtain ⟨rfl, _, _⟩ := gptHeader_inv third
  obtain ⟨rfl, placeFits, tableFits⟩ := gptHeader_inv fourth
  cases made
  exact ⟨rfl, superFits, startFits, endFits, placeFits, tableFits⟩

theorem super_short : (utf16 "super").length ≤ 72 := by decide +kernel

theorem boot_short : (utf16 "boot_a").length ≤ 72 := by decide +kernel

theorem entriesOf_length : (entriesOf i).length = 32 * SECTOR := by
  rw [entriesOf, List.length_append, List.length_append, entryBytes_length _ _ super_short,
    entryBytes_length _ _ boot_short, zeros_length]
  rfl

theorem entriesOf_super : slice (entriesOf i) 0 128 =
    entryBytes i.superType i.superGuid Inputs.superStart i.superEnd "super" := by
  have cut := Struct.slice_middle [] (entryBytes i.superType i.superGuid Inputs.superStart i.superEnd
    "super") (entryBytes i.boot.typeGuid i.bootGuid i.bootStart i.bootEnd "boot_a" ++
      zeros ((GPT_NUM_ENTRIES - 2) * GPT_ENTRY_SIZE)) rfl
  rw [entryBytes_length _ _ super_short, List.nil_append] at cut
  rw [entriesOf, List.append_assoc]
  exact cut

theorem entriesOf_boot : slice (entriesOf i) 128 256 =
    entryBytes i.boot.typeGuid i.bootGuid i.bootStart i.bootEnd "boot_a" := by
  have cut := Struct.slice_middle (entryBytes i.superType i.superGuid Inputs.superStart i.superEnd
    "super") (entryBytes i.boot.typeGuid i.bootGuid i.bootStart i.bootEnd "boot_a")
      (zeros ((GPT_NUM_ENTRIES - 2) * GPT_ENTRY_SIZE)) rfl
  rw [entryBytes_length _ _ super_short, entryBytes_length _ _ boot_short] at cut
  exact cut

/-- An entry of a table that is whole. -/
theorem entryAt_table {disk : Bytes} {table index : Nat}
    (whole : slice disk (table * SECTOR) (table * SECTOR + GPT_NUM_ENTRIES * GPT_ENTRY_SIZE) =
      entriesOf i) (inside : index < GPT_NUM_ENTRIES) :
    entryAt disk table index =
      slice (entriesOf i) (index * GPT_ENTRY_SIZE) (index * GPT_ENTRY_SIZE + GPT_ENTRY_SIZE) := by
  have within : table * SECTOR + (index * GPT_ENTRY_SIZE + GPT_ENTRY_SIZE) ≤
      table * SECTOR + GPT_NUM_ENTRIES * GPT_ENTRY_SIZE := by
    rw [← Nat.succ_mul]
    exact Nat.add_le_add_left (Nat.mul_le_mul_right _ inside) _
  rw [← whole, Struct.slice_slice _ within, entryAt, Nat.add_assoc]

/-- A disk is right exactly when the data of boot_a stands where its range begins, or is nothing
but zeros. -/
theorem correct_iff {disk : Bytes} (made : createDisk i = .ok disk) :
    Correct i disk ↔ i.InPlace := by
  obtain ⟨written, superFits, startFits, endFits, placeFits, tableFits⟩ := createDisk_inv made
  have table : (entriesOf i).length = 32 * SECTOR := entriesOf_length
  have header : (primaryOf i).length = 92 := headerBytes_length _ _ _ _ _ _
  have other : (backupOf i).length = 92 := headerBytes_length _ _ _ _ _ _
  have whole := written.trans (writeDisk_data table header other)
  have sum : (crc32 (entriesOf i)).toNat < 256 ^ 4 := UInt32.toNat_lt _
  have tables : ∀ place ∈ [2, i.secondaryTable],
      slice disk (place * SECTOR) (place * SECTOR + GPT_NUM_ENTRIES * GPT_ENTRY_SIZE) =
        entriesOf i := by
    simp only [List.mem_cons, List.not_mem_nil, or_false, forall_eq_or_imp, forall_eq]
    exact ⟨first_table table header whole, second_table table header whole⟩
  have room := @shifted_iff _ _ ((i.bootStart - (i.superEnd + 1)) * SECTOR) i.bootData_fits
  rw [boot_shift] at room
  have range := boot_range table header whole
  constructor
  · intro correct
    have content := (correct.boot 2 (by simp)).holds
    exact room.mp (range.symm.trans content)
  · intro inPlace
    refine ⟨fun place member => ?_, fun place member => ?_, ?_, ?_, ?_⟩
    · have entry := (@entryAt_table i disk place 0 (tables place member) (by decide)).trans entriesOf_super
      refine ⟨?_, ?_, ?_, super_range table header whole⟩
      · rw [entry, entryBytes_name _ _ super_short]
      · rw [entry, entryBytes_first _ _ (by decide)]
      · rw [entry, entryBytes_last _ _ superFits]
    · have entry := (@entryAt_table i disk place 1 (tables place member) (by decide)).trans entriesOf_boot
      refine ⟨?_, ?_, ?_, range.trans (room.mpr inPlace)⟩
      · rw [entry, entryBytes_name _ _ boot_short]
      · rw [entry, entryBytes_first _ _ startFits]
      · rw [entry, entryBytes_last _ _ endFits]
    · have before := i.super_before
      have after := i.backup_after
      refine ⟨by decide, before, Nat.lt_succ_self _, by omega, disk_length table header other whole⟩
    · exact header_intact (by decide) (by decide) sum (first_header header whole)
        (congrArg (fun data => (crc32 data).toNat) (tables 2 (by simp)))
    · exact header_intact placeFits tableFits sum (second_header table header other whole)
        (congrArg (fun data => (crc32 data).toNat) (tables i.secondaryTable (by simp)))

theorem gptEntry_ok {typeGuid guid : Guid} {first last : Nat} {name : String}
    (firstFits : first < 256 ^ 8) (lastFits : last < 256 ^ 8) :
    ∃ entry, gptEntry typeGuid guid first last name = .ok entry := by
  have packed : Struct.pack [(8, first), (8, last)] = .ok _ :=
    Struct.pack_ok (by simpa using ⟨firstFits, lastFits⟩)
  exact ⟨_, by rw [gptEntry, packed]; rfl⟩

theorem gptHeader_ok {place backup table entriesSum : Nat} (placeFits : place < 256 ^ 8)
    (backupFits : backup < 256 ^ 8) (tableFits : table < 256 ^ 8) (sumFits : entriesSum < 256 ^ 4)
    (lastFits : i.secondaryTable - 1 < 256 ^ 8) :
    ∃ header, gptHeader i place backup table entriesSum = .ok header := by
  have first : Struct.pack [(4, 0x00010000), (4, 92)] = .ok _ := Struct.pack_ok (by decide)
  have second := @Struct.pack_ok [(4, 0), (8, place), (8, backup), (8, ALIGN),
      (8, i.secondaryTable - 1)] (by
    simp only [List.forall_mem_cons]
    exact ⟨by decide, placeFits, backupFits, by decide, lastFits, List.forall_mem_nil _⟩)
  have third := @Struct.pack_ok [(8, table), (4, GPT_NUM_ENTRIES), (4, GPT_ENTRY_SIZE),
      (4, entriesSum)] (by
    simp only [List.forall_mem_cons]
    exact ⟨tableFits, by decide, by decide, sumFits, List.forall_mem_nil _⟩)
  exact ⟨_, by rw [gptHeader, first, second, third]; rfl⟩

variable (i) in
/-- The script writes its disk whenever the numbers of its sectors have 64 bits. -/
theorem createDisk_ok (fits : i.diskSectors ≤ 256 ^ 8) : ∃ disk, createDisk i = .ok disk := by
  have second := i.superEnd_succ
  have before := i.super_before
  have last := i.bootEnd_succ
  have after := i.backup_after
  have table : i.secondaryTable = i.bootEnd + 1 := rfl
  have sum : (crc32 (entriesOf i)).toNat < 256 ^ 4 := UInt32.toNat_lt _
  obtain ⟨superEntry, one⟩ := @gptEntry_ok i.superType i.superGuid Inputs.superStart i.superEnd
    "super" (by decide) (by omega)
  obtain ⟨bootEntry, two⟩ := @gptEntry_ok i.boot.typeGuid i.bootGuid i.bootStart i.bootEnd
    "boot_a" (by omega) (by omega)
  obtain ⟨rfl, _, _⟩ := gptEntry_inv one
  obtain ⟨rfl, _, _⟩ := gptEntry_inv two
  obtain ⟨primary, three⟩ := @gptHeader_ok i 1 (i.diskSectors - 1) 2 _ (by decide) (by omega)
    (by decide) sum (by omega)
  obtain ⟨backup, four⟩ := @gptHeader_ok i (i.diskSectors - 1) 1 i.secondaryTable _ (by omega)
    (by decide) (by omega) sum (by omega)
  unfold entriesOf at three four
  exact ⟨_, by simp only [createDisk, one, two, three, four, bind, Except.bind, pure, Except.pure]; rfl⟩

variable (i) in
theorem disk_correct_iff :
    (i.diskSectors ≤ 256 ^ 8 → ∃ disk, createDisk i = .ok disk) ∧
      ∀ disk, createDisk i = .ok disk → (Correct i disk ↔ i.InPlace) :=
  ⟨createDisk_ok i, fun _ => correct_iff⟩

end Script

def oneByte : Inputs where
  super := [1]
  aggregate := zeros (34 * SECTOR) ++ List.replicate SECTOR 1
  superType := ⟨List.replicate 16 1, rfl⟩
  boot := ⟨⟨List.replicate 16 2, rfl⟩, 34, 34, by decide⟩
  superGuid := ⟨List.replicate 16 3, rfl⟩
  bootGuid := ⟨List.replicate 16 4, rfl⟩
  diskGuid := ⟨List.replicate 16 5, rfl⟩

theorem boot_moved : ∃ disk, createDisk oneByte = .ok disk ∧ ¬ Correct oneByte disk := by
  obtain ⟨disk, made⟩ := createDisk_ok oneByte (by decide)
  refine ⟨disk, made, fun correct => ?_⟩
  have data : oneByte.bootData = List.replicate SECTOR 1 := by
    have cut := Struct.slice_middle (zeros (34 * SECTOR)) (List.replicate SECTOR 1) [] rfl
    rw [zeros_length, List.length_replicate, List.append_nil] at cut
    exact cut
  rcases (correct_iff made).mp correct with aligned | blank
  · exact absurd aligned (by decide)
  · rw [data] at blank
    exact absurd (blank 1 (List.mem_replicate.mpr ⟨by decide, rfl⟩)) (by decide)

end Bscp.Images.AospDisk
