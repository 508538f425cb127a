import Bscp.Images.CompositeDisk

/-!
What a reader makes of the second copy of the partition table of a composite disk, which has the
footer file only.
-/

namespace Bscp.Images.CompositeDisk

open Crc32 (crc32)
open Struct (le ofLe slice)

/-! ### A reader -/

def SECTOR : Nat := 512

structure HeaderValid (header : Bytes) (lba alternate : Nat) : Prop where
  signed : slice header 0 8 = signature
  size : ofLe (slice header 12 16) = GPT_HEADER_SIZE
  summed : ofLe (slice header 16 20) =
    (crc32 (slice header 0 16 ++ zeros 4 ++ slice header 20 GPT_HEADER_SIZE)).toNat
  own : ofLe (slice header 24 32) = lba
  other : ofLe (slice header 32 40) = alternate

instance (header : Bytes) (lba alternate : Nat) : Decidable (HeaderValid header lba alternate) :=
  decidable_of_iff (slice header 0 8 = signature ∧ ofLe (slice header 12 16) = GPT_HEADER_SIZE ∧
    ofLe (slice header 16 20) =
      (crc32 (slice header 0 16 ++ zeros 4 ++ slice header 20 GPT_HEADER_SIZE)).toNat ∧
    ofLe (slice header 24 32) = lba ∧ ofLe (slice header 32 40) = alternate)
    ⟨fun ⟨signed, size, summed, own, other⟩ => ⟨signed, size, summed, own, other⟩,
      fun valid => ⟨valid.signed, valid.size, valid.summed, valid.own, valid.other⟩⟩

def lastSector (footer : Bytes) : Bytes := slice footer (footer.length - SECTOR) footer.length

/-- The entries in use: their types are not zero. -/
def partitionsOf (array : Bytes) (count width : Nat) : List Bytes :=
  ((List.range count).map fun index => slice array (index * width) (index * width + width)).filter
    fun entry => slice entry 0 16 ≠ zeros 16

/-- The table at a place, if the last sector of the disk is a header that says so, and the table is
within the footer, which starts where it is told. -/
def recoverAt (table start : Nat) (footer : Bytes) : Option (List Bytes) :=
  let header := lastSector footer
  let count := ofLe (slice header 80 84)
  let width := ofLe (slice header 84 88)
  let array := slice footer (table * SECTOR - start) (table * SECTOR - start + count * width)
  if HeaderValid header ((start + footer.length) / SECTOR - 1) 1 ∧ start ≤ table * SECTOR ∧
      table * SECTOR + count * width ≤ start + footer.length ∧
        (crc32 array).toNat = ofLe (slice header 88 92) then
    some (partitionsOf array count width)
  else none

def recover (start : Nat) (footer : Bytes) : Option (List Bytes) :=
  recoverAt (ofLe (slice (lastSector footer) 72 80)) start footer

namespace Composite

variable (composite : Composite)

def footerOffset : Nat :=
  ((composite.componentDisks.getLast?.map ComponentDisk.offset).getD 0).toNat

def primaryPartitions : List Bytes :=
  partitionsOf (slice composite.header (2 * SECTOR) (2 * SECTOR + BUFFER_SIZE)) GPT_NUM_PARTITIONS
    GPT_PARTITION_ENTRY_SIZE

def BackupSuffices : Prop :=
  recover composite.footerOffset composite.footer = some composite.primaryPartitions

end Composite

/-! ### What the writer leaves -/

theorem alignedSize_mod (partition : PartitionInfo) : partition.alignedSize.toNat % 4096 = 0 := by
  unfold PartitionInfo.alignedSize alignToPowerOf2
  split
  · rfl
  · have shift : (1 : UInt64) <<< PARTITION_SIZE_SHIFT = 4096 := rfl
    simp only [shift, UInt64.toNat_mul, UInt64.toNat_div, UInt64.reduceToNat]
    omega

theorem add_mod {one two : UInt64} (first : one.toNat % 4096 = 0) (second : two.toNat % 4096 = 0) :
    (one + two).toNat % 4096 = 0 := by
  rw [UInt64.toNat_add]
  omega

structure Regular (progress : Progress) : Prop where
  fits : progress.written.length ≤ BUFFER_SIZE
  aligned : progress.nextDiskOffset.toNat % 4096 = 0

theorem addPartition_inv {zeroFiller : String} {progress next : Progress}
    {partition : PartitionInfo} {drawn : Uuid}
    (added : addPartition zeroFiller progress partition drawn = .ok next) :
    (createGptEntry partition progress.nextDiskOffset drawn).partitionName ∉ progress.labels ∧
      ∃ disks, createComponentDisks partition progress.nextDiskOffset zeroFiller = .ok disks ∧
        progress.written.length +
          (createGptEntry partition progress.nextDiskOffset drawn).bytes.length ≤ BUFFER_SIZE ∧
        next = ⟨(createGptEntry partition progress.nextDiskOffset drawn).partitionName ::
            progress.labels,
          progress.written ++ (createGptEntry partition progress.nextDiskOffset drawn).bytes,
          progress.componentDisks ++ disks, progress.nextDiskOffset + partition.alignedSize⟩ := by
  unfold addPartition at added
  generalize createGptEntry partition progress.nextDiskOffset drawn = entry at added ⊢
  by_cases known : entry.partitionName ∈ progress.labels
  · simp only [if_pos known] at added
    cases added
  by_cases full : BUFFER_SIZE < progress.written.length + entry.bytes.length
  · simp only [if_neg known, if_pos full] at added
    cases added
  · simp only [if_neg known, if_neg full] at added
    obtain ⟨disks, made, done⟩ := Struct.bind_inv added
    exact ⟨known, disks, made, Nat.le_of_not_lt full, (Except.ok.inj done).symm⟩

theorem addPartition_ok {zeroFiller : String} {progress : Progress} {partition : PartitionInfo}
    {drawn : Uuid} {disks : List ComponentDisk}
    (new : (createGptEntry partition progress.nextDiskOffset drawn).partitionName ∉ progress.labels)
    (room : progress.written.length +
      (createGptEntry partition progress.nextDiskOffset drawn).bytes.length ≤ BUFFER_SIZE)
    (made : createComponentDisks partition progress.nextDiskOffset zeroFiller = .ok disks) :
    addPartition zeroFiller progress partition drawn =
      .ok ⟨(createGptEntry partition progress.nextDiskOffset drawn).partitionName ::
          progress.labels,
        progress.written ++ (createGptEntry partition progress.nextDiskOffset drawn).bytes,
        progress.componentDisks ++ disks, progress.nextDiskOffset + partition.alignedSize⟩ := by
  unfold addPartition
  simp only [if_neg new, if_neg (Nat.not_lt.mpr room), made]
  rfl

theorem Regular.addPartition {zeroFiller : String} {progress next : Progress}
    {partition : PartitionInfo} {drawn : Uuid} (regular : Regular progress)
    (added : addPartition zeroFiller progress partition drawn = .ok next) : Regular next := by
  obtain ⟨-, disks, -, fits, rfl⟩ := addPartition_inv added
  exact ⟨by rwa [List.length_append], add_mod regular.aligned (alignedSize_mod partition)⟩

theorem Regular.addPartitions {zeroFiller : String} {partitions : List (PartitionInfo × Uuid)}
    {progress last : Progress} (regular : Regular progress)
    (added : addPartitions zeroFiller progress partitions = .ok last) : Regular last := by
  induction partitions generalizing progress with
  | nil =>
      obtain rfl := Except.ok.inj added
      exact regular
  | cons head rest more =>
      obtain ⟨next, one, others⟩ := Struct.bind_inv added
      exact more (regular.addPartition one) others

structure Written (composite : Composite) where
  buffer : Bytes
  offset : UInt64
  diskGuid : Uuid
  size : buffer.length = BUFFER_SIZE
  aligned : offset.toNat % 4096 = 0
  began : writeBeginning diskGuid buffer (crc32 buffer).toNat offset (offset + GPT_END_SIZE) =
    .ok composite.header
  ended : composite.footer =
    writeEnd diskGuid buffer (crc32 buffer).toNat offset (offset + GPT_END_SIZE)
  placed : composite.footerOffset = offset.toNat

variable {paths : Paths} {partitions : List (PartitionInfo × Uuid)} {diskGuid : Uuid}
  {composite : Composite}

theorem written_of_created (created : createCompositeDisk paths partitions diskGuid = .ok composite) :
    Nonempty (Written composite) := by
  obtain ⟨progress, looped, done⟩ := Struct.bind_inv created
  obtain ⟨header, began, done⟩ := Struct.bind_inv done
  obtain rfl := Except.ok.inj done
  have start : Regular { componentDisks := [⟨paths.header, 0, false⟩] } :=
    ⟨Nat.zero_le _, show GPT_BEGINNING_SIZE.toNat % 4096 = 0 by decide⟩
  have regular := start.addPartitions looped
  refine ⟨⟨progress.written ++ zeros (BUFFER_SIZE - progress.written.length),
    progress.nextDiskOffset, diskGuid, ?_, regular.aligned, began, rfl, ?_⟩⟩
  · rw [List.length_append, zeros_length]
    exact Nat.add_sub_cancel' regular.fits
  · simp [Composite.footerOffset]

/-! ### The fields of a header -/

@[simp] theorem signature_length : signature.length = 8 := rfl

@[simp] theorem writeGuid_length (guid : Uuid) : (writeGuid guid).length = 16 := by
  simp [writeGuid]

theorem entry_bytes_length (entry : GptPartitionEntry) :
    entry.bytes.length = GPT_PARTITION_ENTRY_SIZE := by
  simp [GptPartitionEntry.bytes, List.length_flatMap, GPT_PARTITION_ENTRY_SIZE]

namespace GptHeader

variable (self : GptHeader) (rest : Bytes)

def parts : List Bytes :=
  [signature, [0, 0, 1, 0], le 4 GPT_HEADER_SIZE, le 4 self.headerCrc32, zeros 4,
    le 8 self.currentLba.toNat, le 8 self.backupLba.toNat, le 8 self.firstUsableLba.toNat,
    le 8 self.lastUsableLba.toNat, writeGuid self.diskGuid, le 8 self.partitionEntriesLba.toNat,
    le 4 GPT_NUM_PARTITIONS, le 4 GPT_PARTITION_ENTRY_SIZE, le 4 self.partitionEntriesCrc32]

theorem parts_flatten : self.bytes ++ rest = (self.parts ++ [rest]).flatten := by
  simp [bytes, parts]

theorem bytes_length : self.bytes.length = GPT_HEADER_SIZE := by
  simp [bytes, GPT_HEADER_SIZE]

theorem signature_field : slice (self.bytes ++ rest) 0 8 = signature := by
  rw [parts_flatten]
  exact Struct.slice_flatten 0 rfl rfl (by simp)

theorem size_field : slice (self.bytes ++ rest) 12 16 = le 4 GPT_HEADER_SIZE := by
  rw [parts_flatten]
  exact Struct.slice_flatten 2 rfl (by simp [parts]) (by simp)

theorem crc_field : slice (self.bytes ++ rest) 16 20 = le 4 self.headerCrc32 := by
  rw [parts_flatten]
  exact Struct.slice_flatten 3 rfl (by simp [parts]) (by simp)

theorem own_field : slice (self.bytes ++ rest) 24 32 = le 8 self.currentLba.toNat := by
  rw [parts_flatten]
  exact Struct.slice_flatten 5 rfl (by simp [parts]) (by simp)

theorem other_field : slice (self.bytes ++ rest) 32 40 = le 8 self.backupLba.toNat := by
  rw [parts_flatten]
  exact Struct.slice_flatten 6 rfl (by simp [parts]) (by simp)

theorem table_field : slice (self.bytes ++ rest) 72 80 = le 8 self.partitionEntriesLba.toNat := by
  rw [parts_flatten]
  exact Struct.slice_flatten 10 rfl (by simp [parts]) (by simp)

theorem count_field : slice (self.bytes ++ rest) 80 84 = le 4 GPT_NUM_PARTITIONS := by
  rw [parts_flatten]
  exact Struct.slice_flatten 11 rfl (by simp [parts]) (by simp)

theorem width_field : slice (self.bytes ++ rest) 84 88 = le 4 GPT_PARTITION_ENTRY_SIZE := by
  rw [parts_flatten]
  exact Struct.slice_flatten 12 rfl (by simp [parts]) (by simp)

theorem sum_field : slice (self.bytes ++ rest) 88 92 = le 4 self.partitionEntriesCrc32 := by
  rw [parts_flatten]
  exact Struct.slice_flatten 13 rfl (by simp [parts]) (by simp)

def before : Bytes := signature ++ [0, 0, 1, 0] ++ le 4 GPT_HEADER_SIZE

def behind : Bytes :=
  zeros 4 ++ le 8 self.currentLba.toNat ++ le 8 self.backupLba.toNat ++
    le 8 self.firstUsableLba.toNat ++ le 8 self.lastUsableLba.toNat ++ writeGuid self.diskGuid ++
      le 8 self.partitionEntriesLba.toNat ++ le 4 GPT_NUM_PARTITIONS ++
        le 4 GPT_PARTITION_ENTRY_SIZE ++ le 4 self.partitionEntriesCrc32

theorem bytes_eq : self.bytes = before ++ le 4 self.headerCrc32 ++ self.behind := by
  simp [bytes, before, behind]

/-- What the checksum is taken of. -/
theorem without_crc : slice (self.bytes ++ rest) 0 16 ++ zeros 4 ++
    slice (self.bytes ++ rest) 20 GPT_HEADER_SIZE =
      { self with headerCrc32 := 0 : GptHeader }.bytes := by
  have front : slice (self.bytes ++ rest) 0 16 = before := by
    rw [bytes_eq, List.append_assoc, List.append_assoc]
    exact Struct.slice_middle [] before _ (by simp [before])
  have back : slice (self.bytes ++ rest) 20 GPT_HEADER_SIZE = self.behind := by
    have start : (before ++ le 4 self.headerCrc32).length = 20 := by simp [before]
    rw [bytes_eq, ← start]
    exact Struct.slice_middle _ self.behind rest (by simp [before, behind, GPT_HEADER_SIZE])
  rw [front, back, bytes_eq]
  exact congrArg (before ++ · ++ self.behind) (show zeros 4 = le 4 0 from rfl)

end GptHeader

/-! ### The footer -/

section Footer

variable (written : Written composite)
include written

def Written.backupHeader (written : Written composite) : GptHeader :=
  let header := gptHeader written.diskGuid (crc32 written.buffer).toNat written.offset true
  { header with headerCrc32 := (crc32 header.bytes).toNat }

theorem Written.footer_eq : composite.footer =
    written.buffer ++ (written.backupHeader.bytes ++ zeros HEADER_PADDING_LENGTH) := by
  rw [written.ended]
  simp [writeEnd, writeGptHeader, Written.backupHeader, List.append_assoc]

theorem Written.footer_length : composite.footer.length = BUFFER_SIZE + SECTOR := by
  rw [written.footer_eq, List.length_append, List.length_append, written.size,
    GptHeader.bytes_length, zeros_length]
  rfl

theorem Written.lastSector_eq : lastSector composite.footer =
    written.backupHeader.bytes ++ zeros HEADER_PADDING_LENGTH := by
  have sector : (written.backupHeader.bytes ++ zeros HEADER_PADDING_LENGTH).length = SECTOR := by
    rw [List.length_append, GptHeader.bytes_length, zeros_length]
    rfl
  have last := Struct.slice_middle written.buffer
    (written.backupHeader.bytes ++ zeros HEADER_PADDING_LENGTH) []
    (congrArg (written.buffer.length + ·) sector.symm)
  rw [List.append_nil, ← written.footer_eq, written.size] at last
  rw [lastSector, written.footer_length, Nat.add_sub_cancel, last]

theorem Written.backup_table :
    ofLe (slice (lastSector composite.footer) 72 80) = 2 := by
  rw [written.lastSector_eq, GptHeader.table_field]
  exact Struct.ofLe_le (show (2 : UInt64).toNat < 256 ^ 8 by decide)

theorem Written.backup_count :
    ofLe (slice (lastSector composite.footer) 80 84) = GPT_NUM_PARTITIONS := by
  rw [written.lastSector_eq, GptHeader.count_field]
  exact Struct.ofLe_le (by decide)

theorem Written.backup_width :
    ofLe (slice (lastSector composite.footer) 84 88) = GPT_PARTITION_ENTRY_SIZE := by
  rw [written.lastSector_eq, GptHeader.width_field]
  exact Struct.ofLe_le (by decide)

/-- The third sector of the disk is not where a table of the footer could start. -/
theorem Written.recover_eq_none : recover composite.footerOffset composite.footer = none := by
  have size := written.footer_length
  have aligned := written.aligned
  rw [written.placed]
  simp only [recover, recoverAt, written.backup_table, written.backup_count, written.backup_width,
    size]
  refine if_neg fun ⟨_, start, within, _⟩ => ?_
  simp only [SECTOR, BUFFER_SIZE, GPT_NUM_PARTITIONS, GPT_PARTITION_ENTRY_SIZE] at start within
  omega

theorem Written.backup_valid (fits : written.offset.toNat + GPT_END_SIZE.toNat < 2 ^ 64) :
    HeaderValid (lastSector composite.footer)
      ((written.offset.toNat + composite.footer.length) / SECTOR - 1) 1 := by
  have last : written.backupHeader.currentLba.toNat =
      (written.offset.toNat + GPT_END_SIZE.toNat) / SECTOR - 1 := by
    have sum : (written.offset + GPT_END_SIZE).toNat = written.offset.toNat + GPT_END_SIZE.toNat := by
      rw [UInt64.toNat_add, Nat.mod_eq_of_lt fits]
    have sector : SECTOR_SIZE.toNat = 512 := rfl
    have tail : GPT_END_SIZE.toNat = 16896 := rfl
    change ((written.offset + GPT_END_SIZE) / SECTOR_SIZE - 1).toNat = _
    rw [UInt64.toNat_sub_of_le, UInt64.toNat_div, sum, sector]
    · rfl
    · rw [UInt64.le_iff_toNat_le, UInt64.toNat_div, sum, sector, tail]
      change 1 ≤ _
      omega
  rw [written.lastSector_eq, written.footer_length]
  refine ⟨GptHeader.signature_field _ _, ?_, ?_, ?_, ?_⟩
  · rw [GptHeader.size_field]
    exact Struct.ofLe_le (by decide)
  · rw [GptHeader.crc_field, GptHeader.without_crc]
    exact Struct.ofLe_le (UInt32.toNat_lt _)
  · rw [GptHeader.own_field, Struct.ofLe_le (UInt64.toNat_lt _), last]
    rfl
  · rw [GptHeader.other_field]
    exact Struct.ofLe_le (show (1 : UInt64).toNat < 256 ^ 8 by decide)

theorem Written.primary_array :
    slice composite.header (2 * SECTOR) (2 * SECTOR + BUFFER_SIZE) = written.buffer := by
  obtain ⟨mbr, wrote, done⟩ := Struct.bind_inv written.began
  have sector : mbr.length = SECTOR := by
    unfold writeProtectiveMbr at wrote
    simp only at wrote
    split at wrote
    · obtain rfl := Except.ok.inj wrote
      simp [SECTOR, MBR_PARTITION_ENTRY_SIZE]
    · cases wrote
  rw [← Except.ok.inj done]
  rw [← written.size]
  have front : (mbr ++ writeGptHeader written.diskGuid (crc32 written.buffer).toNat written.offset
      false ++ zeros HEADER_PADDING_LENGTH).length = 2 * SECTOR := by
    rw [List.length_append, List.length_append, sector, writeGptHeader, GptHeader.bytes_length,
      zeros_length]
    rfl
  rw [← front]
  exact Struct.slice_middle _ written.buffer _ rfl

/-- Where it is, the second copy is whole and says the same. -/
theorem Written.recoverAt_eq (fits : written.offset.toNat + GPT_END_SIZE.toNat < 2 ^ 64) :
    recoverAt (written.offset.toNat / SECTOR) written.offset.toNat composite.footer =
      some composite.primaryPartitions := by
  have size := written.footer_length
  have aligned := written.aligned
  have place : written.offset.toNat / SECTOR * SECTOR = written.offset.toNat := by
    simp only [SECTOR]
    omega
  have whole : GPT_NUM_PARTITIONS * GPT_PARTITION_ENTRY_SIZE = BUFFER_SIZE := rfl
  have array : slice composite.footer 0 BUFFER_SIZE = written.buffer := by
    rw [written.footer_eq, ← written.size]
    exact Struct.slice_middle [] written.buffer _ (Nat.zero_add _).symm
  have sum : ofLe (slice (lastSector composite.footer) 88 92) = (crc32 written.buffer).toNat := by
    rw [written.lastSector_eq, GptHeader.sum_field]
    exact Struct.ofLe_le (UInt32.toNat_lt _)
  have within : written.offset.toNat + BUFFER_SIZE ≤
      written.offset.toNat + composite.footer.length := by
    rw [size]
    omega
  simp only [recoverAt, written.backup_count, written.backup_width, place, whole, Nat.sub_self,
    Nat.zero_add, array]
  rw [if_pos ⟨written.backup_valid fits, Nat.le_refl _, within, sum.symm⟩]
  rw [Composite.primaryPartitions, written.primary_array]

end Footer

/-- Nothing but the place of the table is wrong in the second copy. -/
theorem backup_suffices_in_place
    (created : createCompositeDisk paths partitions diskGuid = .ok composite)
    (fits : composite.footerOffset + GPT_END_SIZE.toNat < 2 ^ 64) :
    recoverAt (composite.footerOffset / SECTOR) composite.footerOffset composite.footer =
      some composite.primaryPartitions := by
  obtain ⟨written⟩ := written_of_created created
  rw [written.placed] at fits ⊢
  exact written.recoverAt_eq fits

theorem backup_never_suffices
    (created : createCompositeDisk paths partitions diskGuid = .ok composite) :
    ¬composite.BackupSuffices := by
  obtain ⟨written⟩ := written_of_created created
  unfold Composite.BackupSuffices
  rw [written.recover_eq_none]
  nofun

/-! ### Disks that are made -/

def somePaths : Paths := ⟨"zero", "header", "footer"⟩

def image : PartitionInfo := ⟨"a", .ok "a.img", .linuxFilesystem, false, 1, none⟩

theorem image_created :
    ∃ composite, createCompositeDisk somePaths [(image, 0)] 0 = .ok composite := by
  let start : Progress := { componentDisks := [⟨"header", 0, false⟩] }
  have room : start.written.length +
      (createGptEntry image start.nextDiskOffset 0).bytes.length ≤ BUFFER_SIZE := by
    rw [entry_bytes_length]
    decide
  have added : addPartition "zero" start image 0 = .ok _ :=
    addPartition_ok List.not_mem_nil room rfl
  simp only [createCompositeDisk, addPartitions, somePaths]
  rw [show addPartition "zero" { componentDisks := [⟨"header", 0, false⟩] } image 0 = _ from added]
  have sectors : writeProtectiveMbr (start.nextDiskOffset + image.alignedSize + GPT_END_SIZE) =
      .ok _ := if_pos (by decide)
  simp only [writeBeginning, bind, Except.bind, pure, Except.pure, sectors]
  exact ⟨_, rfl⟩

theorem image_backup : ∃ composite,
    createCompositeDisk somePaths [(image, 0)] 0 = .ok composite ∧ ¬composite.BackupSuffices := by
  obtain ⟨composite, created⟩ := image_created
  exact ⟨composite, created, backup_never_suffices created⟩

theorem one_image : ¬∀ paths partitions diskGuid composite,
    createCompositeDisk paths partitions diskGuid = .ok composite → composite.BackupSuffices := by
  intro suffices_always
  obtain ⟨composite, created⟩ := image_created
  obtain ⟨written⟩ := written_of_created created
  have suffices_here := suffices_always _ _ _ _ created
  rw [Composite.BackupSuffices, written.recover_eq_none] at suffices_here
  cases suffices_here

end Bscp.Images.CompositeDisk
