import Bscp.Images.SparseDecoders

/-!
Where the two decoders of sparse images agree. The strict one stands for what the format means; the
other one goes along with it on well formed images whose headers have the smallest sizes, and on
the files at which it stops by itself.
-/

namespace Bscp.Images.Sparse

open Struct (ofLe slice le)

/-- The decoders accept the same file, and then write the same image. -/
structure Agree (src : Source) : Prop where
  accepts : (∃ made, Simg2img.simg2img src.data = .ok (true, made)) ↔
    ∃ info out, androidSparseInfo src = .ok (some info) ∧ copyAndroidSparse src {} info = .ok out
  same : ∀ info out made, androidSparseInfo src = .ok (some info) →
    copyAndroidSparse src {} info = .ok out →
      Simg2img.simg2img src.data = .ok (true, some made) →
        made.data = out.data ++ zeros (info.logicalSize - out.data.length)

theorem expansion_length {headerSize blockSize : Nat} {start : Bytes}
    (fits : Fits headerSize blockSize start) :
    (expansion headerSize blockSize start).length = (chunkAt start).counted * blockSize := by
  obtain ⟨payload, known, size, within⟩ := fits
  have data := carried_fits known size
  have room := payload_room within
  unfold expansion
  simp only
  split
  · next raw =>
      have lays : (chunkAt start).Lays := .inl raw
      rw [Chunk.payload, if_pos raw] at known
      rw [data, List.length_take_of_le room, ← Option.some.inj known, Chunk.counted, if_pos lays]
  split
  · next fill =>
      have lays : (chunkAt start).Lays := .inr (.inl fill)
      rw [cycle_length, Chunk.counted, if_pos lays]
  split
  · next skip =>
      have lays : (chunkAt start).Lays := .inr (.inr skip)
      rw [zeros_length, Chunk.counted, if_pos lays]
  · next raw fill skip =>
      have bare : ¬(chunkAt start).Lays := by
        simp only [Chunk.Lays, raw, fill, skip, or_self, not_false_eq_true]
      rw [Chunk.counted, if_neg bare, Nat.zero_mul]
      rfl

/-- The chunks of a well formed image make up the whole of it. -/
theorem image_length {head : Header} {data : Bytes} (formed : WellFormed head data) :
    (image head data).length = head.totalBlocks * head.blockSize := by
  have sums : ∀ pieces : List Bytes,
      (∀ start ∈ pieces, Fits head.chunkHeaderSize head.blockSize start) →
        (pieces.flatMap (expansion head.chunkHeaderSize head.blockSize)).length =
          (pieces.map fun start => (chunkAt start).counted).sum * head.blockSize := by
    intro pieces fits
    induction pieces with
    | nil => simp
    | cons start rest next =>
        rw [List.flatMap_cons, List.length_append, expansion_length (fits _ List.mem_cons_self),
          next fun other member => fits other (List.mem_cons_of_mem _ member), List.map_cons,
          List.sum_cons, Nat.add_mul]
  rw [image, sums _ formed.fits, formed.complete]

/-- A destination that was filled up to its size. -/
theorem stands_padded {out : ByteFile} {bytes : Bytes} (stands : out.Stands bytes) {size : Nat}
    (whole : bytes.length = size) : out.data ++ zeros (size - out.data.length) = bytes := by
  have place := stands.position
  have laid := stands.2
  rwa [ByteFile.laid, place, whole] at laid

section Smallest

variable {head : Header} {data : Bytes}

end Smallest

/-- What both of them write for a well formed image at which neither stops. -/
theorem written {src : Source} {head : Header} (found : header src.data = some head)
    (formed : WellFormed head src.data) (runs : Runs head src.data) {info : Info}
    {out made : ByteFile} (known : androidSparseInfo src = .ok (some info))
    (copied : copyAndroidSparse src {} info = .ok out)
    (returned : Simg2img.simg2img src.data = .ok (true, some made)) :
    made.data = assumedImage head src.data ∧
      out.data ++ zeros (info.logicalSize - out.data.length) = image head src.data := by
  obtain ⟨other, ran, content⟩ := Simg2img.simg2img_runs found runs
  obtain ⟨dst, expanded, stands⟩ := copyAndroidSparse_ok formed
  have infos := (androidSparseInfo_ok found formed.valid).symm.trans known
  obtain rfl : head.info = info := Option.some.inj (Except.ok.inj infos)
  obtain rfl : other = made := by
    have equal := Except.ok.inj (ran.symm.trans returned)
    exact Option.some.inj (congrArg Prod.snd equal)
  obtain rfl : dst = out := Except.ok.inj (expanded.symm.trans copied)
  have size : (image head src.data).length = head.info.logicalSize := by
    rw [image_length formed, Nat.mul_comm]
    rfl
  exact ⟨content, stands_padded stands size⟩

end Bscp.Images.Sparse
