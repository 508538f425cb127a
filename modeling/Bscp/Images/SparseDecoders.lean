import Bscp.Images.Sparse

/-!
What the two decoders of sparse images accept, and what they write. The strict one accepts the well
formed images and no others, at whatever sizes of the headers they tell; the other one takes the
smallest sizes for granted and goes on as long as it can read.
-/

namespace Bscp.Images.Sparse

open Struct (ofLe slice le)

/-! ### Patterns -/

@[simp] theorem cycle_length (pattern : Bytes) (count : Nat) :
    (cycle pattern count).length = count := by
  simp [cycle]

@[simp] theorem cycle_zero (pattern : Bytes) : cycle pattern 0 = [] := rfl

theorem cycle_add (pattern : Bytes) {first : Nat} (whole : 4 ∣ first) (second : Nat) :
    cycle pattern (first + second) = cycle pattern first ++ cycle pattern second := by
  have same : ∀ place, (first + place) % 4 = place % 4 := fun place => by omega
  simp only [cycle, List.range_add, List.map_append, List.map_map]
  congr 1
  exact List.map_congr_left fun place _ => congrArg (pattern.getD · 0) (same place)

theorem cycle_take (pattern : Bytes) (count size : Nat) :
    (cycle pattern count).take size = cycle pattern (min size count) := by
  rw [cycle, ← List.map_take, List.take_range, cycle]

theorem cycle_pattern {pattern : Bytes} (size : pattern.length = 4) : cycle pattern 4 = pattern := by
  obtain ⟨first, second, third, last, rfl⟩ : ∃ a b c d, pattern = [a, b, c, d] := by
    match pattern, size with
    | [a, b, c, d], _ => exact ⟨a, b, c, d, rfl⟩
  rfl

/-- `pattern * times`. -/
theorem cycle_repeated {pattern : Bytes} (size : pattern.length = 4) (times : Nat) :
    (List.replicate times pattern).flatten = cycle pattern (4 * times) := by
  induction times with
  | zero => rfl
  | succ times next =>
      rw [List.replicate_succ, List.flatten_cons, next, Nat.mul_succ, Nat.add_comm,
        cycle_add pattern (Nat.dvd_refl 4), cycle_pattern size]

theorem cycle_zeros (count : Nat) : cycle (le 4 0) count = zeros count := by
  have nothing : ∀ place, (le 4 0).getD (place % 4) 0 = 0 := by
    intro place
    have few : place % 4 < 4 := Nat.mod_lt _ (by decide)
    generalize place % 4 = rest at few
    match rest, few with
    | 0, _ => rfl
    | 1, _ => rfl
    | 2, _ => rfl
    | 3, _ => rfl
  rw [cycle, zeros, List.map_congr_left fun place _ => nothing place, List.map_const',
    List.length_range]

theorem writeCount_stands (pattern : Bytes) {size : Nat} (whole : 4 ∣ size) (some_bytes : 0 < size)
    {turns count : Nat} (enough : count ≤ turns) {out : ByteFile} {bytes : Bytes}
    (stands : out.Stands bytes) :
    (writeCount (cycle pattern size) turns count out).Stands (bytes ++ cycle pattern count) := by
  induction turns generalizing count out bytes with
  | zero =>
      obtain rfl : count = 0 := Nat.le_zero.mp enough
      simpa [writeCount] using stands
  | succ turns next =>
      by_cases done : count = 0
      · subst done
        simpa [writeCount] using stands
      · have fewer : count - min count size ≤ turns := by omega
        have piece := stands.write (cycle pattern (min count size))
        have rest := next fewer piece
        have joined : cycle pattern (min count size) ++ cycle pattern (count - min count size) =
            cycle pattern count := by
          rcases Nat.le_total count size with short | long
          · simp [Nat.min_eq_left short]
          · rw [Nat.min_eq_right long, ← cycle_add pattern whole, Nat.add_sub_cancel' long]
        rw [List.append_assoc, joined] at rest
        simpa only [writeCount, done, if_false, cycle_length, cycle_take,
          Nat.min_assoc, Nat.min_self] using rest

/-- The size of the piece does not matter. -/
theorem fillWith_stands {piece : Nat} (whole : 4 ∣ piece) (some_bytes : 0 < piece)
    {out : ByteFile} {bytes : Bytes} (stands : out.Stands bytes) (value count : Nat) :
    (fillWith piece out value count).Stands (bytes ++ cycle (le 4 value) count) := by
  unfold fillWith
  split
  · next none =>
      rw [none, cycle_zeros]
      exact stands.skip count
  · simp only [cycle_repeated (Struct.le_length 4 value), Struct.le_length,
      Nat.mul_div_cancel' whole]
    exact writeCount_stands _ whole some_bytes (Nat.le_refl _) stands

/-- A pattern that was read from the file. -/
theorem fill_stands {piece : Nat} (whole : 4 ∣ piece) (some_bytes : 0 < piece)
    {out : ByteFile} {bytes pattern : Bytes} (stands : out.Stands bytes)
    (size : pattern.length = 4) (count : Nat) :
    (fillWith piece out (ofLe pattern) count).Stands (bytes ++ cycle pattern count) := by
  have written := fillWith_stands whole some_bytes stands (ofLe pattern) count
  rwa [Struct.le_eq size] at written

/-! ### Raw chunks -/

theorem zeroChunk_take (size : Nat) :
    zeroChunk.take size = zeros (min size zeroChunk.length) := by
  rw [zeroChunk, zeros_length, zeros, List.take_replicate, zeros]

theorem zeroChunk_some : 0 < zeroChunk.length := by
  rw [zeroChunk, zeros_length]
  decide

/-- A piece is written as it is, or stepped over where it is zeros. -/
theorem piece_stands {dst : ByteFile} {bytes : Bytes} (stands : dst.Stands bytes) (piece : Bytes) :
    (if piece = zeroChunk.take piece.length then dst.skip piece.length
      else dst.write piece).Stands (bytes ++ piece) := by
  split
  · next blank =>
      have skipped := stands.skip piece.length
      have short : min piece.length zeroChunk.length = piece.length := by
        have sizes := congrArg List.length blank
        rw [List.length_take] at sizes
        exact sizes.symm
      rw [zeroChunk_take, short] at blank
      rwa [← blank] at skipped
  · exact stands.write piece

theorem copyRaw_ok {turns count : Nat} (enough : count ≤ turns) {rest : Bytes}
    (within : count ≤ rest.length) {dst : ByteFile} {bytes : Bytes} (stands : dst.Stands bytes) :
    ∃ done, copyRaw turns count rest dst = .ok (rest.drop count, done) ∧
      done.Stands (bytes ++ rest.take count) := by
  induction turns generalizing count rest dst bytes with
  | zero =>
      obtain rfl : count = 0 := Nat.le_zero.mp enough
      exact ⟨dst, rfl, by simpa using stands⟩
  | succ turns next =>
      by_cases none : count = 0
      · subst none
        exact ⟨dst, by simp [copyRaw], by simpa using stands⟩
      · have some_zeros := zeroChunk_some
        let size := min count zeroChunk.length
        have small : size ≤ count := Nat.min_le_left _ _
        have more : 0 < size := Nat.lt_min.mpr ⟨Nat.pos_of_ne_zero none, some_zeros⟩
        have full : (rest.take size).length = size :=
          List.length_take_of_le (Nat.le_trans small within)
        have some_bytes : ¬(rest.take size).isEmpty = true := by
          rw [List.isEmpty_iff, ← List.length_eq_zero_iff, full]
          exact Nat.ne_of_gt more
        have fewer : count - size ≤ turns := by omega
        have left : count - size ≤ (rest.drop size).length := by
          rw [List.length_drop]
          omega
        obtain ⟨done, copied, whole⟩ := next fewer left (piece_stands stands (rest.take size))
        refine ⟨done, ?_, ?_⟩
        · rw [List.drop_drop, Nat.add_sub_cancel' small] at copied
          rw [copyRaw, if_neg none]
          refine (if_neg some_bytes).trans ?_
          rw [← copied, full]
        · rwa [List.append_assoc, ← List.take_add, Nat.add_sub_cancel' small] at whole

section Kinds

variable {start : Bytes} {headerSize : Nat}

theorem kinds_differ : CHUNK_TYPE_RAW ≠ CHUNK_TYPE_FILL ∧ CHUNK_TYPE_RAW ≠ CHUNK_TYPE_DONT_CARE ∧
    CHUNK_TYPE_RAW ≠ CHUNK_TYPE_CRC32 ∧ CHUNK_TYPE_FILL ≠ CHUNK_TYPE_DONT_CARE ∧
    CHUNK_TYPE_FILL ≠ CHUNK_TYPE_CRC32 ∧ CHUNK_TYPE_DONT_CARE ≠ CHUNK_TYPE_CRC32 := by
  decide

theorem carried_none (bare : ¬(chunkAt start).Carries) : carried headerSize start = [] := by
  simp only [carried, bare, if_false]

theorem carried_some (carries : (chunkAt start).Carries) :
    carried headerSize start =
      if (chunkAt start).size + 1 = headerSize then start.drop headerSize
      else (start.drop headerSize).take ((chunkAt start).size - headerSize) := by
  simp only [carried, carries, if_true]

end Kinds

namespace Simg2img

theorem field_ok {width : Nat} {rest : Bytes} (enough : width ≤ rest.length) :
    field width rest = .ok (ofLe (rest.take width), rest.drop width) := by
  rw [field, unpack, if_pos (List.length_take_of_le enough)]
  rfl

theorem chunkHeader_ok {start : Bytes} (enough : CHUNK_HEADER_SIZE ≤ start.length) :
    chunkHeader start = .ok (chunkAt start, start.drop CHUNK_HEADER_SIZE) := by
  change 12 ≤ start.length at enough
  have second : 2 ≤ (start.drop 2).length := by rw [List.length_drop]; omega
  have third : 4 ≤ (start.drop 4).length := by rw [List.length_drop]; omega
  have last : 4 ≤ (start.drop 8).length := by rw [List.length_drop]; omega
  rw [chunkHeader, field_ok (Nat.le_trans (by decide) enough)]
  simp only [bind, Except.bind]
  rw [field_ok second, List.drop_drop]
  simp only
  rw [field_ok third, List.drop_drop]
  simp only
  rw [field_ok last, List.drop_drop]
  simp only [chunkAt, slice, List.drop_take]
  rfl

/-- A read of the data behind a header of twelve bytes. -/
theorem read_carried {start : Bytes} (carries : (chunkAt start).Carries)
    (size : CHUNK_HEADER_SIZE ≤ (chunkAt start).size + 1) :
    read ((chunkAt start).size - 12) (start.drop CHUNK_HEADER_SIZE) =
      .ok (carried CHUNK_HEADER_SIZE start, following CHUNK_HEADER_SIZE start) := by
  change 12 ≤ (chunkAt start).size + 1 at size
  rw [following, ← List.drop_drop, carried_some carries]
  generalize start.drop CHUNK_HEADER_SIZE = body
  change read _ body = .ok (if (chunkAt start).size + 1 = 12 then body
    else body.take ((chunkAt start).size - 12), _)
  have enough : ¬((chunkAt start).size - 12 : Int) < -1 := by omega
  rw [read, if_neg enough]
  by_cases small : (chunkAt start).size + 1 = 12
  · have all : ((chunkAt start).size - 12 : Int) = -1 := by omega
    have known : (chunkAt start).size + 1 = CHUNK_HEADER_SIZE := small
    rw [if_pos all, if_pos small, if_pos known, List.drop_length]
  · have some_of : ¬((chunkAt start).size - 12 : Int) = -1 := by omega
    have known : ¬(chunkAt start).size + 1 = CHUNK_HEADER_SIZE := small
    have whole : ((chunkAt start).size - 12 : Int).toNat = (chunkAt start).size - 12 := by omega
    rw [if_neg some_of, if_neg small, if_neg known, whole]
    change _ = Except.ok (_, body.drop (body.take ((chunkAt start).size - 12)).length)
    rw [List.length_take]
    congr 2
    rcases Nat.le_total ((chunkAt start).size - 12) body.length with short | long
    · rw [Nat.min_eq_left short]
    · rw [Nat.min_eq_right long, List.drop_length, List.drop_eq_nil_of_le long]

theorem following_bare {start : Bytes} (bare : ¬(chunkAt start).Carries) :
    following CHUNK_HEADER_SIZE start = start.drop CHUNK_HEADER_SIZE := by
  rw [following, carried_none bare]
  rfl

/-- What one chunk does where it can be read. -/
theorem chunkBody_ok {start : Bytes} (readable : Readable start) (blockSize : Nat) {copy : Copy}
    {bytes : Bytes} (stands : copy.out.Stands bytes)
    (here : copy.rest = start.drop CHUNK_HEADER_SIZE) :
    ∃ next, chunkBody blockSize (chunkAt start) copy = .ok next ∧
      next.rest = following CHUNK_HEADER_SIZE start ∧
      next.out.Stands (bytes ++ expansion CHUNK_HEADER_SIZE blockSize start) := by
  obtain ⟨_, sized, four⟩ := readable
  obtain ⟨raw_fill, raw_skip, raw_crc, fill_skip, fill_crc, skip_crc⟩ := kinds_differ
  let counted := copy.outBlocks + (chunkAt start).blocks
  by_cases raw : (chunkAt start).kind = CHUNK_TYPE_RAW
  · have carries : (chunkAt start).Carries := .inl raw
    have ran : chunkBody blockSize (chunkAt start) copy = .ok
        { rest := following CHUNK_HEADER_SIZE start
          out := copy.out.write (carried CHUNK_HEADER_SIZE start)
          outBlocks := counted } := by
      simp only [chunkBody, raw, if_true, here, read_carried carries (sized carries)]
      rfl
    refine ⟨_, ran, rfl, ?_⟩
    simpa only [expansion, raw, if_true] using stands.write (carried CHUNK_HEADER_SIZE start)
  by_cases fill : (chunkAt start).kind = CHUNK_TYPE_FILL
  · have carries : (chunkAt start).Carries := .inr (.inl fill)
    have pattern := four fill
    have unpacked : unpack 4 (carried CHUNK_HEADER_SIZE start) =
        .ok (ofLe (carried CHUNK_HEADER_SIZE start)) := if_pos pattern
    have ran : chunkBody blockSize (chunkAt start) copy = .ok
        { rest := following CHUNK_HEADER_SIZE start
          out := writeFill copy.out (ofLe (carried CHUNK_HEADER_SIZE start))
            (blockSize * (chunkAt start).blocks)
          outBlocks := counted } := by
      simp only [chunkBody, Ne.symm raw_fill, fill, if_true, if_false, here,
        read_carried carries (sized carries)]
      simp only [bind, Except.bind, unpacked]
      rfl
    have written := @fill_stands (1024 * 1024) (by decide) (by decide) _ _ _ stands pattern
      ((chunkAt start).blocks * blockSize)
    refine ⟨_, ran, rfl, ?_⟩
    simpa only [expansion, Ne.symm raw_fill, fill, if_true, if_false, writeFill, Nat.mul_comm]
      using written
  by_cases skip : (chunkAt start).kind = CHUNK_TYPE_DONT_CARE
  · have bare : ¬(chunkAt start).Carries := by
      simp only [Chunk.Carries, skip, Ne.symm raw_skip, Ne.symm fill_skip, skip_crc, or_self,
        not_false_eq_true]
    have ran : chunkBody blockSize (chunkAt start) copy = .ok
        { copy with out := copy.out.skip ((chunkAt start).blocks * blockSize)
                    outBlocks := counted } := by
      simp only [chunkBody, Ne.symm raw_skip, Ne.symm fill_skip, skip, if_true, if_false]
      rfl
    refine ⟨_, ran, here.trans (following_bare bare).symm, ?_⟩
    simpa only [expansion, Ne.symm raw_skip, Ne.symm fill_skip, skip, if_true, if_false] using
      stands.skip ((chunkAt start).blocks * blockSize)
  by_cases check : (chunkAt start).kind = CHUNK_TYPE_CRC32
  · have carries : (chunkAt start).Carries := .inr (.inr check)
    have ran : chunkBody blockSize (chunkAt start) copy = .ok
        { copy with rest := following CHUNK_HEADER_SIZE start } := by
      simp only [chunkBody, Ne.symm raw_crc, Ne.symm fill_crc, Ne.symm skip_crc, check, if_true,
        if_false, here, read_carried carries (sized carries)]
      rfl
    refine ⟨_, ran, rfl, ?_⟩
    simpa only [expansion, raw, fill, skip, if_false, List.append_nil] using stands
  · have bare : ¬(chunkAt start).Carries := by
      simp only [Chunk.Carries, raw, fill, check, or_self, not_false_eq_true]
    have ran : chunkBody blockSize (chunkAt start) copy = .ok copy := by
      simp only [chunkBody, raw, fill, skip, check, if_false]
    refine ⟨copy, ran, here.trans (following_bare bare).symm, ?_⟩
    simpa only [expansion, raw, fill, skip, if_false, List.append_nil] using stands

section Loop

variable {blockSize totalBlocks : Nat}

/-- The loop goes through the chunks that can be read, and lays one behind the other. -/
theorem chunks_ok (some_blocks : totalBlocks ≠ 0) {left i : Nat} {copy : Copy} {bytes : Bytes}
    (readable : ∀ start ∈ starts CHUNK_HEADER_SIZE left copy.rest, Readable start)
    (stands : copy.out.Stands bytes) :
    ∃ done, chunks blockSize totalBlocks left i copy = .ok done ∧
      done.out.Stands (bytes ++
        (starts CHUNK_HEADER_SIZE left copy.rest).flatMap
          (expansion CHUNK_HEADER_SIZE blockSize)) := by
  induction left generalizing i copy bytes with
  | zero => exact ⟨copy, rfl, by simpa [starts] using stands⟩
  | succ left next =>
      have first : Readable copy.rest := readable _ List.mem_cons_self
      obtain ⟨after, body, behind, laid⟩ := @chunkBody_ok _ first blockSize
        { copy with rest := copy.rest.drop CHUNK_HEADER_SIZE } _ stands rfl
      have others : ∀ start ∈ starts CHUNK_HEADER_SIZE left after.rest, Readable start := by
        rw [behind]
        exact fun start member => readable start (List.mem_cons_of_mem _ member)
      obtain ⟨done, rest, whole⟩ := next (i := i + 1) others laid
      refine ⟨done, ?_, ?_⟩
      · rw [chunks, chunkHeader_ok first.1]
        simp only [bind, Except.bind, body, some_blocks, and_false, if_false]
        exact rest
      · rwa [behind, List.append_assoc] at whole

end Loop

theorem fileHeader_ok {src : Bytes} (enough : HEADER_SIZE ≤ src.length) :
    fileHeader (src.drop 4) =
      .ok ((ofLe (slice src 12 16), ofLe (slice src 16 20), ofLe (slice src 20 24)),
        src.drop HEADER_SIZE) := by
  change 28 ≤ src.length at enough
  have room : ∀ place width, place + width ≤ 28 → width ≤ (src.drop place).length := by
    intro place width within
    rw [List.length_drop]
    omega
  have next : ∀ place width, place + width ≤ 28 → field width (src.drop place) =
      .ok (ofLe ((src.drop place).take width), src.drop (place + width)) := by
    intro place width within
    rw [field_ok (room place width within), List.drop_drop]
  simp only [fileHeader, bind, Except.bind, next, Nat.reduceAdd, Nat.reduceLeDiff, slice,
    List.drop_take, Nat.reduceSub]
  rfl

theorem header_fields {src : Bytes} {head : Header} (known : header src = some head) :
    HEADER_SIZE ≤ src.length ∧ ofLe (src.take 4) = ANDROID_SPARSE_MAGIC ∧
      head.blockSize = ofLe (slice src 12 16) ∧ head.totalBlocks = ofLe (slice src 16 20) ∧
      head.totalChunks = ofLe (slice src 20 24) := by
  unfold header at known
  split at known
  · next fits =>
      cases known
      exact ⟨fits.1, fits.2, rfl, rfl, rfl⟩
  · cases known

/-- The function behind the two headers. -/
theorem simg2img_header {src : Bytes} {head : Header} (known : header src = some head) :
    simg2img src = (do
      let copy ← chunks head.blockSize head.totalBlocks head.totalChunks 0
        { rest := src.drop HEADER_SIZE, out := {}, outBlocks := 0 }
      let out := copy.out.truncate (head.totalBlocks * head.blockSize)
      return (decide (out.data.length = head.totalBlocks * head.blockSize), some out)) := by
  obtain ⟨enough, magic, block, blocks, count⟩ := header_fields known
  rw [simg2img, field_ok (Nat.le_trans (by decide) enough)]
  simp only [bind, Except.bind, magic, ne_eq, not_true_eq_false, if_false, fileHeader_ok enough]
  rw [block, blocks, count]

theorem truncate_length (file : ByteFile) (size : Nat) :
    (file.truncate size).data.length = size := by
  simp only [ByteFile.truncate, List.length_append, List.length_take, zeros_length]
  omega

/-- Where nothing stops it, the function reports success, and has written what the chunks stand for
at the sizes that it assumes. -/
theorem simg2img_runs {src : Bytes} {head : Header} (known : header src = some head)
    (runs : Runs head src) :
    ∃ out, simg2img src = .ok (true, some out) ∧ out.data = assumedImage head src := by
  have ran : ∃ copy, chunks head.blockSize head.totalBlocks head.totalChunks 0
      { rest := src.drop HEADER_SIZE, out := {}, outBlocks := 0 } = .ok copy ∧
        copy.out.Stands ((assumed head src).flatMap
          (expansion CHUNK_HEADER_SIZE head.blockSize)) := by
    by_cases none : head.totalBlocks = 0
    · rw [assumed, runs.blocks none]
      exact ⟨_, rfl, .start⟩
    · exact @chunks_ok _ _ none _ 0 { rest := src.drop HEADER_SIZE, out := {}, outBlocks := 0 } []
        runs.readable .start
  obtain ⟨copy, ran, stands⟩ := ran
  refine ⟨copy.out.truncate (head.totalBlocks * head.blockSize), ?_, ?_⟩
  · rw [simg2img_header known, ran]
    simp only [bind, Except.bind, truncate_length, decide_true]
    rfl
  · rw [stands.truncate_data]
    rfl

end Simg2img

/-! ### The strict decoder -/

section Strict

variable {start : Bytes} {headerSize blockSize : Nat}

theorem chunkAt_take (enough : CHUNK_HEADER_SIZE ≤ headerSize) :
    chunkAt (start.take headerSize) = chunkAt start := by
  change 12 ≤ headerSize at enough
  have within : ∀ first last, last ≤ 12 →
      slice (start.take headerSize) first last = slice start first last := by
    intro first last small
    rw [slice, List.take_take, Nat.min_eq_left (Nat.le_trans small enough), slice]
  simp only [chunkAt, within 0 2 (by decide), within 4 8 (by decide), within 8 12 (by decide)]

/-- The data of a chunk that fits. -/
theorem carried_fits {payload : Nat} (known : (chunkAt start).payload blockSize = some payload)
    (size : (chunkAt start).size = headerSize + payload) :
    carried headerSize start = (start.drop headerSize).take payload := by
  by_cases carries : (chunkAt start).Carries
  · have larger : ¬(chunkAt start).size + 1 = headerSize := by omega
    rw [carried_some carries, if_neg larger, size, Nat.add_sub_cancel_left]
  · have nothing : payload = 0 := by
      have other : (chunkAt start).kind ≠ CHUNK_TYPE_RAW ∧ (chunkAt start).kind ≠ CHUNK_TYPE_FILL ∧
          (chunkAt start).kind ≠ CHUNK_TYPE_CRC32 := by
        simpa only [Chunk.Carries, not_or] using carries
      simp only [Chunk.payload, other.1, other.2.1, other.2.2, if_false] at known
      split at known
      · exact (Option.some.inj known).symm
      · cases known
    rw [carried_none carries, nothing, List.take_zero]

theorem following_fits {payload : Nat} (known : (chunkAt start).payload blockSize = some payload)
    (size : (chunkAt start).size = headerSize + payload)
    (within : headerSize + payload ≤ start.length) :
    following headerSize start = (start.drop headerSize).drop payload := by
  have room : payload ≤ (start.drop headerSize).length := by
    rw [List.length_drop]
    omega
  rw [following, carried_fits known size, List.length_take_of_le room, List.drop_drop]

theorem payload_room {payload : Nat} (within : headerSize + payload ≤ start.length) :
    payload ≤ (start.drop headerSize).length := by
  rw [List.length_drop]
  omega

variable {src : Source} {sparse : Info} {copy : Copying} {bytes : Bytes} {index : Nat}

/-- What one chunk does where it fits. -/
theorem copyChunk_ok (sized : CHUNK_HEADER_SIZE ≤ sparse.chunkHeaderSize)
    (fits : Fits sparse.chunkHeaderSize sparse.blockSize copy.rest)
    (stands : copy.dst.Stands bytes) :
    ∃ next, copyChunk src sparse index copy = .ok next ∧
      next.rest = following sparse.chunkHeaderSize copy.rest ∧
      next.dst.Stands (bytes ++ expansion sparse.chunkHeaderSize sparse.blockSize copy.rest) ∧
      next.outputBlocks = copy.outputBlocks + (chunkAt copy.rest).counted := by
  obtain ⟨payload, known, size, within⟩ := fits
  obtain ⟨raw_fill, raw_skip, raw_crc, fill_skip, fill_crc, skip_crc⟩ := kinds_differ
  have head := @chunkAt_take copy.rest _ sized
  have kind : ofLe (slice (copy.rest.take sparse.chunkHeaderSize) 0 2) =
    (chunkAt copy.rest).kind := congrArg Chunk.kind head
  have blocks : ofLe (slice (copy.rest.take sparse.chunkHeaderSize) 4 8) =
    (chunkAt copy.rest).blocks := congrArg Chunk.blocks head
  have total : ofLe (slice (copy.rest.take sparse.chunkHeaderSize) 8 12) =
    (chunkAt copy.rest).size := congrArg Chunk.size head
  have full : (copy.rest.take sparse.chunkHeaderSize).length = sparse.chunkHeaderSize :=
    List.length_take_of_le (by omega)
  have large : ¬sparse.chunkHeaderSize + payload < sparse.chunkHeaderSize := by omega
  have data := carried_fits known size
  have behind := following_fits known size within
  have room := payload_room within
  let counted := copy.outputBlocks + (chunkAt copy.rest).blocks
  simp only [copyChunk, full, ne_eq, not_true_eq_false, if_false, kind, blocks, total, size, large,
    Nat.add_sub_cancel_left]
  by_cases raw : (chunkAt copy.rest).kind = CHUNK_TYPE_RAW
  · obtain rfl : (chunkAt copy.rest).blocks * sparse.blockSize = payload := by
      simpa only [Chunk.payload, raw, if_true, Option.some.injEq] using known
    obtain ⟨done, copied, laid⟩ := copyRaw_ok (Nat.le_refl _) room stands
    refine ⟨⟨_, done, counted⟩, ?_, behind.symm, ?_, ?_⟩
    · simp only [raw, if_true, not_true_eq_false, if_false, copySparseRaw, copied]
      rfl
    · simpa only [expansion, raw, if_true, data] using laid
    · simp only [Chunk.counted, Chunk.Lays, raw, true_or, if_true, counted]
  by_cases fill : (chunkAt copy.rest).kind = CHUNK_TYPE_FILL
  · obtain rfl : 4 = payload := by
      simpa only [Chunk.payload, fill, Ne.symm raw_fill, if_true, if_false, Option.some.injEq]
        using known
    have four := List.length_take_of_le room
    have written := @fill_stands (8 * 1024 * 1024) (by decide) (by decide) _ _ _ stands four
      ((chunkAt copy.rest).blocks * sparse.blockSize)
    have laid : (writeFill copy.dst (ofLe ((copy.rest.drop sparse.chunkHeaderSize).take 4))
        ((chunkAt copy.rest).blocks * sparse.blockSize)).Stands
          (bytes ++ expansion sparse.chunkHeaderSize sparse.blockSize copy.rest) := by
      simpa only [expansion, fill, Ne.symm raw_fill, if_true, if_false, data, writeFill] using
        written
    refine ⟨⟨_, _, counted⟩, ?_, behind.symm, laid, ?_⟩
    · simp only [fill, Ne.symm raw_fill, if_true, if_false, not_true_eq_false, four]
      rfl
    · simp only [Chunk.counted, Chunk.Lays, fill, true_or, or_true, if_true, counted]
  by_cases skip : (chunkAt copy.rest).kind = CHUNK_TYPE_DONT_CARE
  · obtain rfl : 0 = payload := by
      simpa only [Chunk.payload, skip, Ne.symm raw_skip, Ne.symm fill_skip, if_true, if_false,
        Option.some.injEq] using known
    have laid : (copy.dst.skip ((chunkAt copy.rest).blocks * sparse.blockSize)).Stands
        (bytes ++ expansion sparse.chunkHeaderSize sparse.blockSize copy.rest) := by
      simpa only [expansion, skip, Ne.symm raw_skip, Ne.symm fill_skip, if_true, if_false] using
        stands.skip ((chunkAt copy.rest).blocks * sparse.blockSize)
    refine ⟨⟨_, _, counted⟩, ?_, behind.symm, laid, ?_⟩
    · simp only [skip, Ne.symm raw_skip, Ne.symm fill_skip, if_true, if_false, not_true_eq_false]
      rfl
    · simp only [Chunk.counted, Chunk.Lays, skip, or_true, if_true, counted]
  have check : (chunkAt copy.rest).kind = CHUNK_TYPE_CRC32 := by
    by_contra other
    simp only [Chunk.payload, raw, fill, skip, other, if_false] at known
    cases known
  obtain rfl : 4 = payload := by
    simpa only [Chunk.payload, check, Ne.symm raw_crc, Ne.symm fill_crc, Ne.symm skip_crc, if_true,
      if_false, Option.some.injEq] using known
  have four := List.length_take_of_le room
  refine ⟨⟨_, copy.dst, copy.outputBlocks⟩, ?_, behind.symm, ?_, ?_⟩
  · simp only [check, Ne.symm raw_crc, Ne.symm fill_crc, Ne.symm skip_crc, if_true, if_false,
      not_true_eq_false, four, or_self]
  · simpa only [expansion, raw, fill, skip, if_false, List.append_nil] using stands
  · simp only [Chunk.counted, Chunk.Lays, raw, fill, skip, or_self, if_false, Nat.add_zero]

theorem copyChunks_ok (sized : CHUNK_HEADER_SIZE ≤ sparse.chunkHeaderSize) {left : Nat}
    (fits : ∀ start ∈ starts sparse.chunkHeaderSize left copy.rest,
      Fits sparse.chunkHeaderSize sparse.blockSize start)
    (stands : copy.dst.Stands bytes) :
    ∃ done, copyChunks src sparse left index copy = .ok done ∧
      done.dst.Stands (bytes ++ (starts sparse.chunkHeaderSize left copy.rest).flatMap
        (expansion sparse.chunkHeaderSize sparse.blockSize)) ∧
      done.outputBlocks = copy.outputBlocks + ((starts sparse.chunkHeaderSize left copy.rest).map
        fun start => (chunkAt start).counted).sum := by
  induction left generalizing index copy bytes with
  | zero => exact ⟨copy, rfl, by simpa [starts] using stands, rfl⟩
  | succ left next =>
      have first := fits _ List.mem_cons_self
      obtain ⟨after, copied, behind, laid, counted⟩ :=
        @copyChunk_ok src sparse copy bytes index sized first stands
      have others : ∀ start ∈ starts sparse.chunkHeaderSize left after.rest,
          Fits sparse.chunkHeaderSize sparse.blockSize start := by
        rw [behind]
        exact fun start member => fits start (List.mem_cons_of_mem _ member)
      obtain ⟨done, rest, whole, sum⟩ := next others laid
      rw [behind] at whole sum
      refine ⟨done, ?_, ?_, ?_⟩
      · rw [copyChunks, copied]
        exact rest
      · rwa [List.append_assoc] at whole
      · rw [sum, counted, starts, List.map_cons, List.sum_cons, Nat.add_assoc]

end Strict

def Header.info (head : Header) : Info :=
  { fileHeaderSize := head.fileHeaderSize
    chunkHeaderSize := head.chunkHeaderSize
    blockSize := head.blockSize
    totalBlocks := head.totalBlocks
    totalChunks := head.totalChunks
    logicalSize := head.blockSize * head.totalBlocks }

theorem slice_take {data : Bytes} {size first last : Nat} (within : last ≤ size) :
    slice (data.take size) first last = slice data first last := by
  rw [slice, List.take_take, Nat.min_eq_left within, slice]

theorem androidSparseInfo_ok {src : Source} {head : Header} (known : header src.data = some head)
    (valid : head.Valid) : androidSparseInfo src = .ok (some head.info) := by
  unfold header at known
  split at known
  · next fits =>
      cases known
      have full : (src.data.take HEADER_SIZE).length = HEADER_SIZE :=
        List.length_take_of_le fits.1
      have large : ¬HEADER_SIZE < 4 := by decide
      have within : ∀ first last, last ≤ 28 → slice (src.data.take HEADER_SIZE) first last =
          slice src.data first last := fun first last small => slice_take small
      have version := valid.version
      have header_size := Nat.not_lt.mpr valid.header_size
      have chunk_size := Nat.not_lt.mpr valid.chunk_size
      have blocks := not_or.mpr valid.blocks
      simp only at version header_size chunk_size blocks
      simp only [androidSparseInfo, full, large, within _ _ (show 4 ≤ 28 by decide),
        within _ _ (show 6 ≤ 28 by decide), within _ _ (show 10 ≤ 28 by decide),
        within _ _ (show 12 ≤ 28 by decide), within _ _ (show 16 ≤ 28 by decide),
        within _ _ (show 20 ≤ 28 by decide), within _ _ (show 24 ≤ 28 by decide), fits.2,
        not_true_eq_false, ne_eq, or_self, if_false, version, header_size, chunk_size, blocks]
      rfl
  · cases known

/-- The strict decoder expands the well formed images. -/
theorem copyAndroidSparse_ok {src : Source} {head : Header} (formed : WellFormed head src.data) :
    ∃ out, copyAndroidSparse src {} head.info = .ok out ∧ out.Stands (image head src.data) := by
  obtain ⟨done, copied, laid, counted⟩ := @copyChunks_ok src head.info
    { rest := src.data.drop head.fileHeaderSize, dst := {}, outputBlocks := 0 } [] 0
    formed.valid.chunk_size _ formed.fits .start
  refine ⟨done.dst, ?_, laid⟩
  have total : done.outputBlocks = head.info.totalBlocks := by
    rw [counted]
    exact (Nat.zero_add _).trans formed.complete
  have copied : copyChunks src head.info head.info.totalChunks 0
      { rest := src.data.drop head.info.fileHeaderSize, dst := {}, outputBlocks := 0 } =
        .ok done := copied
  simp only [copyAndroidSparse, bind, Except.bind, copied, total, ne_eq, not_true_eq_false,
    if_false]
  rfl

end Bscp.Images.Sparse
