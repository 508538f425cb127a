import Bscp.LocalRpc.PacketCodec
import Mathlib.Data.List.GetD
import Mathlib.Data.List.Perm.Subperm
import Mathlib.Data.List.Nodup
import Mathlib.Data.List.Range

/-!
What is encoded is decoded: the body, and the handles in their order. What is accepted has
each handle of its two arrays once, and is encoded and decoded again to the same.
-/

namespace Bscp.LocalRpc.PacketCodec

open Transport (kNdrBinderPacketMax kNdrDescriptorMax)

def Kernel.Valid (kernel : Kernel) (handle : Handle) : Prop :=
  missing handle = false ∧
    (kernel.fileType handle = .disk ∨
      kernel.fileType handle = .pipe ∧ kernel.namedPipeInfo handle = none)

theorem Kernel.Valid.classified {kernel : Kernel} {handle : Handle} (valid : kernel.Valid handle) :
    ∃ kind, kernel.classify handle = .ok kind := by
  obtain ⟨present, disk | ⟨pipe, info⟩⟩ := valid
  · exact ⟨.file, by simp [classify, present, disk]⟩
  · exact ⟨.pipe, by simp [classify, present, pipe, info]⟩

theorem classify_present {kernel : Kernel} {handle : Handle} {kind : Kind}
    (classified : kernel.classify handle = .ok kind) : missing handle = false := by
  by_contra absent
  simp [Kernel.classify, Bool.of_not_eq_false absent] at classified

@[simp] theorem Kind.read_code (kind : Kind) : Kind.read kind.code = some kind := by
  cases kind <;> decide

/-! ### The bytes -/

theorem byte_append_right (front back : List UInt8) (position : Nat) :
    byte (front ++ back) (front.length + position) = byte back position := by
  unfold byte
  rw [List.getD_append_right _ _ _ _ (Nat.le_add_right _ _), Nat.add_sub_cancel_left]

theorem u32_read (value : UInt32) : read32 (u32 value) 0 = value := by
  apply UInt32.toBitVec_inj.1
  apply BitVec.eq_of_getLsbD_eq
  intro i bound
  simp only [read32, u32, byte, List.getD_eq_getElem?_getD, zero_add, List.getElem?_cons_zero,
    List.getElem?_cons_succ, Option.getD_some, UInt32.toBitVec_or, UInt32.toBitVec_shiftLeft,
    UInt8.toBitVec_toUInt32, UInt32.toBitVec_toUInt8, UInt32.toBitVec_shiftRight]
  simp
  -- which of the four bytes holds the bit
  grind -ring -linarith

def flat (table : List (UInt8 × UInt8)) : List UInt8 := table.flatMap fun entry => [entry.1, entry.2]

@[simp] theorem flat_length (table : List (UInt8 × UInt8)) :
    (flat table).length = 2 * table.length := by
  induction table with
  | nil => rfl
  | cons entry rest ih =>
      simp only [flat, List.flatMap_cons, List.length_append, List.length_cons, List.length_nil]
      have tail : (flat rest).length = 2 * rest.length := ih
      unfold flat at tail
      omega

theorem flat_read (table : List (UInt8 × UInt8)) (back : List UInt8) :
    (List.range table.length).map
      (fun i => (byte (flat table ++ back) (2 * i), byte (flat table ++ back) (1 + 2 * i))) =
        table := by
  induction table with
  | nil => rfl
  | cons entry rest ih =>
      rw [List.length_cons, List.range_succ_eq_map, List.map_cons, List.map_map]
      -- two bytes further on, the rest of the table
      exact congrArg (List.cons entry) ih

theorem entries_read {front back : List UInt8} (table : List (UInt8 × UInt8))
    (size : front.length = headerSize) :
    entries (front ++ (flat table ++ back)) table.length = table := by
  refine Eq.trans (List.map_congr_left fun i _ => ?_) (flat_read table back)
  rw [← size, Nat.add_assoc, byte_append_right, byte_append_right]

/-! ### From the handles to the table and back -/

@[simp] theorem push_typed (e : Encoded) (handle : Handle) (kind other : Kind) :
    (e.push handle kind).typed other = e.typed other ++ if other = kind then [handle] else [] := by
  cases kind <;> cases other <;> simp [Encoded.push, Encoded.typed]

theorem push_bytes (e : Encoded) (handle : Handle) (kind : Kind) :
    (e.push handle kind).bytes = e.bytes ++ [kind.code, UInt8.ofNat (e.typed kind).length] := by
  cases kind <;> rfl

theorem push_size (e : Encoded) (handle : Handle) (kind : Kind) :
    (e.push handle kind).files.length + (e.push handle kind).pipes.length =
      e.files.length + e.pipes.length + 1 := by
  cases kind <;> simp [Encoded.push] <;> omega

def Shows (v : View) (copy : Handle → Handle) (e : Encoded) : Prop :=
  ∀ kind, (v.typed kind).count = (e.typed kind).length ∧
    (v.typed kind).list = (e.typed kind).map copy

def Loop.Meets (l : Loop) (e : Encoded) : Prop :=
  ∀ kind position, l.used kind position = true ↔ position < (e.typed kind).length

theorem Loop.Meets.take {l : Loop} {e : Encoded} (meets : l.Meets e) (kind : Kind)
    (handle copied : Handle) :
    (l.take kind (e.typed kind).length copied).Meets (e.push handle kind) := by
  intro other position
  have before := meets other position
  simp only [Loop.take, Bool.or_eq_true, before, Bool.and_eq_true, decide_eq_true_eq, push_typed,
    List.length_append]
  by_cases same : other = kind
  · subst same
    simp only [true_and, if_true, List.length_singleton]
    omega
  · simp [same]

variable {kernel : Kernel} {memory : Nat → Bool}

/-- One round of the encoder. -/
theorem pack_cons {handle : Handle} {rest : List Handle} {encoded final : Encoded}
    (packed : pack kernel memory (handle :: rest) encoded = .ok final) :
    ∃ kind, kernel.classify handle = .ok kind ∧
      pack kernel memory rest (encoded.push handle kind) = .ok final := by
  unfold pack at packed
  split at packed
  · cases packed
  · rename_i kind classified
    split at packed
    · exact ⟨kind, classified, packed⟩
    · cases packed

theorem pack_extends {handles : List Handle} {encoded final : Encoded}
    (packed : pack kernel memory handles encoded = .ok final) (kind : Kind) :
    ∃ more, final.typed kind = encoded.typed kind ++ more := by
  induction handles generalizing encoded with
  | nil =>
      cases packed
      exact ⟨[], (List.append_nil _).symm⟩
  | cons handle rest ih =>
      obtain ⟨chosen, -, next⟩ := pack_cons packed
      obtain ⟨more, tail⟩ := ih next
      rw [push_typed, List.append_assoc] at tail
      exact ⟨_, tail⟩

theorem pack_size {handles : List Handle} {encoded final : Encoded}
    (packed : pack kernel memory handles encoded = .ok final) :
    final.files.length + final.pipes.length =
      encoded.files.length + encoded.pipes.length + handles.length := by
  induction handles generalizing encoded with
  | nil =>
      cases packed
      rfl
  | cons handle rest ih =>
      obtain ⟨chosen, -, next⟩ := pack_cons packed
      have tail := ih next
      rw [push_size] at tail
      rw [tail, List.length_cons]
      omega

/-- The two arrays, read back in the order of the table. -/
theorem unpack_pack {handles : List Handle} {encoded final : Encoded}
    (packed : pack kernel memory handles encoded = .ok final)
    (small : ∀ kind, (final.typed kind).length ≤ kNdrDescriptorMax) :
    ∃ table, table.length = handles.length ∧ final.bytes = encoded.bytes ++ flat table ∧
      ∀ (copy : Handle → Handle) (v : View) (loop : Loop), Shows v copy final →
        (∀ handle ∈ handles, missing (copy handle) = false) → loop.Meets encoded →
        ∃ after, unpack v table loop = .ok after ∧
          after.orderedHandles = loop.orderedHandles ++ handles.map copy := by
  induction handles generalizing encoded with
  | nil =>
      cases packed
      refine ⟨[], rfl, (List.append_nil _).symm, fun copy v loop _ _ _ => ⟨loop, rfl, ?_⟩⟩
      exact (List.append_nil _).symm
  | cons handle rest ih =>
      obtain ⟨kind, -, next⟩ := pack_cons packed
      obtain ⟨table, size, bytes, reads⟩ := ih next
      refine ⟨(kind.code, UInt8.ofNat (encoded.typed kind).length) :: table,
        congrArg (· + 1) size, ?_, ?_⟩
      · rw [bytes, push_bytes, List.append_assoc]
        rfl
      · intro copy v loop shows present meets
        -- where the handle stands in its array
        obtain ⟨more, final_eq⟩ := pack_extends next kind
        rw [push_typed, if_pos rfl, List.append_assoc] at final_eq
        have inside : (encoded.typed kind).length < (final.typed kind).length := by
          rw [final_eq]
          simp
        have index : (UInt8.ofNat (encoded.typed kind).length).toNat =
            (encoded.typed kind).length := by
          have bound := small kind
          unfold kNdrDescriptorMax at bound
          exact UInt8.toNat_ofNat_of_lt' (by unfold UInt8.size; omega)
        have found : (v.typed kind).list.getD (encoded.typed kind).length 0 = copy handle := by
          rw [(shows kind).2, final_eq]
          simp [List.getD_eq_getElem?_getD]
        have free : loop.used kind (encoded.typed kind).length = false := by
          rw [← Bool.not_eq_true, meets]
          exact lt_irrefl _
        obtain ⟨after, done, ordered⟩ := reads copy v (loop.take kind _ (copy handle)) shows
          (fun other member => present other (List.mem_cons_of_mem _ member))
          (meets.take kind handle (copy handle))
        refine ⟨after, ?_, ?_⟩
        · rw [unpack, Kind.read_code]
          simp only [index, (shows kind).1, Nat.not_le.2 inside, free, found,
            present handle List.mem_cons_self, decide_false, Bool.or_self, Bool.false_eq_true,
            if_false]
          exact done
        · rw [ordered, Loop.take, List.append_assoc]
          rfl

/-! ### The header -/

@[simp] theorem header_length (handles body : Nat) : (header handles body).length = headerSize := rfl

theorem header_body {handles body : Nat} (rest : List UInt8) (small : body ≤ kNdrBinderPacketMax) :
    (read32 (header handles body ++ rest) 8).toNat = body := by
  have word : read32 (header handles body ++ rest) 8 = read32 (u32 (UInt32.ofNat body)) 0 := rfl
  rw [word, u32_read]
  unfold kNdrBinderPacketMax at small
  exact UInt32.toNat_ofNat_of_lt' (by unfold UInt32.size; omega)

theorem header_count {handles body : Nat} (rest : List UInt8) (small : handles ≤ kNdrDescriptorMax) :
    (byte (header handles body ++ rest) 6).toNat = handles := by
  have entry : byte (header handles body ++ rest) 6 = UInt8.ofNat handles := rfl
  rw [entry]
  unfold kNdrDescriptorMax at small
  exact UInt8.toNat_ofNat_of_lt' (by unfold UInt8.size; omega)

/-- Nothing is null that has something in it. -/
def View.Sound (v : View) : Prop :=
  ∀ kind, (v.typed kind).isNull = true → (v.typed kind).count = 0

theorem sound_iff {v : View} :
    v.Sound ↔ (v.files.isNull = true → v.files.count = 0) ∧
      (v.pipes.isNull = true → v.pipes.count = 0) := by
  constructor
  · intro sound
    exact ⟨sound .file, sound .pipe⟩
  · rintro ⟨files, pipes⟩ (_ | _)
    · exact files
    · exact pipes

theorem fits_iff {v : View} :
    v.fits = true ↔ v.data.isNull = false ∧ headerSize ≤ v.data.count ∧
      v.data.count ≤ kNdrEnvelopeMax ∧ v.files.count + v.pipes.count ≤ kNdrDescriptorMax ∧
      v.Sound := by
  rw [sound_iff]
  simp only [View.fits, Bool.and_eq_true, decide_eq_true_eq, Bool.not_eq_true',
    Bool.and_eq_false_imp, bne_eq_false_iff_eq]
  constructor
  · rintro ⟨⟨⟨⟨⟨⟨⟨data, least⟩, most⟩, -⟩, -⟩, both⟩, files⟩, pipes⟩
    exact ⟨data, least, most, both, files, pipes⟩
  · rintro ⟨data, least, most, both, files, pipes⟩
    exact ⟨⟨⟨⟨⟨⟨⟨data, least⟩, most⟩, by omega⟩, by omega⟩, both⟩, files⟩, pipes⟩

/-- A packet with its table and its body passes every check before the loop. -/
theorem decode_packet {v : View} {table : List (UInt8 × UInt8)} {body : List UInt8}
    (data : v.data = .items (header table.length body.length ++ (flat table ++ body)))
    (arrays : v.files.count + v.pipes.count = table.length)
    (few : table.length ≤ kNdrDescriptorMax) (small : body.length ≤ kNdrBinderPacketMax)
    (sound : v.Sound) (room : Bool) :
    decodeWindowsNdrPacket room v =
      if !room then (some .notEnoughMemory, {}) else conclude body (unpack v table {}) := by
  have count := @header_count table.length body.length (flat table ++ body) few
  have size := @header_body table.length body.length (flat table ++ body) small
  have total : v.data.count = headerSize + 2 * table.length + body.length := by
    rw [data, Span.count, List.length_append, List.length_append, header_length, flat_length]
    omega
  have fits : v.fits = true := by
    rw [fits_iff, total, arrays]
    unfold kNdrEnvelopeMax
    refine ⟨by rw [data]; rfl, ?_, ?_, few, sound⟩ <;> omega
  have table_read := @entries_read _ body table (header_length table.length body.length)
  have body_read : ((header table.length body.length ++ (flat table ++ body)).drop
      (headerSize + 2 * table.length)).take body.length = body := by
    rw [← List.append_assoc, List.drop_left' (by simp), List.take_length]
  -- the bytes that are fixed
  have start : (header table.length body.length ++ (flat table ++ body)).take 4 = magic := rfl
  have version : byte (header table.length body.length ++ (flat table ++ body)) 4 = 1 := rfl
  have fifth : byte (header table.length body.length ++ (flat table ++ body)) 5 = 0 := rfl
  have seventh : byte (header table.length body.length ++ (flat table ++ body)) 7 = 0 := rfl
  have last : read32 (header table.length body.length ++ (flat table ++ body)) 12 = 0 := by
    change read32 [0, 0, 0, 0] 0 = 0
    decide
  unfold decodeWindowsNdrPacket
  rw [fits, total, data]
  dsimp only [Span.list]
  rw [count, size, table_read, arrays, start, version, fifth, seventh, last, body_read]
  simp [Nat.not_lt.2 small]

/-! ### From a packet to its record -/

theorem stored_list {α : Type} (list : List α) : (stored list).list = list := by
  unfold stored
  split
  · exact ‹list = []›.symm
  · rfl

theorem stored_count {α : Type} (list : List α) : (stored list).count = list.length := by
  unfold stored
  split
  · rename_i empty
    rw [empty]
    rfl
  · rfl

theorem stored_null {α : Type} (list : List α) (null : (stored list).isNull = true) :
    (stored list).count = 0 := by
  unfold stored at null ⊢
  split at null
  · rw [if_pos ‹_›]
    rfl
  · cases null

theorem classify_kind {handle : Handle} {kind : Kind}
    (classified : kernel.classify handle = .ok kind) (copying : Copying) :
    copyHandle kernel copying kind handle = copying.duplicate handle := by
  unfold Kernel.classify at classified
  split at classified
  · cases classified
  · split at classified
    · cases classified
      simp [copyHandle, *]
    · split at classified
      · cases classified
      · cases classified
        simp [copyHandle, *]
    · cases classified

/-- The arrays of a packet hold what belongs there. -/
theorem pack_sorted {handles : List Handle} {encoded final : Encoded}
    (packed : pack kernel memory handles encoded = .ok final)
    (sorted : ∀ kind, ∀ handle ∈ encoded.typed kind, kernel.classify handle = .ok kind) :
    ∀ kind, ∀ handle ∈ final.typed kind, kernel.classify handle = .ok kind := by
  induction handles generalizing encoded with
  | nil =>
      cases packed
      exact sorted
  | cons handle rest ih =>
      obtain ⟨chosen, classified, next⟩ := pack_cons packed
      apply ih next
      intro kind other member
      rw [push_typed, List.mem_append] at member
      rcases member with before | now
      · exact sorted kind other before
      · split at now
        · rename_i same
          rw [List.mem_singleton.1 now, same]
          exact classified
        · cases now

theorem mapM_ok {α β : Type} {f : α → Except Failure β} {g : α → β} {list : List α}
    (all : ∀ item ∈ list, f item = .ok (g item)) : list.mapM f = .ok (list.map g) := by
  induction list with
  | nil => rfl
  | cons item rest ih =>
      rw [List.mapM_cons, all item List.mem_cons_self,
        ih fun other member => all other (List.mem_cons_of_mem _ member)]
      rfl

/-- With memory, and with every handle duplicated, a packet becomes a record. -/
theorem makeRecord_ok {e : Encoded} {copying : Copying} {copy : Handle → Handle}
    (within : e.view.withinRecord = true) (memory : ∀ i, copying.memory i = true)
    (duplicates : ∀ handle, copying.duplicate handle = .ok (copy handle))
    (sorted : ∀ kind, ∀ handle ∈ e.typed kind, kernel.classify handle = .ok kind)
    (token : Option Handle) :
    makeRecord kernel copying e.view token =
      .ok ⟨stored e.bytes, stored (e.files.map copy), stored (e.pipes.map copy)⟩ := by
  have files : e.files.mapM (copyHandle kernel copying .file) = .ok (e.files.map copy) := by
    apply mapM_ok
    intro handle member
    rw [classify_kind (sorted .file handle member), duplicates]
  have pipes : e.pipes.mapM (copyHandle kernel copying .pipe) = .ok (e.pipes.map copy) := by
    apply mapM_ok
    intro handle member
    rw [classify_kind (sorted .pipe handle member), duplicates]
  unfold makeRecord
  rw [within]
  simp only [memory, Bool.not_true, Bool.and_false, Bool.or_self, Bool.false_eq_true, if_false]
  simp only [Encoded.view, Span.list, files, pipes]
  cases token with
  | none => rfl
  | some token =>
      simp only [duplicates]
      rfl

/-! ### What the encoder answers -/

/-- With handles that are valid, only the memory can fail. -/
theorem pack_valid {handles : List Handle} {encoded : Encoded}
    (valid : ∀ handle ∈ handles, kernel.Valid handle) :
    (∃ final, pack kernel memory handles encoded = .ok final) ∨
      pack kernel memory handles encoded = .error .notEnoughMemory ∧
        ∃ i, 0 < i ∧ i ≤ encoded.files.length + encoded.pipes.length + handles.length ∧
          memory i = false := by
  induction handles generalizing encoded with
  | nil => exact .inl ⟨encoded, rfl⟩
  | cons handle rest ih =>
      obtain ⟨kind, classified⟩ := (valid handle List.mem_cons_self).classified
      rw [pack, classified]
      dsimp only
      split
      · rcases ih fun other member => valid other (List.mem_cons_of_mem _ member) with
          ok | ⟨failed, i, positive, bound, short⟩
        · exact .inl ok
        · rw [push_size] at bound
          refine .inr ⟨failed, i, positive, ?_, short⟩
          rw [List.length_cons]
          omega
      · rename_i short
        refine .inr ⟨rfl, _, Nat.succ_pos _, ?_, Bool.eq_false_of_not_eq_true short⟩
        rw [List.length_cons]
        omega

structure Packed (kernel : Kernel) (body : List UInt8) (handles : List Handle) (e : Encoded) :
    Prop where
  few : handles.length ≤ kNdrDescriptorMax
  small : body.length ≤ kNdrBinderPacketMax
  size : e.files.length + e.pipes.length = handles.length
  sorted : ∀ kind, ∀ handle ∈ e.typed kind, kernel.classify handle = .ok kind
  bytes : ∃ table, table.length = handles.length ∧
    e.bytes = header handles.length body.length ++ (flat table ++ body) ∧
    ∀ (copy : Handle → Handle) (v : View), Shows v copy e →
      (∀ handle ∈ handles, missing (copy handle) = false) →
      ∃ after, unpack v table {} = .ok after ∧ after.orderedHandles = handles.map copy

theorem encode_packed {body : List UInt8} {handles : List Handle} {e : Encoded}
    (encoded : encodeWindowsNdrPacket kernel memory body handles = (none, e)) :
    Packed kernel body handles e := by
  unfold encodeWindowsNdrPacket at encoded
  split at encoded
  · cases encoded
  · rename_i within
    simp only [Bool.or_eq_true, decide_eq_true_eq, not_or, Nat.not_lt] at within
    split at encoded
    · cases encoded
    · split at encoded
      · cases encoded
      · rename_i final packed
        cases encoded
        have size := pack_size packed
        simp only [List.length_nil, Nat.zero_add] at size
        have few : ∀ kind, (final.typed kind).length ≤ kNdrDescriptorMax := by
          intro kind
          cases kind <;> simp only [Encoded.typed] <;> omega
        obtain ⟨table, count, bytes, reads⟩ := unpack_pack packed few
        constructor
        · exact within.2
        · exact within.1
        · exact size
        · have sorted := pack_sorted packed (by intro kind handle member; cases kind <;> cases member)
          intro kind
          cases kind with
          | file => exact sorted .file
          | pipe => exact sorted .pipe
        · refine ⟨table, count, ?_, fun copy v shows present => ?_⟩
          · rw [bytes, List.append_assoc]
          · obtain ⟨after, done, ordered⟩ := reads copy v {} shows present
              (by intro kind position; cases kind <;> simp [Encoded.typed])
            exact ⟨after, done, ordered⟩

theorem pack_present {handles : List Handle} {encoded final : Encoded}
    (packed : pack kernel memory handles encoded = .ok final) :
    ∀ handle ∈ handles, missing handle = false := by
  induction handles generalizing encoded with
  | nil => nofun
  | cons handle rest ih =>
      obtain ⟨kind, classified, next⟩ := pack_cons packed
      intro other member
      rcases List.mem_cons.1 member with rfl | later
      · exact classify_present classified
      · exact ih next other later

theorem encode_present {body : List UInt8} {handles : List Handle} {e : Encoded}
    (encoded : encodeWindowsNdrPacket kernel memory body handles = (none, e)) :
    ∀ handle ∈ handles, missing handle = false := by
  unfold encodeWindowsNdrPacket at encoded
  split at encoded
  · cases encoded
  · split at encoded
    · cases encoded
    · split at encoded
      · cases encoded
      · rename_i packed
        exact pack_present packed

theorem encode_valid {body : List UInt8} {handles : List Handle}
    (small : body.length ≤ kNdrBinderPacketMax) (few : handles.length ≤ kNdrDescriptorMax)
    (valid : ∀ handle ∈ handles, kernel.Valid handle) :
    (∃ e, encodeWindowsNdrPacket kernel memory body handles = (none, e)) ∨
      encodeWindowsNdrPacket kernel memory body handles = (some .notEnoughMemory, {}) ∧
        ∃ i ≤ handles.length, memory i = false := by
  unfold encodeWindowsNdrPacket
  rw [if_neg (by simp only [Bool.or_eq_true, decide_eq_true_eq]; omega)]
  split
  · rename_i short
    exact .inr ⟨rfl, 0, Nat.zero_le _, by simpa using short⟩
  · rcases @pack_valid kernel memory handles { bytes := header handles.length body.length } valid
      with ⟨final, packed⟩ | ⟨failed, i, -, bound, short⟩
    · rw [packed]
      exact .inl ⟨_, rfl⟩
    · rw [failed]
      simp only [List.length_nil, Nat.zero_add] at bound
      exact .inr ⟨rfl, i, bound, short⟩

namespace Packed

variable {body : List UInt8} {handles : List Handle} {e : Encoded}

theorem total (packed : Packed kernel body handles e) :
    e.bytes.length = headerSize + 2 * handles.length + body.length := by
  obtain ⟨table, count, bytes, -⟩ := packed.bytes
  rw [bytes, List.length_append, List.length_append, header_length, flat_length, count]
  omega

theorem withinRecord (packed : Packed kernel body handles e) : e.view.withinRecord = true := by
  have total := packed.total
  have few := packed.few
  have small := packed.small
  have size := packed.size
  unfold kNdrDescriptorMax at few
  unfold kNdrBinderPacketMax at small
  unfold headerSize at total
  have least : e.bytes.length ≤ maxBytes := by
    unfold maxBytes
    omega
  have most : e.files.length + e.pipes.length ≤ maxHandles := by
    unfold maxHandles
    omega
  have files : e.files.length ≤ maxHandles := by omega
  have pipes : e.pipes.length ≤ maxHandles := by omega
  simp [View.withinRecord, Encoded.view, Span.count, Span.isNull, least, most, files, pipes]

/-- Any view of the packet, through a copy of its handles, gives all of it back. -/
theorem decode (packed : Packed kernel body handles e) {v : View} {copy : Handle → Handle}
    (data : v.data = .items e.bytes) (shows : Shows v copy e) (sound : v.Sound)
    (present : ∀ handle ∈ handles, missing (copy handle) = false) (room : Bool) :
    decodeWindowsNdrPacket room v =
      if !room then (some .notEnoughMemory, {}) else (none, ⟨body, handles.map copy⟩) := by
  obtain ⟨table, count, bytes, reads⟩ := packed.bytes
  obtain ⟨after, done, ordered⟩ := reads copy v shows present
  rw [bytes, ← count] at data
  have arrays : v.files.count + v.pipes.count = table.length := by
    have files := (shows .file).1
    have pipes := (shows .pipe).1
    have size := packed.size
    simp only [View.typed, Encoded.typed] at files pipes
    omega
  rw [decode_packet data arrays (count ▸ packed.few) packed.small sound, done, conclude, ordered]

theorem view_sound (e : Encoded) : e.view.Sound := by
  intro kind null
  cases kind <;> cases null

theorem decode_view (packed : Packed kernel body handles e)
    (present : ∀ handle ∈ handles, missing handle = false) (room : Bool) :
    decodeWindowsNdrPacket room e.view =
      if !room then (some .notEnoughMemory, {}) else (none, ⟨body, handles⟩) := by
  have shows : Shows e.view id e := by
    intro kind
    cases kind <;> exact ⟨rfl, (List.map_id _).symm⟩
  have decoded := packed.decode rfl shows (view_sound e) present room
  rwa [List.map_id] at decoded

/-- The record that the bridge makes of it gives back the copies of the handles. -/
theorem decode_record (packed : Packed kernel body handles e) {copying : Copying}
    {copy : Handle → Handle} (memory : ∀ i, copying.memory i = true)
    (duplicates : ∀ handle, copying.duplicate handle = .ok (copy handle))
    (present : ∀ handle ∈ handles, missing (copy handle) = false) (token : Option Handle)
    (room : Bool) :
    ∃ record, makeRecord kernel copying e.view token = .ok record ∧
      decodeWindowsNdrPacket room record =
        if !room then (some .notEnoughMemory, {}) else (none, ⟨body, handles.map copy⟩) := by
  refine ⟨_, makeRecord_ok packed.withinRecord memory duplicates packed.sorted token, ?_⟩
  apply packed.decode
  · -- there is always a header
    have size := packed.total
    unfold headerSize at size
    exact if_neg fun empty => by rw [empty, List.length_nil] at size; omega
  · intro kind
    cases kind <;> exact ⟨(stored_count _).trans (List.length_map _), stored_list _⟩
  · intro kind
    cases kind <;> exact stored_null _
  · exact present

end Packed

/-! ### What the decoder accepts -/

def View.slots (v : View) : List (Kind × Nat) :=
  (List.range v.files.count).map (Prod.mk Kind.file) ++
    (List.range v.pipes.count).map (Prod.mk Kind.pipe)

def View.at (v : View) (slot : Kind × Nat) : Handle := (v.typed slot.1).list.getD slot.2 0

/-- The slots that the loop takes: in range, and none twice. -/
theorem unpack_slots {v : View} {table : List (UInt8 × UInt8)} {loop after : Loop}
    (done : unpack v table loop = .ok after) :
    ∃ slots : List (Kind × Nat), slots.length = table.length ∧ slots.Nodup ∧
      (∀ slot ∈ slots, slot.2 < (v.typed slot.1).count ∧ loop.used slot.1 slot.2 = false ∧
        missing (v.at slot) = false) ∧
      after.orderedHandles = loop.orderedHandles ++ slots.map v.at := by
  induction table generalizing loop with
  | nil =>
      cases done
      exact ⟨[], rfl, List.nodup_nil, nofun, (List.append_nil _).symm⟩
  | cons entry rest ih =>
      obtain ⟨code, index⟩ := entry
      rw [unpack] at done
      split at done
      · cases done
      · rename_i kind _
        split at done
        · cases done
        · rename_i checked
          simp only [Bool.or_eq_true, decide_eq_true_eq, not_or, Nat.not_le,
            Bool.not_eq_true] at checked
          dsimp only at done
          split at done
          · cases done
          · rename_i present
            obtain ⟨slots, size, unique, each, ordered⟩ := ih done
            refine ⟨(kind, index.toNat) :: slots, congrArg (· + 1) size, ?_, ?_, ?_⟩
            · -- the flag that was set keeps the others away
              refine List.nodup_cons.2 ⟨fun again => ?_, unique⟩
              have flag := (each _ again).2.1
              simp [Loop.take] at flag
            · intro slot member
              rcases List.mem_cons.1 member with rfl | later
              · exact ⟨checked.1, checked.2, Bool.eq_false_of_not_eq_true present⟩
              · obtain ⟨bound, flag, there⟩ := each slot later
                simp only [Loop.take, Bool.or_eq_false_iff] at flag
                exact ⟨bound, flag.1, there⟩
            · rw [ordered, Loop.take, List.append_assoc]
              rfl

theorem slots_at {v : View} (sound : v.Sound) :
    v.slots.map v.at = v.files.list ++ v.pipes.list := by
  have each : ∀ kind, (List.range (v.typed kind).count).map (fun i => v.at (kind, i)) =
      (v.typed kind).list := by
    intro kind
    have size : (v.typed kind).count = (v.typed kind).list.length := by
      have null := sound kind
      cases span : v.typed kind with
      | null count =>
          rw [span] at null
          exact null rfl
      | items list => rfl
    rw [size]
    unfold View.at
    apply List.ext_getElem
    · simp
    · intro i before after
      simp [List.getD_eq_getElem?_getD, after]
  unfold View.slots
  rw [List.map_append, List.map_map, List.map_map]
  exact congrArg₂ (· ++ ·) (each .file) (each .pipe)

/-- Equal counts and unique indices in range: no handle is left out. -/
theorem slots_all {v : View} {slots : List (Kind × Nat)} (unique : slots.Nodup)
    (bound : ∀ slot ∈ slots, slot.2 < (v.typed slot.1).count)
    (size : slots.length = v.files.count + v.pipes.count) : slots.Perm v.slots := by
  have inside : slots ⊆ v.slots := by
    intro slot member
    have within := bound slot member
    obtain ⟨kind, index⟩ := slot
    unfold View.slots
    rw [List.mem_append]
    cases kind with
    | file => exact .inl (List.mem_map.2 ⟨index, List.mem_range.2 within, rfl⟩)
    | pipe => exact .inr (List.mem_map.2 ⟨index, List.mem_range.2 within, rfl⟩)
  apply (List.subperm_of_subset unique inside).perm_of_length_le
  rw [size]
  simp [View.slots]

structure Accepted (v : View) (out : Decoded) : Prop where
  small : out.binderBytes.length ≤ kNdrBinderPacketMax
  few : out.orderedHandles.length ≤ kNdrDescriptorMax
  perm : out.orderedHandles.Perm (v.files.list ++ v.pipes.list)
  present : ∀ handle ∈ out.orderedHandles, missing handle = false

theorem decode_accepted {room : Bool} {v : View} {out : Decoded}
    (decoded : decodeWindowsNdrPacket room v = (none, out)) : Accepted v out := by
  unfold decodeWindowsNdrPacket at decoded
  dsimp only at decoded
  split at decoded
  · cases decoded
  · rename_i fits
    split at decoded
    · cases decoded
    · split at decoded
      · cases decoded
      · split at decoded
        · cases decoded
        · rename_i counts
          split at decoded
          · cases decoded
          · cases done : unpack v (entries v.data.list (byte v.data.list 6).toNat) {} with
            | error failure =>
                rw [done] at decoded
                cases decoded
            | ok loop =>
                rw [done] at decoded
                cases decoded
                simp only [Bool.or_eq_true, decide_eq_true_eq, not_or, not_not, Nat.not_lt,
                  ne_eq] at counts
                rw [Bool.not_eq_true', Bool.not_eq_false, fits_iff] at fits
                obtain ⟨-, -, -, few, sound⟩ := fits
                obtain ⟨slots, size, unique, each, ordered⟩ := unpack_slots done
                rw [List.nil_append] at ordered
                have length : slots.length = v.files.count + v.pipes.count := by
                  rw [size, entries, List.length_map, List.length_range]
                  exact counts.1.1
                have all := slots_all unique (fun slot member => (each slot member).1) length
                constructor
                · exact (List.length_take_le _ _).trans counts.1.2
                · rw [ordered, List.length_map, length]
                  exact few
                · rw [ordered, ← slots_at sound]
                  exact all.map v.at
                · intro handle member
                  rw [ordered, List.mem_map] at member
                  obtain ⟨slot, found, rfl⟩ := member
                  exact (each slot found).2.2

theorem decode_rejected {room : Bool} {v : View} {failure : Failure} {out : Decoded}
    (decoded : decodeWindowsNdrPacket room v = (some failure, out)) : out = {} := by
  unfold decodeWindowsNdrPacket conclude at decoded
  dsimp only at decoded
  repeat' split at decoded
  all_goals first | exact ((Prod.mk.inj decoded).2).symm | cases decoded

def Kernel.Agrees (kernel : Kernel) (v : View) : Prop :=
  (∀ handle ∈ v.files.list, kernel.fileType handle = .disk) ∧
    ∀ handle ∈ v.pipes.list,
      kernel.fileType handle = .pipe ∧ kernel.namedPipeInfo handle = none

theorem Accepted.valid {v : View} {out : Decoded} (accepted : Accepted v out)
    (agrees : kernel.Agrees v) : ∀ handle ∈ out.orderedHandles, kernel.Valid handle := by
  intro handle member
  refine ⟨accepted.present handle member, ?_⟩
  rcases List.mem_append.1 (accepted.perm.mem_iff.1 member) with file | pipe
  · exact .inl (agrees.1 handle file)
  · exact .inr (agrees.2 handle pipe)

/-- What the encoder answers for a body and handles, when their number is within the limits:
a packet that the bridge takes and that decodes to them, or else it had no memory. -/
def Encodes (kernel : Kernel) (memory : Nat → Bool) (body : List UInt8) (handles : List Handle) :
    Prop :=
  (encodeWindowsNdrPacket kernel memory body handles = (some .notEnoughMemory, {}) ∧
      ∃ i ≤ handles.length, memory i = false) ∨
    ∃ e, encodeWindowsNdrPacket kernel memory body handles = (none, e) ∧
      e.view.withinRecord = true ∧
      (∀ room, decodeWindowsNdrPacket room e.view =
        if !room then (some .notEnoughMemory, {}) else (none, ⟨body, handles⟩)) ∧
      ∀ (copying : Copying) (copy : Handle → Handle) (token : Option Handle) (room : Bool),
        (∀ i, copying.memory i = true) →
        (∀ handle, copying.duplicate handle = .ok (copy handle)) →
        (∀ handle ∈ handles, missing (copy handle) = false) →
        ∃ record, makeRecord kernel copying e.view token = .ok record ∧
          decodeWindowsNdrPacket room record =
            if !room then (some .notEnoughMemory, {}) else (none, ⟨body, handles.map copy⟩)

theorem encodes {body : List UInt8} {handles : List Handle}
    (small : body.length ≤ kNdrBinderPacketMax) (few : handles.length ≤ kNdrDescriptorMax)
    (valid : ∀ handle ∈ handles, kernel.Valid handle) : Encodes kernel memory body handles := by
  rcases @encode_valid kernel memory body handles small few valid with ⟨e, encoded⟩ | failed
  · have packed := encode_packed encoded
    refine .inr ⟨e, encoded, packed.withinRecord, fun room => ?_, ?_⟩
    · exact packed.decode_view (fun handle member => (valid handle member).1) room
    · intro copying copy token room enough duplicates present
      exact packed.decode_record enough duplicates present token room
  · exact .inl failed

/-- A body and handles of files and named pipes, within the limits, are encoded, pass the
bridge and are decoded as they were; a view is accepted only if its table names each handle of
the two arrays once, what it gives is encoded and decoded again to the same, and any other view
is rejected with nothing given out. -/
theorem packets_round_trip (kernel : Kernel) :
    (∀ (memory : Nat → Bool) (body : List UInt8) (handles : List Handle),
      body.length ≤ kNdrBinderPacketMax → handles.length ≤ kNdrDescriptorMax →
      (∀ handle ∈ handles, kernel.Valid handle) → Encodes kernel memory body handles) ∧
    ∀ (room : Bool) (v : View),
      (∃ out, decodeWindowsNdrPacket room v = (none, out) ∧
        out.orderedHandles.Perm (v.files.list ++ v.pipes.list) ∧
        (kernel.Agrees v → ∀ memory, Encodes kernel memory out.binderBytes out.orderedHandles)) ∨
      ∃ failure, decodeWindowsNdrPacket room v = (some failure, {}) := by
  constructor
  · intro memory body handles small few valid
    exact encodes small few valid
  · intro room v
    cases result : decodeWindowsNdrPacket room v with
    | mk status out =>
        cases status with
        | none =>
            have accepted := decode_accepted result
            refine .inl ⟨out, rfl, accepted.perm, fun agrees memory => ?_⟩
            exact encodes accepted.small accepted.few (accepted.valid agrees)
        | some failure =>
            cases decode_rejected result
            exact .inr ⟨failure, rfl⟩

def sampleKernel : Kernel where
  fileType := fun handle => if handle < 100 then .disk else .pipe
  namedPipeInfo := fun _ => none

theorem packet_sample :
    Encodes sampleKernel (fun _ => true) [7, 8, 9] [104, 4, 108] ∧
      decodeWindowsNdrPacket true
        (encodeWindowsNdrPacket sampleKernel (fun _ => true) [7, 8, 9] [104, 4, 108]).2.view =
          (none, ⟨[7, 8, 9], [104, 4, 108]⟩) :=
  ⟨(packets_round_trip sampleKernel).1 (fun _ => true) [7, 8, 9] [104, 4, 108] (by decide)
      (by decide) (by simp [Kernel.Valid, missing, sampleKernel, invalidHandleValue]),
    by decide⟩

end Bscp.LocalRpc.PacketCodec
