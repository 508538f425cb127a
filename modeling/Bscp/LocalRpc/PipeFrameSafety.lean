import Bscp.LocalRpc.PacketCodecRoundTrip
import Bscp.LocalRpc.PipeFrame
import Bscp.Machine

/-!
The frames are invisible: what is read on one end is what was written on the other, in its
order, and never a byte of a header. The stream of an end is read item by item as `Framing`
does; the calls keep in step with it.
-/

namespace Bscp.LocalRpc.PipeFrame

/-! ### The byte transport -/

structure Transferred (m : Moved) (wanted available : Nat) : Prop where
  advanced : m.advanced ≤ m.moved
  there : m.moved ≤ available
  asked : m.moved ≤ wanted
  all : m.status = some .ok → m.advanced = wanted
  pending : m.status = none → m.advanced = m.moved

theorem sum_dropWhile (lens : List Nat) : (lens.dropWhile (· = 0)).sum = lens.sum := by
  induction lens with
  | nil => rfl
  | cons len rest ih =>
      rw [List.dropWhile_cons]
      split
      · rename_i empty
        rw [ih, List.sum_cons, of_decide_eq_true empty, Nat.zero_add]
      · rfl

theorem transferLoop_spec (chunks : List Chunk) (lens : List Nat) (available : Nat) :
    Transferred (transferLoop chunks lens available) lens.sum available := by
  induction chunks generalizing lens available with
  | nil =>
      unfold transferLoop
      rw [← sum_dropWhile]
      cases lens.dropWhile (· = 0) with
      | nil => exact ⟨le_rfl, Nat.zero_le _, le_rfl, fun _ => rfl, nofun⟩
      | cons len rest => exact ⟨le_rfl, Nat.zero_le _, Nat.zero_le _, nofun, fun _ => rfl⟩
  | cons chunk more ih =>
      unfold transferLoop
      rw [← sum_dropWhile]
      cases lens.dropWhile (· = 0) with
      | nil => exact ⟨le_rfl, Nat.zero_le _, le_rfl, fun _ => rfl, nofun⟩
      | cons len rest =>
        rw [List.sum_cons]
        dsimp only
        have small : min (min chunk.bytes (min len maxRequest)) available ≤ len := by omega
        have there : min (min chunk.bytes (min len maxRequest)) available ≤ available := by omega
        generalize min (min chunk.bytes (min len maxRequest)) available = moved at small there
        split
        · rename_i status _
          refine ⟨le_rfl, Nat.zero_le _, Nat.zero_le _, fun done => ?_, nofun⟩
          exact absurd (Option.some.inj done) status.2
        · rename_i status _ _
          refine ⟨Nat.zero_le _, there, by dsimp only; omega, fun done => ?_, nofun⟩
          exact absurd (Option.some.inj done) status.2
        · split
          · exact ⟨le_rfl, Nat.zero_le _, Nat.zero_le _, nofun, nofun⟩
          · split
            · exact ⟨Nat.zero_le _, there, by dsimp only; omega, nofun, nofun⟩
            · have last := ih ((len - moved) :: rest) (available - moved)
              rw [List.sum_cons] at last
              obtain ⟨advanced, within, asked, all, pending⟩ := last
              constructor
              · dsimp only
                omega
              · dsimp only
                omega
              · dsimp only
                omega
              · intro done
                have rest := all done
                dsimp only
                omega
              · intro open'
                have rest := pending open'
                dsimp only
                omega

theorem transfer_spec (t : Transfer) (lens : List Nat) (available : Nat) :
    Transferred (transfer t lens available) lens.sum available := by
  unfold transfer
  split
  · rename_i status _
    refine ⟨le_rfl, Nat.zero_le _, Nat.zero_le _, fun done => ?_, nofun⟩
    exact absurd (Option.some.inj done) status.2
  · exact transferLoop_spec t.chunks lens available

/-- One vector. -/
theorem transfer_one (t : Transfer) (len available : Nat) :
    Transferred (transfer t [len] available) len available := by
  have spec := transfer_spec t [len] available
  rwa [List.sum_singleton] at spec

/-! ### Reading -/

abbrev payload (stream : List UInt8) : List UInt8 := Framing.payload headerSize frameLength stream

def Reading.left (r : Reading) : Nat := (r.iovs.map Target.len).sum

def Reading.InStep (r : Reading) : Prop :=
  Framing.run headerSize frameLength (.header []) r.consumed =
    (Framing.inside r.remaining, r.delivered)

structure Reads (r : Reading) (status : Option Transport.Status) (last : Reading) : Prop where
  stream : last.consumed ++ last.rest = r.consumed ++ r.rest
  grows : r.consumed <+: last.consumed
  given : last.delivered <+: payload last.consumed
  keeps : r.delivered <+: last.delivered
  moved : last.delivered.length + last.left = r.delivered.length + r.left
  done : status = some .ok → last.InStep ∧ last.left = 0

theorem left_dropWhile (iovs : List Target) :
    ((iovs.dropWhile (·.len = 0)).map Target.len).sum = (iovs.map Target.len).sum := by
  induction iovs with
  | nil => rfl
  | cons iov rest ih =>
      rw [List.dropWhile_cons]
      split
      · rename_i empty
        rw [ih, List.map_cons, List.sum_cons, of_decide_eq_true empty, Nat.zero_add]
      · rfl

/-- The stream goes on by what was taken out. -/
theorem InStep.run {r : Reading} (inStep : r.InStep) (more : List UInt8) :
    Framing.run headerSize frameLength (.header []) (r.consumed ++ more) =
      ((Framing.run headerSize frameLength (Framing.inside r.remaining) more).1,
        r.delivered ++ (Framing.run headerSize frameLength (Framing.inside r.remaining) more).2) := by
  rw [Framing.run_append, inStep]

theorem InStep.given {r : Reading} (inStep : r.InStep) (more : List UInt8) :
    r.delivered <+: payload (r.consumed ++ more) := by
  unfold payload Framing.payload
  rw [InStep.run inStep]
  exact List.prefix_append _ _

/-- A header was taken out, with nothing left of the frame before it. -/
theorem InStep.header {r : Reading} (inStep : r.InStep) (boundary : r.remaining = 0)
    {length : Nat} (whole : headerSize ≤ r.rest.length)
    (found : frameLength (r.rest.take headerSize) = some length) {full iovs : List Target} :
    Reading.InStep { r with
      full := full
      iovs := iovs
      remaining := length
      rest := r.rest.drop headerSize
      consumed := r.consumed ++ r.rest.take headerSize } := by
  have size : (r.rest.take headerSize).length = headerSize := by
    rw [List.length_take]
    omega
  have opens : Framing.opened frameLength (r.rest.take headerSize) = Framing.inside length := by
    unfold Framing.opened
    rw [found]
    cases length with
    | zero =>
        unfold frameLength at found
        dsimp only at found
        split at found
        · cases found
        · rename_i checked
          rw [Option.some.injEq] at found
          simp [found] at checked
    | succ length => rfl
  unfold Reading.InStep
  dsimp only
  rw [InStep.run inStep, boundary]
  change ((Framing.run headerSize frameLength (.header []) _).1,
    r.delivered ++ (Framing.run headerSize frameLength (.header []) _).2) = _
  rw [Framing.run_opened size (by decide), opens, List.append_nil]

/-- Data was taken out, no more than is left of the frame. -/
theorem InStep.data {r : Reading} (inStep : r.InStep) {moved : Nat} (within : moved ≤ r.remaining)
    (there : moved ≤ r.rest.length) :
    Framing.run headerSize frameLength (.header []) (r.consumed ++ r.rest.take moved) =
      (Framing.inside (r.remaining - moved), r.delivered ++ r.rest.take moved) := by
  have size : (r.rest.take moved).length = moved := by
    rw [List.length_take]
    omega
  rw [InStep.run inStep, Framing.run_data _ (by rw [size]; exact within), size]

/-- One round, and the rest of the call. -/
theorem Reads.after {r next last : Reading} {status : Option Transport.Status}
    (stream : next.consumed ++ next.rest = r.consumed ++ r.rest)
    (grows : r.consumed <+: next.consumed) (keeps : r.delivered <+: next.delivered)
    (moved : next.delivered.length + next.left = r.delivered.length + r.left)
    (reads : Reads next status last) : Reads r status last where
  stream := reads.stream.trans stream
  grows := grows.trans reads.grows
  given := reads.given
  keeps := keeps.trans reads.keeps
  moved := reads.moved.trans moved
  done := reads.done

/-- The call is over: no vector waits for anything. -/
theorem Reads.full {r : Reading} (inStep : r.InStep) (none_left : r.iovs.dropWhile (·.len = 0) = []) :
    Reads r (some .ok) { r with full := r.full ++ r.iovs, iovs := [] } := by
  have empty : r.left = 0 := by
    unfold Reading.left
    rw [← left_dropWhile, none_left]
    rfl
  have given := InStep.given inStep []
  rw [List.append_nil] at given
  refine ⟨rfl, List.prefix_rfl, given, List.prefix_rfl, ?_, fun _ => ⟨inStep, rfl⟩⟩
  change r.delivered.length + 0 = _
  rw [empty]

theorem left_of_dropWhile {r : Reading} {iov : Target} {more : List Target}
    (found : r.iovs.dropWhile (·.len = 0) = iov :: more) :
    r.left = iov.len + (more.map Target.len).sum := by
  unfold Reading.left
  rw [← left_dropWhile, found]
  rfl

theorem readLoop_spec (transfers : List Transfer) (r : Reading) (inStep : r.InStep) :
    Reads r (readLoop transfers r).1 (readLoop transfers r).2 := by
  induction transfers generalizing r with
  | nil =>
      unfold readLoop
      cases found : r.iovs.dropWhile (·.len = 0) with
      | nil => exact .full inStep found
      | cons iov more =>
          have given := InStep.given inStep []
          rw [List.append_nil] at given
          exact ⟨rfl, List.prefix_rfl, given, List.prefix_rfl, rfl, nofun⟩
  | cons first later ih =>
      unfold readLoop
      cases found : r.iovs.dropWhile (·.len = 0) with
      | nil => exact .full inStep found
      | cons iov more =>
          have left := left_of_dropWhile found
          dsimp only
          split
          · rename_i boundary
            have spec := transfer_one first headerSize r.rest.length
            generalize transfer first [headerSize] r.rest.length = head at spec
            -- whatever the header is, nothing of it is given
            have stops (status : Option Transport.Status) (failed : status ≠ some .ok) :
                Reads r status
                { r with
                  full := r.full ++ r.iovs.takeWhile (·.len = 0)
                  iovs := iov :: more
                  rest := r.rest.drop head.moved
                  consumed := r.consumed ++ r.rest.take head.moved } := by
              refine ⟨?_, List.prefix_append _ _, InStep.given inStep _, List.prefix_rfl, ?_,
                fun done => absurd done failed⟩
              · rw [List.append_assoc, List.take_append_drop]
              · change _ + (iov.len + (more.map Target.len).sum) = _
                rw [left]
            split
            · rename_i ok
              have all := spec.all ok
              have advanced := spec.advanced
              have asked := spec.asked
              have moved : head.moved = headerSize := by omega
              split
              · exact stops _ nofun
              · split
                · exact stops _ nofun
                · rename_i length told
                  rw [moved]
                  have whole : headerSize ≤ r.rest.length := moved ▸ spec.there
                  refine Reads.after ?_ ?_ ?_ ?_ (ih _ ?_)
                  · dsimp only
                    rw [List.append_assoc, List.take_append_drop]
                  · exact List.prefix_append _ _
                  · exact List.prefix_rfl
                  · change _ + (iov.len + (more.map Target.len).sum) = _
                    rw [left]
                  · exact InStep.header inStep boundary whole told
            · rename_i failed
              exact stops _ failed
          · have spec := transfer_one first (min r.remaining iov.len) r.rest.length
            generalize transfer first [min r.remaining iov.len] r.rest.length = part at spec
            obtain ⟨advanced, there, asked, all, -⟩ := spec
            have run := InStep.data inStep (by omega : part.moved ≤ r.remaining) there
            have stream : r.consumed ++ r.rest.take part.moved ++ r.rest.drop part.moved =
                r.consumed ++ r.rest := by
              rw [List.append_assoc, List.take_append_drop]
            have moves : (r.delivered ++ r.rest.take part.advanced).length +
                (iov.len - part.advanced + (more.map Target.len).sum) =
                  r.delivered.length + r.left := by
              rw [left, List.length_append, List.length_take]
              omega
            split
            · rename_i ok
              have whole := all ok
              have same : part.moved = part.advanced := by omega
              refine Reads.after stream (List.prefix_append _ _) (List.prefix_append _ _) moves
                (ih _ ?_)
              unfold Reading.InStep
              dsimp only
              rw [run, same]
            · rename_i failed
              refine ⟨stream, List.prefix_append _ _, ?_, List.prefix_append _ _, moves,
                fun done => absurd done failed⟩
              unfold payload Framing.payload
              dsimp only
              rw [run]
              refine (List.prefix_append_right_inj _).2 ?_
              exact List.take_prefix_take_left advanced

/-- At a boundary, a header that says nothing: the call gives nothing and does not return OK. -/
theorem readLoop_malformed (transfers : List Transfer) {r : Reading} (boundary : r.remaining = 0)
    (waits : r.left ≠ 0)
    (malformed : frameLength (r.rest.take headerSize) = none) :
    (readLoop transfers r).1 ≠ some .ok ∧ (readLoop transfers r).2.delivered = r.delivered := by
  have unready : ∀ iovs : List Target, iovs = r.iovs.dropWhile (·.len = 0) → iovs ≠ [] := by
    rintro _ rfl empty
    apply waits
    unfold Reading.left
    rw [← left_dropWhile, empty]
    rfl
  unfold readLoop
  cases found : r.iovs.dropWhile (·.len = 0) with
  | nil => exact absurd rfl (unready [] found.symm)
  | cons iov more =>
      cases transfers with
      | nil => exact ⟨nofun, rfl⟩
      | cons first later =>
          dsimp only
          rw [if_pos boundary]
          split
          · split
            · exact ⟨nofun, rfl⟩
            · rw [malformed]
              exact ⟨nofun, rfl⟩
          · rename_i failed
            exact ⟨failed, rfl⟩

/-! ### Writing -/

theorem frameTotal_sum {lens : List Nat} {total : Nat} (found : frameTotal lens = some total) :
    total = lens.sum ∧ total ≤ kMaxFrameBytes := by
  have lost (rest : List Nat) : rest.foldl (fun total len => total.bind fun total =>
      if len > kMaxFrameBytes - total then none else some (total + len)) none =
        (none : Option Nat) := by
    induction rest with
    | nil => rfl
    | cons len rest ih => exact ih
  have fold (rest : List Nat) (start : Nat) (within : start ≤ kMaxFrameBytes)
      (folds : rest.foldl (fun total len => total.bind fun total =>
        if len > kMaxFrameBytes - total then none else some (total + len)) (some start) =
          some total) : total = start + rest.sum ∧ total ≤ kMaxFrameBytes := by
    induction rest generalizing start with
    | nil =>
        cases folds
        exact ⟨rfl, within⟩
    | cons len rest ih =>
        rw [List.foldl_cons, Option.bind_some] at folds
        split at folds
        · rw [lost] at folds
          cases folds
        · obtain ⟨sum, bound⟩ := ih (start + len) (by omega) folds
          refine ⟨?_, bound⟩
          rw [sum, List.sum_cons]
          omega
  obtain ⟨sum, bound⟩ := fold lens 0 (Nat.zero_le _) found
  exact ⟨by omega, bound⟩

theorem lens_sum (call : WriteCall) : call.lens.sum = call.bytes.length := by
  unfold WriteCall.lens WriteCall.bytes
  rw [List.length_flatMap]

/-- A call that goes on to send. -/
theorem refuses_none {e : End} {call : WriteCall} (goes : e.refuses call = none) :
    e.poisoned = false ∧ call.fds = false ∧ call.bytes ≠ [] ∧
      call.bytes.length ≤ kMaxFrameBytes := by
  unfold End.refuses at goes
  split at goes
  · cases goes
  · rename_i clean
    split at goes
    · cases goes
    · split at goes
      · cases goes
      · rename_i bare
        split at goes
        · cases goes
        · cases goes
        · rename_i found
          obtain ⟨sum, bound⟩ := frameTotal_sum found
          rw [lens_sum] at sum
          refine ⟨Bool.eq_false_of_not_eq_true clean, Bool.eq_false_of_not_eq_true bare, ?_,
            by omega⟩
          intro empty
          rw [empty, List.length_nil] at sum
          omega

@[simp] theorem frameHeader_length (total : Nat) : (frameHeader total).length = headerSize := rfl

theorem frameHeader_read {total : Nat} (some_data : 0 < total) (small : total ≤ kMaxFrameBytes) :
    frameLength (frameHeader total) = some total := by
  have word : PacketCodec.read32 (frameHeader total) 0 =
      PacketCodec.read32 (PacketCodec.u32 (UInt32.ofNat total)) 0 := rfl
  have none_with_it : PacketCodec.read32 (frameHeader total) 4 = 0 := by
    change PacketCodec.read32 [0, 0, 0, 0] 0 = 0
    decide
  have value : (UInt32.ofNat total).toNat = total := by
    unfold kMaxFrameBytes at small
    exact UInt32.toNat_ofNat_of_lt' (by unfold UInt32.size; omega)
  unfold frameLength
  rw [word, PacketCodec.u32_read, none_with_it, value]
  have checks : (decide ((0 : UInt32) ≠ 0) || decide (total = 0) ||
      decide (total > kMaxFrameBytes)) = false := by
    simp
    omega
  rw [if_neg (by rw [checks]; nofun)]

/-! ### An end of the pipe -/

namespace End

def unfinished (e : End) : List UInt8 := (e.broken.map WriteCall.bytes).getD []

/-- What holds of the reading side. Once a read has failed or hangs, there are no more. -/
structure ReadSide (stream : List UInt8) (e : End) : Prop where
  stream : e.consumed ++ e.rest = stream
  given : e.delivered <+: payload e.consumed
  inStep : Framing.run headerSize frameLength (.header []) e.consumed =
      (Framing.inside e.remaining, e.delivered) ∨
    (e.poisoned = true ∧ e.reading = .idle) ∨ e.reading = .stuck

structure WriteSide (e : End) : Prop where
  data : payload e.put <+: e.sent ++ e.unfinished
  boundary : e.broken = none →
    Framing.run headerSize frameLength (.header []) e.put = (.header [], e.sent)
  ended : e.broken ≠ none → (e.poisoned = true ∧ e.writing = .idle) ∨ e.writing = .stuck
  fits : ∀ call, e.writing = .inside call → call.bytes ≠ [] ∧ call.bytes.length ≤ kMaxFrameBytes

variable {e : End} {stream : List UInt8}

theorem ReadSide.begin (side : ReadSide stream e) (iovs : Option (List Target)) :
    ReadSide stream (e.beginRead iovs) := by
  unfold beginRead
  split
  · exact side
  · split
    · exact ⟨side.stream, side.given, side.inStep⟩
    · rename_i idle clean
      split
      · exact ⟨side.stream, side.given, side.inStep⟩
      · split
        · exact ⟨side.stream, side.given, side.inStep⟩
        · refine ⟨side.stream, side.given, .inl ?_⟩
          rcases side.inStep with step | ⟨poisoned, -⟩ | stuck
          · exact step
          · exact absurd poisoned clean
          · rw [stuck] at idle
            exact absurd idle (by nofun)

theorem ReadSide.finish (side : ReadSide stream e) (transfers : List Transfer) :
    ReadSide stream (e.endRead transfers) := by
  unfold endRead
  split
  · rename_i iovs here
    have step : Framing.run headerSize frameLength (.header []) e.consumed =
        (Framing.inside e.remaining, e.delivered) := by
      rcases side.inStep with step | ⟨-, idle⟩ | stuck
      · exact step
      · exact nomatch here.symm.trans idle
      · exact nomatch here.symm.trans stuck
    have reads := readLoop_spec transfers (e.work iovs) step
    generalize readLoop transfers (e.work iovs) = result at reads
    obtain ⟨status, last⟩ := result
    have same : last.consumed ++ last.rest = stream := reads.stream.trans side.stream
    dsimp only
    split
    · exact ⟨same, reads.given, .inr (.inr rfl)⟩
    · exact ⟨same, reads.given, .inl (reads.done rfl).1⟩
    · exact ⟨same, reads.given, .inr (.inl ⟨rfl, rfl⟩)⟩
  · exact side

/-- What the other side does leaves this one as it is, or poisons it. -/
theorem ReadSide.other {after : End} (side : ReadSide stream e) (consumed : after.consumed = e.consumed)
    (rest : after.rest = e.rest) (delivered : after.delivered = e.delivered)
    (remaining : after.remaining = e.remaining) (reading : after.reading = e.reading)
    (poison : e.poisoned = true → after.poisoned = true) : ReadSide stream after := by
  constructor
  · rw [consumed, rest]
    exact side.stream
  · rw [consumed, delivered]
    exact side.given
  · rw [consumed, remaining, delivered, reading]
    exact side.inStep.imp_right (Or.imp_left (And.imp_left poison))

theorem WriteSide.other {after : End} (side : WriteSide e) (put : after.put = e.put)
    (sent : after.sent = e.sent) (broken : after.broken = e.broken)
    (writing : after.writing = e.writing) (poison : e.poisoned = true → after.poisoned = true) :
    WriteSide after := by
  constructor
  · unfold unfinished
    rw [put, sent, broken]
    exact side.data
  · rw [put, sent, broken]
    exact side.boundary
  · rw [broken, writing]
    exact fun some_broken => (side.ended some_broken).imp_left (And.imp_left poison)
  · rw [writing]
    exact side.fits

theorem WriteSide.begin (side : WriteSide e) (call : WriteCall) : WriteSide (e.beginWrite call) := by
  unfold beginWrite
  split
  · exact side
  · rename_i idle
    split
    · exact ⟨side.data, side.boundary, side.ended, side.fits⟩
    · rename_i goes
      obtain ⟨clean, -, some_data, small⟩ := refuses_none goes
      refine ⟨side.data, side.boundary, fun some_broken => ?_, fun other same => ?_⟩
      · -- a write that was broken off keeps the others from beginning
        rcases side.ended some_broken with ⟨poisoned, -⟩ | stuck
        · exact nomatch clean.symm.trans poisoned
        · rw [stuck] at idle
          exact absurd idle (by nofun)
      · cases same
        exact ⟨some_data, small⟩

/-- A part of a frame was put behind the frames so far. -/
theorem broken_data {call : WriteCall} {part : List UInt8}
    (boundary : Framing.run headerSize frameLength (.header []) e.put = (.header [], e.sent))
    (fits : call.bytes ≠ [] ∧ call.bytes.length ≤ kMaxFrameBytes)
    (begins : part <+: frameHeader call.bytes.length ++ call.bytes) :
    payload (e.put ++ part) <+: e.sent ++ call.bytes := by
  have positive : 0 < call.bytes.length := List.length_pos_iff.2 fits.1
  have within := Framing.run_part (frameHeader_length _) (by decide)
    (frameHeader_read positive fits.2) fits.1 begins
  unfold payload Framing.payload
  rw [Framing.run_append, boundary]
  exact (List.prefix_append_right_inj _).2 within

theorem WriteSide.finish (side : WriteSide e) (head body : Transfer) :
    WriteSide (e.endWrite head body) := by
  unfold endWrite
  split
  · rename_i call here
    have whole : e.broken = none := by
      by_contra some_broken
      rcases side.ended some_broken with ⟨-, idle⟩ | stuck
      · exact nomatch here.symm.trans idle
      · exact nomatch here.symm.trans stuck
    have boundary := side.boundary whole
    have fits := side.fits call here
    have positive : 0 < call.bytes.length := List.length_pos_iff.2 fits.1
    dsimp only
    split
    · have spec := transfer_spec body call.lens call.bytes.length
      rw [lens_sum] at spec
      generalize transfer body call.lens call.bytes.length = second at spec
      have data := @broken_data e call (frameHeader call.bytes.length ++ call.bytes.take second.moved)
        boundary fits ((List.prefix_append_right_inj _).2 (List.take_prefix _ _))
      rw [← List.append_assoc] at data
      split
      · exact ⟨data, nofun, fun _ => .inr rfl, nofun⟩
      · rename_i ok
        have all := spec.all ok
        have advanced := spec.advanced
        have asked := spec.asked
        have moved : second.moved = call.bytes.length := by omega
        have next : Framing.run headerSize frameLength (.header [])
            (e.put ++ frameHeader call.bytes.length ++ call.bytes.take second.moved) =
              (.header [], e.sent ++ call.bytes) := by
          rw [moved, List.take_length, List.append_assoc, Framing.run_append, boundary]
          dsimp only
          rw [Framing.run_frame (frameHeader_length _) (by decide)
            (frameHeader_read positive fits.2) fits.1]
        refine ⟨?_, fun _ => next, fun some_broken => absurd whole some_broken, nofun⟩
        change (Framing.run _ _ _ _).2 <+: _
        unfold unfinished
        dsimp only [gives]
        rw [next, whole]
        exact (List.append_nil _).symm ▸ List.prefix_rfl
      · exact ⟨data, nofun, fun _ => .inl ⟨rfl, rfl⟩, nofun⟩
    · generalize transfer head [headerSize] headerSize = first
      have data := @broken_data e call ((frameHeader call.bytes.length).take first.moved)
        boundary fits ((List.take_prefix _ _).trans (List.prefix_append _ _))
      split
      · exact ⟨data, nofun, fun _ => .inr rfl, nofun⟩
      · exact ⟨data, nofun, fun _ => .inl ⟨rfl, rfl⟩, nofun⟩
  · exact side

/-! Each side sees of the other only the poison. -/

theorem beginWrite_apart (side : ReadSide stream e) (call : WriteCall) :
    ReadSide stream (e.beginWrite call) := by
  unfold beginWrite
  split
  · exact side
  · split <;> exact side.other rfl rfl rfl rfl rfl id

theorem endWrite_apart (side : ReadSide stream e) (head body : Transfer) :
    ReadSide stream (e.endWrite head body) := by
  unfold endWrite
  split
  · dsimp only
    split
    · split
      · exact side.other rfl rfl rfl rfl rfl id
      · exact side.other rfl rfl rfl rfl rfl id
      · exact side.other rfl rfl rfl rfl rfl fun _ => rfl
    · split
      · exact side.other rfl rfl rfl rfl rfl id
      · exact side.other rfl rfl rfl rfl rfl fun _ => rfl
  · exact side

theorem beginRead_apart (side : WriteSide e) (iovs : Option (List Target)) :
    WriteSide (e.beginRead iovs) := by
  unfold beginRead
  split
  · exact side
  · split
    · exact side.other rfl rfl rfl rfl id
    · split
      · exact side.other rfl rfl rfl rfl id
      · split <;> exact side.other rfl rfl rfl rfl id

theorem endRead_apart (side : WriteSide e) (transfers : List Transfer) :
    WriteSide (e.endRead transfers) := by
  unfold endRead
  split
  · generalize readLoop transfers _ = result
    dsimp only
    split
    · exact side.other rfl rfl rfl rfl id
    · exact side.other rfl rfl rfl rfl id
    · exact side.other rfl rfl rfl rfl fun _ => rfl
  · exact side

theorem step_sides (e : End) (move : Move) (sides : ReadSide stream e ∧ WriteSide e) :
    ReadSide stream (e.step move) ∧ WriteSide (e.step move) := by
  obtain ⟨reads, writes⟩ := sides
  cases move with
  | beginWrite call => exact ⟨beginWrite_apart reads call, writes.begin call⟩
  | endWrite head body => exact ⟨endWrite_apart reads head body, writes.finish head body⟩
  | beginRead iovs => exact ⟨reads.begin iovs, beginRead_apart writes iovs⟩
  | endRead transfers => exact ⟨reads.finish transfers, endRead_apart writes transfers⟩

theorem start_sides (bytes : Bool) (stream : List UInt8) :
    ReadSide stream (start bytes stream) ∧ WriteSide (start bytes stream) :=
  ⟨⟨rfl, List.prefix_rfl, .inl rfl⟩, ⟨List.prefix_rfl, fun _ => rfl, fun none => absurd rfl none, nofun⟩⟩

theorem run_sides (bytes : Bool) (stream : List UInt8) (moves : List Move) :
    ReadSide stream (Machine.play step (start bytes stream) moves) ∧
      WriteSide (Machine.play step (start bytes stream) moves) :=
  Machine.play_keeps step_sides moves _ (start_sides bytes stream)

theorem step_poisoned (e : End) (move : Move) (poisoned : e.poisoned = true) :
    (e.step move).poisoned = true := by
  cases move with
  | beginWrite call =>
      simp only [step, beginWrite]
      split
      · exact poisoned
      · split <;> exact poisoned
  | endWrite head body =>
      simp only [step, endWrite]
      split
      · split
        · split
          · exact poisoned
          · exact poisoned
          · rfl
        · split
          · exact poisoned
          · rfl
      · exact poisoned
  | beginRead iovs =>
      simp only [step, beginRead, poisoned, if_true]
      split <;> exact poisoned
  | endRead transfers =>
      simp only [step, endRead]
      split
      · generalize readLoop transfers _ = result
        split
        · exact poisoned
        · exact poisoned
        · rfl
      · exact poisoned

/-- A call that begins on a frame that is poisoned returns at once. -/
theorem begin_poisoned (poisoned : e.poisoned = true) :
    (∀ call, e.writing = .idle → e.beginWrite call = e.gives .deadObject) ∧
      (∀ iovs, e.reading = .idle → e.beginRead iovs = e.gives .deadObject) ∧
      ∀ bytes, e.pollRead bytes = .deadObject := by
  refine ⟨fun call idle => ?_, fun iovs idle => ?_, fun bytes => ?_⟩
  · simp [beginWrite, refuses, idle, poisoned]
  · simp [beginRead, idle, poisoned]
  · simp [pollRead, poisoned]

/-- A call that has not gone well poisons the frame. -/
theorem end_poisons {status : Transport.Status} (failed : status ≠ .ok) :
    (∀ head body, (e.endWrite head body).returned = status :: e.returned →
      (e.endWrite head body).poisoned = true) ∧
      ∀ transfers, (e.endRead transfers).returned = status :: e.returned →
        (e.endRead transfers).poisoned = true := by
  have longer : ¬e.returned = status :: e.returned := fun same =>
    absurd (congrArg List.length same) (by simp)
  constructor
  · intro head body
    unfold endWrite
    split
    · dsimp only
      split
      · split
        · exact fun same => absurd same longer
        · exact fun same => absurd (List.cons.inj same).1.symm failed
        · exact fun _ => rfl
      · split
        · exact fun same => absurd same longer
        · exact fun _ => rfl
    · exact fun same => absurd same longer
  · intro transfers
    unfold endRead
    split
    · generalize readLoop transfers _ = result
      dsimp only
      split
      · exact fun same => absurd same longer
      · exact fun same => absurd (List.cons.inj same).1.symm failed
      · exact fun _ => rfl
    · exact fun same => absurd same longer

/-- A write of nothing, with descriptors or of too much is refused before anything is sent. -/
theorem refuses_some (call : WriteCall)
    (odd : call.bytes = [] ∨ call.fds = true ∨ kMaxFrameBytes < call.bytes.length) :
    ∃ status, e.refuses call = some status := by
  cases found : e.refuses call with
  | some status => exact ⟨status, rfl⟩
  | none =>
      obtain ⟨-, bare, some_data, small⟩ := refuses_none found
      rcases odd with empty | fds | large
      · exact absurd empty some_data
      · exact nomatch bare.symm.trans fds
      · omega

/-- A read that returns OK has filled its vectors. -/
theorem ReadSide.endRead_full (side : ReadSide stream e) {iovs : List Target} (here : e.reading = .inside iovs)
    {transfers : List Transfer} (ok : (e.endRead transfers).returned = .ok :: e.returned) :
    (e.endRead transfers).delivered.length = e.delivered.length + (iovs.map Target.len).sum := by
  have inStep : Framing.run headerSize frameLength (.header []) e.consumed =
      (Framing.inside e.remaining, e.delivered) := by
    rcases side.inStep with inStep | ⟨-, idle⟩ | stuck
    · exact inStep
    · exact nomatch here.symm.trans idle
    · exact nomatch here.symm.trans stuck
  have reads := readLoop_spec transfers (e.work iovs) inStep
  unfold endRead at ok ⊢
  rw [here] at ok ⊢
  dsimp only at ok ⊢
  generalize readLoop transfers (e.work iovs) = result at reads ok ⊢
  obtain ⟨status, last⟩ := result
  dsimp only at ok ⊢
  split at ok
  · exact absurd (congrArg List.length ok) (by simp)
  · have moved := reads.moved
    rw [(reads.done rfl).2] at moved
    exact moved
  · rename_i bad
    exact absurd (List.cons.inj ok).1 bad

theorem endRead_malformed {iovs : List Target} (here : e.reading = .inside iovs)
    (waits : (iovs.map Target.len).sum ≠ 0) (boundary : e.remaining = 0)
    (malformed : frameLength (e.rest.take headerSize) = none) (transfers : List Transfer) :
    (e.endRead transfers).delivered = e.delivered ∧ ((e.endRead transfers).reading = .stuck ∨
      (e.endRead transfers).poisoned = true) := by
  obtain ⟨failed, same⟩ := @readLoop_malformed transfers (e.work iovs) boundary waits malformed
  unfold endRead
  rw [here]
  dsimp only
  generalize readLoop transfers (e.work iovs) = result at failed same ⊢
  obtain ⟨status, last⟩ := result
  dsimp only at failed ⊢
  split
  · exact ⟨same, .inl rfl⟩
  · exact absurd rfl failed
  · exact ⟨same, .inr rfl⟩

end End

/-- What an end of the pipe does in any run of calls, whatever the kernel does and whatever comes
in. The peer reads the bytes of the writes that returned OK, in their order, and after them bytes
of the one write that was broken off; what is read is data of the stream and no header; a write
of nothing, with descriptors or of too much sends nothing and poisons nothing; a frame that is
none is never read over; and once a call has failed, every later one returns DEAD_OBJECT. -/
theorem frames_are_invisible (bytes : Bool) (stream : List UInt8) (moves : List Move) (e : End)
    (run : e = Machine.play End.step (End.start bytes stream) moves) :
    (∀ incoming peer, incoming <+: e.put →
      (Machine.play End.step (End.start true incoming) peer).delivered <+: e.sent ++ e.unfinished) ∧
    (e.broken ≠ none → (e.poisoned = true ∧ e.writing = .idle) ∨ e.writing = .stuck) ∧
    e.delivered <+: payload stream ∧
    (∀ call, call.bytes = [] ∨ call.fds = true ∨ kMaxFrameBytes < call.bytes.length →
      e.writing = .idle → ∃ status, e.beginWrite call = e.gives status) ∧
    (∀ iovs transfers, e.reading = .inside iovs →
      ((e.endRead transfers).returned = .ok :: e.returned →
        (e.endRead transfers).delivered.length =
          e.delivered.length + (iovs.map Target.len).sum) ∧
      ((iovs.map Target.len).sum ≠ 0 → e.remaining = 0 →
        frameLength (e.rest.take headerSize) = none →
        (e.endRead transfers).delivered = e.delivered ∧
          ((e.endRead transfers).reading = .stuck ∨ (e.endRead transfers).poisoned = true))) ∧
    (∀ status, status ≠ .ok →
      (∀ head body, (e.endWrite head body).returned = status :: e.returned →
        (e.endWrite head body).poisoned = true) ∧
      ∀ transfers, (e.endRead transfers).returned = status :: e.returned →
        (e.endRead transfers).poisoned = true) ∧
    (e.poisoned = true → ∀ more after, after = Machine.play End.step e more →
      (∀ call, after.writing = .idle → after.beginWrite call = after.gives .deadObject) ∧
      (∀ iovs, after.reading = .idle → after.beginRead iovs = after.gives .deadObject) ∧
      ∀ available, after.pollRead available = .deadObject) := by
  obtain ⟨reads, writes⟩ := End.run_sides bytes stream moves
  rw [← run] at reads writes
  refine ⟨?_, writes.ended, ?_, ?_, ?_, fun status failed => End.end_poisons failed, ?_⟩
  · intro incoming peer part
    obtain ⟨side, -⟩ := End.run_sides true incoming peer
    have consumed : (Machine.play End.step (End.start true incoming) peer).consumed <+: e.put :=
      List.IsPrefix.trans ⟨_, side.stream⟩ part
    exact side.given.trans ((Framing.payload_mono consumed).trans writes.data)
  · exact reads.given.trans (Framing.payload_mono ⟨_, reads.stream⟩)
  · intro call odd idle
    obtain ⟨status, refused⟩ := @End.refuses_some e call odd
    refine ⟨status, ?_⟩
    unfold End.beginWrite
    rw [if_neg (not_not.2 idle), refused]
  · intro iovs transfers here
    refine ⟨fun ok => reads.endRead_full here ok, fun waits boundary malformed => ?_⟩
    exact End.endRead_malformed here waits boundary malformed transfers
  · rintro poisoned more after rfl
    exact End.begin_poisoned (Machine.play_keeps End.step_poisoned more e poisoned)

/-! A write that was cancelled when its data had gone out already, and a read of that data. -/

def cancelledWrite : List Move :=
  [.beginWrite ⟨some [⟨1, [7, 8]⟩], false⟩,
    .endWrite ⟨none, [⟨none, 8, none⟩]⟩ ⟨none, [⟨none, 2, some ⟨.deadObject, nofun⟩⟩]⟩]

def fullRead : List Move :=
  [.beginRead (some [⟨1, 2⟩]),
    .endRead [⟨none, [⟨none, 8, none⟩]⟩, ⟨none, [⟨none, 2, none⟩]⟩]]

theorem cancelled_write_is_read :
    ¬∀ moves peer incoming, incoming <+: (Machine.play End.step (End.start true []) moves).put →
      (Machine.play End.step (End.start true incoming) peer).delivered <+:
        (Machine.play End.step (End.start true []) moves).sent := by
  intro claim
  have read := claim cancelledWrite fullRead [2, 0, 0, 0, 0, 0, 0, 0, 7, 8] (by decide)
  revert read
  decide

theorem cancelled_write_read_within :
    (Machine.play End.step (End.start true [2, 0, 0, 0, 0, 0, 0, 0, 7, 8]) fullRead).delivered <+:
      [7, 8] :=
  (frames_are_invisible true [] cancelledWrite _ rfl).1 [2, 0, 0, 0, 0, 0, 0, 0, 7, 8] fullRead
    (by decide)

end Bscp.LocalRpc.PipeFrame
