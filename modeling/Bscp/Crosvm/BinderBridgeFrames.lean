import Bscp.Crosvm.BinderBridge

/-!
One format, two implementations: the frames of the bridge are read by
`RpcTransportWindowsPipeFrame`, and those that it writes by the decoder of the bridge.
-/

namespace Bscp.Crosvm.BinderBridge

open LocalRpc
open LocalRpc.PipeFrame (End Move Reading Target Transfer frameHeader frameLength headerSize
  kMaxFrameBytes readLoop transfer transfer_one)

/-! What `encode` makes. -/

theorem encode_eq {data : List UInt8} (some_data : data ≠ []) (small : data.length ≤ maxFrame) :
    encode data = .ok (frameHeader data.length ++ data) := by
  have large : ¬(data.isEmpty || decide (data.length > maxFrame)) = true := by
    simp [some_data]
    omega
  rw [encode, if_neg large]
  rfl

theorem frame_run {data : List UInt8} (some_data : data ≠ []) (small : data.length ≤ maxFrame) :
    run (.header []) (frameHeader data.length ++ data) = (.header [], data) :=
  Framing.run_frame (PipeFrame.frameHeader_length _) (by decide)
    (PipeFrame.frameHeader_read (List.length_pos_iff.mpr some_data) small) some_data

theorem mapM_encode {payloads : List (List UInt8)}
    (fit : ∀ payload ∈ payloads, payload ≠ [] ∧ payload.length ≤ maxFrame) :
    payloads.mapM encode =
      .ok (payloads.map fun payload => frameHeader payload.length ++ payload) := by
  induction payloads with
  | nil => rfl
  | cons payload rest held =>
      obtain ⟨some_data, small⟩ := fit payload List.mem_cons_self
      have others := held fun payload inside => fit payload (List.mem_cons_of_mem _ inside)
      rw [List.mapM_cons, encode_eq some_data small, others]
      rfl

theorem frames_run {payloads : List (List UInt8)}
    (fit : ∀ payload ∈ payloads, payload ≠ [] ∧ payload.length ≤ maxFrame) :
    run (.header []) (payloads.map fun payload => frameHeader payload.length ++ payload).flatten =
      (.header [], payloads.flatten) :=
  Framing.run_frames fun payload inside => frame_run (fit payload inside).1 (fit payload inside).2

/-! Reading them over a pipe that works. -/

def Serves (t : Transfer) (most : Nat) : Prop :=
  ∀ len available, len ≤ most → len ≤ available → (transfer t [len] available).status = some .ok

def bytewise (count : Nat) : Transfer := ⟨none, List.replicate count ⟨none, 1, none⟩⟩

theorem bytewise_serves (count : Nat) : Serves (bytewise count) count := by
  have loop : ∀ (count len available : Nat), len ≤ count → len ≤ available →
      (PipeFrame.transferLoop (List.replicate count ⟨none, 1, none⟩) [len] available).status =
        some .ok := by
    intro count
    induction count with
    | zero =>
        intro len available asked _
        obtain rfl : len = 0 := Nat.le_zero.mp asked
        rfl
    | succ count held =>
        intro len available asked there
        unfold PipeFrame.transferLoop
        by_cases none_left : len = 0
        · simp [none_left]
        · have one : min (min 1 (min len PipeFrame.maxRequest)) available = 1 := by
            unfold PipeFrame.maxRequest
            omega
          have within : ¬1 > min len PipeFrame.maxRequest := by
            unfold PipeFrame.maxRequest
            omega
          have waiting : [len].dropWhile (· = 0) = [len] := by simp [none_left]
          rw [waiting, List.replicate_succ]
          dsimp only
          rw [one, if_neg Nat.one_ne_zero, if_neg within]
          exact held (len - 1) (available - 1) (by omega) (by omega)
  exact fun len available asked there => loop count len available asked there

/-- The rounds that a read may still need: a header and a part of the data for each byte. -/
def need (r : Reading) : Nat := 2 * r.left - if r.remaining = 0 then 0 else 1

theorem Serves.moved {t : Transfer} {most len available : Nat} (serves : Serves t most)
    (asked : len ≤ most) (there : len ≤ available) :
    (transfer t [len] available).status = some .ok ∧
      (transfer t [len] available).moved = len ∧ (transfer t [len] available).advanced = len := by
  have ok := serves len available asked there
  have spec := transfer_one t len available
  have all := spec.all ok
  have advanced := spec.advanced
  have within := spec.asked
  exact ⟨ok, by omega, all⟩

theorem len_of_dropWhile {iovs : List Target} {iov : Target} {more : List Target}
    (found : iovs.dropWhile (·.len = 0) = iov :: more) : 0 < iov.len := by
  have head := List.head_dropWhile_not (fun iov : Target => decide (iov.len = 0))
    (by rw [found]; exact List.cons_ne_nil _ _ : iovs.dropWhile (·.len = 0) ≠ [])
  simp only [found, List.head_cons, decide_eq_false_iff_not] at head
  omega

/-- A read of no more than the stream still has returns OK. -/
theorem readLoop_ok (transfers : List Transfer) {r : Reading} {data : List UInt8} {most : Nat}
    (whole : Framing.run headerSize frameLength (Framing.inside r.remaining) r.rest =
      (.header [], data))
    (enough : r.left ≤ data.length) (eight : 8 ≤ most) (bounded : r.left ≤ most)
    (serve : ∀ t ∈ transfers, Serves t most) (rounds : need r ≤ transfers.length) :
    (readLoop transfers r).1 = some .ok := by
  induction transfers generalizing r data with
  | nil =>
      unfold readLoop
      cases found : r.iovs.dropWhile (·.len = 0) with
      | nil => rfl
      | cons iov more =>
          have left := PipeFrame.left_of_dropWhile found
          have positive := len_of_dropWhile found
          simp only [need, List.length_nil] at rounds
          split at rounds <;> omega
  | cons first later held =>
      unfold readLoop
      cases found : r.iovs.dropWhile (·.len = 0) with
      | nil => rfl
      | cons iov more =>
          have left := PipeFrame.left_of_dropWhile found
          have positive := len_of_dropWhile found
          have others : ∀ t ∈ later, Serves t most :=
            fun t inside => serve t (List.mem_cons_of_mem _ inside)
          have firstServes := serve first List.mem_cons_self
          dsimp only
          split
          · rename_i boundary
            rw [boundary] at whole
            have some_rest : r.rest ≠ [] := by
              intro empty
              rw [empty] at whole
              cases whole
              simp only [List.length_nil] at enough
              omega
            obtain ⟨there, length, told⟩ := Framing.run_boundary (by decide) whole some_rest
            obtain ⟨ok, moved, -⟩ :=
              @Serves.moved first most headerSize r.rest.length firstServes eight there
            have size : (r.rest.take headerSize).length = headerSize :=
              List.length_take_of_le there
            obtain ⟨_, _, handles, _, _⟩ := announces_of_frameLength size told
            have opens : Framing.opened frameLength (r.rest.take headerSize) =
                Framing.inside (length + 1) := by
              rw [Framing.opened, told]
              rfl
            rw [if_pos ok, if_neg (not_not.mpr handles), told]
            dsimp only
            have split : Framing.run headerSize frameLength (Framing.inside (length + 1))
                (r.rest.drop headerSize) = (.header [], data) := by
              change Framing.run headerSize frameLength (.header []) _ = _ at whole
              rw [← List.take_append_drop headerSize r.rest, Framing.run_append,
                Framing.run_opened size (by decide), opens] at whole
              simpa using whole
            have same : (r.rest.drop (transfer first [headerSize] r.rest.length).moved) =
                r.rest.drop headerSize := by
              rw [moved]
            apply @held _ data
            case whole => exact same ▸ split
            case enough =>
                change iov.len + (more.map Target.len).sum ≤ _
                omega
            case bounded =>
                change iov.len + (more.map Target.len).sum ≤ _
                omega
            case serve => exact others
            case rounds =>
                change 2 * (iov.len + (more.map Target.len).sum) - 1 ≤ later.length
                simp only [need, if_pos boundary, List.length_cons] at rounds
                omega
          · rename_i inside
            have there := Framing.run_inside_whole whole
            generalize amounts : min r.remaining iov.len = amount
            obtain ⟨ok, moved, advanced⟩ :=
              @Serves.moved first most amount r.rest.length firstServes (by omega) (by omega)
            have size : (r.rest.take amount).length = amount :=
              List.length_take_of_le (by omega)
            have split : Framing.run headerSize frameLength
                (Framing.inside (r.remaining - amount)) (r.rest.drop amount) =
                  (.header [], data.drop amount) := by
              rw [← List.take_append_drop amount r.rest, Framing.run_append,
                Framing.run_data _ (by omega), size] at whole
              obtain ⟨boundary, rfl⟩ := Prod.mk.inj whole
              rw [List.drop_left' size]
              exact Prod.ext boundary rfl
            rw [if_pos ok]
            apply @held _ (data.drop amount)
            case whole =>
                simp only [moved, advanced]
                exact split
            case enough =>
                change (iov.advance _).len + (more.map Target.len).sum ≤ _
                simp only [Target.advance, advanced, List.length_drop]
                omega
            case bounded =>
                change (iov.advance _).len + (more.map Target.len).sum ≤ _
                simp only [Target.advance, advanced]
                omega
            case serve => exact others
            case rounds =>
                simp only [need, if_neg inside, List.length_cons] at rounds
                have less : need
                    { full := r.full ++ r.iovs.takeWhile (·.len = 0)
                      iovs := iov.advance (transfer first [amount] r.rest.length).advanced :: more
                      remaining := r.remaining - (transfer first [amount] r.rest.length).advanced
                      rest := r.rest.drop (transfer first [amount] r.rest.length).moved
                      consumed :=
                        r.consumed ++ r.rest.take (transfer first [amount] r.rest.length).moved
                      delivered := r.delivered ++
                        r.rest.take (transfer first [amount] r.rest.length).advanced } ≤
                    2 * (iov.len - amount + (more.map Target.len).sum) := by
                  rw [advanced]
                  exact Nat.sub_le _ _
                omega

structure Read where
  iovs : List Target
  transfers : List Transfer

namespace Read

def size (r : Read) : Nat := (r.iovs.map Target.len).sum

def moves (r : Read) : List Move := [.beginRead (some r.iovs), .endRead r.transfers]

def Served (r : Read) : Prop :=
  PipeFrame.valid (some (r.iovs.map fun iov => (iov.base, iov.len))) = true ∧
    2 * r.size ≤ r.transfers.length ∧ ∀ t ∈ r.transfers, Serves t (max 8 r.size)

end Read

structure Between (stream : List UInt8) (reads : Nat) (e : End) : Prop where
  clean : e.poisoned = false
  idle : e.reading = .idle
  stream : e.consumed ++ e.rest = stream
  inStep : Framing.run headerSize frameLength (.header []) e.consumed =
    (Framing.inside e.remaining, e.delivered)
  returned : e.returned = List.replicate reads .ok

theorem Between.left {stream data : List UInt8} {reads : Nat} {e : End}
    (between : Between stream reads e) (whole : run (.header []) stream = (.header [], data)) :
    ∃ more, data = e.delivered ++ more ∧
      Framing.run headerSize frameLength (Framing.inside e.remaining) e.rest =
        (.header [], more) := by
  rw [← between.stream, run, Framing.run_append, between.inStep] at whole
  obtain ⟨boundary, rfl⟩ := Prod.mk.inj whole
  exact ⟨_, rfl, Prod.ext boundary rfl⟩

/-- One more read of no more than is left. -/
theorem Between.read {stream data : List UInt8} {reads : Nat} {e : End}
    (between : Between stream reads e) (whole : run (.header []) stream = (.header [], data))
    {r : Read} (served : r.Served) (enough : e.delivered.length + r.size ≤ data.length) :
    Between stream (reads + 1) (Machine.play End.step e r.moves) ∧
      (Machine.play End.step e r.moves).delivered.length = e.delivered.length + r.size := by
  obtain ⟨valid, rounds, serve⟩ := served
  obtain ⟨more, rfl, left⟩ := between.left whole
  have begun : e.beginRead (some r.iovs) = { e with reading := .inside r.iovs } := by
    simp [End.beginRead, between.idle, between.clean, valid]
  have inStep : Reading.InStep (End.work { e with reading := .inside r.iovs } r.iovs) :=
    between.inStep
  have spec := PipeFrame.readLoop_spec r.transfers _ inStep
  have ok : (readLoop r.transfers (End.work { e with reading := .inside r.iovs } r.iovs)).1 =
      some .ok := by
    apply @readLoop_ok r.transfers _ more (max 8 r.size)
    case whole => exact left
    case enough =>
        rw [List.length_append] at enough
        exact Nat.le_of_add_le_add_left enough
    case eight => exact Nat.le_max_left _ _
    case bounded => exact Nat.le_max_right _ _
    case serve => exact serve
    case rounds => exact Nat.le_trans (Nat.sub_le _ _) rounds
  have moved := spec.moved
  have done := spec.done ok
  have plays : Machine.play End.step e r.moves =
      End.endRead { e with reading := .inside r.iovs } r.transfers := by
    simp [Read.moves, End.step, begun]
  rw [plays]
  unfold End.endRead
  generalize result :
    readLoop r.transfers (End.work { e with reading := .inside r.iovs } r.iovs) = last at *
  obtain ⟨status, reading⟩ := last
  simp only at ok done moved
  subst ok
  simp only [result]
  constructor
  · constructor
    case clean => exact between.clean
    case idle => rfl
    case stream => exact spec.stream.trans between.stream
    case inStep => exact done.1
    case returned => rw [List.replicate_succ, ← between.returned]; rfl
  · rw [done.2] at moved
    exact moved

/-- Any sequence of reads of no more than the data of the stream. -/
theorem reads_deliver {stream data : List UInt8}
    (whole : run (.header []) stream = (.header [], data)) (reads : List Read)
    (served : ∀ r ∈ reads, r.Served) (enough : (reads.map Read.size).sum ≤ data.length) :
    (Machine.play End.step (End.start true stream) (reads.flatMap Read.moves)).returned =
        List.replicate reads.length .ok ∧
      (Machine.play End.step (End.start true stream) (reads.flatMap Read.moves)).delivered =
        data.take (reads.map Read.size).sum := by
  have all : ∀ (reads : List Read) (count : Nat) (e : End), Between stream count e →
      (∀ r ∈ reads, r.Served) →
      e.delivered.length + (reads.map Read.size).sum ≤ data.length →
      Between stream (count + reads.length)
          (Machine.play End.step e (reads.flatMap Read.moves)) ∧
        (Machine.play End.step e (reads.flatMap Read.moves)).delivered.length =
          e.delivered.length + (reads.map Read.size).sum := by
    intro reads
    induction reads with
    | nil => exact fun _ _ between _ _ => ⟨between, rfl⟩
    | cons r rest held =>
        intro count e between served enough
        rw [List.map_cons, List.sum_cons] at enough
        obtain ⟨next, length⟩ := between.read whole (served r List.mem_cons_self) (by omega)
        have later := held (count + 1) _ next
          (fun r inside => served r (List.mem_cons_of_mem _ inside)) (by omega)
        rw [List.flatMap_cons, Machine.play_append, List.map_cons, List.sum_cons,
          List.length_cons, Nat.add_comm rest.length, ← Nat.add_assoc, ← Nat.add_assoc, ← length]
        exact later
  have start : Between stream 0 (End.start true stream) := ⟨rfl, rfl, rfl, rfl, rfl⟩
  have nothing : (End.start true stream).delivered.length = 0 := rfl
  obtain ⟨last, length⟩ := all reads 0 _ start served (by omega)
  obtain ⟨more, split, -⟩ := last.left whole
  have count : (Machine.play End.step (End.start true stream)
      (reads.flatMap Read.moves)).delivered.length = (reads.map Read.size).sum := by
    omega
  refine ⟨by simpa using last.returned, ?_⟩
  rw [split, List.take_left' count]

/-! The two ways between the implementations, and the decoder on any bytes at all. -/

/-- The frames of the bridge are read with the data of the payloads, whatever the sizes of the
reads; on a pipe that fails, with a beginning of it. -/
theorem encoded_frames_read {payloads : List (List UInt8)}
    (fit : ∀ payload ∈ payloads, payload ≠ [] ∧ payload.length ≤ maxFrame) :
    ∃ frames, payloads.mapM encode = .ok frames ∧
      (∀ reads : List Read, (∀ r ∈ reads, r.Served) →
        (reads.map Read.size).sum ≤ payloads.flatten.length →
        (Machine.play End.step (End.start true frames.flatten)
            (reads.flatMap Read.moves)).returned = List.replicate reads.length .ok ∧
          (Machine.play End.step (End.start true frames.flatten)
            (reads.flatMap Read.moves)).delivered =
              payloads.flatten.take (reads.map Read.size).sum) ∧
      ∀ moves, (Machine.play End.step (End.start true frames.flatten) moves).delivered <+:
        payloads.flatten := by
  have whole := frames_run fit
  refine ⟨_, mapM_encode fit, fun reads served enough => reads_deliver whole reads served enough, ?_⟩
  intro moves
  obtain ⟨side, -⟩ := End.run_sides true
    (payloads.map fun payload => frameHeader payload.length ++ payload).flatten moves
  have given := side.given.trans (Framing.payload_mono ⟨_, side.stream⟩)
  have all : Framing.payload headerSize frameLength
      (payloads.map fun payload => frameHeader payload.length ++ payload).flatten =
        payloads.flatten := congrArg Prod.snd whole
  rwa [all] at given

/-- The decoder gives the bytes that were written, however the stream is cut. -/
theorem written_frames_decoded {bytes : Bool} {stream : List UInt8} {moves : List Move}
    (unbroken : (Machine.play End.step (End.start bytes stream) moves).broken = none)
    {pieces : List (List UInt8)}
    (cut : pieces.flatten = (Machine.play End.step (End.start bytes stream) moves).put) :
    (∀ result ∈ (Decoder.feed {} pieces).1, ∃ bytes, result = .ok bytes) ∧
      output (Decoder.feed {} pieces).1 =
        (Machine.play End.step (End.start bytes stream) moves).sent ∧
      (Decoder.feed {} pieces).2.finish = .ok () := by
  obtain ⟨-, writes⟩ := End.run_sides bytes stream moves
  have boundary : run (.header []) pieces.flatten = _ := cut ▸ writes.boundary unbroken
  obtain ⟨oks, total⟩ := Decoder.feed_good Decoder.start_stands pieces (by rw [boundary]; simp)
  have stands := Decoder.feed_stands Decoder.start_stands pieces
  rw [boundary] at stands total
  exact ⟨oks, total, (Decoder.finish_iff stands).mpr rfl⟩

def Breaks (bytes : List UInt8) : Prop :=
  ∃ good data header rest, bytes = good ++ header ++ rest ∧ Frames good data ∧ Malformed header

structure Decodes (pieces : List (List UInt8)) : Prop where
  /-- The call that comes to the malformed header fails, and every call after it. -/
  fails : ∀ first piece later, pieces = first ++ piece :: later →
    (((Decoder.feed {} first).2.consume piece).1 = .error .header ↔
      ¬Breaks first.flatten ∧ Breaks (first.flatten ++ piece)) ∧
    (((Decoder.feed {} first).2.consume piece).1 = .error .failed ↔ Breaks first.flatten)
  failed : (Decoder.feed {} pieces).2.failed = true ↔ Breaks pieces.flatten
  stays : (Decoder.feed {} pieces).2.failed = true → ∀ piece,
    (Decoder.feed {} pieces).2.consume piece = (.error .failed, (Decoder.feed {} pieces).2)
  /-- Without a failure the output is that of the bytes in one piece. -/
  total : ¬Breaks pieces.flatten → (∀ result ∈ (Decoder.feed {} pieces).1,
      ∃ bytes, result = .ok bytes) ∧
    output (Decoder.feed {} pieces).1 = output (Decoder.feed {} [pieces.flatten]).1
  /-- The output of the call that fails is lost; what the calls before it gave is not. -/
  before : ∀ first piece later, pieces = first ++ piece :: later → ¬Breaks first.flatten →
    Breaks (first.flatten ++ piece) →
    output (Decoder.feed {} pieces).1 = output (Decoder.feed {} [first.flatten]).1
  finish : (Decoder.feed {} pieces).2.finish = .ok () ↔ ∃ data, Frames pieces.flatten data

theorem feed_append (d : Decoder) (first later : List (List UInt8)) :
    d.feed (first ++ later) =
      ((d.feed first).1 ++ ((d.feed first).2.feed later).1, ((d.feed first).2.feed later).2) := by
  induction first generalizing d with
  | nil => rfl
  | cons piece rest held => simp [Decoder.feed, held]

theorem output_append (first later : List (Except Failure (List UInt8))) :
    output (first ++ later) = output first ++ output later := by
  simp [output]

/-- Nothing more comes out of a decoder that failed. -/
theorem feed_failed {d : Decoder} (failed : d.failed = true) (pieces : List (List UInt8)) :
    output (d.feed pieces).1 = [] := by
  induction pieces with
  | nil => rfl
  | cons piece rest held =>
      simpa [Decoder.feed, Decoder.consume_failed failed, output, Except.toOption] using held

/-- The data of a good stream, in one piece. -/
theorem output_whole {stream : List UInt8} (good : (run (.header []) stream).1 ≠ .bad) :
    output (Decoder.feed {} [stream]).1 = (run (.header []) stream).2 := by
  have one := Decoder.feed_good Decoder.start_stands [stream] (by simpa using good)
  simpa using one.2

theorem decoder_decodes (pieces : List (List UInt8)) : Decodes pieces := by
  have breaks : ∀ stream, Breaks stream ↔ (run (.header []) stream).1 = .bad :=
    fun stream => run_bad_iff.symm
  have stands := Decoder.feed_stands Decoder.start_stands pieces
  constructor
  case fails =>
      intro first piece later _
      obtain ⟨failed, header, gives⟩ := Decoder.consume_after first piece
      rw [breaks, breaks]
      by_cases old : (run (.header []) first.flatten).1 = .bad
      · rw [failed old]
        simp [old]
      · by_cases new : (run (.header []) (first.flatten ++ piece)).1 = .bad
        · rw [header old new]
          simp [old, new]
        · obtain ⟨bytes, given, -⟩ := gives new
          rw [given]
          simp [old, new]
  case failed =>
      rw [breaks]
      exact stands.failed_iff
  case stays => exact fun failed piece => Decoder.consume_failed failed piece
  case total =>
      intro good
      rw [breaks] at good
      obtain ⟨oks, total⟩ := Decoder.feed_good Decoder.start_stands pieces good
      exact ⟨oks, total.trans (output_whole good).symm⟩
  case before =>
      rintro first piece later rfl old new
      rw [breaks] at old new
      obtain ⟨_, header, _⟩ := Decoder.consume_after first piece
      obtain ⟨-, total⟩ := Decoder.feed_good Decoder.start_stands first old
      have next := Decoder.feed_stands Decoder.start_stands (first ++ [piece])
      have failed : (Decoder.feed {} (first ++ [piece])).2.failed = true := by
        rw [next.failed_iff]
        simpa using new
      have whole : first ++ piece :: later = (first ++ [piece]) ++ later := by simp
      have nothing : output ((Decoder.feed {} first).2.feed [piece]).1 = [] := by
        rw [Decoder.feed, Decoder.feed, header old new]
        rfl
      have lost : output (Decoder.feed {} (first ++ [piece])).1 =
          output (Decoder.feed {} first).1 := by
        rw [feed_append, output_append, nothing, List.append_nil]
      rw [whole, feed_append, output_append, feed_failed failed, List.append_nil, lost, total,
        output_whole old]
  case finish =>
      rw [Decoder.finish_iff stands]
      constructor
      · exact fun boundary => ⟨_, Frames.of_run (Prod.ext boundary rfl)⟩
      · rintro ⟨data, frames⟩
        exact congrArg Prod.fst frames.run_eq

/-- The bridge and the pipe have one format, in both directions and however the bytes are cut. -/
theorem bridge_and_pipe_frames_agree :
    (∀ payloads : List (List UInt8),
      (∀ payload ∈ payloads, payload ≠ [] ∧ payload.length ≤ maxFrame) →
      ∃ frames, payloads.mapM encode = .ok frames ∧
        (∀ reads : List Read, (∀ r ∈ reads, r.Served) →
          (reads.map Read.size).sum ≤ payloads.flatten.length →
          (Machine.play End.step (End.start true frames.flatten)
              (reads.flatMap Read.moves)).returned = List.replicate reads.length .ok ∧
            (Machine.play End.step (End.start true frames.flatten)
              (reads.flatMap Read.moves)).delivered =
                payloads.flatten.take (reads.map Read.size).sum) ∧
        ∀ moves, (Machine.play End.step (End.start true frames.flatten) moves).delivered <+:
          payloads.flatten) ∧
    (∀ bytes stream moves, (Machine.play End.step (End.start bytes stream) moves).broken = none →
      ∀ pieces, pieces.flatten = (Machine.play End.step (End.start bytes stream) moves).put →
        (∀ result ∈ (Decoder.feed {} pieces).1, ∃ bytes, result = .ok bytes) ∧
          output (Decoder.feed {} pieces).1 =
            (Machine.play End.step (End.start bytes stream) moves).sent ∧
          (Decoder.feed {} pieces).2.finish = .ok ()) ∧
    ∀ pieces, Decodes pieces :=
  ⟨fun _ fit => encoded_frames_read fit,
    fun _ _ _ unbroken _ cut => written_frames_decoded unbroken cut, decoder_decodes⟩

/-- Two reads of four bytes of two payloads, over a transport that gives a byte at a time. -/
theorem bridge_and_pipe_frames_agree_abcd :
    ∃ frames, [[97, 98, 99], [100]].mapM encode = .ok frames ∧
      ∃ moves, (Machine.play End.step (End.start true frames.flatten) moves).delivered =
        [97, 98, 99, 100] := by
  obtain ⟨frames, encoded, delivers, -⟩ := bridge_and_pipe_frames_agree.1 [[97, 98, 99], [100]]
    (by decide)
  have served : ∀ r ∈ [Read.mk [⟨1, 1⟩] (List.replicate 2 (bytewise 8)),
      Read.mk [⟨2, 1⟩, ⟨3, 2⟩] (List.replicate 6 (bytewise 8))], r.Served := by
    intro r inside
    have serves : ∀ count, ∀ t ∈ List.replicate count (bytewise 8), Serves t 8 := by
      intro count t inside
      rw [List.eq_of_mem_replicate inside]
      exact bytewise_serves 8
    simp only [List.mem_cons, List.not_mem_nil, or_false] at inside
    rcases inside with rfl | rfl
    · exact ⟨by decide, by decide, serves 2⟩
    · exact ⟨by decide, by decide, serves 6⟩
  exact ⟨frames, encoded, _, (delivers _ served (by decide)).2⟩

/-- A good frame and a malformed header: in one piece the data of the frame is lost, in two it
comes out. -/
theorem decoder_output_depends_on_cutting :
    ¬∀ first second : List (List UInt8), first.flatten = second.flatten →
      output (Decoder.feed {} first).1 = output (Decoder.feed {} second).1 := by
  intro all
  have same := all [[3, 0, 0, 0, 0, 0, 0, 0, 97, 98, 99, 0, 0, 0, 0, 0, 0, 0, 0]]
    [[3, 0, 0, 0, 0, 0, 0, 0, 97, 98, 99], [0, 0, 0, 0, 0, 0, 0, 0]] (by decide)
  exact absurd same (by decide)

end Bscp.Crosvm.BinderBridge
