import Bscp.Framing
import Bscp.LocalRpc.PacketCodecRoundTrip
import Bscp.LocalRpc.PipeFrameSafety

/-!
The framing of the vsock bridge (`binder_bridge.rs`): `encode`, and the incremental `Decoder`.
The decoder is fed with pieces of a stream, of any sizes; it stands where `Framing` says that the
stream stands, whatever the pieces were.
-/

namespace Bscp.Crosvm.BinderBridge

open LocalRpc.PacketCodec (u32 read32)

def maxFrame : Nat := 64 * 1024 * 1024

inductive Failure where
  /-- empty or oversize Binder frame -/
  | encoded
  /-- failed Binder frame decoder -/
  | failed
  /-- oversize frame or unsupported attached handles -/
  | header
  /-- truncated Binder pipe frame -/
  | truncated
  deriving DecidableEq, Repr

def encode (data : List UInt8) : Except Failure (List UInt8) :=
  if data.isEmpty || data.length > maxFrame then .error .encoded
  else .ok (u32 (UInt32.ofNat data.length) ++ u32 0 ++ data)

structure Decoder where
  header : List UInt8 := List.replicate 8 0
  used : Nat := 0
  remaining : Nat := 0
  failed : Bool := false
  deriving DecidableEq, Repr

namespace Decoder

def copied (d : Decoder) (bytes : List UInt8) : List UInt8 :=
  d.header.take d.used ++ bytes ++ d.header.drop (d.used + bytes.length)

/-- The loop of `consume`. Each round takes a byte of the input, so that the length of the input
bounds the rounds. -/
def rounds : Nat → Decoder → List UInt8 → List UInt8 → Except Failure (List UInt8) × Decoder
  | _, d, [], output => (.ok output, d)
  | 0, d, _ :: _, output => (.ok output, d)
  | fuel + 1, d, input, output =>
      if d.remaining ≠ 0 then
        let n := min d.remaining input.length
        rounds fuel { d with remaining := d.remaining - n } (input.drop n) (output ++ input.take n)
      else
        let n := min (8 - d.used) input.length
        let header := d.copied (input.take n)
        if d.used + n ≠ 8 then
          rounds fuel { d with header := header, used := d.used + n } (input.drop n) output
        else
          let length := (read32 header 0).toNat
          if length = 0 ∨ length > maxFrame ∨ read32 header 4 ≠ 0 then
            (.error .header, { d with header := header, used := d.used + n, failed := true })
          else
            rounds fuel { d with header := header, used := 0, remaining := length } (input.drop n)
              output

def consume (d : Decoder) (input : List UInt8) : Except Failure (List UInt8) × Decoder :=
  if d.failed then (.error .failed, d) else rounds input.length d input []

def finish (d : Decoder) : Except Failure Unit :=
  if d.failed || d.used ≠ 0 || d.remaining ≠ 0 then .error .truncated else .ok ()

def feed (d : Decoder) : List (List UInt8) → List (Except Failure (List UInt8)) × Decoder
  | [] => ([], d)
  | piece :: rest =>
      let first := d.consume piece
      let later := first.2.feed rest
      (first.1 :: later.1, later.2)

end Decoder

def output (results : List (Except Failure (List UInt8))) : List UInt8 :=
  results.flatMap fun result => result.toOption.getD []

/-! The decoder against the stream. -/

open LocalRpc.PipeFrame (frameLength headerSize kMaxFrameBytes)

abbrev run (mode : Framing.Mode UInt8) (stream : List UInt8) :=
  Framing.run headerSize frameLength mode stream

def Decoder.Stands (d : Decoder) : Framing.Mode UInt8 → Prop
  | .header seen => d.failed = false ∧ d.remaining = 0 ∧ d.header.length = 8 ∧
      d.used = seen.length ∧ seen.length < 8 ∧ d.header.take d.used = seen
  | .data remaining => d.failed = false ∧ d.header.length = 8 ∧ d.used = 0 ∧
      d.remaining = remaining ∧ 0 < remaining
  | .bad => d.failed = true

def Decoder.Comes (mode : Framing.Mode UInt8) (stream output : List UInt8)
    (result : Except Failure (List UInt8) × Decoder) : Prop :=
  result.2.Stands (run mode stream).1 ∧
    ((run mode stream).1 = .bad → result.1 = .error .header) ∧
    ((run mode stream).1 ≠ .bad → result.1 = .ok (output ++ (run mode stream).2))

namespace Decoder

variable {d : Decoder} {mode : Framing.Mode UInt8}

theorem start_stands : Stands {} (.header []) := by
  simp [Stands]

/-- The decoder opens a frame, or fails, as the stream does. -/
theorem opened_length (header : List UInt8) :
    Framing.opened frameLength header =
      if (read32 header 0).toNat = 0 ∨ (read32 header 0).toNat > maxFrame ∨ read32 header 4 ≠ 0 then
        .bad
      else .data (read32 header 0).toNat := by
  have same : maxFrame = kMaxFrameBytes := rfl
  unfold Framing.opened frameLength
  rw [same]
  generalize (read32 header 0).toNat = length
  cases length with
  | zero => simp
  | succ rest => grind -ring -linarith

theorem stands_inside {remaining : Nat} (clean : d.failed = false) (eight : d.header.length = 8)
    (unused : d.used = 0) (left : d.remaining = remaining) :
    d.Stands (Framing.inside remaining) := by
  cases remaining with
  | zero => exact ⟨clean, left, eight, unused, by decide, by simp [unused]⟩
  | succ rest => exact ⟨clean, eight, unused, left, Nat.succ_pos _⟩

/-- One part of the input, and the rest of the call. -/
theorem Comes.after {middle : Framing.Mode UInt8} {part rest given output : List UInt8}
    {result : Except Failure (List UInt8) × Decoder} (first : run mode part = (middle, given))
    (last : Comes middle rest (output ++ given) result) :
    Comes mode (part ++ rest) output result := by
  obtain ⟨stands, bad, good⟩ := last
  have whole : run mode (part ++ rest) = ((run middle rest).1, given ++ (run middle rest).2) := by
    have first : Framing.run headerSize frameLength mode part = (middle, given) := first
    rw [run, Framing.run_append, first]
  unfold Comes
  rw [whole, ← List.append_assoc]
  exact ⟨stands, bad, good⟩

theorem copied_length (eight : d.header.length = 8) {bytes : List UInt8}
    (within : d.used + bytes.length ≤ 8) : (d.copied bytes).length = 8 := by
  simp [copied]
  omega

theorem copied_take (eight : d.header.length = 8) {bytes : List UInt8}
    (within : d.used + bytes.length ≤ 8) :
    (d.copied bytes).take (d.used + bytes.length) = d.header.take d.used ++ bytes := by
  have size : (d.header.take d.used ++ bytes).length = d.used + bytes.length := by
    simp
    omega
  rw [copied, ← size]
  exact List.take_left

/-- The input is at its end. -/
theorem comes_nil (stands : d.Stands mode) (clean : d.failed = false) (output : List UInt8) :
    Comes mode [] output (.ok output, d) := by
  have open_mode : mode ≠ .bad := by
    rintro rfl
    exact Bool.noConfusion (clean.symm.trans stands)
  exact ⟨stands, fun bad => absurd bad open_mode, fun _ => by simp [run, Framing.run]⟩

section Rounds

variable {fuel n : Nat} {input output : List UInt8}

theorem rounds_data (some_input : input ≠ []) (left : d.remaining ≠ 0)
    (taken : n = min d.remaining input.length) :
    rounds (fuel + 1) d input output =
      rounds fuel { d with remaining := d.remaining - n } (input.drop n)
        (output ++ input.take n) := by
  subst taken
  cases input with
  | nil => exact absurd rfl some_input
  | cons byte more =>
      rw [rounds, if_pos left]
      exact some_input

theorem rounds_header (some_input : input ≠ []) (boundary : d.remaining = 0)
    (taken : n = min (8 - d.used) input.length) (short : d.used + n ≠ 8) :
    rounds (fuel + 1) d input output =
      rounds fuel { d with header := d.copied (input.take n), used := d.used + n }
        (input.drop n) output := by
  subst taken
  cases input with
  | nil => exact absurd rfl some_input
  | cons byte more =>
      rw [rounds, if_neg (not_not.mpr boundary)]
      · dsimp only
        rw [if_pos short]
      · exact some_input

theorem rounds_opens (some_input : input ≠ []) (boundary : d.remaining = 0)
    (taken : n = min (8 - d.used) input.length) (whole : d.used + n = 8)
    {header : List UInt8} (copied : header = d.copied (input.take n)) :
    rounds (fuel + 1) d input output =
      if (read32 header 0).toNat = 0 ∨ (read32 header 0).toNat > maxFrame ∨
          read32 header 4 ≠ 0 then
        (.error .header, { d with header := header, used := d.used + n, failed := true })
      else
        rounds fuel { d with header := header, used := 0, remaining := (read32 header 0).toNat }
          (input.drop n) output := by
  subst taken copied
  cases input with
  | nil => exact absurd rfl some_input
  | cons byte more =>
      rw [rounds, if_neg (not_not.mpr boundary)]
      · dsimp only
        rw [if_neg (not_not.mpr whole)]
      · exact some_input

end Rounds

theorem rounds_comes (fuel : Nat) (d : Decoder) (mode : Framing.Mode UInt8)
    (input output : List UInt8) (stands : d.Stands mode) (clean : d.failed = false)
    (enough : input.length ≤ fuel) : Comes mode input output (rounds fuel d input output) := by
  induction fuel generalizing d mode input output with
  | zero =>
      have empty : input = [] := List.length_eq_zero_iff.mp (Nat.le_zero.mp enough)
      subst empty
      exact comes_nil stands clean output
  | succ fuel held =>
      by_cases some_input : input = []
      · subst some_input
        exact comes_nil stands clean output
      have positive : 0 < input.length := List.length_pos_iff.mpr some_input
      cases mode with
      | bad => exact Bool.noConfusion (clean.symm.trans stands)
      | data remaining =>
          obtain ⟨_, eight, unused, left, some_left⟩ := stands
          generalize taken : min d.remaining input.length = n
          have size : (input.take n).length = n := by
            rw [List.length_take]
            omega
          rw [rounds_data some_input (by omega) taken.symm]
          have part : run (.data remaining) (input.take n) =
              (Framing.inside (remaining - n), input.take n) := by
            obtain ⟨rest, rfl⟩ : ∃ rest, remaining = rest + 1 :=
              Nat.exists_eq_succ_of_ne_zero (by omega)
            have inside : Framing.run headerSize frameLength (Framing.inside (rest + 1))
                (input.take n) = _ := Framing.run_data (input.take n) (by omega)
            rw [size] at inside
            exact inside
          have next := held { d with remaining := d.remaining - n } (Framing.inside (remaining - n))
            (input.drop n) (output ++ input.take n)
            (stands_inside clean eight unused (by rw [left])) clean (by
              rw [List.length_drop]
              omega)
          have comes := next.after part
          rwa [List.take_append_drop] at comes
      | header seen =>
          obtain ⟨_, boundary, eight, used, short, begun⟩ := stands
          generalize taken : min (8 - d.used) input.length = n
          have size : (input.take n).length = n := by
            rw [List.length_take]
            omega
          have within : d.used + (input.take n).length ≤ 8 := by omega
          have copied := copied_take eight within
          rw [begun, size] at copied
          have length := copied_length eight within
          have shorter : (input.drop n).length ≤ fuel := by
            rw [List.length_drop]
            omega
          by_cases whole : d.used + n = 8
          · -- the header is complete
            have header : d.copied (input.take n) = seen ++ input.take n := by
              rw [whole, ← length, List.take_length] at copied
              exact copied
            rw [rounds_opens some_input boundary taken.symm whole header.symm]
            have opens := opened_length (seen ++ input.take n)
            have part : run (.header seen) (input.take n) =
                (Framing.opened frameLength (seen ++ input.take n), []) :=
              Framing.run_header_rest (by rw [← header, length]; rfl) short
            split
            case isTrue bad =>
                rw [if_pos bad] at opens
                rw [opens] at part
                have comes : Comes (.header seen) (input.take n ++ input.drop n) output
                    (.error .header, { d with
                      header := seen ++ input.take n, used := d.used + n, failed := true }) := by
                  apply Comes.after part
                  unfold Comes
                  rw [run, Framing.run_bad]
                  exact ⟨rfl, fun _ => rfl, fun open_mode => absurd rfl open_mode⟩
                rwa [List.take_append_drop] at comes
            case isFalse good =>
                rw [if_neg good] at opens
                rw [opens] at part
                have next := held
                  { d with
                    header := seen ++ input.take n
                    used := 0
                    remaining := (read32 (seen ++ input.take n) 0).toNat }
                  (.data (read32 (seen ++ input.take n) 0).toNat) (input.drop n) (output ++ [])
                  ⟨clean, header ▸ length, rfl, rfl, by omega⟩ clean shorter
                have comes := next.after part
                rwa [List.take_append_drop, List.append_nil] at comes
          · rw [rounds_header some_input boundary taken.symm whole]
            have part : run (.header seen) (input.take n) =
                (.header (seen ++ input.take n), []) :=
              Framing.run_header (by
                rw [List.length_append, size]
                change _ < 8
                omega)
            have next := held { d with header := d.copied (input.take n), used := d.used + n }
              (.header (seen ++ input.take n)) (input.drop n) (output ++ [])
              ⟨clean, boundary, length, by simp [size, used], by
                rw [List.length_append, size]
                omega, copied⟩ clean shorter
            have comes := next.after part
            rwa [List.take_append_drop, List.append_nil] at comes

theorem consume_comes {mode : Framing.Mode UInt8} (stands : d.Stands mode)
    (clean : d.failed = false) (piece : List UInt8) : Comes mode piece [] (d.consume piece) := by
  unfold consume
  rw [if_neg (by simp [clean])]
  exact rounds_comes piece.length d mode piece [] stands clean (Nat.le_refl _)

/-- A decoder that failed stays as it is. -/
theorem consume_failed (failed : d.failed = true) (piece : List UInt8) :
    d.consume piece = (.error .failed, d) := by
  rw [consume, if_pos failed]

theorem Stands.failed_iff (stands : d.Stands mode) : d.failed = true ↔ mode = .bad := by
  cases mode with
  | header seen => simp [stands.1]
  | data remaining => simp [stands.1]
  | bad => exact iff_of_true stands rfl

theorem consume_stands (stands : d.Stands mode) (piece : List UInt8) :
    (d.consume piece).2.Stands (run mode piece).1 := by
  by_cases failed : d.failed = true
  · obtain rfl := stands.failed_iff.mp failed
    rw [consume_failed failed, run, Framing.run_bad]
    exact stands
  · exact (consume_comes stands (by simpa using failed) piece).1

theorem feed_stands (stands : d.Stands mode) (pieces : List (List UInt8)) :
    (d.feed pieces).2.Stands (run mode pieces.flatten).1 := by
  induction pieces generalizing d mode with
  | nil => exact stands
  | cons piece rest held =>
      have next := held (consume_stands stands piece)
      rw [List.flatten_cons, run, Framing.run_append]
      exact next

/-- As long as the stream is good, every call succeeds, and together they give its data. -/
theorem feed_good (stands : d.Stands mode) (pieces : List (List UInt8))
    (good : (run mode pieces.flatten).1 ≠ .bad) :
    (∀ result ∈ (d.feed pieces).1, ∃ bytes, result = .ok bytes) ∧
      output (d.feed pieces).1 = (run mode pieces.flatten).2 := by
  induction pieces generalizing d mode with
  | nil => simp [feed, output, run, Framing.run]
  | cons piece rest held =>
      have whole : run mode (piece :: rest).flatten =
          ((run (run mode piece).1 rest.flatten).1,
            (run mode piece).2 ++ (run (run mode piece).1 rest.flatten).2) := by
        rw [List.flatten_cons, run, Framing.run_append]
      rw [whole] at good ⊢
      have open_piece : (run mode piece).1 ≠ .bad := by
        intro bad
        rw [bad, run, Framing.run_bad] at good
        exact good rfl
      have clean : d.failed = false := by
        rw [← Bool.not_eq_true]
        intro failed
        obtain rfl := stands.failed_iff.mp failed
        exact open_piece (by rw [run, Framing.run_bad])
      obtain ⟨next, -, gives⟩ := consume_comes stands clean piece
      have given := gives open_piece
      obtain ⟨later, total⟩ := held next good
      constructor
      · intro result inside
        rcases List.mem_cons.mp inside with rfl | inside
        · exact ⟨_, given⟩
        · exact later result inside
      · rw [← total]
        simp [feed, output, given, Except.toOption]

/-- What the call for one piece returns. -/
theorem consume_after (first : List (List UInt8)) (piece : List UInt8) :
    ((run (.header []) first.flatten).1 = .bad →
      ((feed {} first).2.consume piece).1 = .error .failed) ∧
    ((run (.header []) first.flatten).1 ≠ .bad →
      (run (.header []) (first.flatten ++ piece)).1 = .bad →
      ((feed {} first).2.consume piece).1 = .error .header) ∧
    ((run (.header []) (first.flatten ++ piece)).1 ≠ .bad →
      ∃ bytes, ((feed {} first).2.consume piece).1 = .ok bytes ∧
        (run (.header []) (first.flatten ++ piece)).2 =
          (run (.header []) first.flatten).2 ++ bytes) := by
  have stands := feed_stands start_stands first
  have whole : run (.header []) (first.flatten ++ piece) = _ := Framing.run_append _ _ _
  constructor
  case left =>
      intro bad
      rw [consume_failed (stands.failed_iff.mpr bad)]
  case right =>
      constructor
      case left =>
          intro good bad
          have clean : (feed {} first).2.failed = false := by
            rw [← Bool.not_eq_true, stands.failed_iff]
            exact good
          rw [whole] at bad
          exact (consume_comes stands clean piece).2.1 bad
      case right =>
          intro good
          rw [whole] at good ⊢
          have clean : (feed {} first).2.failed = false := by
            rw [← Bool.not_eq_true, stands.failed_iff]
            intro bad
            rw [run] at bad
            rw [bad, Framing.run_bad] at good
            exact good rfl
          exact ⟨_, (consume_comes stands clean piece).2.2 good, rfl⟩

theorem finish_iff (stands : d.Stands mode) : d.finish = .ok () ↔ mode = .header [] := by
  unfold finish
  cases mode with
  | header seen =>
      obtain ⟨clean, boundary, _, used, _⟩ := stands
      cases seen <;> simp_all
  | data remaining =>
      obtain ⟨_, _, _, left, some_left⟩ := stands
      have more : d.remaining ≠ 0 := by omega
      simp [more]
  | bad => simp [show d.failed = true from stands]

end Decoder

/-! Streams of whole frames. -/

def Announces (header : List UInt8) (length : Nat) : Prop :=
  header.length = 8 ∧ (read32 header 0).toNat = length ∧ read32 header 4 = 0 ∧
    0 < length ∧ length ≤ maxFrame

def Malformed (header : List UInt8) : Prop :=
  header.length = 8 ∧ ((read32 header 0).toNat = 0 ∨ (read32 header 0).toNat > maxFrame ∨
    read32 header 4 ≠ 0)

inductive Frames : List UInt8 → List UInt8 → Prop
  | nil : Frames [] []
  | cons {header data rest more : List UInt8} (first : Announces header data.length)
      (later : Frames rest more) : Frames (header ++ data ++ rest) (data ++ more)

theorem frameLength_announces {header : List UInt8} {length : Nat}
    (announces : Announces header length) : frameLength header = some length := by
  obtain ⟨_, word, handles, positive, small⟩ := announces
  have same : maxFrame = kMaxFrameBytes := rfl
  rw [same] at small
  unfold frameLength
  simp [word, handles]
  omega

theorem announces_of_frameLength {header : List UInt8} {length : Nat}
    (eight : header.length = 8) (told : frameLength header = some length) :
    Announces header length := by
  have same : maxFrame = kMaxFrameBytes := rfl
  unfold frameLength at told
  simp at told
  obtain ⟨⟨⟨handles, positive⟩, small⟩, word⟩ := told
  exact ⟨eight, word, handles, by omega, by omega⟩

theorem Frames.run_eq {stream data : List UInt8} (frames : Frames stream data) :
    run (.header []) stream = (.header [], data) := by
  induction frames with
  | nil => rfl
  | cons first _ held =>
      have some_data := first.2.2.2.1
      have one : Framing.run headerSize frameLength (.header []) _ = _ :=
        Framing.run_frame first.1 (by decide) (frameLength_announces first)
          (List.length_pos_iff.mp some_data)
      simp only [run] at held
      rw [run, Framing.run_append, one, held]

theorem Frames.of_run {stream data : List UInt8}
    (whole : run (.header []) stream = (.header [], data)) : Frames stream data := by
  induction size : stream.length using Nat.strongRecOn generalizing stream data with
  | _ count held =>
      by_cases empty : stream = []
      · subst empty
        cases whole
        exact .nil
      · obtain ⟨enough, left, told⟩ := Framing.run_boundary (by decide) whole empty
        have eight : (stream.take headerSize).length = headerSize := List.length_take_of_le enough
        have announces := announces_of_frameLength eight told
        have opens : Framing.opened frameLength (stream.take headerSize) =
            Framing.inside (left + 1) := by
          rw [Framing.opened, told]
          rfl
        -- past the header, and past the data that it announces
        have after : Framing.run headerSize frameLength (Framing.inside (left + 1))
            (stream.drop headerSize) = (.header [], data) := by
          have split := whole
          rw [run, ← List.take_append_drop headerSize stream, Framing.run_append,
            Framing.run_opened eight (by decide), opens] at split
          simpa using split
        have there := Framing.run_inside_whole after
        have length : ((stream.drop headerSize).take (left + 1)).length = left + 1 :=
          List.length_take_of_le there
        rw [← List.take_append_drop (left + 1) (stream.drop headerSize), Framing.run_append,
          Framing.run_data _ (Nat.le_of_eq length), length, Nat.sub_self] at after
        obtain ⟨boundary, rfl⟩ := Prod.mk.inj after
        have some_stream : 0 < stream.length := List.length_pos_iff.mpr empty
        have later : Frames _ _ := held ((stream.drop headerSize).drop (left + 1)).length (by
          simp only [List.length_drop]
          omega) (Prod.ext boundary rfl) rfl
        have frames := @Frames.cons (stream.take headerSize)
          ((stream.drop headerSize).take (left + 1)) _ _ (by rwa [length]) later
        rwa [List.append_assoc, List.take_append_drop, List.take_append_drop] at frames

theorem malformed_iff {header : List UInt8} :
    Malformed header ↔ header.length = 8 ∧ Framing.opened frameLength header = .bad := by
  rw [Decoder.opened_length, Malformed]
  constructor
  · rintro ⟨eight, bad⟩
    exact ⟨eight, if_pos bad⟩
  · rintro ⟨eight, opens⟩
    refine ⟨eight, ?_⟩
    by_contra good
    rw [if_neg good] at opens
    cases opens

/-- A stream is bad exactly when, after whole frames, it has a malformed header. -/
theorem run_bad_iff {stream : List UInt8} : (run (.header []) stream).1 = .bad ↔
    ∃ good data header rest, stream = good ++ header ++ rest ∧ Frames good data ∧
      Malformed header := by
  rw [run, Framing.run_bad_iff (by decide)]
  constructor
  · rintro ⟨good, header, rest, split, boundary, eight, bad⟩
    exact ⟨good, _, header, rest, split, .of_run (Prod.ext boundary rfl),
      malformed_iff.mpr ⟨eight, bad⟩⟩
  · rintro ⟨good, data, header, rest, split, frames, malformed⟩
    obtain ⟨eight, bad⟩ := malformed_iff.mp malformed
    exact ⟨good, header, rest, split, congrArg Prod.fst frames.run_eq, eight, bad⟩

end Bscp.Crosvm.BinderBridge
