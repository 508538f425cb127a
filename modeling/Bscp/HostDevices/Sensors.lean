import Bscp.Packets
import Bscp.Struct

/-!
The requests of the sensors service (`sensors_simulator_host.py`). One input carries framed
messages or lines of text, and after every read the loop guesses which: what has no whole header
yet is taken for text.
-/

namespace Bscp.HostDevices.Sensors

open Struct (le ofLe slice)
open Packets (Data taken taken_some taken_whole measured)

def headerSize : Nat := 8

def MAX_PAYLOAD : Nat := 1024 * 1024

structure Message where
  command : UInt16
  response : Bool
  payload : Data UInt8 (MAX_PAYLOAD + 1)

def commandWord (command : Nat) (response : Bool) : Nat :=
  command ||| (if response then 1 <<< 31 else 0)

def encodeMessage (command : Nat) (payload : Bytes) (response : Bool) : Except Fault Bytes := do
  let header ← Struct.pack [(4, commandWord command response), (4, payload.length)]
  return header ++ payload

def plausibleHeader (buffer : Bytes) : Bool :=
  decide (ofLe (slice buffer 0 4) &&& 0x7FFFFFFF ≤ 0xFFFF) &&
    decide (ofLe (slice buffer 4 8) ≤ MAX_PAYLOAD)

def decodeTurn (buffer : Bytes) : Option ((Nat × Bool × Bytes) × Bytes) :=
  if buffer.length < headerSize then none
  else
    let commandWord := ofLe (slice buffer 0 4)
    let size := ofLe (slice buffer 4 8)
    let command := commandWord &&& 0x7FFFFFFF
    if size > MAX_PAYLOAD ∨ command > 0xFFFF then none
    else
      taken buffer headerSize size fun total =>
        (command, decide (commandWord >>> 31 ≠ 0), slice buffer headerSize total)

def Message.encode (message : Message) : Bytes :=
  le 4 (commandWord message.command.toNat message.response) ++ le 4 message.payload.val.length ++
    message.payload.val

def Message.seen (message : Message) : Nat × Bool × Bytes :=
  (message.command.toNat, message.response, message.payload.val)

/-- The bit of a response stands above the command. -/
theorem commandWord_eq {command : Nat} (small : command < 2 ^ 31) (response : Bool) :
    commandWord command response = command + 2 ^ 31 * response.toNat := by
  cases response with
  | false => simp [commandWord]
  | true =>
      have apart : 2 ^ 31 * 1 + command = 2 ^ 31 * 1 ||| command := Nat.two_pow_add_eq_or_of_lt small 1
      rw [commandWord, if_pos rfl, Nat.or_comm]
      simpa [Nat.add_comm] using apart.symm

theorem low_bits (word : Nat) : word &&& 0x7FFFFFFF = word % 2 ^ 31 :=
  Nat.and_two_pow_sub_one_eq_mod word 31

section Words

variable {command : Nat} (small : command < 2 ^ 31) (response : Bool)
include small

theorem commandWord_command : commandWord command response &&& 0x7FFFFFFF = command := by
  rw [low_bits, commandWord_eq small]
  omega

theorem commandWord_response :
    decide (commandWord command response >>> 31 ≠ 0) = response := by
  rw [Nat.shiftRight_eq_div_pow, commandWord_eq small]
  cases response with
  | false => simp only [Bool.toNat_false]; simp; omega
  | true => simp only [Bool.toNat_true]; simp

theorem commandWord_lt : commandWord command response < 256 ^ 4 := by
  rw [commandWord_eq small]
  have bit := response.toNat_le
  omega

end Words

/-- A message is what the service itself would write with its command and its mark. -/
theorem encodeMessage_eq (message : Message) :
    encodeMessage message.command.toNat message.payload.val message.response =
      .ok message.encode := by
  obtain ⟨command, response, payload, fits⟩ := message
  have word : commandWord command.toNat response < 256 ^ 4 := by
    refine commandWord_lt ?_ response
    have code := command.toNat_lt
    omega
  have few : payload.length < 256 ^ 4 := by
    unfold MAX_PAYLOAD at fits
    omega
  have header : Struct.pack [(4, commandWord command.toNat response), (4, payload.length)] =
      .ok (Struct.fields [(4, commandWord command.toNat response), (4, payload.length)]) :=
    Struct.pack_ok (by simpa using ⟨word, few⟩)
  rw [encodeMessage, header]
  simp [Struct.fields, Message.encode, bind, Except.bind, pure, Except.pure]

/-- A word is its command and its bit. -/
theorem commandWord_split {word : Nat} (bits : word < 256 ^ 4) :
    commandWord (word % 2 ^ 31) (decide (word >>> 31 ≠ 0)) = word := by
  rw [commandWord_eq (Nat.mod_lt _ (by decide)), Nat.shiftRight_eq_div_pow]
  by_cases high : word / 2 ^ 31 = 0
  · rw [decide_eq_false (not_not_intro high), Bool.toNat_false]
    omega
  · rw [decide_eq_true high, Bool.toNat_true]
    omega

theorem decodeTurn_whole (message : Message) (more : Bytes) :
    decodeTurn (message.encode ++ more) = some (message.seen, more) := by
  obtain ⟨command, response, payload, fits⟩ := message
  have small : command.toNat < 2 ^ 31 := by
    have word := command.toNat_lt
    omega
  have few : payload.length < 256 ^ 4 := by
    unfold MAX_PAYLOAD at fits
    omega
  have word := @Struct.pair_first (commandWord command.toNat response) payload.length
    (payload ++ more) (commandWord_lt small response)
  have size := @Struct.pair_second (commandWord command.toNat response) payload.length
    (payload ++ more) few
  have shape : Message.encode ⟨command, response, payload, fits⟩ ++ more =
      le 4 (commandWord command.toNat response) ++ le 4 payload.length ++ (payload ++ more) :=
    List.append_assoc _ _ _
  have long : ¬ (le 4 (commandWord command.toNat response) ++ le 4 payload.length ++
      (payload ++ more)).length < headerSize := by
    simp only [List.length_append, Struct.le_length, headerSize]
    omega
  have middle := Struct.slice_middle
    (le 4 (commandWord command.toNat response) ++ le 4 payload.length) payload more rfl
  have known : ¬ (payload.length > MAX_PAYLOAD ∨ command.toNat > 0xFFFF) := by
    have word := command.toNat_lt
    omega
  rw [shape, decodeTurn, if_neg long]
  simp only [word, size, commandWord_command small, commandWord_response small]
  rw [if_neg known, taken_whole (by simp [headerSize]) rfl]
  refine congrArg (fun data => some ((command.toNat, response, data), more)) ?_
  rw [← List.append_assoc]
  exact middle

theorem decodeTurn_split {buffer rest : Bytes} {out : Nat × Bool × Bytes}
    (found : decodeTurn buffer = some (out, rest)) :
    ∃ message : Message, message.seen = out ∧ message.encode ++ rest = buffer := by
  unfold decodeTurn at found
  split at found
  · cases found
  · dsimp only at found
    split at found
    · cases found
    · next long known =>
        obtain ⟨enough, rfl, rfl⟩ := taken_some.mp found
        simp only [headerSize, not_lt] at enough long ⊢
        have first : le 4 (ofLe (slice buffer 0 4)) = slice buffer 0 4 :=
          Struct.le_eq (Struct.slice_length (by omega))
        have second : le 4 (ofLe (slice buffer 4 8)) = slice buffer 4 8 :=
          Struct.le_eq (Struct.slice_length (by omega))
        have bits : ofLe (slice buffer 0 4) < 256 ^ 4 :=
          Struct.ofLe_lt_of_le (Struct.slice_length_le _ _ _)
        rw [low_bits] at known ⊢
        generalize ofLe (slice buffer 0 4) = word at *
        generalize ofLe (slice buffer 4 8) = size at *
        have code : (UInt16.ofNat (word % 2 ^ 31)).toNat = word % 2 ^ 31 :=
          UInt16.toNat_ofNat_of_lt' (by unfold UInt16.size; omega)
        have length : (slice buffer 8 (8 + size)).length = size := by
          rw [Struct.slice_length enough]
          omega
        refine ⟨⟨UInt16.ofNat (word % 2 ^ 31), decide (word >>> 31 ≠ 0),
          slice buffer 8 (8 + size), ?_⟩, ?_, ?_⟩
        · rw [length]
          omega
        · simp only [Message.seen, code]
        · simp only [Message.encode]
          rw [code, commandWord_split bits, length, first, second,
            Struct.slice_append _ (by omega) (by omega),
            Struct.slice_append _ (by omega) (by omega), Struct.slice_rest]

def messages : Packets.Format UInt8 Message (Nat × Bool × Bytes) where
  encode := Message.encode
  seen := Message.seen
  turn := decodeTurn
  nonempty message := by simp [Message.encode, le]
  whole := decodeTurn_whole
  split := decodeTurn_split

def textLines : Packets.Format UInt8 (Packets.Line fun byte : UInt8 => byte == 10) Bytes :=
  @Packets.lined UInt8 (· == 10) 10 (by decide)

def decodeMessages (fuel : Nat) (buffer : Bytes) : Option (List (Nat × Bool × Bytes) × Bytes) :=
  messages.drain fuel buffer

/-- Where the loop stands: what it has passed to `process_payload`, each with the mark of a frame,
and its two buffers. -/
structure Loop where
  passed : List (Bytes × Bool)
  buffer : Bytes
  lineBuffer : Bytes
  deriving DecidableEq, Repr

/-- The loop of `request_loop`, over the reads, from its two buffers. -/
def requests (fuel : Nat) : Bytes → Bytes → List Bytes → Option Loop
  | buffer, lineBuffer, [] => some ⟨[], buffer, lineBuffer⟩
  | buffer, lineBuffer, data :: reads =>
      if data.isEmpty then some ⟨[], buffer, lineBuffer⟩
      else
        match decodeMessages fuel (buffer ++ data) with
        | none => none
        | some (decoded, buffer) =>
            if decoded ≠ [] then
              (requests fuel buffer lineBuffer reads).map fun later =>
                { later with passed := (decoded.map fun message => (message.2.2, true)) ++ later.passed }
            else if headerSize ≤ buffer.length ∧ plausibleHeader buffer then
              requests fuel buffer lineBuffer reads
            else
              -- What is here and no header goes to the lines.
              match textLines.drain fuel (lineBuffer ++ buffer) with
              | none => none
              | some (lines, lineBuffer) =>
                  (requests fuel [] lineBuffer reads).map fun later =>
                    { later with passed := (lines.map fun line => (line, false)) ++ later.passed }

def requestLoop (fuel : Nat) (reads : List Bytes) : Option Loop := requests fuel [] [] reads

/-! How much of the input what is passed on comes from. -/

def framedSize : List (Bytes × Bool) → Nat
  | [] => 0
  | (payload, framed) :: rest =>
      (if framed then headerSize + payload.length else 0) + framedSize rest

theorem framedSize_append (first last : List (Bytes × Bool)) :
    framedSize (first ++ last) = framedSize first + framedSize last := by
  induction first with
  | nil => simp [framedSize]
  | cons entry first next =>
      simp only [List.cons_append, framedSize, next]
      omega

theorem framedSize_lines (lines : List Bytes) :
    framedSize (lines.map fun line => (line, false)) = 0 := by
  induction lines with
  | nil => rfl
  | cons line lines next => simpa [framedSize] using next

theorem encode_length (message : Message) :
    message.encode.length = headerSize + message.payload.val.length := by
  simp only [Message.encode, List.length_append, Struct.le_length, headerSize]

theorem framedSize_decoded {buffer rest : Bytes} {decoded : List (Nat × Bool × Bytes)}
    (yields : messages.Yields buffer decoded rest) :
    framedSize (decoded.map fun message => (message.2.2, true)) + rest.length = buffer.length := by
  induction yields with
  | stop _ => exact Nat.zero_add _
  | turn whole _ next =>
      obtain ⟨message, rfl, rfl⟩ := messages.split whole
      have size : (messages.encode message).length = headerSize + message.payload.val.length :=
        encode_length message
      rw [List.length_append, size, ← next]
      simp only [List.map_cons, framedSize, messages, Message.seen, if_true]
      omega

/-- The loop returns, and its frames are no more than what came. -/
theorem requests_returns {fuel : Nat} {reads : List Bytes} {buffer lineBuffer : Bytes}
    (enough : lineBuffer.length + (buffer ++ Packets.received reads).length < fuel) :
    ∃ loop, requests fuel buffer lineBuffer reads = some loop ∧
      framedSize loop.passed ≤ (buffer ++ Packets.received reads).length := by
  induction reads generalizing buffer lineBuffer with
  | nil => exact ⟨_, rfl, Nat.zero_le _⟩
  | cons data reads next =>
      cases data with
      | nil => exact ⟨_, rfl, Nat.zero_le _⟩
      | cons byte data =>
          have more : Packets.received ((byte :: data) :: reads) =
              (byte :: data) ++ Packets.received reads := rfl
          rw [more, ← List.append_assoc] at enough ⊢
          rw [List.length_append] at enough ⊢
          obtain ⟨decoded, rest, yields⟩ :=
            @Packets.Format.yields_exists _ _ _ messages (buffer ++ byte :: data)
          have size := framedSize_decoded yields
          have drained : decodeMessages fuel (buffer ++ byte :: data) = some (decoded, rest) :=
            Packets.Format.drain_yields yields (by omega)
          by_cases found : decoded ≠ []
          · obtain ⟨loop, later, few⟩ := @next rest lineBuffer (by rw [List.length_append]; omega)
            refine ⟨_, by simp [requests, drained, found, later]; rfl, ?_⟩
            rw [List.length_append] at few
            rw [framedSize_append]
            omega
          · by_cases waits : headerSize ≤ rest.length ∧ plausibleHeader rest = true
            · obtain ⟨loop, later, few⟩ := @next rest lineBuffer (by rw [List.length_append]; omega)
              refine ⟨loop, by simp [requests, drained, found, waits, later], ?_⟩
              rw [List.length_append] at few
              omega
            · obtain ⟨lines, left, ends⟩ :=
                @Packets.Format.yields_exists _ _ _ textLines (lineBuffer ++ rest)
              have shorter := ends.length_le
              rw [List.length_append] at shorter
              have cut : textLines.drain fuel (lineBuffer ++ rest) = some (lines, left) :=
                Packets.Format.drain_yields ends (by rw [List.length_append]; omega)
              obtain ⟨loop, later, few⟩ := @next [] left (by rw [List.nil_append]; omega)
              refine ⟨_, by simp [requests, drained, found, waits, cut, later]; rfl, ?_⟩
              rw [List.nil_append] at few
              rw [framedSize_append, framedSize_lines]
              omega

/-! Messages, and where the reads end. -/

def boundary : List Message → Nat → Nat
  | [], _ => 0
  | message :: rest, count =>
      if message.encode.length ≤ count then
        message.encode.length + boundary rest (count - message.encode.length)
      else 0

/-- Every read ends a message, or ends behind the header of the message in which it ends. -/
def Kept (sent : List Message) : Nat → List Bytes → Prop
  | _, [] => True
  | before, data :: reads =>
      let after := before + data.length
      (before < boundary sent after ∨ boundary sent after + headerSize ≤ after) ∧
        Kept sent after reads

def cuts (reads : List Bytes) : List Bytes := reads.takeWhile fun data => !data.isEmpty

theorem seen_injective {first second : Message} (same : first.seen = second.seen) :
    first = second := by
  obtain ⟨command, response, payload⟩ := first
  obtain ⟨other, answer, data⟩ := second
  simp only [Message.seen, Prod.mk.injEq] at same
  obtain ⟨code, rfl, body⟩ := same
  obtain rfl := UInt16.toNat_inj.mp code
  obtain rfl := Subtype.ext body
  rfl

theorem boundary_stream (done sent : List Message) (count : Nat) :
    boundary (done ++ sent) ((messages.stream done).length + count) =
      (messages.stream done).length + boundary sent count := by
  induction done with
  | nil => simp [Packets.Format.stream]
  | cons message done next =>
      have size : (messages.stream (message :: done)).length =
          message.encode.length + (messages.stream done).length := by
        rw [Packets.Format.stream, List.flatMap_cons, List.length_append]
        rfl
      rw [size, List.cons_append, boundary, if_pos (by omega),
        show message.encode.length + (messages.stream done).length + count -
          message.encode.length = (messages.stream done).length + count by omega, next]
      omega

theorem kept_stream (done sent : List Message) (count : Nat) (reads : List Bytes) :
    Kept (done ++ sent) ((messages.stream done).length + count) reads ↔ Kept sent count reads := by
  induction reads generalizing count with
  | nil => exact Iff.rfl
  | cons data reads next =>
      simp only [Kept]
      rw [Nat.add_assoc, boundary_stream]
      exact and_congr (by omega) (next _)

section Messages

variable {sent : List Message} {buffer more : Bytes}
  (stream : buffer ++ more = messages.stream sent) (short : messages.turn buffer = none)
include stream short

/-- No message ends within a buffer that holds none. -/
theorem boundary_short : boundary sent buffer.length = 0 := by
  cases sent with
  | nil => rfl
  | cons message sent =>
      refine if_neg fun within => ?_
      have begins : message.encode <+: buffer := by
        refine List.prefix_of_prefix_length_le ⟨messages.stream sent, ?_⟩ ⟨more, stream⟩ within
        rfl
      obtain ⟨rest, rfl⟩ := begins
      have whole : messages.turn (message.encode ++ rest) = some (message.seen, rest) :=
        messages.whole message rest
      rw [short] at whole
      cases whole

omit short in
/-- The messages in a buffer, and those that are still to come. -/
theorem split_sent : ∃ done left rest, sent = done ++ left ∧ buffer = messages.stream done ++ rest ∧
    messages.turn rest = none ∧ rest ++ more = messages.stream left := by
  obtain ⟨done, rest, shape, short⟩ := @Packets.Format.split_stream _ _ _ messages buffer
  obtain ⟨left, last, others, ended⟩ := @Packets.Format.split_stream _ _ _ messages (rest ++ more)
  have whole : messages.Yields (messages.stream sent) (sent.map messages.seen) [] := by
    have all := Packets.Format.yields_stream sent (@Packets.Format.turn_nil _ _ _ messages)
    rwa [List.append_nil] at all
  have parts : messages.Yields (messages.stream sent)
      (done.map messages.seen ++ left.map messages.seen) last := by
    rw [← stream, shape]
    refine Packets.Format.Yields.append (Packets.Format.yields_stream done short) ?_
    rw [others]
    exact Packets.Format.yields_stream left ended
  obtain ⟨same, rfl⟩ := whole.unique parts
  rw [← List.map_append] at same
  have equal : sent = done ++ left := List.map_injective_iff.mpr (fun _ _ => seen_injective) same
  exact ⟨done, left, rest, equal, shape, short, by rw [others, List.append_nil]⟩

end Messages

/-- The header of a message is plausible. -/
theorem plausible_message (message : Message) (more : Bytes) :
    plausibleHeader (message.encode ++ more) = true := by
  obtain ⟨command, response, payload, fits⟩ := message
  have small : command.toNat < 2 ^ 31 := by
    have word := command.toNat_lt
    omega
  have few : payload.length < 256 ^ 4 := by
    unfold MAX_PAYLOAD at fits
    omega
  have shape : Message.encode ⟨command, response, payload, fits⟩ ++ more =
      le 4 (commandWord command.toNat response) ++ le 4 payload.length ++ (payload ++ more) :=
    List.append_assoc _ _ _
  have word := command.toNat_lt
  rw [shape, plausibleHeader, Struct.pair_first _ (commandWord_lt small response),
    Struct.pair_second _ few, commandWord_command small, Bool.and_eq_true, decide_eq_true_iff,
    decide_eq_true_iff]
  omega

theorem plausible_stream {sent : List Message} {buffer more : Bytes}
    (stream : buffer ++ more = messages.stream sent) (header : headerSize ≤ buffer.length) :
    plausibleHeader buffer = true := by
  cases sent with
  | nil =>
      have none := (List.append_eq_nil_iff.mp stream).1
      rw [none] at header
      cases header
  | cons message sent =>
      have shape : buffer ++ more = message.encode ++ messages.stream sent := stream
      have whole := plausible_message message (messages.stream sent)
      unfold headerSize at header
      rw [← shape, plausibleHeader, Struct.slice_append_left more (by omega), Struct.slice_append_left more header] at whole
      exact whole

theorem framedSize_sent (sent : List Message) :
    framedSize (sent.map fun message => (message.payload.val, true)) =
      (messages.stream sent).length := by
  have all := Packets.Format.yields_stream sent (@Packets.Format.turn_nil _ _ _ messages)
  have size := framedSize_decoded all
  rw [List.append_nil, List.map_map] at size
  exact size

/-- At the end of the input, nothing is left when all messages were whole. -/
theorem none_left {sent : List Message} {buffer : Bytes}
    (stream : buffer ++ [] = messages.stream sent) (short : messages.turn buffer = none) :
    sent = [] ∧ buffer = [] := by
  rw [List.append_nil] at stream
  cases sent with
  | nil => exact ⟨rfl, stream⟩
  | cons message sent =>
      have whole := messages.whole message (messages.stream sent)
      rw [stream] at short
      cases short.symm.trans whole

/-- A read that ends a message is longer than what the message still lacked. -/
theorem before_boundary {message : Message} {sent : List Message} {buffer more : Bytes}
    (stream : buffer ++ more = messages.stream (message :: sent))
    (short : messages.turn buffer = none) : buffer.length < message.encode.length := by
  by_contra long
  have none := boundary_short stream short
  rw [boundary, if_pos (by omega)] at none
  have size := encode_length message
  unfold headerSize at size
  omega

section Cutting

variable {fuel : Nat} {reads : List Bytes} {sent : List Message} {buffer lineBuffer : Bytes}
  (stream : buffer ++ Packets.received reads = messages.stream sent)
  (short : messages.turn buffer = none)
  (enough : lineBuffer.length + (buffer ++ Packets.received reads).length < fuel)
include stream short enough

/-- What is passed on are the messages, or fewer bytes of frames. -/
theorem requests_messages :
    (Kept sent buffer.length (cuts reads) →
      requests fuel buffer lineBuffer reads =
        some ⟨sent.map fun message => (message.payload.val, true), [], lineBuffer⟩) ∧
    (¬ Kept sent buffer.length (cuts reads) →
      ∀ loop, requests fuel buffer lineBuffer reads = some loop →
        framedSize loop.passed < (messages.stream sent).length) := by
  induction reads generalizing buffer lineBuffer sent with
  | nil =>
      obtain ⟨rfl, rfl⟩ := none_left stream short
      exact ⟨fun _ => rfl, fun lost => absurd trivial lost⟩
  | cons data reads next =>
      cases data with
      | nil =>
          obtain ⟨rfl, rfl⟩ := none_left stream short
          exact ⟨fun _ => rfl, fun lost => absurd trivial lost⟩
      | cons byte data =>
          have more : Packets.received ((byte :: data) :: reads) =
              (byte :: data) ++ Packets.received reads := rfl
          have read : cuts ((byte :: data) :: reads) = (byte :: data) :: cuts reads := rfl
          rw [more, ← List.append_assoc] at stream enough
          rw [List.length_append] at enough
          obtain ⟨done, left, rest, rfl, shape, held, onward⟩ := split_sent stream
          have after : buffer.length + (byte :: data).length =
              (messages.stream done).length + rest.length := by
            rw [← List.length_append, shape, List.length_append]
          have drained : decodeMessages fuel (buffer ++ byte :: data) =
              some (done.map messages.seen, rest) := by
            have yields := Packets.Format.yields_stream done held
            rw [← shape] at yields
            exact Packets.Format.drain_yields yields (by omega)
          have size : (messages.stream (done ++ left)).length =
              (messages.stream done).length + (messages.stream left).length := by
            rw [Packets.Format.stream, List.flatMap_append, List.length_append]
            rfl
          have total := congrArg List.length onward
          rw [List.length_append] at total
          have length : (buffer ++ byte :: data).length = (messages.stream done).length + rest.length := by
            rw [shape, List.length_append]
          simp only [read, Kept, after, boundary_stream, boundary_short onward held, kept_stream]
          cases done with
          | nil =>
              have nothing : (messages.stream []).length = 0 := rfl
              rw [nothing] at after length
              simp only [nothing, List.nil_append, Nat.zero_add, Nat.add_zero, Nat.not_lt_zero,
                false_or]
              by_cases header : headerSize ≤ rest.length
              · have waits := plausible_stream onward header
                have goes : requests fuel buffer lineBuffer ((byte :: data) :: reads) =
                    requests fuel rest lineBuffer reads := by
                  simp [requests, drained, header, waits]
                rw [goes]
                simpa [header] using next onward held (by rw [List.length_append]; omega)
              · refine ⟨fun kept => absurd kept.1 header, fun _ loop found => ?_⟩
                -- The beginning of a header goes to the lines.
                obtain ⟨lines, line, ends⟩ :=
                  @Packets.Format.yields_exists _ _ _ textLines (lineBuffer ++ rest)
                have shorter := ends.length_le
                rw [List.length_append] at shorter
                have cut : textLines.drain fuel (lineBuffer ++ rest) = some (lines, line) :=
                  Packets.Format.drain_yields ends (by rw [List.length_append]; omega)
                obtain ⟨later, returns, few⟩ :=
                  @requests_returns fuel reads [] line (by rw [List.nil_append]; omega)
                simp only [requests, drained, cut, returns, header, false_and, if_false,
                  List.map_nil, ne_eq, not_true_eq_false, List.isEmpty_cons, Bool.false_eq_true,
                  Option.map_some, Option.some.injEq] at found
                rw [← found, framedSize_append, framedSize_lines]
                rw [List.nil_append] at few
                rw [List.length_cons] at after
                omega
          | cons message done =>
              have ends : buffer.length < (messages.stream (message :: done)).length := by
                have before := before_boundary ((List.append_assoc _ _ _).symm.trans stream) short
                have whole : (messages.stream (message :: done)).length =
                    message.encode.length + (messages.stream done).length := by
                  rw [Packets.Format.stream, List.flatMap_cons, List.length_append]
                  rfl
                omega
              obtain ⟨kept, lost⟩ :=
                @next left rest lineBuffer onward held (by rw [List.length_append]; omega)
              have goes : requests fuel buffer lineBuffer ((byte :: data) :: reads) =
                  (requests fuel rest lineBuffer reads).map fun later =>
                    { later with passed :=
                        (((message :: done).map messages.seen).map fun message =>
                          (message.2.2, true)) ++ later.passed } := by
                simp [requests, drained]
              have decoded := framedSize_sent (message :: done)
              simp only [Nat.add_zero, ends, true_or, true_and]
              refine ⟨fun all => ?_, fun some_lost loop found => ?_⟩
              · rw [goes, kept all]
                simp [messages, Message.seen, Function.comp_def]
              · rw [goes] at found
                obtain ⟨later, returns, rfl⟩ := Option.map_eq_some_iff.mp found
                have fewer := lost some_lost later returns
                rw [framedSize_append, size, List.map_map]
                exact Nat.add_lt_add_of_le_of_lt (Nat.le_of_eq decoded) fewer

end Cutting

/-! Lines of text. -/

/-- A text in which no read could begin with what looks like a header. -/
def Apart (text : Bytes) : Prop :=
  ∀ front back, front ++ back = text → headerSize ≤ back.length → plausibleHeader back = false

def unlines (lines : List Bytes) : Bytes := lines.flatMap fun line => line ++ [10]

theorem decodeTurn_unlikely {buffer : Bytes}
    (apart : headerSize ≤ buffer.length → plausibleHeader buffer = false) : decodeTurn buffer = none := by
  unfold decodeTurn
  split
  · rfl
  · next long =>
      have other := apart (Nat.le_of_not_lt long)
      rw [plausibleHeader, Bool.and_eq_false_iff, decide_eq_false_iff_not, decide_eq_false_iff_not] at other
      exact if_pos (by omega)

theorem unlines_yields {lines : List Bytes} (whole : ∀ line ∈ lines, 10 ∉ line) :
    textLines.Yields (unlines lines) lines [] := by
  induction lines with
  | nil => exact .stop rfl
  | cons line lines next =>
      have plain : ∀ byte ∈ line, (byte == 10) = false := fun byte member => by
        have other : byte ≠ 10 := fun same => whole line List.mem_cons_self (same ▸ member)
        simpa using other
      have shape : unlines (line :: lines) = line ++ 10 :: unlines lines := by
        simp [unlines]
      rw [shape]
      exact .turn (Packets.firstLine_line plain rfl)
        (next fun other member => whole other (List.mem_cons_of_mem _ member))

theorem requests_text {fuel : Nat} {reads lines : List Bytes} {lineBuffer last : Bytes}
    (ended : textLines.turn lineBuffer = none)
    (yields : textLines.Yields (lineBuffer ++ Packets.received reads) lines last)
    (apart : Apart (Packets.received reads))
    (enough : (lineBuffer ++ Packets.received reads).length < fuel) :
    requests fuel [] lineBuffer reads = some ⟨lines.map fun line => (line, false), [], last⟩ := by
  induction reads generalizing lineBuffer lines with
  | nil =>
      rw [Packets.received, List.takeWhile_nil, List.flatten_nil, List.append_nil] at yields
      obtain ⟨rfl, rfl⟩ := yields.unique (.stop ended)
      rfl
  | cons data reads next =>
      cases data with
      | nil =>
          have nothing : Packets.received ([] :: reads) = ([] : Bytes) := rfl
          rw [nothing, List.append_nil] at yields
          obtain ⟨rfl, rfl⟩ := yields.unique (.stop ended)
          rfl
      | cons byte data =>
          have more : Packets.received ((byte :: data) :: reads) =
              (byte :: data) ++ Packets.received reads := rfl
          rw [more] at yields apart enough
          rw [← List.append_assoc] at yields enough
          have clean : headerSize ≤ (byte :: data).length → plausibleHeader (byte :: data) = false := by
            intro header
            have longer : headerSize ≤ ((byte :: data) ++ Packets.received reads).length :=
              Nat.le_trans header (List.prefix_append _ _).length_le
            have whole : plausibleHeader ((byte :: data) ++ Packets.received reads) = false :=
              apart [] _ rfl longer
            unfold headerSize at header
            rwa [plausibleHeader, Struct.slice_append_left _ (by omega), Struct.slice_append_left _ header] at whole
          have drained : decodeMessages fuel ([] ++ byte :: data) = some ([], byte :: data) := by
            refine Packets.Format.drain_yields (.stop (decodeTurn_unlikely clean)) ?_
            rw [List.length_append, List.length_append] at enough
            rw [List.nil_append]
            omega
          obtain ⟨some_lines, torn, opens⟩ :=
            @Packets.Format.yields_exists _ _ _ textLines (lineBuffer ++ byte :: data)
          obtain ⟨others, left, closes⟩ :=
            @Packets.Format.yields_exists _ _ _ textLines (torn ++ Packets.received reads)
          obtain ⟨rfl, rfl⟩ := yields.unique (opens.append closes)
          have shorter := opens.length_le
          rw [List.length_append] at enough
          have cut : textLines.drain fuel (lineBuffer ++ byte :: data) = some (some_lines, torn) :=
            Packets.Format.drain_yields opens (by omega)
          have onward : Apart (Packets.received reads) := fun front back same =>
            apart (byte :: data ++ front) back (by rw [List.append_assoc, same])
          have later := next opens.ended closes onward (by rw [List.length_append]; omega)
          have text : ¬ (headerSize ≤ (byte :: data).length ∧ plausibleHeader (byte :: data) = true) := by
            rintro ⟨header, waits⟩
            rw [clean header] at waits
            cases waits
          simp only [requests, drained, cut, later, if_neg text, List.isEmpty_cons,
            Bool.false_eq_true, if_false, ne_eq, not_true_eq_false, Option.map_some, List.map_append]

/-- Messages are passed on as they were sent exactly when no read that ends no message ends inside
a header, and lines of text always. -/
theorem requests_passed (reads : List Bytes) (fuel : Nat) :
    (∀ sent : List Message, Packets.received reads = messages.stream sent →
      (Packets.received reads).length < fuel →
        ∃ loop, requestLoop fuel reads = some loop ∧
          (loop.passed = sent.map (fun message => (message.payload.val, true)) ↔
            Kept sent 0 (cuts reads))) ∧
      ∀ lines : List Bytes, (∀ line ∈ lines, 10 ∉ line) → Apart (unlines lines) →
        Packets.received reads = unlines lines → (Packets.received reads).length < fuel →
          ∃ loop, requestLoop fuel reads = some loop ∧
            loop.passed = lines.map fun line => (line, false) := by
  constructor
  · intro sent stream enough
    have within : ([] : Bytes).length + ([] ++ Packets.received reads).length < fuel := by
      simpa using enough
    obtain ⟨loop, returns, _⟩ := @requests_returns fuel reads [] [] within
    obtain ⟨kept, lost⟩ := @requests_messages fuel reads sent [] [] stream rfl within
    refine ⟨loop, returns, fun same => ?_, fun all => ?_⟩
    · by_contra some_lost
      have fewer := lost some_lost loop returns
      rw [same, framedSize_sent] at fewer
      exact absurd fewer (Nat.lt_irrefl _)
    · have whole := returns.symm.trans (kept all)
      cases whole
      rfl
  · intro lines whole apart text enough
    have yields : textLines.Yields ([] ++ Packets.received reads) lines [] := by
      rw [List.nil_append, text]
      exact unlines_yields whole
    exact ⟨_, requests_text rfl yields (text ▸ apart) (by simpa using enough), rfl⟩

/-- A request for the sensors, of which the first read brings half a header. -/
theorem header_lost :
    ∃ message : Message,
      Packets.received [message.encode.take 4, message.encode.drop 4] = messages.stream [message] ∧
        (requestLoop 30 [message.encode.take 4, message.encode.drop 4]).map Loop.passed ≠
          some [(message.payload.val, true)] :=
  ⟨⟨2, false, [108, 105, 115, 116, 45, 115, 101, 110, 115, 111, 114, 115, 10], by decide⟩, by decide⟩

end Bscp.HostDevices.Sensors
