import Bscp.HostDevices.Modem
import Bscp.Struct

/-!
The frames between a radio interface layer and the modem (`modem_simulator_windows.py` and
`modem_simulator_host.py`). A client's stream is frames, their payloads together are text, and the
lines of the text are commands. Each of the two loops over a client keeps what has not ended yet:
a frame in one buffer, a line in the other. A command that raises ends the loop, and so does the
greeting of the first client.
-/

namespace Bscp.HostDevices.Modem

open Struct (le ofLe slice)
open Packets (Data taken taken_some taken_whole taken_grows measured)

def PIPE_HEADER_SIZE : Nat := 8

def packFramedPayload (payload : Bytes) : Except Fault Bytes := do
  let header ← Struct.pack [(4, payload.length), (4, 0)]
  return header ++ payload

def unpackTurn (buffer : Bytes) : Option (Bytes × Bytes) :=
  let payloadSize := ofLe (slice buffer 0 4)
  let handleCount := ofLe (slice buffer 4 8)
  taken buffer PIPE_HEADER_SIZE (handleCount * 8 + payloadSize) fun frameSize =>
    slice buffer (PIPE_HEADER_SIZE + handleCount * 8) frameSize

/-- A frame of a client. The handles before the payload are passed over. -/
structure Frame where
  handleCount : UInt32
  handles : Bytes
  sized : handles.length = handleCount.toNat * 8
  payload : Data UInt8 (2 ^ 32)

def Frame.encode (frame : Frame) : Bytes :=
  le 4 frame.payload.val.length ++ le 4 frame.handleCount.toNat ++
    (frame.handles ++ frame.payload.val)

theorem unpackTurn_whole (frame : Frame) (more : Bytes) :
    unpackTurn (frame.encode ++ more) = some (frame.payload.val, more) := by
  obtain ⟨count, handles, sized, payload, fits⟩ := frame
  have size := @Struct.pair_first payload.length count.toNat (handles ++ payload ++ more) fits
  have counted := @Struct.pair_second payload.length count.toNat (handles ++ payload ++ more)
    count.toNat_lt
  have shape : Frame.encode ⟨count, handles, sized, payload, fits⟩ ++ more =
      le 4 payload.length ++ le 4 count.toNat ++ (handles ++ payload ++ more) :=
    List.append_assoc _ _ _
  have inner : slice (le 4 payload.length ++ le 4 count.toNat ++ (handles ++ payload ++ more))
      (8 + count.toNat * 8) (8 + (count.toNat * 8 + payload.length)) = payload := by
    have front : (le 4 payload.length ++ le 4 count.toNat ++ handles).length =
        8 + count.toNat * 8 := by
      simp only [List.length_append, Struct.le_length, sized]
    have middle := Struct.slice_middle (le 4 payload.length ++ le 4 count.toNat ++ handles) payload
      more rfl
    rw [front, Nat.add_assoc] at middle
    simpa only [List.append_assoc] using middle
  rw [shape, unpackTurn]
  simp only [size, counted]
  rw [taken_whole (by simp [PIPE_HEADER_SIZE]) (by simp [sized])]
  exact congrArg (fun data => some (data, more)) inner

theorem unpackTurn_split {buffer payload rest : Bytes}
    (found : unpackTurn buffer = some (payload, rest)) :
    ∃ frame : Frame, frame.payload.val = payload ∧ frame.encode ++ rest = buffer := by
  obtain ⟨enough, rfl, rfl⟩ := taken_some.mp found
  have few : ∀ start, ofLe (slice buffer start (start + 4)) < 256 ^ 4 := fun start =>
    Struct.ofLe_lt_of_le (by simpa using Struct.slice_length_le buffer start (start + 4))
  simp only [PIPE_HEADER_SIZE] at enough ⊢
  have sizes := few 0
  have counts := few 4
  have first : le 4 (ofLe (slice buffer 0 4)) = slice buffer 0 4 :=
    Struct.le_eq (Struct.slice_length (by omega))
  have second : le 4 (ofLe (slice buffer 4 8)) = slice buffer 4 8 :=
    Struct.le_eq (Struct.slice_length (by omega))
  generalize ofLe (slice buffer 0 4) = size at *
  generalize ofLe (slice buffer 4 8) = count at *
  have counted : (UInt32.ofNat count).toNat = count := UInt32.toNat_ofNat_of_lt' counts
  have length : (slice buffer (8 + count * 8) (8 + (count * 8 + size))).length = size := by
    rw [Struct.slice_length enough]
    omega
  refine ⟨⟨UInt32.ofNat count, slice buffer 8 (8 + count * 8), ?_,
    slice buffer (8 + count * 8) (8 + (count * 8 + size)), ?_⟩, rfl, ?_⟩
  · rw [counted, Struct.slice_length (by omega)]
    omega
  · rw [length]
    exact sizes
  · simp only [Frame.encode]
    rw [counted, length, first, second,
      Struct.slice_append _ (by omega) (by omega), Struct.slice_append _ (by omega) (by omega),
      Struct.slice_append _ (by omega) (by omega), Struct.slice_rest]

theorem unpackTurn_grows (buffer : Bytes) : ∃ more, unpackTurn (buffer ++ more) ≠ none := by
  refine ⟨List.replicate (8 + 256 ^ 4 * 9) 0, taken_grows ?_⟩
  have size : ofLe (slice (buffer ++ List.replicate (8 + 256 ^ 4 * 9) 0) 0 4) < 256 ^ 4 :=
    Struct.ofLe_lt_of_le (Struct.slice_length_le _ _ _)
  have count : ofLe (slice (buffer ++ List.replicate (8 + 256 ^ 4 * 9) 0) 4 8) < 256 ^ 4 :=
    Struct.ofLe_lt_of_le (Struct.slice_length_le _ _ _)
  rw [List.length_append, List.length_replicate, PIPE_HEADER_SIZE]
  omega

def framed : Packets.Format UInt8 Frame Bytes where
  encode := Frame.encode
  seen frame := frame.payload.val
  turn := unpackTurn
  nonempty frame := by simp [Frame.encode, le]
  whole := unpackTurn_whole
  split := unpackTurn_split

def unpackFramedPayloads (fuel : Nat) (buffer : Bytes) : Option (List Bytes × Bytes) :=
  framed.drain fuel buffer

/-- `decode("ascii", errors="replace")`. -/
def decodeAscii (data : Bytes) : Text :=
  data.map fun byte => if byte.toNat < 128 then Char.ofNat byte.toNat else '\uFFFD'

/-- `replace("\n", "\r")`. -/
def returned (text : Text) : Text := text.map fun char => if char = '\n' then '\r' else char

/-- Commands that were dispatched, each with its answer, what was raised at the last of them, and
the modem after it. -/
structure Performed (σ : Type) where
  calls : List (Text × Except Fault (List Text))
  raised : Option Fault
  modem : σ

namespace Performed

variable {σ : Type}

def nothing (modem : σ) : Performed σ := ⟨[], none, modem⟩

def andThen (first later : Performed σ) : Performed σ :=
  { later with calls := first.calls ++ later.calls }

def continued (first : Performed σ) (next : σ → Performed σ) : Performed σ :=
  match first.raised with
  | some _ => first
  | none => first.andThen (next first.modem)

theorem continued_nothing (modem : σ) (next : σ → Performed σ) :
    (nothing modem).continued next = next modem := rfl

theorem continued_assoc (first : Performed σ) (next last : σ → Performed σ) :
    (first.continued next).continued last =
      first.continued fun modem => (next modem).continued last := by
  obtain ⟨calls, raised, modem⟩ := first
  cases raised with
  | some fault => rfl
  | none =>
      simp only [continued, andThen]
      rcases next modem with ⟨more, fault | _, after⟩
      · simp only [List.append_assoc]
      · rfl

end Performed

/-- Where a client's loop stands, with what has not ended yet. -/
structure Client (σ : Type) extends Performed σ where
  rxBuffer : Bytes
  atBuffer : Text

section Loops

variable {σ : Type} (dispatch : σ → Text → Except Fault (List Text) × σ)
  (sendLines : σ → List Text → Except Fault Unit × σ)

/-- `send_lines(pipe, modem.dispatch(command))`. -/
def answer (modem : σ) (command : Text) : Performed σ :=
  match dispatch modem command with
  | (.error fault, modem) => ⟨[(command, .error fault)], some fault, modem⟩
  | (.ok responses, modem) =>
      match sendLines modem responses with
      | (.error fault, modem) => ⟨[(command, .ok responses)], some fault, modem⟩
      | (.ok (), modem) => ⟨[(command, .ok responses)], none, modem⟩

/-- The innermost loop of `handle_client`, over the lines that have ended. -/
def handleClientLines : Nat → σ → Text → Option (Performed σ × Text)
  | 0, _, _ => none
  | fuel + 1, modem, atBuffer =>
      match Packets.firstLine (· == '\r') atBuffer with
      | none => some (.nothing modem, atBuffer)
      | some (line, atBuffer) =>
          let command := strip line
          if command = [] then handleClientLines fuel modem atBuffer
          else
            let served := answer dispatch sendLines modem command
            match served.raised with
            | some _ => some (served, atBuffer)
            | none => (handleClientLines fuel served.modem atBuffer).map fun later =>
                (served.andThen later.1, later.2)

/-- The innermost loop of `handle_socket_client`. -/
def handleSocketClientLines : Nat → σ → Text → Option (Performed σ × Text)
  | 0, _, _ => none
  | fuel + 1, modem, atBuffer =>
      match Packets.firstLine (· == '\r') atBuffer with
      | none => some (.nothing modem, atBuffer)
      | some (line, atBuffer) =>
          let command := strip line
          let served :=
            if command ≠ [] then answer dispatch sendLines modem command else .nothing modem
          match served.raised with
          | some _ => some (served, atBuffer)
          | none => (handleSocketClientLines fuel served.modem atBuffer).map fun later =>
              (served.andThen later.1, later.2)

variable (lines : Nat → σ → Text → Option (Performed σ × Text))

def overPayloads (fuel : Nat) : σ → Text → List Bytes → Option (Performed σ × Text)
  | modem, atBuffer, [] => some (.nothing modem, atBuffer)
  | modem, atBuffer, payload :: payloads =>
      match lines fuel modem (atBuffer ++ returned (decodeAscii payload)) with
      | none => none
      | some (served, atBuffer) =>
          match served.raised with
          | some _ => some (served, atBuffer)
          | none => (overPayloads fuel served.modem atBuffer payloads).map fun later =>
              (served.andThen later.1, later.2)

def overReads (fuel : Nat) : σ → Bytes → Text → List Bytes → Option (Client σ)
  | modem, rxBuffer, atBuffer, [] => some ⟨.nothing modem, rxBuffer, atBuffer⟩
  | modem, rxBuffer, atBuffer, chunk :: reads =>
      if chunk.isEmpty then some ⟨.nothing modem, rxBuffer, atBuffer⟩
      else
        match unpackFramedPayloads fuel (rxBuffer ++ chunk) with
        | none => none
        | some (payloads, rxBuffer) =>
            match overPayloads lines fuel modem atBuffer payloads with
            | none => none
            | some (served, atBuffer) =>
                match served.raised with
                | some _ => some ⟨served, rxBuffer, atBuffer⟩
                | none => (overReads fuel served.modem rxBuffer atBuffer reads).map fun client =>
                    { client with toPerformed := served.andThen client.toPerformed }

/-- What comes before the first read: `onFirstClient` has lines, unless a client was there before. -/
def greet (onFirstClient : σ → Option (List Text) × σ) (modem : σ) : Performed σ :=
  match onFirstClient modem with
  | (none, modem) => .nothing modem
  | (some lines, modem) =>
      match sendLines modem lines with
      | (.error fault, modem) => ⟨[], some fault, modem⟩
      | (.ok (), modem) => .nothing modem

variable (onFirstClient : σ → Option (List Text) × σ)

def handleClient (fuel : Nat) (modem : σ) (reads : List Bytes) : Option (Client σ) :=
  let greeted := greet sendLines onFirstClient modem
  match greeted.raised with
  | some _ => some ⟨greeted, [], []⟩
  | none => overReads (handleClientLines dispatch sendLines) fuel greeted.modem [] [] reads

def handleSocketClient (fuel : Nat) (modem : σ) (reads : List Bytes) : Option (Client σ) :=
  let greeted := greet sendLines onFirstClient modem
  match greeted.raised with
  | some _ => some ⟨greeted, [], []⟩
  | none => overReads (handleSocketClientLines dispatch sendLines) fuel greeted.modem [] [] reads

/-- The two loops over lines are one. -/
theorem handleSocketClientLines_eq :
    handleSocketClientLines dispatch sendLines = handleClientLines dispatch sendLines := by
  funext fuel
  induction fuel with
  | zero => rfl
  | succ fuel next =>
      funext modem atBuffer
      unfold handleSocketClientLines handleClientLines
      rw [next]
      cases Packets.firstLine (· == '\r') atBuffer with
      | none => rfl
      | some found =>
          dsimp only
          by_cases blank : strip found.1 = []
          · rw [if_neg (not_not_intro blank), if_pos blank]
            change Option.map _ (handleClientLines dispatch sendLines fuel modem found.2) = _
            cases handleClientLines dispatch sendLines fuel modem found.2 with
            | none => rfl
            | some later => rfl
          · rw [if_pos blank, if_neg blank]

end Loops

/-! What the loops dispatch. -/

def atLines : Packets.Format Char (Packets.Line (· == '\r')) Text :=
  @Packets.lined _ (· == '\r') '\r' (by decide)

def commands (lines : List Text) : List Text := (lines.map strip).filter (· ≠ [])

theorem commands_append (first last : List Text) :
    commands (first ++ last) = commands first ++ commands last := by
  simp [commands]

section Dispatch

variable {σ : Type} (dispatch : σ → Text → Except Fault (List Text) × σ)
  (sendLines : σ → List Text → Except Fault Unit × σ)

/-- Commands, one after the other, up to the first that raises. -/
def perform : σ → List Text → Performed σ
  | modem, [] => .nothing modem
  | modem, command :: rest =>
      (answer dispatch sendLines modem command).continued fun modem => perform modem rest

structure UpTo (commands : List Text) (performed : Performed σ) : Prop where
  in_order : performed.calls.map Prod.fst <+: commands
  all : performed.raised = none → performed.calls.map Prod.fst = commands
  answered : ∀ call ∈ performed.calls.dropLast, ∃ responses, call.2 = .ok responses

variable {dispatch sendLines}

theorem answer_calls (modem : σ) (command : Text) : ∃ result,
    (answer dispatch sendLines modem command).calls = [(command, result)] ∧
      ((answer dispatch sendLines modem command).raised = none →
        ∃ responses, result = .ok responses) := by
  unfold answer
  rcases dispatch modem command with ⟨fault | responses, after⟩
  · exact ⟨.error fault, rfl, fun none => by cases none⟩
  · refine ⟨.ok responses, ?_, fun _ => ⟨responses, rfl⟩⟩
    dsimp only
    rcases sendLines after responses with ⟨fault | done, last⟩ <;> rfl

theorem perform_upTo (modem : σ) (rest : List Text) :
    UpTo rest (perform dispatch sendLines modem rest) := by
  induction rest generalizing modem with
  | nil => exact ⟨List.prefix_rfl, fun _ => rfl, List.forall_mem_nil _⟩
  | cons command rest next =>
      obtain ⟨result, called, fine⟩ := @answer_calls _ dispatch sendLines modem command
      unfold perform Performed.continued
      cases ended : (answer dispatch sendLines modem command).raised with
      | some fault =>
          refine ⟨?_, fun none => ?_, ?_⟩
          · rw [called]
            exact List.prefix_append [command] rest
          · rw [ended] at none
            cases none
          · rw [called]
            exact List.forall_mem_nil _
      | none =>
          have later := next (answer dispatch sendLines modem command).modem
          dsimp only [Performed.andThen]
          generalize perform dispatch sendLines _ rest = performed at later ⊢
          rw [called]
          refine ⟨(List.prefix_cons_inj command).mpr later.in_order,
            fun none => congrArg (command :: ·) (later.all none), ?_⟩
          rw [List.singleton_append]
          cases calls : performed.calls with
          | nil => exact List.forall_mem_nil _
          | cons call more =>
              rw [List.dropLast_cons_cons, ← calls]
              exact List.forall_mem_cons.mpr ⟨fine ended, later.answered⟩

theorem perform_append (modem : σ) (first last : List Text) :
    perform dispatch sendLines modem (first ++ last) =
      (perform dispatch sendLines modem first).continued fun modem =>
        perform dispatch sendLines modem last := by
  induction first generalizing modem with
  | nil => rfl
  | cons command first next =>
      rw [List.cons_append, perform, perform, Performed.continued_assoc]
      exact congrArg (Performed.continued _) (funext next)

variable (dispatch sendLines) in
def Performs (modem : σ) (lines : List Text) (rest : Text) (given : Option (Performed σ × Text)) :
    Prop :=
  ∃ left, given = some (perform dispatch sendLines modem (commands lines), left) ∧
    ((perform dispatch sendLines modem (commands lines)).raised = none → left = rest)

theorem handleClientLines_performs {atBuffer rest : Text} {lines : List Text} {fuel : Nat}
    (modem : σ) (yields : atLines.Yields atBuffer lines rest) (enough : atBuffer.length < fuel) :
    Performs dispatch sendLines modem lines rest
      (handleClientLines dispatch sendLines fuel modem atBuffer) := by
  induction yields generalizing fuel modem with
  | stop short =>
      obtain ⟨fuel, rfl⟩ := Nat.exists_eq_succ_of_ne_zero (Nat.ne_zero_of_lt enough)
      have short : Packets.firstLine (· == '\r') _ = none := short
      exact ⟨_, by rw [handleClientLines, short]; rfl, fun _ => rfl⟩
  | @turn _ _ _ line lines whole _ next =>
      obtain ⟨fuel, rfl⟩ := Nat.exists_eq_succ_of_ne_zero (Nat.ne_zero_of_lt enough)
      have less := Packets.Format.turn_shorter whole
      have whole : Packets.firstLine (· == '\r') _ = some _ := whole
      rw [handleClientLines, whole]
      dsimp only
      by_cases blank : strip line = []
      · have same : commands (line :: lines) = commands lines := by simp [commands, blank]
        rw [if_pos blank, Performs, same]
        exact next modem (by omega)
      · have more : commands (line :: lines) = strip line :: commands lines := by
          simp [commands, blank]
        rw [if_neg blank, Performs, more, perform, Performed.continued]
        cases ended : (answer dispatch sendLines modem (strip line)).raised with
        | some fault => exact ⟨_, rfl, fun none => by rw [ended] at none; cases none⟩
        | none =>
            obtain ⟨left, same, kept⟩ :=
              next (answer dispatch sendLines modem (strip line)).modem (show _ < fuel by omega)
            exact ⟨left, by rw [same]; rfl, kept⟩

def textOf (payloads : List Bytes) : Text :=
  payloads.flatMap fun payload => returned (decodeAscii payload)

theorem overPayloads_performs {payloads : List Bytes} {atBuffer rest : Text} {lines : List Text}
    {fuel : Nat} (modem : σ) (ended : atLines.turn atBuffer = none)
    (yields : atLines.Yields (atBuffer ++ textOf payloads) lines rest)
    (enough : (atBuffer ++ textOf payloads).length < fuel) :
    Performs dispatch sendLines modem lines rest
      (overPayloads (handleClientLines dispatch sendLines) fuel modem atBuffer payloads) := by
  induction payloads generalizing atBuffer lines modem with
  | nil =>
      rw [textOf, List.flatMap_nil, List.append_nil] at yields
      obtain ⟨rfl, rfl⟩ := yields.unique (.stop ended)
      exact ⟨_, rfl, fun _ => rfl⟩
  | cons payload payloads next =>
      have more : textOf (payload :: payloads) = returned (decodeAscii payload) ++ textOf payloads :=
        rfl
      rw [more, ← List.append_assoc] at yields enough
      obtain ⟨first, middle, begun⟩ :=
        Packets.Format.yields_exists (f := atLines) (atBuffer ++ returned (decodeAscii payload))
      obtain ⟨second, last, goes⟩ :=
        Packets.Format.yields_exists (f := atLines) (middle ++ textOf payloads)
      obtain ⟨rfl, rfl⟩ := yields.unique (begun.append goes)
      rw [List.length_append] at enough
      have shorter := begun.length_le
      obtain ⟨left, here, kept⟩ :=
        @handleClientLines_performs _ dispatch sendLines _ _ _ fuel modem begun (by omega)
      rw [overPayloads, here, Performs, commands_append, perform_append, Performed.continued]
      dsimp only
      cases stopped : (perform dispatch sendLines modem (commands first)).raised with
      | some fault => exact ⟨_, rfl, fun none => by rw [stopped] at none; cases none⟩
      | none =>
          obtain rfl := kept stopped
          obtain ⟨torn, later, same⟩ :=
            next (perform dispatch sendLines modem (commands first)).modem begun.ended goes
              (by rw [List.length_append]; omega)
          exact ⟨torn, by rw [later]; rfl, same⟩

/-- Payloads are shorter than their frames. -/
theorem textOf_length {buffer rest : Bytes} {payloads : List Bytes}
    (yields : framed.Yields buffer payloads rest) :
    (textOf payloads).length + rest.length ≤ buffer.length := by
  induction yields with
  | stop _ => exact Nat.le_of_eq (Nat.zero_add _)
  | turn whole _ next =>
      obtain ⟨frame, rfl, rfl⟩ := framed.split whole
      simp only [textOf, List.flatMap_cons, List.length_append, framed, Frame.encode, returned,
        decodeAscii, List.length_map, Struct.le_length] at next ⊢
      omega

theorem overReads_performs {reads payloads : List Bytes} {rxBuffer rest : Bytes}
    {atBuffer last : Text} {lines : List Text} {fuel : Nat} (modem : σ)
    (unframed : framed.turn rxBuffer = none) (ended : atLines.turn atBuffer = none)
    (frames : framed.Yields (rxBuffer ++ Packets.received reads) payloads rest)
    (yields : atLines.Yields (atBuffer ++ textOf payloads) lines last)
    (enough : atBuffer.length + (rxBuffer ++ Packets.received reads).length < fuel) :
    ∃ client, overReads (handleClientLines dispatch sendLines) fuel modem rxBuffer atBuffer reads =
        some client ∧
      client.toPerformed = perform dispatch sendLines modem (commands lines) ∧
      framed.turn client.rxBuffer = none ∧
      (client.raised = none → client.rxBuffer = rest) := by
  induction reads generalizing rxBuffer atBuffer payloads lines modem with
  | nil =>
      rw [Packets.received, List.takeWhile_nil, List.flatten_nil, List.append_nil] at frames
      obtain ⟨rfl, rfl⟩ := frames.unique (.stop unframed)
      rw [textOf, List.flatMap_nil, List.append_nil] at yields
      obtain ⟨rfl, rfl⟩ := yields.unique (.stop ended)
      exact ⟨_, rfl, rfl, unframed, fun _ => rfl⟩
  | cons chunk reads next =>
      cases chunk with
      | nil =>
          -- A read of nothing is the end of the stream, whatever stands behind it.
          have nothing : Packets.received ([] :: reads) = ([] : Bytes) := rfl
          rw [nothing, List.append_nil] at frames
          obtain ⟨rfl, rfl⟩ := frames.unique (.stop unframed)
          rw [textOf, List.flatMap_nil, List.append_nil] at yields
          obtain ⟨rfl, rfl⟩ := yields.unique (.stop ended)
          exact ⟨_, rfl, rfl, unframed, fun _ => rfl⟩
      | cons byte chunk =>
          have more : Packets.received ((byte :: chunk) :: reads) =
              (byte :: chunk) ++ Packets.received reads := rfl
          rw [more, ← List.append_assoc] at frames enough
          -- The frames of this read and of the later ones, and their lines.
          obtain ⟨first, middle, begun⟩ :=
            Packets.Format.yields_exists (f := framed) (rxBuffer ++ byte :: chunk)
          obtain ⟨second, final, goes⟩ :=
            Packets.Format.yields_exists (f := framed) (middle ++ Packets.received reads)
          obtain ⟨rfl, rfl⟩ := frames.unique (begun.append goes)
          have text : textOf (first ++ second) = textOf first ++ textOf second :=
            List.flatMap_append
          rw [text, ← List.append_assoc] at yields
          obtain ⟨some_lines, torn, opens⟩ :=
            Packets.Format.yields_exists (f := atLines) (atBuffer ++ textOf first)
          obtain ⟨other_lines, left, closes⟩ :=
            Packets.Format.yields_exists (f := atLines) (torn ++ textOf second)
          obtain ⟨rfl, rfl⟩ := yields.unique (opens.append closes)
          rw [List.length_append] at enough
          have shorter := textOf_length begun
          have torn_shorter := opens.length_le
          rw [List.length_append] at torn_shorter
          have unpacked : unpackFramedPayloads fuel (rxBuffer ++ byte :: chunk) =
              some (first, middle) := Packets.Format.drain_yields begun (by omega)
          obtain ⟨behind, here, kept⟩ :=
            @overPayloads_performs _ dispatch sendLines _ _ _ _ fuel modem ended opens
              (by rw [List.length_append]; omega)
          have some_bytes : ¬ (byte :: chunk).isEmpty = true := Bool.false_ne_true
          rw [overReads, if_neg some_bytes, unpacked, commands_append, perform_append,
            Performed.continued]
          dsimp only
          rw [here]
          dsimp only
          -- The frames of this read are out of the buffer, even if one of their commands has raised.
          cases stopped : (perform dispatch sendLines modem (commands some_lines)).raised with
          | some fault =>
              exact ⟨_, rfl, rfl, begun.ended, fun none => by rw [stopped] at none; cases none⟩
          | none =>
              obtain rfl := kept stopped
              obtain ⟨client, later, same, short, whole⟩ :=
                next (perform dispatch sendLines modem (commands some_lines)).modem begun.ended
                  opens.ended goes closes (by rw [List.length_append]; omega)
              exact ⟨{ client with toPerformed := Performed.andThen _ client.toPerformed },
                by rw [later]; rfl, congrArg (Performed.andThen _) same, short, whole⟩

end Dispatch

/-! The commands of a stream, told from its bytes. -/

def isEnd (byte : UInt8) : Bool := byte == 13 || byte == 10

def segments (payload : Bytes) : List Text :=
  commands ((payload.splitOnP isEnd).dropLast.map decodeAscii)

def letter (byte : UInt8) : Char :=
  let char := if byte.toNat < 128 then Char.ofNat byte.toNat else '\uFFFD'
  if char = '\n' then '\r' else char

theorem textOf_map (payloads : List Bytes) : textOf payloads = payloads.flatten.map letter := by
  have each : ∀ payload, returned (decodeAscii payload) = payload.map letter := fun payload => by
    rw [returned, decodeAscii, List.map_map]
    rfl
  simp only [textOf, each, List.flatMap_def, List.map_flatten]

theorem letter_end (byte : UInt8) : (letter byte == '\r') = isEnd byte := by
  obtain ⟨value⟩ := byte
  revert value
  decide

theorem letter_plain {segment : Bytes} (plain : ∀ byte ∈ segment, isEnd byte = false) :
    segment.map letter = decodeAscii segment := by
  refine List.map_congr_left fun byte member => ?_
  have other := letter_end byte
  rw [plain byte member] at other
  unfold letter at other ⊢
  split
  · simp_all
  · rfl

theorem segments_yields (payload : Bytes) : ∃ lines last,
    atLines.Yields (payload.map letter) lines last ∧ commands lines = segments payload := by
  have mark : isEnd 13 = true := rfl
  have bytes := Packets.yields_splitOnP mark payload
  refine ⟨_, _, bytes.mapped letter_end, congrArg commands (List.map_congr_left ?_)⟩
  exact fun segment member =>
    letter_plain (Packets.splitOnP_plain mark (List.dropLast_subset _ member))

theorem packFramedPayload_ok {payload frame : Bytes} (packed : packFramedPayload payload = .ok frame) :
    ∃ sent : Frame, sent.payload.val = payload ∧ sent.encode = frame := by
  unfold packFramedPayload at packed
  by_cases fits : payload.length < 256 ^ 4
  · have header : Struct.pack [(4, payload.length), (4, 0)] =
        .ok (Struct.fields [(4, payload.length), (4, 0)]) :=
      Struct.pack_ok (by simpa using fits)
    rw [header] at packed
    cases packed
    refine ⟨⟨0, [], rfl, payload, fits⟩, rfl, ?_⟩
    simp [Frame.encode, Struct.fields]
  · have refused : Struct.pack [(4, payload.length), (4, 0)] = .error _ :=
      if_neg (by simp only [List.all_cons, decide_eq_false fits, Bool.false_and]; decide)
    rw [refused] at packed
    cases packed

theorem packed_stream {payloads frames : List Bytes}
    (packed : payloads.mapM packFramedPayload = .ok frames) :
    ∃ sent : List Frame, framed.stream sent = frames.flatten ∧ sent.map framed.seen = payloads := by
  induction payloads generalizing frames with
  | nil =>
      cases packed
      exact ⟨[], rfl, rfl⟩
  | cons payload payloads next =>
      rw [List.mapM_cons] at packed
      cases first : packFramedPayload payload with
      | error fault =>
          rw [first] at packed
          cases packed
      | ok frame =>
          cases others : payloads.mapM packFramedPayload with
          | error fault =>
              rw [first, others] at packed
              cases packed
          | ok rest =>
              rw [first, others] at packed
              cases packed
              obtain ⟨one, told, coded⟩ := packFramedPayload_ok first
              obtain ⟨sent, stream, seen⟩ := next others
              refine ⟨one :: sent, ?_, congrArg₂ List.cons told seen⟩
              rw [List.flatten_cons, ← stream, ← coded]
              rfl

theorem pack_unpack {payloads frames : List Bytes} {fuel : Nat}
    (packed : payloads.mapM packFramedPayload = .ok frames)
    (enough : frames.flatten.length < fuel) :
    unpackFramedPayloads fuel frames.flatten = some (payloads, []) := by
  obtain ⟨sent, stream, rfl⟩ := packed_stream packed
  have yields := Packets.Format.yields_stream sent (@Packets.Format.turn_nil _ _ _ framed)
  rw [List.append_nil, stream] at yields
  exact Packets.Format.drain_yields yields enough

section Clients

variable {σ : Type} {dispatch : σ → Text → Except Fault (List Text) × σ}
  {sendLines : σ → List Text → Except Fault Unit × σ}
  {onFirstClient : σ → Option (List Text) × σ} {frames : List Frame} {rest : Bytes}
  {reads : List Bytes} {fuel : Nat}

theorem greet_calls (modem : σ) : (greet sendLines onFirstClient modem).calls = [] := by
  unfold greet
  rcases onFirstClient modem with ⟨_ | lines, after⟩
  · rfl
  · dsimp only
    rcases sendLines after lines with ⟨fault | done, last⟩ <;> rfl

theorem greet_continued (modem : σ) (next : σ → Performed σ) :
    (greet sendLines onFirstClient modem).continued next =
      if (greet sendLines onFirstClient modem).raised = none then
        next (greet sendLines onFirstClient modem).modem
      else greet sendLines onFirstClient modem := by
  have calls := @greet_calls σ sendLines onFirstClient modem
  generalize greet sendLines onFirstClient modem = greeted at calls ⊢
  obtain ⟨_, fault | _, after⟩ := greeted
  · cases calls
    rfl
  · rfl

theorem overReads_served (modem : σ)
    (stream : Packets.received reads = framed.stream frames ++ rest)
    (incomplete : framed.Incomplete rest) (enough : (Packets.received reads).length < fuel) :
    ∃ client, overReads (handleClientLines dispatch sendLines) fuel modem [] [] reads = some client ∧
      client.toPerformed = perform dispatch sendLines modem
        (segments (frames.flatMap fun frame => frame.payload.val)) ∧
      framed.Incomplete client.rxBuffer ∧ (client.raised = none → client.rxBuffer = rest) := by
  have yields : framed.Yields ([] ++ Packets.received reads) (frames.map framed.seen) rest := by
    rw [List.nil_append, stream]
    exact Packets.Format.yields_stream frames (Packets.Format.none_of_incomplete incomplete)
  obtain ⟨lines, last, whole, told⟩ :=
    segments_yields (frames.flatMap fun frame => frame.payload.val)
  have text : atLines.Yields ([] ++ textOf (frames.map framed.seen)) lines last := by
    rw [List.nil_append, textOf_map, ← List.flatMap_def]
    exact whole
  have within : ([] : Text).length + ([] ++ Packets.received reads).length < fuel := by
    simpa using enough
  obtain ⟨client, served, same, short, kept⟩ :=
    @overReads_performs _ dispatch sendLines _ _ _ _ _ _ _ fuel modem
      Packets.Format.turn_nil Packets.Format.turn_nil yields text within
  rw [told] at same
  exact ⟨client, served, same,
    @Packets.Format.incomplete_of_none _ _ _ framed unpackTurn_grows _ short, kept⟩

theorem clients_perform (modem : σ)
    (stream : Packets.received reads = framed.stream frames ++ rest)
    (incomplete : framed.Incomplete rest) (enough : (Packets.received reads).length < fuel) :
    ∃ client, handleClient dispatch sendLines onFirstClient fuel modem reads = some client ∧
      handleSocketClient dispatch sendLines onFirstClient fuel modem reads = some client ∧
      client.toPerformed = (greet sendLines onFirstClient modem).continued (fun modem =>
        perform dispatch sendLines modem
          (segments (frames.flatMap fun frame => frame.payload.val))) ∧
      framed.Incomplete client.rxBuffer ∧ (client.raised = none → client.rxBuffer = rest) := by
  have nothing : framed.Incomplete [] :=
    @Packets.Format.incomplete_of_none _ _ _ framed unpackTurn_grows _ Packets.Format.turn_nil
  rw [greet_continued, handleSocketClient, handleSocketClientLines_eq]
  unfold handleClient
  dsimp only
  -- Nothing has been read when the greeting raises, so both buffers are empty.
  cases greeted : (greet sendLines onFirstClient modem).raised with
  | some fault =>
      refine ⟨_, rfl, rfl, (if_neg (by simp)).symm, nothing, fun none => ?_⟩
      rw [greeted] at none
      cases none
  | none =>
      obtain ⟨client, served, same, short, kept⟩ := @overReads_served σ dispatch sendLines _ _ _ _
        (greet sendLines onFirstClient modem).modem stream incomplete enough
      exact ⟨client, served, served, same.trans (if_pos rfl).symm, short, kept⟩

theorem greeted_upTo (modem : σ) (commands : List Text) :
    UpTo commands ((greet sendLines onFirstClient modem).continued fun modem =>
      perform dispatch sendLines modem commands) := by
  rw [greet_continued]
  split
  · exact perform_upTo _ commands
  · next raised =>
      have calls := @greet_calls σ sendLines onFirstClient modem
      refine ⟨?_, fun none => absurd none raised, ?_⟩
      · rw [calls]
        exact List.nil_prefix
      · rw [calls]
        exact List.forall_mem_nil _

end Clients

/-- Both loops dispatch the segments of the payloads that are not blank, in order, up to the first
that raises, and none when the greeting does; they keep the beginning of one frame; and what is
packed is unpacked. -/
theorem clients_dispatch {σ : Type} (dispatch : σ → Text → Except Fault (List Text) × σ)
    (sendLines : σ → List Text → Except Fault Unit × σ)
    (onFirstClient : σ → Option (List Text) × σ) :
    (∀ stream, ∃ frames rest, stream = framed.stream frames ++ rest ∧ framed.Incomplete rest) ∧
      (∀ frames rest reads fuel modem, Packets.received reads = framed.stream frames ++ rest →
        framed.Incomplete rest → (Packets.received reads).length < fuel →
          ∃ client, handleClient dispatch sendLines onFirstClient fuel modem reads = some client ∧
            handleSocketClient dispatch sendLines onFirstClient fuel modem reads = some client ∧
            client.toPerformed = (greet sendLines onFirstClient modem).continued (fun modem =>
              perform dispatch sendLines modem
                (segments (frames.flatMap fun frame => frame.payload.val))) ∧
            UpTo (segments (frames.flatMap fun frame => frame.payload.val)) client.toPerformed ∧
            framed.Incomplete client.rxBuffer ∧
            (client.raised = none → client.rxBuffer = rest)) ∧
      ∀ payloads frames fuel, payloads.mapM packFramedPayload = .ok frames →
        frames.flatten.length < fuel →
          unpackFramedPayloads fuel frames.flatten = some (payloads, []) := by
  refine ⟨@Packets.Format.split_incomplete _ _ _ framed unpackTurn_grows,
    fun frames rest reads fuel modem stream incomplete enough => ?_, fun _ _ _ => pack_unpack⟩
  obtain ⟨client, windows, unix, same, short, kept⟩ :=
    @clients_perform _ dispatch sendLines onFirstClient _ _ _ _ modem stream incomplete enough
  refine ⟨client, windows, unix, same, ?_, short, kept⟩
  rw [same]
  exact greeted_upTo modem _

/-! A number that is too long. -/

def longMode (count : Nat) : Text := "AT+CREG=".toList ++ List.replicate count '1'

section LongMode

variable {count : Nat}

theorem longMode_chars : longMode count =
    'A' :: 'T' :: '+' :: 'C' :: 'R' :: 'E' :: 'G' :: '=' :: List.replicate count '1' := by
  have start : "AT+CREG=".toList = ['A', 'T', '+', 'C', 'R', 'E', 'G', '='] := String.toList_ofList
  change "AT+CREG=".toList ++ _ = _
  rw [start]
  rfl

/-- What a mode is made of has a property that its characters have. -/
theorem longMode_all {property : Char → Prop} [DecidablePred property]
    (each : (['A', 'T', '+', 'C', 'R', 'E', 'G', '=', '1'].all
      fun char => decide (property char)) = true) :
    ∀ char ∈ longMode count, property char := by
  rw [longMode_chars]
  simp only [List.all_cons, Bool.and_eq_true, decide_eq_true_eq] at each
  simp only [List.forall_mem_cons]
  obtain ⟨a, t, plus, c, r, e, g, equals, one, -⟩ := each
  refine ⟨a, t, plus, c, r, e, g, equals, fun char member => ?_⟩
  rw [List.eq_of_mem_replicate member]
  exact one

theorem strip_plain {text : Text} (plain : ∀ char ∈ text, isSpace char = false) :
    strip text = text := by
  have kept : ∀ {some_text : Text}, (∀ char ∈ some_text, isSpace char = false) →
      some_text.dropWhile isSpace = some_text := by
    intro some_text plain
    cases some_text with
    | nil => rfl
    | cons char rest => exact List.dropWhile_cons_of_neg (by simp [plain char])
  rw [strip, kept plain, kept fun char member => plain char (List.mem_reverse.mp member),
    List.reverse_reverse]

theorem strip_longMode : strip (longMode count) = longMode count :=
  strip_plain (longMode_all (by decide))

theorem normalize_longMode :
    normalizeCommand ascii (longMode count) = (longMode count).drop 2 := by
  have each : ∀ char ∈ longMode count, char.toUpper = id char := longMode_all (by decide)
  have upper : (longMode count).map Char.toUpper = longMode count :=
    (List.map_congr_left each).trans (List.map_id _)
  have one_line : (longMode count).filter (· ≠ '\n') = longMode count :=
    List.filter_eq_self.mpr (longMode_all (by decide))
  have begins : "AT".toList.isPrefixOf (longMode count) = true := by
    rw [longMode_chars, String.toList_ofList]
    rfl
  have shown : (ascii.upper (strip (longMode count))).filter (· ≠ '\n') = longMode count := by
    rw [strip_longMode]
    exact (congrArg (List.filter _) upper).trans one_line
  simp only [normalizeCommand, shown, begins, if_true]

theorem parts_longMode : parts ((longMode count).drop 2) = [(longMode count).drop 2] := by
  have all : ∀ char ∈ longMode count, char ≠ ';' ∧ isSpace char = false :=
    longMode_all (by decide)
  have inside : ∀ char ∈ (longMode count).drop 2, char ≠ ';' ∧ isSpace char = false :=
    fun char member => all char (List.drop_subset 2 _ member)
  have whole : ';' ∉ (longMode count).drop 2 := fun member => (inside _ member).1 rfl
  rw [parts, List.splitOn_eq_singleton whole, List.map_singleton,
    strip_plain fun char member => (inside char member).2, longMode_chars]
  rfl

theorem search_here {α : Type} {pattern : Text → Option α} {text : Text} {found : α}
    (here : pattern text = some found) : search pattern text = some found := by
  cases text with
  | nil => exact here
  | cons char rest => rw [search, here]

theorem longMode_spelled :
    (longMode count).drop 2 = "+CREG=".toList ++ List.replicate count '1' := by
  rw [longMode_chars, String.toList_ofList]
  rfl

theorem unlisted_longMode (long : INT_MAX_STR_DIGITS < count) :
    exactHandlers.find ((longMode count).drop 2) = none := by
  have short : ∀ key ∈ exactHandlers.keys, key.length ≤ INT_MAX_STR_DIGITS := by decide +kernel
  refine (Dict.find_none_iff _ _).mpr fun listed => ?_
  have few := short _ listed
  rw [longMode_spelled, List.length_append, List.length_replicate] at few
  omega

theorem converted_longMode (long : INT_MAX_STR_DIGITS < count) :
    converted ascii ((longMode count).drop 2) = some (List.replicate count '1') := by
  have cfun : "+CFUN=".toList.isPrefixOf ((longMode count).drop 2) = false := by
    rw [longMode_chars, String.toList_ofList]
    rfl
  have creg : "+CREG".toList.isPrefixOf ((longMode count).drop 2) = true := by
    rw [longMode_chars, String.toList_ofList]
    rfl
  have figures : number ascii (List.replicate count '1') = some (List.replicate count '1', []) := by
    have figure : (ascii.decimal '1').isSome = true := by decide
    have all : (List.replicate count '1').takeWhile (fun char => (ascii.decimal char).isSome) =
        List.replicate count '1' := by
      rw [List.takeWhile_replicate, if_pos figure]
    have some_figure : List.replicate count '1' ≠ [] :=
      fun none => Nat.ne_zero_of_lt long (List.replicate_eq_nil_iff _ |>.mp none)
    rw [number, all, if_neg some_figure, List.drop_length]
  have found : searchNumber ascii "+CREG=" ((longMode count).drop 2) =
      some (List.replicate count '1') := by
    refine search_here ?_
    have begins : "+CREG=".toList.isPrefixOf ((longMode count).drop 2) = true := by
      rw [longMode_chars, String.toList_ofList]
      rfl
    rw [behind, if_pos begins, longMode_spelled, List.drop_left, Option.bind_some, figures]
    rfl
  have last : ((longMode count).drop 2).getLast? ≠ some '?' := by
    rw [longMode_spelled, List.getLast?_append, List.getLast?_replicate]
    simp [Nat.ne_zero_of_lt long]
  rw [converted, unlisted_longMode long]
  simp only [startHandlers, startNumbers, List.cons_append, List.zip_cons_cons, List.find?_cons,
    cfun, creg, Option.bind_some, Answers.registered, if_neg last, found]

theorem dispatch_longMode (long : INT_MAX_STR_DIGITS < count) (state : ModemState) :
    ∃ fault, (dispatch ascii (longMode count) state).1 = .error fault := by
  have some_text : (longMode count).drop 2 ≠ [] := by
    rw [longMode_chars]
    exact List.cons_ne_nil _ _
  have many : ¬ Legible (converted ascii ((longMode count).drop 2)) := by
    rw [converted_longMode long, legible_some, List.length_replicate]
    omega
  have joined := overParts_joined ascii (((longMode count).drop 2).splitOn ';') state
  change Joined ascii (parts _) _ at joined
  rw [parts_longMode] at joined
  unfold dispatch
  dsimp only
  rw [normalize_longMode, if_neg some_text, unlisted_longMode long]
  dsimp only
  cases result : (overParts ascii (((longMode count).drop 2).splitOn ';') state).1 with
  | error fault => exact ⟨fault, rfl⟩
  | ok responses =>
      rw [result] at joined
      exact absurd (joined.1 _ List.mem_cons_self) many

def sent (text : Text) : Bytes := text.map fun char => UInt8.ofNat char.toNat

theorem segments_longMode :
    segments (sent (longMode count ++ "\rAT\r".toList)) = [longMode count, "AT".toList] := by
  have back : ∀ char ∈ longMode count,
      (if (UInt8.ofNat char.toNat).toNat < 128 then Char.ofNat (UInt8.ofNat char.toNat).toNat
        else '\uFFFD') = id char ∧ isEnd (UInt8.ofNat char.toNat) = false :=
    longMode_all (by decide)
  have plain : ∀ byte ∈ sent (longMode count), isEnd byte = false := by
    intro byte member
    obtain ⟨char, inside, rfl⟩ := List.mem_map.mp member
    exact (back char inside).2
  have decoded : decodeAscii (sent (longMode count)) = longMode count := by
    rw [decodeAscii, sent, List.map_map]
    exact (List.map_congr_left fun char inside => (back char inside).1).trans (List.map_id _)
  have shape : sent (longMode count ++ "\rAT\r".toList) =
      sent (longMode count) ++ 13 :: [65, 84, 13] := by
    rw [sent, List.map_append, String.toList_ofList]
    rfl
  have rest : ([65, 84, 13] : Bytes).splitOnP isEnd = [[65, 84], []] := by decide
  have some_text : longMode count ≠ [] := by
    rw [longMode_chars]
    exact List.cons_ne_nil _ _
  rw [segments, shape, List.splitOnP_append_cons_of_forall_mem plain 13 rfl, rest]
  simp only [List.dropLast_cons_cons, List.dropLast_singleton, List.map_cons, List.map_nil, decoded,
    commands, strip_longMode]
  rw [List.filter_cons_of_pos (by simpa using some_text), String.toList_ofList]
  rfl

theorem sent_longMode_length :
    (sent (longMode count ++ "\rAT\r".toList)).length = count + 12 := by
  rw [sent, longMode_chars, String.toList_ofList, List.length_map]
  simp only [List.length_append, List.length_cons, List.length_nil, List.length_replicate]

theorem perform_raised {σ : Type} {dispatch : σ → Text → Except Fault (List Text) × σ}
    {sendLines : σ → List Text → Except Fault Unit × σ} {modem : σ} {command : Text} {fault : Fault}
    (raises : (dispatch modem command).1 = .error fault) (rest : List Text) :
    (perform dispatch sendLines modem (command :: rest)).calls = [(command, .error fault)] := by
  have answered : answer dispatch sendLines modem command =
      ⟨[(command, .error fault)], some fault, (dispatch modem command).2⟩ := by
    unfold answer
    generalize dispatch modem command = result at raises ⊢
    obtain ⟨first, after⟩ := result
    cases raises
    rfl
  rw [perform, answered]
  rfl

theorem longMode_dropped (long : INT_MAX_STR_DIGITS < count) (few : count + 20 < 5000) :
    ∃ frame client,
      packFramedPayload (sent (longMode count ++ "\rAT\r".toList)) = .ok frame ∧
      handleClient (fun state command => dispatch ascii command state)
        (fun state _ => (.ok (), state)) (fun state => (none, state)) 5000 fresh [frame] =
          some client ∧
      handleSocketClient (fun state command => dispatch ascii command state)
        (fun state _ => (.ok (), state)) (fun state => (none, state)) 5000 fresh [frame] =
          some client ∧
      client.calls.map Prod.fst = [longMode count] := by
  have length := @sent_longMode_length count
  have parted := @segments_longMode count
  generalize sent (longMode count ++ "\rAT\r".toList) = payload at length parted ⊢
  have packed : packFramedPayload payload =
      .ok (Struct.fields [(4, payload.length), (4, 0)] ++ payload) := by
    have fits : payload.length < 256 ^ 4 := by omega
    rw [packFramedPayload, Struct.pack_ok (by simpa using fits)]
    rfl
  -- The one frame is read at once, and nothing is left behind it.
  obtain ⟨frame, same, coded⟩ := packFramedPayload_ok packed
  have size : frame.encode.length = count + 20 := by
    rw [coded, List.length_append, length]
    simp only [Struct.fields, List.flatMap_cons, List.flatMap_nil, List.length_append,
      Struct.le_length, List.length_nil]
    omega
  have some_bytes : frame.encode.isEmpty = false := by
    rw [List.isEmpty_eq_false_iff, ← List.length_pos_iff, size]
    omega
  have stream : Packets.received [frame.encode] = framed.stream [frame] ++ [] := by
    simp [Packets.received, some_bytes, Packets.Format.stream, framed]
  have nothing : framed.Incomplete [] :=
    @Packets.Format.incomplete_of_none _ _ _ framed unpackTurn_grows _ Packets.Format.turn_nil
  obtain ⟨client, windows, unix, performed, -, -⟩ :=
    @clients_perform _ (fun state command => dispatch ascii command state)
      (fun state _ => (.ok (), state)) (fun state => (none, state)) _ _ _ 5000 fresh stream nothing
      (by rw [stream]; simpa [Packets.Format.stream, framed, size] using few)
  obtain ⟨fault, raises⟩ := dispatch_longMode long fresh
  have called : (perform (fun state command => dispatch ascii command state)
      (fun state _ => (.ok (), state)) fresh [longMode count, "AT".toList]).calls =
        [(longMode count, .error fault)] :=
    perform_raised raises ["AT".toList]
  refine ⟨frame.encode, client, by rw [packed, coded], windows, unix, ?_⟩
  have greeted : greet (fun state _ => (.ok (), state)) (fun state => (none, state)) fresh =
      .nothing fresh := rfl
  rw [performed, greeted, Performed.continued_nothing, List.flatMap_singleton, same, parted, called,
    List.map_singleton]

end LongMode

/-- A command behind a number that is too long is not dispatched. -/
theorem second_segment_dropped :
    segments (sent (longMode 4301 ++ "\rAT\r".toList)) = [longMode 4301, "AT".toList] ∧
      ∃ frame client,
        packFramedPayload (sent (longMode 4301 ++ "\rAT\r".toList)) = .ok frame ∧
        handleClient (fun state command => dispatch ascii command state)
          (fun state _ => (.ok (), state)) (fun state => (none, state)) 5000 fresh [frame] =
            some client ∧
        handleSocketClient (fun state command => dispatch ascii command state)
          (fun state _ => (.ok (), state)) (fun state => (none, state)) 5000 fresh [frame] =
            some client ∧
        client.calls.map Prod.fst = [longMode 4301] :=
  ⟨segments_longMode, longMode_dropped (by decide) (by decide)⟩

end Bscp.HostDevices.Modem
