import Bscp.Machine
import Bscp.Crosvm.Tube
import Mathlib.Data.List.Forall2

/-!
The stream of a tube is always made of whole frames: what the receive on its way has taken, what
the stream holds and what the send on its way has left are together the frames of the packets that
are not yet received. This holds as long as no operation begins after one that failed past its
first byte.
-/

namespace Bscp.Crosvm.Tube

open Bscp.Machine

/-! Numbers and frames. -/

@[simp] theorem toBe_length (count n : Nat) : (toBe count n).length = count := by
  induction count generalizing n with
  | zero => rfl
  | succ count held => simp [toBe, held]

theorem fromBe_snoc (bytes : List UInt8) (byte : UInt8) :
    fromBe (bytes ++ [byte]) = fromBe bytes * 256 + byte.toNat := by
  simp [fromBe]

theorem fromBe_toBe (count n : Nat) : fromBe (toBe count n) = n % 256 ^ count := by
  induction count generalizing n with
  | zero => simp [toBe, fromBe, Nat.mod_one]
  | succ count held =>
      have split : n % 256 ^ (count + 1) = n % 256 + 256 * (n / 256 % 256 ^ count) := by
        rw [Nat.pow_succ']
        exact Nat.mod_mul
      calc fromBe (toBe (count + 1) n)
          = n / 256 % 256 ^ count * 256 + (UInt8.ofNat n).toNat := by
            rw [toBe, fromBe_snoc, held]
        _ = n % 256 ^ (count + 1) := by
            rw [split, UInt8.toNat_ofNat']
            omega

namespace Packet

variable (p : Packet)

def items : List Item := carry p.fds p.frame

theorem frame_length : p.frame.length = headerSize + p.bytes.length := by
  simp [frame]

end Packet

@[simp] theorem carry_length (fds : List Nat) (bytes : List UInt8) :
    (carry fds bytes).length = bytes.length := by
  cases bytes <;> simp [carry]

@[simp] theorem carry_bytes (fds : List Nat) (bytes : List UInt8) :
    (carry fds bytes).map (·.1) = bytes := by
  cases bytes with
  | nil => rfl
  | cons byte rest => simp [carry, Function.comp_def]

theorem carry_fds {bytes : List UInt8} (some_bytes : bytes ≠ []) (fds : List Nat) :
    (carry fds bytes).flatMap (·.2) = fds := by
  cases bytes with
  | nil => exact absurd rfl some_bytes
  | cons byte rest => simp [carry, List.flatMap_map]

theorem carry_nil (bytes : List UInt8) : carry [] bytes = bytes.map fun byte => (byte, []) := by
  cases bytes <;> rfl

/-- Past the first byte there are no descriptors. -/
theorem carry_split (fds : List Nat) {first : List UInt8} (some_bytes : first ≠ [])
    (last : List UInt8) : carry fds (first ++ last) = carry fds first ++ carry [] last := by
  cases first with
  | nil => exact absurd rfl some_bytes
  | cons byte rest =>
      rw [carry_nil]
      simp [carry]

namespace Packet

variable (p : Packet)

theorem items_length : p.items.length = headerSize + p.bytes.length := by
  rw [items, carry_length, frame_length]

theorem frame_items_length : p.frame.length = p.items.length := by
  rw [items, carry_length]

theorem frame_ne_nil : p.frame ≠ [] := by
  intro empty
  have length := p.frame_length
  rw [empty, List.length_nil] at length
  unfold headerSize at length
  omega

/-- The part of the frame that is written. -/
theorem items_take {written : Nat} (positive : 0 < written) :
    p.items.take written = carry p.fds (p.frame.take written) := by
  obtain ⟨byte, rest, whole⟩ := List.exists_cons_of_ne_nil p.frame_ne_nil
  obtain ⟨more, rfl⟩ : ∃ more, written = more + 1 := Nat.exists_eq_succ_of_ne_zero (by omega)
  rw [items, whole]
  simp [carry, List.map_take]

/-- What a call of the socket adds to it. -/
theorem take_chunk {written count : Nat} (positive : 0 < count) :
    p.items.take written ++ p.chunk written count = p.items.take (written + count) := by
  by_cases first : written = 0
  · subst first
    rw [chunk, if_pos rfl, Nat.zero_add, p.items_take positive]
    rfl
  · have later : 0 < written := Nat.pos_of_ne_zero first
    have some_bytes : p.frame.take written ≠ [] := by
      simp [p.frame_ne_nil, first]
    rw [chunk, if_neg first, p.items_take later, p.items_take (by omega),
      ← carry_split p.fds some_bytes, List.take_add]

end Packet

def framesOf (packets : List Packet) : List Item := packets.flatMap Packet.items

@[simp] theorem framesOf_append (first last : List Packet) :
    framesOf (first ++ last) = framesOf first ++ framesOf last := by
  simp [framesOf]

@[simp] theorem framesOf_cons (p : Packet) (rest : List Packet) :
    framesOf (p :: rest) = p.items ++ framesOf rest := by
  simp [framesOf]

/-! What holds between the sends and the receives. -/

/-- A packet that a receive returned, against the one that was sent: its own message, and its own
descriptors, all of them when the receive had room. -/
structure Matches (room : Nat) (r p : Packet) : Prop where
  bytes : r.bytes = p.bytes
  fds : r.fds <+: p.fds
  whole : p.fds.length ≤ room → r.fds = p.fds

def Taken (room : Nat) (part : List Item) : Option Receiving → Prop
  | none => part = []
  | some (.header maxFds got descriptors) => room ≤ maxFds ∧ part.map (·.1) = got ∧
      got.length ≤ headerSize ∧ descriptors = (part.flatMap (·.2)).take maxFds
  | some (.message maxFds size got descriptors) => room ≤ maxFds ∧
      part.map (·.1) = (part.take headerSize).map (·.1) ++ got ∧ headerSize ≤ part.length ∧
      size = fromBe ((part.take headerSize).map (·.1)) ∧ 0 < size ∧ got.length ≤ size ∧
      descriptors = (part.flatMap (·.2)).take maxFds

def Partly (front : List Item) : Prop :=
  ∃ p : Packet, p.bytes.length < 2 ^ 64 ∧ front <+: p.items ∧ front.length < p.items.length

def Begun (w : World) (front : List Item) : Prop :=
  match w.sending with
  | some (p, written) => p.bytes.length < 2 ^ 64 ∧
      front = if written < p.frame.length then p.items.take written else []
  | none => if w.sendBroken then Partly front else front = []

structure Inv (room : Nat) (w : World) : Prop where
  order : w.consumed ≤ w.sent.length
  sizes : ∀ p ∈ w.sent, p.bytes.length < 2 ^ 64
  usize : ∀ p written, w.sending = some (p, written) → p.bytes.length < 2 ^ 64
  returned : List.Forall₂ (Matches room) w.received
    ((w.sent.take w.consumed).filter fun p => p.bytes ≠ [])
  sending : w.sendBroken = true → w.sending = none
  receiving : w.recvBroken = true → w.receiving = none
  flight : w.recvBroken = false → ∃ part front,
    part ++ w.stream = framesOf (w.sent.drop w.consumed) ++ front ∧
      Taken room part w.receiving ∧ Begun w front

/-- No operation begins after one that failed past its first byte. -/
def Meets (room : Nat) (w : World) : Event → Prop
  | .sendBegins .. => w.sendBroken = false
  | .recvBegins maxFds => w.recvBroken = false ∧ room ≤ maxFds
  | _ => True

/-- The header of a frame tells the size of its message. -/
theorem fromBe_items {p : Packet} (usize : p.bytes.length < 2 ^ 64) :
    fromBe ((p.items.take headerSize).map (·.1)) = p.bytes.length := by
  rw [List.map_take, Packet.items, carry_bytes, Packet.frame,
    List.take_left' (toBe_length headerSize _), fromBe_toBe]
  exact Nat.mod_eq_of_lt usize

/-- What begins with a frame, or with enough of it, has its header. -/
theorem take_header {part rest others : List Item} {p : Packet}
    (begins : part ++ rest = p.items ++ others) (whole : headerSize ≤ part.length) :
    part.take headerSize = p.items.take headerSize := by
  have left := congrArg (List.take headerSize) begins
  have enough : headerSize ≤ p.items.length := by
    rw [p.items_length]
    omega
  rwa [List.take_append_of_le_length whole, List.take_append_of_le_length enough] at left

/-- A header and as much as it tells is one frame, and not one that was cut off. -/
theorem take_frame {part rest front : List Item} {packets : List Packet}
    (begins : part ++ rest = framesOf packets ++ front) (partly : Partly front)
    (usize : ∀ p ∈ packets, p.bytes.length < 2 ^ 64) (header : headerSize ≤ part.length)
    (length : part.length = headerSize + fromBe ((part.take headerSize).map (·.1))) :
    ∃ p more, packets = p :: more ∧ part = p.items ∧ rest = framesOf more ++ front := by
  cases packets with
  | nil =>
      obtain ⟨p, small, ⟨others, whole⟩, short⟩ := partly
      have front_eq : part ++ rest = front := by simpa [framesOf] using begins
      have same := @take_header part (rest ++ others) [] p
        (by rw [← List.append_assoc, front_eq, whole, List.append_nil]) header
      rw [same, fromBe_items small, ← p.items_length] at length
      have longer := congrArg List.length front_eq
      rw [List.length_append] at longer
      omega
  | cons p more =>
      rw [framesOf_cons, List.append_assoc] at begins
      rw [take_header begins header, fromBe_items (usize p List.mem_cons_self),
        ← p.items_length] at length
      obtain ⟨same, others⟩ := List.append_inj begins length
      exact ⟨p, more, rfl, same, others⟩

/-- Descriptors that come bit by bit are cut at the same place. -/
theorem take_fds (first last : List Nat) (limit : Nat) :
    first.take limit ++ last.take (limit - (first.take limit).length) =
      (first ++ last).take limit := by
  rw [List.take_append, List.length_take]
  congr 2
  omega

theorem Taken.gets {room : Nat} {part more : List Item} {r : Receiving}
    (taken : Taken room part (some r)) (within : more.length ≤ r.wants) :
    Taken room (part ++ more) (some (r.gets more)) := by
  cases r with
  | header maxFds got descriptors =>
      obtain ⟨roomy, bytes, short, fds⟩ := taken
      simp only [Receiving.wants] at within
      refine ⟨roomy, by simp [bytes], by simp; omega, ?_⟩
      rw [fds, take_fds, List.flatMap_append]
  | message maxFds size got descriptors =>
      obtain ⟨roomy, bytes, header, told, positive, short, fds⟩ := taken
      simp only [Receiving.wants] at within
      have same : (part ++ more).take headerSize = part.take headerSize :=
        List.take_append_of_le_length header
      refine ⟨roomy, ?_, by simp; omega, ?_, positive, by simp; omega, ?_⟩
      · rw [same, List.map_append, bytes, List.append_assoc]
      · rw [same]
        exact told
      · rw [fds, take_fds, List.flatMap_append]

section Step

variable {room : Nat} {w next : World} {event : Event}

theorem Begun.partly {front : List Item} (begun : Begun w front) : Partly front := by
  have empty : Partly [] := ⟨⟨[], []⟩, by decide, List.nil_prefix, by decide⟩
  unfold Begun at begun
  cases here : w.sending with
  | some sending =>
      obtain ⟨p, written⟩ := sending
      simp only [here] at begun
      obtain ⟨usize, rfl⟩ := begun
      split
      case isTrue more =>
          rw [p.frame_items_length] at more
          exact ⟨p, usize, List.take_prefix _ _, by rw [List.length_take]; omega⟩
      case isFalse => exact empty
  | none =>
      simp only [here] at begun
      split at begun
      case isTrue => exact begun
      case isFalse => exact begun ▸ empty

/-- The receive on its way has taken one whole frame. -/
theorem Inv.frame_taken (inv : Inv room w) {part front : List Item}
    (flight : part ++ w.stream = framesOf (w.sent.drop w.consumed) ++ front)
    (begun : Begun w front) (header : headerSize ≤ part.length)
    (length : part.length = headerSize + fromBe ((part.take headerSize).map (·.1))) :
    ∃ p, part = p.items ∧ w.consumed + 1 ≤ w.sent.length ∧
      w.sent.take (w.consumed + 1) = w.sent.take w.consumed ++ [p] ∧
      w.stream = framesOf (w.sent.drop (w.consumed + 1)) ++ front := by
  obtain ⟨p, more, pending, same, rest⟩ := take_frame flight begun.partly
    (fun p inside => inv.sizes p (List.mem_of_mem_drop inside)) header length
  have later : w.sent.drop (w.consumed + 1) = more := by
    rw [← List.drop_drop, pending]
    rfl
  have bound : w.consumed < w.sent.length := by
    by_contra ended
    rw [List.drop_eq_nil_of_le (by omega)] at pending
    cases pending
  refine ⟨p, same, bound, ?_, by rw [later]; exact rest⟩
  have first : w.sent[w.consumed]? = some p := by
    rw [← List.head?_drop, pending]
    rfl
  rw [List.take_add_one, first]
  rfl

/-- A frame is gone over: its packet is returned, or there was no message in it. -/
theorem Inv.next_frame (inv : Inv room w) {front : List Item} {received : List Packet}
    (bound : w.consumed + 1 ≤ w.sent.length)
    (flight : w.stream = framesOf (w.sent.drop (w.consumed + 1)) ++ front)
    (begun : Begun w front)
    (returned : List.Forall₂ (Matches room) received
      ((w.sent.take (w.consumed + 1)).filter fun p => p.bytes ≠ [])) :
    Inv room { w with receiving := none, received := received, consumed := w.consumed + 1 } where
  order := bound
  sizes := inv.sizes
  usize := inv.usize
  returned := returned
  sending := inv.sending
  receiving := fun _ => rfl
  flight := fun _ => ⟨[], front, flight, rfl, begun⟩

/-- A step of the sender that moves nothing. -/
theorem Inv.sender (inv : Inv room w) {sending : Option (Packet × Nat)} {broken : Bool}
    (usize : ∀ p written, sending = some (p, written) → p.bytes.length < 2 ^ 64)
    (ended : broken = true → sending = none)
    (begun : ∀ front, Begun w front →
      Begun { w with sending := sending, sendBroken := broken } front) :
    Inv room { w with sending := sending, sendBroken := broken } where
  order := inv.order
  sizes := inv.sizes
  usize := usize
  returned := inv.returned
  sending := ended
  receiving := inv.receiving
  flight := fun clean => by
    obtain ⟨part, front, flight, taken, before⟩ := inv.flight clean
    exact ⟨part, front, flight, taken, begun front before⟩

/-- A step of the receiver that moves nothing. -/
theorem Inv.receiver (inv : Inv room w) {receiving : Option Receiving} {broken : Bool}
    (ended : broken = true → receiving = none)
    (taken : broken = false → w.recvBroken = false ∧
      ∀ part, Taken room part w.receiving → Taken room part receiving) :
    Inv room { w with receiving := receiving, recvBroken := broken } where
  order := inv.order
  sizes := inv.sizes
  usize := inv.usize
  returned := inv.returned
  sending := inv.sending
  receiving := ended
  flight := fun clean => by
    obtain ⟨before, keeps⟩ := taken clean
    obtain ⟨part, front, flight, now, begun⟩ := inv.flight before
    exact ⟨part, front, flight, keeps part now, begun⟩

theorem Inv.clean_of_receiving (inv : Inv room w) {r : Receiving} (here : w.receiving = some r) :
    w.recvBroken = false := by
  rw [← Bool.not_eq_true]
  intro broken
  simp [inv.receiving broken] at here

theorem Inv.clean_of_sending (inv : Inv room w) {s : Packet × Nat} (here : w.sending = some s) :
    w.sendBroken = false := by
  rw [← Bool.not_eq_true]
  intro broken
  simp [inv.sending broken] at here

/-- Bytes go out; with the last of them the packet counts as sent. -/
theorem Inv.sends (inv : Inv room w) {p : Packet} {written count : Nat}
    (here : w.sending = some (p, written)) (positive : 0 < count)
    (within : written + count ≤ p.frame.length) :
    Inv room
      { w with
        sending := some (p, written + count)
        stream := w.stream ++ p.chunk written count
        sent := if written + count = p.frame.length then w.sent ++ [p] else w.sent } := by
  have usize := inv.usize p written here
  have unbroken := inv.clean_of_sending here
  constructor
  case sending => exact fun broken => absurd broken (by simp [unbroken])
  case receiving => exact inv.receiving
  case usize =>
      rintro _ _ ⟨⟩
      exact usize
  case order =>
      have order := inv.order
      dsimp only
      split
      · simp
        omega
      · exact order
  case sizes =>
      dsimp only
      split
      · intro q inside
        rcases List.mem_append.mp inside with old | new
        · exact inv.sizes q old
        · rw [List.mem_singleton.mp new]
          exact usize
      · exact inv.sizes
  case returned =>
      have same : (if written + count = p.frame.length then w.sent ++ [p] else w.sent).take
          w.consumed = w.sent.take w.consumed := by
        split
        · exact List.take_append_of_le_length inv.order
        · rfl
      simp only [same]
      exact inv.returned
  case flight =>
      intro clean
      obtain ⟨part, front, flight, taken, begun⟩ := inv.flight clean
      have front_eq : front = p.items.take written := by
        simp only [Begun, here] at begun
        rw [begun.2, if_pos (by omega)]
      have longer : part ++ (w.stream ++ p.chunk written count) =
          framesOf (w.sent.drop w.consumed) ++ p.items.take (written + count) := by
        rw [← List.append_assoc, flight, front_eq, List.append_assoc, p.take_chunk positive]
      by_cases last : written + count = p.frame.length
      · refine ⟨part, [], ?_, taken, ?_⟩
        · have whole : p.items.take (written + count) = p.items := by
            rw [last, p.frame_items_length, List.take_length]
          rw [if_pos last, longer, whole, List.drop_append_of_le_length inv.order]
          simp [framesOf]
        · exact ⟨usize, by rw [if_neg (by omega)]⟩
      · refine ⟨part, p.items.take (written + count), ?_, taken, ?_⟩
        · rw [if_neg last]
          exact longer
        · exact ⟨usize, by rw [if_pos (by omega)]⟩

theorem Step.keeps (step : Step w event next) (inv : Inv room w) (meets : Meets room w event) :
    Inv room next := by
  cases step with
  | interrupted => exact inv
  | sendBegins p maxFds free usize _ _ =>
      have clean : w.sendBroken = false := meets
      apply inv.sender
      case usize =>
          rintro _ _ ⟨⟩
          exact usize
      case ended => exact fun broken => absurd broken (by simp [clean])
      case begun =>
          intro front begun
          have empty : front = [] := by simpa [Begun, free, clean] using begun
          exact ⟨usize, by simp [empty]⟩
  | sends count here positive within => exact inv.sends here positive within
  | @sendReturns p written here all =>
      have clean := inv.clean_of_sending here
      apply inv.sender
      case usize => exact nofun
      case ended => exact fun _ => rfl
      case begun =>
          intro front begun
          simp only [Begun, here, if_neg (Nat.not_lt.mpr all)] at begun
          simp [Begun, clean, begun.2]
  | @sendFails p written here more =>
      have clean := inv.clean_of_sending here
      apply inv.sender
      case usize => exact nofun
      case ended => exact fun _ => rfl
      case begun =>
          intro front begun
          by_cases first : written = 0
          · simp only [Begun, here, if_pos more] at begun
            simp [Begun, clean, first, begun.2]
          · have partly := begun.partly
            simpa [Begun, first] using partly
  | recvBegins maxFds free _ =>
      apply inv.receiver
      case ended => exact fun broken => absurd broken (by simp [meets.1])
      case taken =>
          intro clean
          refine ⟨clean, fun part taken => ?_⟩
          rw [free] at taken
          subst taken
          exact ⟨meets.2, rfl, by decide, by simp⟩
  | @gets r count here positive within there =>
      have clean := inv.clean_of_receiving here
      constructor
      case order => exact inv.order
      case sizes => exact inv.sizes
      case usize => exact inv.usize
      case returned => exact inv.returned
      case sending => exact inv.sending
      case receiving => exact fun broken => absurd broken (by simp [clean])
      case flight =>
          intro _
          obtain ⟨part, front, flight, taken, begun⟩ := inv.flight clean
          rw [here] at taken
          have size : (w.stream.take count).length ≤ r.wants := by
            rw [List.length_take_of_le there]
            exact within
          refine ⟨part ++ w.stream.take count, front, ?_, taken.gets size, begun⟩
          rw [← flight, List.append_assoc part, List.take_append_drop]
  | @sizes maxFds got descriptors here all some_size small =>
      apply inv.receiver
      case ended => exact fun broken => absurd broken (by simp [inv.clean_of_receiving here])
      case taken =>
          intro clean
          refine ⟨clean, fun part taken => ?_⟩
          rw [here] at taken
          obtain ⟨roomy, bytes, short, fds⟩ := taken
          have length : part.length = headerSize := by
            rw [← List.length_map (fun item : Item => item.1), bytes, all]
          have whole : part.take headerSize = part := by
            rw [← length, List.take_length]
          refine ⟨roomy, by rw [whole, List.append_nil], by omega, ?_, by omega, Nat.zero_le _, fds⟩
          rw [whole, bytes]
  | @empty maxFds got descriptors here all no_size =>
      obtain ⟨part, front, flight, taken, begun⟩ := inv.flight (inv.clean_of_receiving here)
      rw [here] at taken
      obtain ⟨roomy, bytes, short, fds⟩ := taken
      have length : part.length = headerSize := by
        rw [← List.length_map (fun item : Item => item.1), bytes, all]
      have whole : part.take headerSize = part := by
        rw [← length, List.take_length]
      obtain ⟨p, same, bound, first, rest⟩ := inv.frame_taken flight begun (by omega)
        (by rw [whole, bytes, no_size]; exact length)
      have nothing : p.bytes = [] := by
        rw [same, p.items_length] at length
        exact List.length_eq_zero_iff.mp (by omega)
      apply inv.next_frame bound rest begun
      rw [first, List.filter_append]
      simpa [nothing] using inv.returned
  | large here all large =>
      apply inv.receiver
      case ended => exact fun _ => rfl
      case taken => exact nofun
  | @recvReturns maxFds size got descriptors here all =>
      obtain ⟨part, front, flight, taken, begun⟩ := inv.flight (inv.clean_of_receiving here)
      rw [here] at taken
      obtain ⟨roomy, bytes, header, told, positive, short, fds⟩ := taken
      have length : part.length = headerSize + fromBe ((part.take headerSize).map (·.1)) := by
        have sizes := congrArg List.length bytes
        rw [List.length_map, List.length_append, List.length_map, List.length_take_of_le header,
          all, told] at sizes
        exact sizes
      obtain ⟨p, same, bound, first, rest⟩ := inv.frame_taken flight begun header length
      have own : got = p.bytes := by
        rw [same] at bytes
        have split : p.items.map (·.1) = (p.items.take headerSize).map (·.1) ++ p.bytes := by
          rw [List.map_take, Packet.items, carry_bytes, Packet.frame,
            List.take_left' (toBe_length headerSize _)]
        rw [split] at bytes
        exact (List.append_cancel_left bytes).symm
      have ownFds : descriptors = p.fds.take maxFds := by
        rw [fds, same, Packet.items, carry_fds p.frame_ne_nil]
      have some_bytes : p.bytes ≠ [] := by
        rw [← own, ← List.length_pos_iff, all]
        exact positive
      apply inv.next_frame bound rest begun
      rw [first, List.filter_append]
      apply List.rel_append inv.returned
      have kept : [p].filter (fun p => p.bytes ≠ []) = [p] := by simp [some_bytes]
      rw [kept]
      apply List.Forall₂.cons _ .nil
      exact ⟨own, ownFds ▸ List.take_prefix _ _,
        fun roomFor => by rw [ownFds]; exact List.take_of_length_le (by omega)⟩
  | @recvFails r here more =>
      have clean := inv.clean_of_receiving here
      apply inv.receiver
      case ended => exact fun _ => rfl
      case taken =>
          intro whole
          refine ⟨clean, fun part taken => ?_⟩
          rw [here] at taken
          cases r with
          | header maxFds got descriptors =>
              have unbegun : got = [] := by simpa [clean, Receiving.began] using whole
              have bytes := taken.2.1
              rw [unbegun, List.map_eq_nil_iff] at bytes
              exact bytes
          | message maxFds size got descriptors => simp [Receiving.began] at whole

end Step

/-! Whole runs. -/

section Run

variable {room : Nat} {events : List Event} {w : World}

def Does (condition : World → Event → Prop) (w : World) (event : Event) (next : World) : Prop :=
  Step w event next ∧ condition w event

theorem initial_inv (room : Nat) : Inv room initial where
  order := Nat.le_refl 0
  sizes := nofun
  usize := nofun
  returned := .nil
  sending := nofun
  receiving := nofun
  flight := fun _ => ⟨[], [], rfl, rfl, by simp [Begun, initial]⟩

theorem run_inv (run : Trace (Does (Meets room)) initial events w) : Inv room w :=
  run.keeps (initial_inv room) fun _ _ _ _ inv does => does.1.keeps inv does.2

/-- Every packet that a receive returned is one that was sent whole, with its own descriptors, in
the order of the sends; only those without a message are passed over. -/
def Faithful (w : World) : Prop :=
  List.Forall₂ (Matches 0) w.received ((w.sent.take w.consumed).filter fun p => p.bytes ≠ [])

/-- In every run in which no operation begins after one of its kind that failed past its first
byte, the receives return what was sent. -/
theorem tube_failures_contained (run : Trace (Does (Meets 0)) initial events w) : Faithful w :=
  (run_inv run).returned

end Run

/-! Runs without failures. -/

section Clean

variable {maxFds : Nat} {events : List Event} {w next : World} {event : Event}

def Fits (maxFds : Nat) (p : Packet) : Prop :=
  p.bytes ≠ [] ∧ p.bytes.length ≤ maxFrameSize ∧ p.fds.length ≤ maxFds

def Clean (maxFds : Nat) (_ : World) : Event → Prop
  | .sendBegins p sendMax => p.bytes ≠ [] ∧ p.bytes.length ≤ maxFrameSize ∧ sendMax = maxFds
  | .recvBegins recvMax => recvMax = maxFds
  | .sendFails => False
  | .recvFails => False
  | _ => True

structure Unbroken (maxFds : Nat) (w : World) : Prop where
  inv : Inv maxFds w
  sends : w.sendBroken = false
  receives : w.recvBroken = false
  fit : ∀ p ∈ w.sent, Fits maxFds p
  sending : ∀ p written, w.sending = some (p, written) → Fits maxFds p
  count : w.received.length = w.consumed

/-- The size in a header that a receive has taken is that of a packet. -/
theorem Unbroken.header (unbroken : Unbroken maxFds w) {limit : Nat} {got : List UInt8}
    {descriptors : List Nat} (here : w.receiving = some (.header limit got descriptors))
    (all : got.length = headerSize) : ∃ p, Fits maxFds p ∧ fromBe got = p.bytes.length := by
  obtain ⟨part, front, flight, taken, begun⟩ := unbroken.inv.flight unbroken.receives
  rw [here] at taken
  obtain ⟨_, bytes, _, _⟩ := taken
  have length : part.length = headerSize := by
    rw [← List.length_map (fun item : Item => item.1), bytes, all]
  have whole : part.take headerSize = part := by
    rw [← length, List.take_length]
  have told : ∀ (p : Packet) (rest others : List Item), p.bytes.length < 2 ^ 64 →
      part ++ rest = p.items ++ others → fromBe got = p.bytes.length := by
    intro p rest others usize begins
    rw [← bytes, ← whole, take_header begins (by omega), fromBe_items usize]
  cases pending : w.sent.drop w.consumed with
  | cons p more =>
      have inside : p ∈ w.sent := by
        apply List.mem_of_mem_drop
        rw [pending]
        exact List.mem_cons_self
      rw [pending, framesOf_cons, List.append_assoc] at flight
      exact ⟨p, unbroken.fit p inside, told p _ _ (unbroken.inv.sizes p inside) flight⟩
  | nil =>
      -- the header is that of the frame on its way
      have start : part ++ w.stream = front := by simpa [pending, framesOf] using flight
      have some_front : front ≠ [] := by
        rintro rfl
        have size := congrArg List.length start
        rw [List.length_append, length, List.length_nil] at size
        unfold headerSize at size
        omega
      cases sends : w.sending with
      | none => exact absurd (by simpa [Begun, sends, unbroken.sends] using begun) some_front
      | some sending =>
          obtain ⟨p, written⟩ := sending
          simp only [Begun, sends] at begun
          by_cases more : written < p.frame.length
          · rw [if_pos more] at begun
            refine ⟨p, unbroken.sending p written sends, told p (w.stream ++ p.items.drop written) []
              begun.1 ?_⟩
            rw [← List.append_assoc, start, begun.2, List.take_append_drop, List.append_nil]
          · rw [if_neg more] at begun
            exact absurd begun.2 some_front

theorem Unbroken.accepts (unbroken : Unbroken maxFds w) : ¬Step w .recvRefuses next := by
  intro step
  cases step with
  | empty here all no_size =>
      obtain ⟨p, fits, size⟩ := unbroken.header here all
      exact fits.1 (List.length_eq_zero_iff.mp (size ▸ no_size))
  | large here all large =>
      obtain ⟨p, fits, size⟩ := unbroken.header here all
      have small := fits.2.1
      omega

theorem Unbroken.step (unbroken : Unbroken maxFds w) (step : Step w event next)
    (clean : Clean maxFds w event) : Unbroken maxFds next := by
  have meets : Meets maxFds w event := by
    cases event with
    | sendBegins => exact unbroken.sends
    | recvBegins => exact ⟨unbroken.receives, Nat.le_of_eq (show _ = maxFds from clean).symm⟩
    | _ => trivial
  have inv := step.keeps unbroken.inv meets
  obtain ⟨_, sends, receives, fit, sending, count⟩ := id unbroken
  cases step with
  | interrupted => exact ⟨inv, sends, receives, fit, sending, count⟩
  | sendBegins p sendMax _ _ _ few =>
      obtain ⟨some_bytes, small, rfl⟩ := clean
      refine ⟨inv, sends, receives, fit, ?_, count⟩
      rintro _ _ ⟨⟩
      exact ⟨some_bytes, small, few⟩
  | @sends p written _ here _ _ =>
      have fits := sending p written here
      refine ⟨inv, sends, receives, ?_, ?_, count⟩
      · dsimp only
        split
        · intro q inside
          rcases List.mem_append.mp inside with old | new
          · exact fit q old
          · rw [List.mem_singleton.mp new]
            exact fits
        · exact fit
      · rintro _ _ ⟨⟩
        exact fits
  | sendReturns => exact ⟨inv, sends, receives, fit, nofun, count⟩
  | sendFails => exact clean.elim
  | recvBegins => exact ⟨inv, sends, receives, fit, sending, count⟩
  | gets => exact ⟨inv, sends, receives, fit, sending, count⟩
  | sizes => exact ⟨inv, sends, receives, fit, sending, count⟩
  | empty here all no_size => exact absurd (Step.empty here all no_size) unbroken.accepts
  | large here all large => exact absurd (Step.large here all large) unbroken.accepts
  | recvReturns => exact ⟨inv, sends, receives, fit, sending, by simp [count]⟩
  | recvFails => exact clean.elim

theorem run_unbroken (run : Trace (Does (Clean maxFds)) initial events w) :
    Unbroken maxFds w := by
  induction run with
  | nil => exact ⟨initial_inv maxFds, rfl, rfl, nofun, nofun, rfl⟩
  | snoc _ does unbroken => exact unbroken.step does.1 does.2

/-- With room for all descriptors, what matches is the same. -/
theorem eq_of_matches {received packets : List Packet}
    (returned : List.Forall₂ (Matches maxFds) received packets)
    (fit : ∀ p ∈ packets, p.fds.length ≤ maxFds) : received = packets := by
  induction returned with
  | nil => rfl
  | cons first _ held =>
      have same := Packet.ext first.bytes (first.whole (fit _ List.mem_cons_self))
      rw [same, held fun p inside => fit p (List.mem_cons_of_mem _ inside)]

/-- The receives have returned the first of the packets. -/
theorem Unbroken.received_eq (unbroken : Unbroken maxFds w) :
    w.received = w.sent.take w.consumed := by
  have all : (w.sent.take w.consumed).filter (fun p => p.bytes ≠ []) = w.sent.take w.consumed := by
    rw [List.filter_eq_self]
    intro p inside
    simpa using (unbroken.fit p (List.mem_of_mem_take inside)).1
  have returned := unbroken.inv.returned
  rw [all] at returned
  exact eq_of_matches returned fun p inside =>
    (unbroken.fit p (List.mem_of_mem_take inside)).2.2

/-! A packet that was sent can be received. -/

structure Goes (maxFds : Nat) (w next : World) : Prop where
  run : ∃ events, Trace (Does (Clean maxFds)) w events next
  sent : next.sent = w.sent
  sending : next.sending = w.sending
  received : next.received = w.received
  consumed : next.consumed = w.consumed

theorem Goes.refl (w : World) : Goes maxFds w w := ⟨⟨[], .nil⟩, rfl, rfl, rfl, rfl⟩

theorem Goes.then {middle : World} (first : Goes maxFds w middle)
    (step : Does (Clean maxFds) middle event next) (sent : next.sent = middle.sent)
    (sending : next.sending = middle.sending) (received : next.received = middle.received)
    (consumed : next.consumed = middle.consumed) : Goes maxFds w next := by
  obtain ⟨events, run⟩ := first.run
  exact ⟨⟨_, run.snoc step⟩, sent.trans first.sent, sending.trans first.sending,
    received.trans first.received, consumed.trans first.consumed⟩

theorem Goes.trans {middle : World} (first : Goes maxFds w middle) (last : Goes maxFds middle next) :
    Goes maxFds w next := by
  obtain ⟨events, run⟩ := first.run
  obtain ⟨more, later⟩ := last.run
  exact ⟨⟨_, run.append later⟩, last.sent.trans first.sent, last.sending.trans first.sending,
    last.received.trans first.received, last.consumed.trans first.consumed⟩

theorem Goes.unbroken (goes : Goes maxFds w next) (unbroken : Unbroken maxFds w) :
    Unbroken maxFds next := by
  obtain ⟨events, run⟩ := goes.run
  clear goes
  induction run with
  | nil => exact unbroken
  | snoc _ does held => exact held.step does.1 does.2

/-- The receive gets all that its buffer still wants, if it is there. -/
theorem fills {r : Receiving} (here : w.receiving = some r) (there : r.wants ≤ w.stream.length) :
    ∃ next, Goes maxFds w next ∧ next.receiving = some (r.gets (w.stream.take r.wants)) := by
  by_cases full : r.wants = 0
  · refine ⟨w, .refl w, ?_⟩
    rw [here, full]
    cases r <;> simp [Receiving.gets]
  · exact ⟨_, (Goes.refl w).then ⟨.gets r.wants here (by omega) (Nat.le_refl _) there, trivial⟩
      rfl rfl rfl rfl, rfl⟩

theorem Unbroken.message_of_header (unbroken : Unbroken maxFds w) {p : Packet}
    {more : List Packet} (pending : w.sent.drop w.consumed = p :: more) {limit : Nat}
    {got : List UInt8} {descriptors : List Nat}
    (here : w.receiving = some (.header limit got descriptors)) :
    ∃ next, Goes maxFds w next ∧
      ∃ size later, next.receiving = some (.message limit size [] later) := by
  obtain ⟨part, front, flight, taken, _⟩ := unbroken.inv.flight unbroken.receives
  rw [here] at taken
  obtain ⟨_, bytes, short, _⟩ := taken
  have length : part.length = got.length := by rw [← bytes, List.length_map]
  have there : headerSize - got.length ≤ w.stream.length := by
    have size := congrArg List.length flight
    rw [pending, framesOf_cons, List.length_append, List.length_append, List.length_append,
      p.items_length] at size
    omega
  obtain ⟨filled, goes, full⟩ := @fills maxFds w _ here there
  have all : (got ++ (w.stream.take (headerSize - got.length)).map (·.1)).length = headerSize := by
    rw [List.length_append, List.length_map, List.length_take_of_le there]
    omega
  obtain ⟨q, ⟨some_bytes, small, _⟩, size⟩ := (goes.unbroken unbroken).header full all
  have some_size : q.bytes.length ≠ 0 :=
    fun none_left => some_bytes (List.length_eq_zero_iff.mp none_left)
  exact ⟨_, goes.then ⟨.sizes full all (size ▸ some_size) (size ▸ small), trivial⟩
    rfl rfl rfl rfl, _, _, rfl⟩

theorem Unbroken.returns (unbroken : Unbroken maxFds w) {p : Packet} {more : List Packet}
    (pending : w.sent.drop w.consumed = p :: more) {limit size : Nat} {got : List UInt8}
    {descriptors : List Nat} (here : w.receiving = some (.message limit size got descriptors)) :
    ∃ events next, Trace (Does (Clean maxFds)) w events next ∧ next.sent = w.sent ∧
      next.sending = w.sending ∧ next.received = w.received ++ [p] := by
  obtain ⟨part, front, flight, taken, _⟩ := unbroken.inv.flight unbroken.receives
  rw [here] at taken
  obtain ⟨_, bytes, header, told, _, short, _⟩ := taken
  rw [pending, framesOf_cons, List.append_assoc] at flight
  have inside : p ∈ w.sent := by
    apply List.mem_of_mem_drop
    rw [pending]
    exact List.mem_cons_self
  rw [take_header flight header, fromBe_items (unbroken.inv.sizes p inside)] at told
  have length : part.length = headerSize + got.length := by
    have sizes := congrArg List.length bytes
    rwa [List.length_map, List.length_append, List.length_map,
      List.length_take_of_le header] at sizes
  have there : size - got.length ≤ w.stream.length := by
    have sizes := congrArg List.length flight
    rw [List.length_append, List.length_append, p.items_length] at sizes
    omega
  obtain ⟨filled, goes, full⟩ := @fills maxFds w _ here there
  have all : (got ++ (w.stream.take (size - got.length)).map (·.1)).length = size := by
    rw [List.length_append, List.length_map, List.length_take_of_le there]
    omega
  have last := Step.recvReturns full all
  have after := (goes.unbroken unbroken).step last trivial
  obtain ⟨events, run⟩ := goes.run
  have first : w.sent[w.consumed]? = some p := by
    rw [← List.head?_drop, pending]
    rfl
  refine ⟨_, _, run.snoc ⟨last, trivial⟩, goes.sent, goes.sending, ?_⟩
  rw [after.received_eq]
  dsimp only
  rw [goes.sent, goes.consumed, List.take_add_one, first, unbroken.received_eq]
  rfl

/-- A packet that is sent and not received can be received, whatever is on its way. -/
theorem Unbroken.can_receive (unbroken : Unbroken maxFds w) (known : maxFds ≤ maxFdCount)
    {p : Packet} {more : List Packet} (pending : w.sent.drop w.consumed = p :: more) :
    ∃ events next, Trace (Does (Clean maxFds)) w events next ∧ next.sent = w.sent ∧
      next.sending = w.sending ∧ next.received = w.received ++ [p] := by
  have fromMessage : ∀ middle : World, Goes maxFds w middle → (∃ limit size got descriptors,
      middle.receiving = some (.message limit size got descriptors)) →
      ∃ events next, Trace (Does (Clean maxFds)) w events next ∧ next.sent = w.sent ∧
        next.sending = w.sending ∧ next.received = w.received ++ [p] := by
    rintro middle goes ⟨limit, size, got, descriptors, here⟩
    have later : middle.sent.drop middle.consumed = p :: more := by
      rw [goes.sent, goes.consumed, pending]
    obtain ⟨events, next, run, sent, sending, received⟩ :=
      (goes.unbroken unbroken).returns later here
    obtain ⟨before, begun⟩ := goes.run
    exact ⟨_, next, begun.append run, sent.trans goes.sent, sending.trans goes.sending,
      by rw [received, goes.received]⟩
  have fromHeader : ∀ middle : World, Goes maxFds w middle → (∃ limit got descriptors,
      middle.receiving = some (.header limit got descriptors)) →
      ∃ events next, Trace (Does (Clean maxFds)) w events next ∧ next.sent = w.sent ∧
        next.sending = w.sending ∧ next.received = w.received ++ [p] := by
    rintro middle goes ⟨limit, got, descriptors, here⟩
    have later : middle.sent.drop middle.consumed = p :: more := by
      rw [goes.sent, goes.consumed, pending]
    obtain ⟨next, moves, size, after, message⟩ :=
      (goes.unbroken unbroken).message_of_header later here
    exact fromMessage next (goes.trans moves) ⟨_, _, _, _, message⟩
  cases here : w.receiving with
  | none =>
      exact fromHeader _ ((Goes.refl w).then ⟨.recvBegins maxFds here known, rfl⟩ rfl rfl rfl rfl)
        ⟨_, _, _, rfl⟩
  | some r =>
      cases r with
      | header limit got descriptors => exact fromHeader w (.refl w) ⟨_, _, _, here⟩
      | message limit size got descriptors => exact fromMessage w (.refl w) ⟨_, _, _, _, here⟩

/-- A tube over a byte stream is one of packets: every receive returns the next of the packets
that were sent, whole and with its descriptors, and none is refused or lost. -/
theorem framed_tube_is_packets (known : maxFds ≤ maxFdCount)
    (run : Trace (Does (Clean maxFds)) initial events w) :
    w.received <+: w.sent ∧ (∀ next, ¬Step w .recvRefuses next) ∧
      (w.sending = none → w.receiving = none →
        w.stream = framesOf (w.sent.drop w.received.length)) ∧
      (w.received.length < w.sent.length →
        ∃ more next p, Trace (Does (Clean maxFds)) w more next ∧ next.sent = w.sent ∧
          next.sending = w.sending ∧ next.received = w.received ++ [p] ∧
          w.sent[w.received.length]? = some p) := by
  have unbroken := run_unbroken run
  constructor
  · rw [unbroken.received_eq]
    exact List.take_prefix _ _
  constructor
  · exact fun next => unbroken.accepts
  constructor
  · intro idle waiting
    obtain ⟨part, front, flight, taken, begun⟩ := unbroken.inv.flight unbroken.receives
    rw [waiting] at taken
    have none_begun : front = [] := by simpa [Begun, idle, unbroken.sends] using begun
    have none_taken : part = [] := taken
    rw [unbroken.count]
    simpa [none_begun, none_taken] using flight
  · intro fewer
    rw [unbroken.count] at fewer ⊢
    obtain ⟨p, more, pending⟩ : ∃ p more, w.sent.drop w.consumed = p :: more :=
      List.exists_cons_of_ne_nil (by simpa using fewer)
    obtain ⟨events, next, later, sent, sending, received⟩ := unbroken.can_receive known pending
    refine ⟨events, next, p, later, sent, sending, received, ?_⟩
    rw [← List.head?_drop, pending]
    rfl

end Clean

/-- Two packets with a descriptor each, in parts; the second one is on its way before the first
one is received. -/
theorem framed_tube_is_packets_two :
    ∃ events w, Trace (Does (Clean 1)) initial events w ∧
      w.received = [⟨[72, 105], [5]⟩, ⟨[33], [6]⟩] ∧ w.received <+: w.sent := by
  have begun : Trace (Does (Clean 1)) initial _ _ := Trace.nil.snoc
    ⟨Step.sendBegins ⟨[72, 105], [5]⟩ 1 rfl (by decide) (by decide) (by decide), by decide,
      by decide, rfl⟩
  have out := begun.snoc ⟨Step.sends 3 rfl (by decide) (by decide), trivial⟩
  have first := out.snoc ⟨Step.recvBegins 1 rfl (by decide), rfl⟩
  have some_got := first.snoc ⟨Step.gets 3 rfl (by decide) (by decide) (by decide), trivial⟩
  have all := some_got.snoc ⟨Step.sends 7 rfl (by decide) (by decide), trivial⟩
  have sent := all.snoc ⟨Step.sendReturns rfl (by decide), trivial⟩
  have second := sent.snoc
    ⟨Step.sendBegins ⟨[33], [6]⟩ 1 rfl (by decide) (by decide) (by decide), by decide, by decide,
      rfl⟩
  have behind := second.snoc ⟨Step.sends 4 rfl (by decide) (by decide), trivial⟩
  have header := behind.snoc ⟨Step.gets 5 rfl (by decide) (by decide) (by decide), trivial⟩
  have sized := header.snoc ⟨Step.sizes rfl (by decide) (by decide) (by decide), trivial⟩
  have message := sized.snoc ⟨Step.gets 2 rfl (by decide) (by decide) (by decide), trivial⟩
  have returned := message.snoc ⟨Step.recvReturns rfl (by decide), trivial⟩
  have again := returned.snoc ⟨Step.recvBegins 1 rfl (by decide), rfl⟩
  have half := again.snoc ⟨Step.gets 4 rfl (by decide) (by decide) (by decide), trivial⟩
  have rest := half.snoc ⟨Step.sends 5 rfl (by decide) (by decide), trivial⟩
  have header' := rest.snoc ⟨Step.gets 4 rfl (by decide) (by decide) (by decide), trivial⟩
  have sized' := header'.snoc ⟨Step.sizes rfl (by decide) (by decide) (by decide), trivial⟩
  have message' := sized'.snoc ⟨Step.gets 1 rfl (by decide) (by decide) (by decide), trivial⟩
  have returned' := message'.snoc ⟨Step.recvReturns rfl (by decide), trivial⟩
  exact ⟨_, _, returned', by decide, (framed_tube_is_packets (by decide) returned').1⟩

/-- Two packets, with a receive that failed before the first byte of each. -/
theorem tube_failures_contained_two :
    ∃ events w, Trace (Does (Meets 0)) initial events w ∧ .recvFails ∈ events ∧
      w.received = [⟨[72, 105], [5]⟩, ⟨[33], [6]⟩] ∧ Faithful w := by
  have begun : Trace (Does (Meets 0)) initial _ _ :=
    Trace.nil.snoc ⟨Step.sendBegins ⟨[72, 105], [5]⟩ 1 rfl (by decide) (by decide) (by decide), rfl⟩
  have out := begun.snoc ⟨Step.sends 10 rfl (by decide) (by decide), trivial⟩
  have sent := out.snoc ⟨Step.sendReturns rfl (by decide), trivial⟩
  have first := sent.snoc ⟨Step.recvBegins 1 rfl (by decide), rfl, by decide⟩
  have failed := first.snoc ⟨Step.recvFails rfl (by decide), trivial⟩
  have again := failed.snoc ⟨Step.recvBegins 1 rfl (by decide), by decide, by decide⟩
  have header := again.snoc ⟨Step.gets 8 rfl (by decide) (by decide) (by decide), trivial⟩
  have sized := header.snoc ⟨Step.sizes rfl (by decide) (by decide) (by decide), trivial⟩
  have message := sized.snoc ⟨Step.gets 2 rfl (by decide) (by decide) (by decide), trivial⟩
  have returned := message.snoc ⟨Step.recvReturns rfl (by decide), trivial⟩
  have second := returned.snoc
    ⟨Step.sendBegins ⟨[33], [6]⟩ 1 rfl (by decide) (by decide) (by decide), rfl⟩
  have out' := second.snoc ⟨Step.sends 9 rfl (by decide) (by decide), trivial⟩
  have first' := out'.snoc ⟨Step.recvBegins 1 rfl (by decide), by decide, by decide⟩
  have failed' := first'.snoc ⟨Step.recvFails rfl (by decide), trivial⟩
  have again' := failed'.snoc ⟨Step.recvBegins 1 rfl (by decide), by decide, by decide⟩
  have header' := again'.snoc ⟨Step.gets 8 rfl (by decide) (by decide) (by decide), trivial⟩
  have sized' := header'.snoc ⟨Step.sizes rfl (by decide) (by decide) (by decide), trivial⟩
  have message' := sized'.snoc ⟨Step.gets 1 rfl (by decide) (by decide) (by decide), trivial⟩
  have returned' := message'.snoc ⟨Step.recvReturns rfl (by decide), trivial⟩
  exact ⟨_, _, returned', by decide, by decide, tube_failures_contained returned'⟩

/-- A send that timed out in its frame, and the one after it: a message comes out that nobody
sent. So it does after a receive that timed out behind a header. -/
theorem tube_failures_break_frames :
    (¬∀ events w, Trace (Does fun _ event => event ≠ .recvFails) initial events w →
      Faithful w) ∧
    ¬∀ events w, Trace (Does fun _ event => event ≠ .sendFails) initial events w →
      Faithful w := by
  constructor
  · intro all
    have begun : Trace (Does fun _ event => event ≠ .recvFails) initial _ _ :=
      Trace.nil.snoc ⟨Step.sendBegins ⟨[1], []⟩ 0 rfl (by decide) (by decide) (by decide), nofun⟩
    have header := begun.snoc ⟨Step.sends 8 rfl (by decide) (by decide), nofun⟩
    have failed := header.snoc ⟨Step.sendFails rfl (by decide), nofun⟩
    have other := failed.snoc
      ⟨Step.sendBegins ⟨[65], []⟩ 0 rfl (by decide) (by decide) (by decide), nofun⟩
    have out := other.snoc ⟨Step.sends 9 rfl (by decide) (by decide), nofun⟩
    have receives := out.snoc ⟨Step.recvBegins 0 rfl (by decide), nofun⟩
    have got := receives.snoc ⟨Step.gets 8 rfl (by decide) (by decide) (by decide), nofun⟩
    have sized := got.snoc ⟨Step.sizes rfl (by decide) (by decide) (by decide), nofun⟩
    have more := sized.snoc ⟨Step.gets 1 rfl (by decide) (by decide) (by decide), nofun⟩
    have returned := more.snoc ⟨Step.recvReturns rfl (by decide), nofun⟩
    cases all _ _ returned with
    | cons same _ => exact absurd same.bytes (by decide)
  · intro all
    have begun : Trace (Does fun _ event => event ≠ .sendFails) initial _ _ :=
      Trace.nil.snoc ⟨Step.sendBegins ⟨[0, 0, 0, 0, 0, 0, 0, 1, 66], []⟩ 0 rfl (by decide)
        (by decide) (by decide), nofun⟩
    have out := begun.snoc ⟨Step.sends 17 rfl (by decide) (by decide), nofun⟩
    have receives := out.snoc ⟨Step.recvBegins 0 rfl (by decide), nofun⟩
    have got := receives.snoc ⟨Step.gets 8 rfl (by decide) (by decide) (by decide), nofun⟩
    have waits := got.snoc ⟨Step.sizes rfl (by decide) (by decide) (by decide), nofun⟩
    have failed := waits.snoc ⟨Step.recvFails rfl (by decide), nofun⟩
    have again := failed.snoc ⟨Step.recvBegins 0 rfl (by decide), nofun⟩
    have header := again.snoc ⟨Step.gets 8 rfl (by decide) (by decide) (by decide), nofun⟩
    have sized := header.snoc ⟨Step.sizes rfl (by decide) (by decide) (by decide), nofun⟩
    have more := sized.snoc ⟨Step.gets 1 rfl (by decide) (by decide) (by decide), nofun⟩
    have returned := more.snoc ⟨Step.recvReturns rfl (by decide), nofun⟩
    cases all _ _ returned with
    | cons same _ => exact absurd same.bytes (by decide)

end Bscp.Crosvm.Tube
