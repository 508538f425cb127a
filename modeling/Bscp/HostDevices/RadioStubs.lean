import Bscp.Packets
import Bscp.Struct

/-!
The controllers that stand for the radio of a guest: `root_canal_stub.py` answers the commands of a
Bluetooth host, and `casimir_stub.py` those of an NFC host. Each keeps one buffer for what it has
read and not yet understood.
-/

namespace Bscp.HostDevices

open Struct (le ofLe slice)
open Packets (Data taken taken_some taken_whole taken_grows measured)

theorem le_byte (byte : UInt8) : le 1 byte.toNat = [byte] := by
  rw [le, le, UInt8.ofNat_toNat]

theorem length_ite {condition : Prop} [Decidable condition] {left right : Bytes} {limit : Nat}
    (first : left.length ≤ limit) (second : right.length ≤ limit) :
    (if condition then left else right).length ≤ limit := by
  split
  · exact first
  · exact second

namespace RootCanal

def H4_COMMAND : UInt8 := 0x01
def H4_ACL : UInt8 := 0x02
def H4_SCO : UInt8 := 0x03
def H4_EVENT : Nat := 0x04
def H4_ISO : UInt8 := 0x05

def commandReturnParameters (opcode : Nat) (params : Bytes) : Bytes :=
  let success : Bytes := [0x00]
  if opcode = 0x1001 then
    Struct.fields [(1, 0), (1, 0x0C), (2, 1), (1, 0x0C), (2, 0x00E0), (2, 1)]
  else if opcode = 0x1002 then success ++ List.replicate 64 0
  else if opcode = 0x1003 then
    -- BR/EDR not supported, LE supported
    success ++ (List.replicate 8 0).set 4 0x60
  else if opcode = 0x1004 then
    let page := params.headD 0
    [0, page, 1] ++ List.replicate 8 0
  else if opcode = 0x1005 then Struct.fields [(1, 0), (2, 1021), (1, 0), (2, 16), (2, 0)]
  else if opcode = 0x1009 then success ++ [0x56, 0x34, 0x12, 0x00, 0xCF, 0x00]
  else if opcode = 0x100B then success ++ [0x00, 0x00]
  else if opcode = 0x2002 then Struct.fields [(1, 0), (2, 251), (1, 16)]
  else if opcode = 0x2003 then success ++ [0x01] ++ List.replicate 7 0
  else if opcode = 0x200F then success ++ [0x00]
  else if opcode = 0x201C then success ++ List.replicate 8 0xFF
  else if opcode = 0x2023 then Struct.fields [(1, 0), (2, 251), (2, 2120)]
  else if opcode = 0x202A then success ++ [0x00]
  else if opcode = 0x202F then
    Struct.fields [(1, 0), (2, 251), (2, 2120), (2, 251), (2, 2120)]
  else if opcode = 0x203A then Struct.fields [(1, 0), (2, 1650)]
  else if opcode = 0x203B then success ++ [0x01]
  else if opcode = 0x204A then success ++ [0x00]
  else if opcode = 0x2060 then Struct.fields [(1, 0), (2, 251), (1, 16), (2, 0), (1, 0)]
  else success

def commandComplete (opcode : Nat) (params : Bytes) : Except Fault Bytes := do
  let result := commandReturnParameters opcode params
  let payload := [0x01] ++ (← Struct.pack [(2, opcode)]) ++ result
  return (← Struct.bytes [H4_EVENT, 0x0E, payload.length]) ++ payload

namespace HciHandler

/-- A turn of the inner loop of `handle`: the opcode and the parameters of a command, and the
buffer without the packet. -/
def turn (buffer : Bytes) : Option (Option (Nat × Bytes) × Bytes) :=
  match buffer with
  | [] => none
  | packetType :: _ =>
      if packetType = H4_COMMAND then
        taken buffer 4 (buffer.getD 3 0).toNat fun total =>
          some (ofLe (slice buffer 1 3), slice buffer 4 total)
      else if packetType = H4_ACL then
        taken buffer 5 (ofLe (slice buffer 3 5)) fun _ => none
      else if packetType = H4_SCO then taken buffer 4 (buffer.getD 3 0).toNat fun _ => none
      else if packetType = H4_ISO then
        taken buffer 5 (ofLe (slice buffer 3 5) &&& 0x3FFF) fun _ => none
      else some (none, buffer.drop 1)

def answer : Option (Nat × Bytes) → Except Fault (List Bytes)
  | none => .ok []
  | some (opcode, params) => do return [← commandComplete opcode params]

end HciHandler

/-- What a host sends. A byte that begins no packet stands for itself. -/
inductive Packet where
  | command (opcode : UInt16) (params : Data UInt8 256)
  | acl (handle : UInt16) (data : Data UInt8 65536)
  | sco (handle : UInt16) (data : Data UInt8 256)
  | iso (handle : UInt16) (flags : Fin 4) (data : Data UInt8 16384)
  | other (byte : UInt8) (unknown : byte ∉ [H4_COMMAND, H4_ACL, H4_SCO, H4_ISO])

namespace Packet

def encode : Packet → Bytes
  | command opcode params =>
      H4_COMMAND :: le 2 opcode.toNat ++ le 1 params.val.length ++ params.val
  | acl handle data => H4_ACL :: le 2 handle.toNat ++ le 2 data.val.length ++ data.val
  | sco handle data => H4_SCO :: le 2 handle.toNat ++ le 1 data.val.length ++ data.val
  | iso handle flags data =>
      H4_ISO :: le 2 handle.toNat ++ le 2 (data.val.length + 16384 * flags) ++ data.val
  | other byte _ => [byte]

def seen : Packet → Option (Nat × Bytes)
  | command opcode params => some (opcode.toNat, params.val)
  | _ => none

end Packet

/-- The fields of two bytes, and those of one. -/
theorem ofLe_pair {value : Nat} (fits : value < 65536) :
    ofLe [UInt8.ofNat value, UInt8.ofNat (value / 256)] = value :=
  @Struct.ofLe_le 2 value fits

theorem le_pair (low high : UInt8) : le 2 (ofLe [low, high]) = [low, high] :=
  Struct.le_ofLe [low, high]

theorem masked {count : Nat} (flags : Nat) (fits : count < 16384) :
    (count + 16384 * flags) &&& 0x3FFF = count := by
  have mask : (count + 16384 * flags) &&& (2 ^ 14 - 1) = (count + 16384 * flags) % 2 ^ 14 :=
    Nat.and_two_pow_sub_one_eq_mod _ _
  rw [show 0x3FFF = 2 ^ 14 - 1 from rfl, mask]
  omega

namespace HciHandler

section Turns

variable (tail : Bytes)

theorem turn_command : turn (H4_COMMAND :: tail) =
    taken (H4_COMMAND :: tail) 4 ((H4_COMMAND :: tail).getD 3 0).toNat fun total =>
      some (ofLe (slice (H4_COMMAND :: tail) 1 3), slice (H4_COMMAND :: tail) 4 total) := rfl

theorem turn_acl : turn (H4_ACL :: tail) =
    taken (H4_ACL :: tail) 5 (ofLe (slice (H4_ACL :: tail) 3 5)) fun _ => none := rfl

theorem turn_sco : turn (H4_SCO :: tail) =
    taken (H4_SCO :: tail) 4 ((H4_SCO :: tail).getD 3 0).toNat fun _ => none := rfl

theorem turn_iso : turn (H4_ISO :: tail) =
    taken (H4_ISO :: tail) 5 (ofLe (slice (H4_ISO :: tail) 3 5) &&& 0x3FFF) fun _ => none := rfl

theorem turn_other {byte : UInt8} (unknown : byte ∉ [H4_COMMAND, H4_ACL, H4_SCO, H4_ISO]) :
    turn (byte :: tail) = some (none, tail) := by
  simp only [List.mem_cons, List.not_mem_nil, or_false, not_or] at unknown
  obtain ⟨command, acl, sco, iso⟩ := unknown
  simp [turn, command, acl, sco, iso]

end Turns

theorem turn_whole (packet : Packet) (more : Bytes) :
    turn (packet.encode ++ more) = some (packet.seen, more) := by
  cases packet with
  | command opcode params =>
      obtain ⟨params, fits⟩ := params
      have size := Struct.toNat_ofNat fits
      have middle := Struct.slice_middle (H4_COMMAND :: le 2 opcode.toNat ++ le 1 params.length)
        params more rfl
      refine (turn_command (le 2 opcode.toNat ++ le 1 params.length ++ params ++ more)).trans ?_
      refine (@taken_whole _ _ (H4_COMMAND :: le 2 opcode.toNat ++ le 1 params.length) params more
        _ _ _ rfl size.symm).trans ?_
      rw [size]
      exact congrArg₂ (fun code data => some (some (code, data), more))
        (ofLe_pair opcode.toNat_lt) middle
  | acl handle data =>
      obtain ⟨data, fits⟩ := data
      exact (turn_acl (le 2 handle.toNat ++ le 2 data.length ++ data ++ more)).trans
        (@taken_whole _ _ (H4_ACL :: le 2 handle.toNat ++ le 2 data.length) data more
          _ _ _ rfl (ofLe_pair fits).symm)
  | sco handle data =>
      obtain ⟨data, fits⟩ := data
      exact (turn_sco (le 2 handle.toNat ++ le 1 data.length ++ data ++ more)).trans
        (@taken_whole _ _ (H4_SCO :: le 2 handle.toNat ++ le 1 data.length) data more
          _ _ _ rfl (Struct.toNat_ofNat fits).symm)
  | iso handle flags data =>
      obtain ⟨data, fits⟩ := data
      have size : ofLe (le 2 (data.length + 16384 * flags)) &&& 0x3FFF = data.length := by
        rw [Struct.ofLe_le (show _ < 256 ^ 2 by omega)]
        exact masked flags fits
      exact (turn_iso (le 2 handle.toNat ++ le 2 (data.length + 16384 * flags) ++ data ++ more)).trans
        (@taken_whole _ _ (H4_ISO :: le 2 handle.toNat ++ le 2 (data.length + 16384 * flags)) data more
          _ _ _ rfl size.symm)
  | other byte unknown => exact turn_other more unknown

/-- A field of two bytes is a number of sixteen bits. -/
theorem word (low high : UInt8) : ∃ value : UInt16, value.toNat = ofLe [low, high] := by
  have small : ofLe [low, high] < 256 ^ 2 := Struct.ofLe_lt [low, high]
  exact ⟨UInt16.ofNat (ofLe [low, high]), UInt16.toNat_ofNat_of_lt' small⟩

theorem four {first : UInt8} {tail : Bytes} {size : Nat}
    (enough : 4 + size ≤ (first :: tail).length) :
    ∃ low high count rest, tail = low :: high :: count :: rest ∧ size ≤ rest.length := by
  rcases tail with _ | ⟨low, _ | ⟨high, _ | ⟨count, rest⟩⟩⟩
  case cons.cons.cons =>
      refine ⟨low, high, count, rest, rfl, ?_⟩
      simp only [List.length_cons] at enough
      omega
  all_goals
    simp only [List.length_cons, List.length_nil] at enough
    omega

theorem five {first : UInt8} {tail : Bytes} {size : Nat}
    (enough : 5 + size ≤ (first :: tail).length) :
    ∃ low high count above rest, tail = low :: high :: count :: above :: rest ∧
      size ≤ rest.length := by
  obtain ⟨low, high, count, rest, rfl, more⟩ := @four first tail (1 + size) (by omega)
  cases rest with
  | nil => exact absurd more (by simp)
  | cons above rest =>
      refine ⟨low, high, count, above, rest, rfl, ?_⟩
      rw [List.length_cons] at more
      omega

section Split

variable {tail rest : Bytes} {out : Option (Nat × Bytes)}

theorem split_command (found : turn (H4_COMMAND :: tail) = some (out, rest)) :
    ∃ packet : Packet, packet.seen = out ∧ packet.encode ++ rest = H4_COMMAND :: tail := by
  rw [turn_command] at found
  obtain ⟨enough, rfl, rfl⟩ := taken_some.mp found
  obtain ⟨low, high, count, rest, rfl, fits⟩ := four enough
  obtain ⟨opcode, same⟩ := word low high
  obtain ⟨data, size, whole⟩ := measured fits count.toNat_lt
  refine ⟨.command opcode data, ?_, ?_⟩
  · rw [Packet.seen, same, whole]
    simp [slice, Nat.add_comm 4]
  · rw [Packet.encode, same, le_pair, size, le_byte]
    simp [whole, Nat.add_comm 4]

theorem split_acl (found : turn (H4_ACL :: tail) = some (out, rest)) :
    ∃ packet : Packet, packet.seen = out ∧ packet.encode ++ rest = H4_ACL :: tail := by
  rw [turn_acl] at found
  obtain ⟨enough, rfl, rfl⟩ := taken_some.mp found
  obtain ⟨low, high, count, above, rest, rfl, fits⟩ := five enough
  have shape : slice (H4_ACL :: low :: high :: count :: above :: rest) 3 5 = [count, above] := rfl
  rw [shape] at fits ⊢
  have small : ofLe [count, above] < 256 ^ 2 := Struct.ofLe_lt [count, above]
  obtain ⟨handle, same⟩ := word low high
  obtain ⟨data, size, whole⟩ := measured fits small
  refine ⟨.acl handle data, rfl, ?_⟩
  rw [Packet.encode, same, le_pair, size, le_pair]
  simp [whole, Nat.add_comm 5]

theorem split_sco (found : turn (H4_SCO :: tail) = some (out, rest)) :
    ∃ packet : Packet, packet.seen = out ∧ packet.encode ++ rest = H4_SCO :: tail := by
  rw [turn_sco] at found
  obtain ⟨enough, rfl, rfl⟩ := taken_some.mp found
  obtain ⟨low, high, count, rest, rfl, fits⟩ := four enough
  obtain ⟨handle, same⟩ := word low high
  obtain ⟨data, size, whole⟩ := measured fits count.toNat_lt
  refine ⟨.sco handle data, rfl, ?_⟩
  rw [Packet.encode, same, le_pair, size, le_byte]
  simp [whole, Nat.add_comm 4]

theorem split_iso (found : turn (H4_ISO :: tail) = some (out, rest)) :
    ∃ packet : Packet, packet.seen = out ∧ packet.encode ++ rest = H4_ISO :: tail := by
  rw [turn_iso] at found
  obtain ⟨enough, rfl, rfl⟩ := taken_some.mp found
  obtain ⟨low, high, count, above, rest, rfl, fits⟩ := five enough
  have shape : slice (H4_ISO :: low :: high :: count :: above :: rest) 3 5 = [count, above] := rfl
  rw [shape] at fits ⊢
  have small : ofLe [count, above] < 256 ^ 2 := Struct.ofLe_lt [count, above]
  have mask : ofLe [count, above] &&& (2 ^ 14 - 1) = ofLe [count, above] % 2 ^ 14 :=
    Nat.and_two_pow_sub_one_eq_mod _ _
  rw [show 0x3FFF = 2 ^ 14 - 1 from rfl, mask] at fits ⊢
  obtain ⟨handle, same⟩ := word low high
  obtain ⟨data, size, whole⟩ := measured fits (Nat.mod_lt _ (by decide : 2 ^ 14 > 0))
  -- What is above the fourteen bits of the length stays in the field.
  let flags : Fin 4 := ⟨ofLe [count, above] / 2 ^ 14, by omega⟩
  have field : data.val.length + 16384 * flags = ofLe [count, above] := by
    rw [size]
    exact Nat.mod_add_div _ _
  refine ⟨.iso handle flags data, rfl, ?_⟩
  rw [Packet.encode, same, le_pair, field, le_pair]
  simp [whole, Nat.add_comm 5]

end Split

theorem turn_split {buffer rest : Bytes} {out : Option (Nat × Bytes)}
    (found : turn buffer = some (out, rest)) :
    ∃ packet : Packet, packet.seen = out ∧ packet.encode ++ rest = buffer := by
  cases buffer with
  | nil => cases found
  | cons packetType tail =>
      by_cases known : packetType ∈ [H4_COMMAND, H4_ACL, H4_SCO, H4_ISO]
      · simp only [List.mem_cons, List.not_mem_nil, or_false] at known
        rcases known with rfl | rfl | rfl | rfl
        · exact split_command found
        · exact split_acl found
        · exact split_sco found
        · exact split_iso found
      · rw [turn_other tail known] at found
        cases found
        exact ⟨.other packetType known, rfl, rfl⟩

/-- No packet is longer than the field of its length allows. -/
theorem turn_grows (buffer : Bytes) : ∃ more, turn (buffer ++ more) ≠ none := by
  cases buffer with
  | nil => exact ⟨[0], by decide⟩
  | cons packetType tail =>
      refine ⟨List.replicate 65540 0, ?_⟩
      have long : 65540 < (packetType :: tail ++ List.replicate 65540 0).length := by
        simp only [List.length_append, List.length_cons, List.length_replicate]
        omega
      have byte : ((packetType :: tail ++ List.replicate 65540 0).getD 3 0).toNat < 256 :=
        UInt8.toNat_lt _
      have pair : ofLe (slice (packetType :: tail ++ List.replicate 65540 0) 3 5) < 256 ^ 2 :=
        Struct.ofLe_lt_of_le (Struct.slice_length_le _ _ _)
      have mask := @Nat.and_le_left
        (ofLe (slice (packetType :: tail ++ List.replicate 65540 0) 3 5)) 0x3FFF
      rw [List.cons_append] at long byte pair mask ⊢
      simp only [turn]
      split
      · exact taken_grows (by omega)
      · split
        · exact taken_grows (by omega)
        · split
          · exact taken_grows (by omega)
          · split
            · exact taken_grows (by omega)
            · exact Option.some_ne_none _

end HciHandler

def hci : Packets.Format UInt8 Packet (Option (Nat × Bytes)) where
  encode := Packet.encode
  seen := Packet.seen
  turn := HciHandler.turn
  nonempty packet := by cases packet <;> simp [Packet.encode]
  whole := HciHandler.turn_whole
  split := HciHandler.turn_split

def HciHandler.handle (fuel : Nat) (reads : List Bytes) : Option (List Bytes × Except Fault Bytes) :=
  hci.serve HciHandler.answer fuel [] reads

def Packet.replies (packet : Packet) : List Bytes :=
  (HciHandler.answer packet.seen).toOption.getD []

/-- An event that completes a command: it names the command, and its length is that of the rest. -/
structure CommandComplete (opcode : Nat) (event : Bytes) : Prop where
  kind : event.take 2 = [0x04, 0x0E]
  counted : (event.drop 2).head?.map UInt8.toNat = some (event.drop 3).length
  echoes : ofLe (slice event 4 6) = opcode

/-- The longest answer is the table of commands. -/
theorem parameters_length (opcode : Nat) (params : Bytes) :
    (commandReturnParameters opcode params).length ≤ 65 := by
  unfold commandReturnParameters
  repeat' refine length_ite ?_ ?_
  all_goals exact Nat.le_of_ble_eq_true rfl

theorem commandComplete_ok (opcode : UInt16) (params : Bytes) :
    ∃ event, commandComplete opcode.toNat params = .ok event ∧
      CommandComplete opcode.toNat event := by
  have few := parameters_length opcode.toNat params
  generalize told : commandReturnParameters opcode.toNat params = result at few
  have known : Struct.pack [(2, opcode.toNat)] = .ok (le 2 opcode.toNat) := by
    rw [Struct.pack_ok (by simpa using opcode.toNat_lt), Struct.fields, List.flatMap_singleton]
  have size : ([0x01] ++ le 2 opcode.toNat ++ result).length = 3 + result.length := by
    simp only [List.length_append, List.length_singleton, Struct.le_length]
  have head : Struct.bytes [H4_EVENT, 0x0E, 3 + result.length] =
      .ok [0x04, 0x0E, UInt8.ofNat (3 + result.length)] := by
    refine Struct.bytes_ok ?_
    simp only [List.mem_cons, List.not_mem_nil, or_false, forall_eq_or_imp, forall_eq]
    exact ⟨by decide, by decide, by omega⟩
  have whole : commandComplete opcode.toNat params =
      .ok ([0x04, 0x0E, UInt8.ofNat (3 + result.length)] ++
        ([0x01] ++ le 2 opcode.toNat ++ result)) := by
    simp only [commandComplete, told, known, bind, Except.bind, size, head, pure, Except.pure]
  refine ⟨_, whole, rfl, ?_, ofLe_pair opcode.toNat_lt⟩
  have counted : (UInt8.ofNat (3 + result.length)).toNat = 3 + result.length :=
    Struct.toNat_ofNat (by omega)
  exact congrArg some (counted.trans size.symm)

/-- A command has one answer, and nothing else has any. -/
theorem Packet.replies_ok (packet : Packet) :
    HciHandler.answer packet.seen = .ok packet.replies ∧
      match packet with
      | .command opcode _ => ∃ event, packet.replies = [event] ∧ CommandComplete opcode.toNat event
      | _ => packet.replies = [] := by
  cases packet with
  | command opcode params =>
      obtain ⟨event, whole, completes⟩ := commandComplete_ok opcode params.val
      have one : HciHandler.answer (Packet.command opcode params).seen = .ok [event] := by
        simp only [HciHandler.answer, Packet.seen, whole, bind, Except.bind, pure, Except.pure]
      have told : (Packet.command opcode params).replies = [event] := by
        rw [Packet.replies, one]
        rfl
      exact ⟨one.trans (congrArg Except.ok told.symm), event, told, completes⟩
  | acl handle data => exact ⟨rfl, rfl⟩
  | sco handle data => exact ⟨rfl, rfl⟩
  | iso handle flags data => exact ⟨rfl, rfl⟩
  | other byte unknown => exact ⟨rfl, rfl⟩

/-- What a host's packets give, whatever the reads were. -/
theorem HciHandler.handle_stream {packets : List Packet} {rest : Bytes} {reads : List Bytes}
    {fuel : Nat} (stream : Packets.received reads = hci.stream packets ++ rest)
    (incomplete : hci.Incomplete rest) (enough : (Packets.received reads).length < fuel) :
    handle fuel reads = some (packets.flatMap Packet.replies, .ok rest) :=
  @Packets.Format.serve_stream _ _ _ _ _ hci HciHandler.answer
    (fun out => (HciHandler.answer out).toOption.getD []) fuel
    (fun packet => (Packet.replies_ok packet).1) packets rest reads stream incomplete enough

end RootCanal

namespace Casimir

def MT_COMMAND : Nat := 1
def MT_RESPONSE : Nat := 2
def MT_NOTIFICATION : Nat := 3
def GID_CORE : Nat := 0
def GID_RF : Nat := 1
def GID_NFCEE : Nat := 2

def controlPacket (mt gid oid : Nat) (payload : Bytes) : Except Fault Bytes := do
  if payload.length > 255 then
    throw ⟨.valueError, "NCI control payload exceeds one packet"⟩
  return (← Struct.bytes [(mt <<< 5) ||| (gid &&& 0x0F), oid &&& 0x3F, payload.length]) ++ payload

def responsePayload (gid oid : Nat) (_payload : Bytes) : Bytes :=
  if gid = GID_CORE ∧ oid = 0x00 then [0x00]
  else if gid = GID_CORE ∧ oid = 0x01 then
    [0x00] ++ le 4 0 ++ [0x01] ++ le 2 0 ++ [0xFF] ++ [0xFF] ++ [0x01] ++ le 2 255 ++
      [0x01, 0x00, 0x00]
  else if gid = GID_CORE ∧ oid = 0x02 then [0x00, 0x00]
  else if gid = GID_CORE ∧ oid = 0x03 then [0x00, 0x00]
  else if gid = GID_CORE ∧ oid = 0x04 then [0x00, 0xFF, 0x01, 0x01]
  else if gid = GID_CORE ∧ oid = 0x05 then [0x00]
  else if gid = GID_RF ∧ oid = 0x02 then [0x00, 0x00]
  else if gid = GID_NFCEE ∧ oid = 0x00 then [0x00, 0x00]
  else [0x00]

/-- `payload[:1] or b"\x00"`. -/
def deactivateType (payload : Bytes) : Bytes :=
  if (payload.take 1).isEmpty then [0x00] else payload.take 1

def repliesForCommand (gid oid : Nat) (payload : Bytes) : Except Fault (List Bytes) := do
  let response ← controlPacket MT_RESPONSE gid oid (responsePayload gid oid payload)
  if gid = GID_CORE ∧ oid = 0x00 then
    let resetNtf := [0x02, 0x00, 0x20, 0xE0, 0x00]
    return [response, ← controlPacket MT_NOTIFICATION GID_CORE 0x00 resetNtf]
  else if gid = GID_RF ∧ oid = 0x06 then
    return [response, ← controlPacket MT_NOTIFICATION GID_RF 0x06 (deactivateType payload ++ [0x00])]
  else return [response]

namespace NciHandler

/-- A turn of the inner loop of `handle`: the header and the payload of a packet, and the buffer
without it. -/
def turn (buffer : Bytes) : Option ((UInt8 × UInt8 × Bytes) × Bytes) :=
  taken buffer 3 (buffer.getD 2 0).toNat fun total =>
    (buffer.getD 0 0, buffer.getD 1 0, slice buffer 3 total)

def answer : UInt8 × UInt8 × Bytes → Except Fault (List Bytes)
  | (header0, header1, payload) =>
      let mt := (header0.toNat >>> 5) &&& 0x07
      let gid := header0.toNat &&& 0x0F
      let oid := header1.toNat &&& 0x3F
      if mt ≠ MT_COMMAND then .ok [] else repliesForCommand gid oid payload

end NciHandler

structure Packet where
  header0 : UInt8
  header1 : UInt8
  payload : Data UInt8 256

namespace Packet

def encode (packet : Packet) : Bytes :=
  packet.header0 :: packet.header1 :: le 1 packet.payload.val.length ++ packet.payload.val

def seen (packet : Packet) : UInt8 × UInt8 × Bytes :=
  (packet.header0, packet.header1, packet.payload.val)

def mt (packet : Packet) : Nat := (packet.header0.toNat >>> 5) &&& 0x07
def gid (packet : Packet) : Nat := packet.header0.toNat &&& 0x0F
def oid (packet : Packet) : Nat := packet.header1.toNat &&& 0x3F

def replies (packet : Packet) : List Bytes := (NciHandler.answer packet.seen).toOption.getD []

end Packet

namespace NciHandler

theorem turn_whole (packet : Packet) (more : Bytes) :
    turn (packet.encode ++ more) = some (packet.seen, more) := by
  obtain ⟨header0, header1, payload, fits⟩ := packet
  have size := Struct.toNat_ofNat fits
  have middle := Struct.slice_middle (header0 :: header1 :: le 1 payload.length) payload more rfl
  refine (@taken_whole _ _ (header0 :: header1 :: le 1 payload.length) payload more
    _ _ _ rfl size.symm).trans ?_
  rw [size]
  exact congrArg (fun data => some ((header0, header1, data), more)) middle

theorem turn_split {buffer rest : Bytes} {out : UInt8 × UInt8 × Bytes}
    (found : turn buffer = some (out, rest)) :
    ∃ packet : Packet, packet.seen = out ∧ packet.encode ++ rest = buffer := by
  obtain ⟨enough, rfl, rfl⟩ := taken_some.mp found
  rcases buffer with _ | ⟨header0, _ | ⟨header1, _ | ⟨count, rest⟩⟩⟩
  case cons.cons.cons =>
      have fits : count.toNat ≤ rest.length := by
        simp only [List.getD_cons_succ, List.getD_cons_zero, List.length_cons] at enough
        omega
      obtain ⟨data, size, whole⟩ := measured fits count.toNat_lt
      refine ⟨⟨header0, header1, data⟩, ?_, ?_⟩
      · simp [Packet.seen, slice, whole, Nat.add_comm 3]
      · rw [Packet.encode, size, le_byte]
        simp [whole, Nat.add_comm 3]
  all_goals
    simp only [List.length_cons, List.length_nil] at enough
    omega

theorem turn_grows (buffer : Bytes) : ∃ more, turn (buffer ++ more) ≠ none := by
  refine ⟨List.replicate 258 0, taken_grows ?_⟩
  have byte : ((buffer ++ List.replicate 258 0).getD 2 0).toNat < 256 := UInt8.toNat_lt _
  rw [List.length_append, List.length_replicate]
  omega

end NciHandler

def nci : Packets.Format UInt8 Packet (UInt8 × UInt8 × Bytes) where
  encode := Packet.encode
  seen := Packet.seen
  turn := NciHandler.turn
  nonempty packet := by simp [Packet.encode]
  whole := NciHandler.turn_whole
  split := NciHandler.turn_split

def NciHandler.handle (fuel : Nat) (reads : List Bytes) : Option (List Bytes × Except Fault Bytes) :=
  nci.serve NciHandler.answer fuel [] reads

/-- A message of the controller: it names the group and the code of what it is about, and its
length is that of the rest. -/
structure Control (mt gid oid : Nat) (message : Bytes) : Prop where
  kind : message.head?.map (fun byte => byte.toNat >>> 5) = some mt
  group : message.head?.map (fun byte => byte.toNat &&& 0x0F) = some gid
  code : (message.drop 1).head?.map (fun byte => byte.toNat &&& 0x3F) = some oid
  counted : (message.drop 2).head?.map UInt8.toNat = some (message.drop 3).length

theorem first_byte : ∀ mt < 8, ∀ gid < 16, (mt <<< 5) ||| (gid &&& 0x0F) < 256 ∧
    ((mt <<< 5) ||| (gid &&& 0x0F)) >>> 5 = mt ∧
      ((mt <<< 5) ||| (gid &&& 0x0F)) &&& 0x0F = gid := by
  decide

theorem second_byte : ∀ oid < 64, oid &&& 0x3F < 256 ∧ (oid &&& 0x3F) &&& 0x3F = oid := by
  decide

theorem controlPacket_ok {mt gid oid : Nat} {payload : Bytes} (kind : mt < 8) (group : gid < 16)
    (code : oid < 64) (few : payload.length ≤ 255) :
    ∃ message, controlPacket mt gid oid payload = .ok message ∧ Control mt gid oid message := by
  obtain ⟨firstFits, top, bottom⟩ := first_byte mt kind gid group
  obtain ⟨secondFits, below⟩ := second_byte oid code
  have counted : (UInt8.ofNat payload.length).toNat = payload.length :=
    Struct.toNat_ofNat (by omega)
  have head : Struct.bytes [(mt <<< 5) ||| (gid &&& 0x0F), oid &&& 0x3F, payload.length] =
      .ok [UInt8.ofNat ((mt <<< 5) ||| (gid &&& 0x0F)), UInt8.ofNat (oid &&& 0x3F),
        UInt8.ofNat payload.length] := by
    refine Struct.bytes_ok ?_
    simp only [List.mem_cons, List.not_mem_nil, or_false, forall_eq_or_imp, forall_eq]
    exact ⟨firstFits, secondFits, by omega⟩
  have whole : controlPacket mt gid oid payload =
      .ok ([UInt8.ofNat ((mt <<< 5) ||| (gid &&& 0x0F)), UInt8.ofNat (oid &&& 0x3F),
        UInt8.ofNat payload.length] ++ payload) := by
    simp only [controlPacket, head, bind, Except.bind, pure, Except.pure,
      if_neg (show ¬ payload.length > 255 by omega)]
  refine ⟨_, whole, ?_, ?_, ?_, congrArg some counted⟩
  · exact congrArg some ((congrArg (· >>> 5) (Struct.toNat_ofNat firstFits)).trans top)
  · exact congrArg some ((congrArg (· &&& 0x0F) (Struct.toNat_ofNat firstFits)).trans bottom)
  · exact congrArg some ((congrArg (· &&& 0x3F) (Struct.toNat_ofNat secondFits)).trans below)

theorem responsePayload_length (gid oid : Nat) (payload : Bytes) :
    (responsePayload gid oid payload).length ≤ 255 := by
  unfold responsePayload
  repeat' refine length_ite ?_ ?_
  all_goals exact Nat.le_of_ble_eq_true rfl

/-- A command has a response, and those that reset and deactivate a notification besides. -/
def Answered (gid oid : Nat) (replies : List Bytes) : Prop :=
  ∃ response, Control MT_RESPONSE gid oid response ∧
    if gid = GID_CORE ∧ oid = 0x00 ∨ gid = GID_RF ∧ oid = 0x06 then
      ∃ notification, Control MT_NOTIFICATION gid oid notification ∧
        replies = [response, notification]
    else replies = [response]

theorem repliesForCommand_ok {gid oid : Nat} (group : gid < 16) (code : oid < 64)
    (payload : Bytes) :
    ∃ replies, repliesForCommand gid oid payload = .ok replies ∧ Answered gid oid replies := by
  obtain ⟨response, first, answers⟩ := @controlPacket_ok MT_RESPONSE gid oid _ (by decide) group code
    (responsePayload_length gid oid payload)
  by_cases reset : gid = GID_CORE ∧ oid = 0x00
  · obtain ⟨rfl, rfl⟩ := reset
    obtain ⟨notification, second, notifies⟩ := @controlPacket_ok MT_NOTIFICATION GID_CORE 0x00
      [0x02, 0x00, 0x20, 0xE0, 0x00] (by decide) group code (by decide)
    refine ⟨[response, notification], ?_, response, answers, notification, notifies, rfl⟩
    simp [repliesForCommand, first, second, bind, Except.bind, pure, Except.pure]
  · by_cases deactivate : gid = GID_RF ∧ oid = 0x06
    · obtain ⟨rfl, rfl⟩ := deactivate
      have one : (deactivateType payload).length ≤ 1 :=
        length_ite (Nat.le_refl 1) (List.length_take_le _ _)
      have few : (deactivateType payload ++ [0x00]).length ≤ 255 := by
        rw [List.length_append, List.length_singleton]
        omega
      obtain ⟨notification, second, notifies⟩ := @controlPacket_ok MT_NOTIFICATION GID_RF 0x06
        _ (by decide) group code few
      refine ⟨[response, notification], ?_, response, answers, notification, notifies, rfl⟩
      have other : GID_RF ≠ GID_CORE := by decide
      simp [repliesForCommand, first, second, other, bind, Except.bind, pure, Except.pure]
    · refine ⟨[response], ?_, response, answers, ?_⟩
      · simp [repliesForCommand, first, reset, deactivate, bind, Except.bind, pure, Except.pure]
      · rw [if_neg (not_or.mpr ⟨reset, deactivate⟩)]

/-- A command is answered, and nothing else is. -/
theorem Packet.replies_ok (packet : Packet) :
    NciHandler.answer packet.seen = .ok packet.replies ∧
      if packet.mt = MT_COMMAND then Answered packet.gid packet.oid packet.replies
      else packet.replies = [] := by
  by_cases command : packet.mt = MT_COMMAND
  · have group : packet.gid < 16 := Nat.lt_succ_of_le Nat.and_le_right
    have code : packet.oid < 64 := Nat.lt_succ_of_le Nat.and_le_right
    obtain ⟨replies, told, answered⟩ := repliesForCommand_ok group code packet.payload.val
    have one : NciHandler.answer packet.seen = .ok replies :=
      (if_neg (not_not_intro command)).trans told
    have same : packet.replies = replies := by
      rw [Packet.replies, one]
      rfl
    rw [if_pos command, same]
    exact ⟨one, answered⟩
  · have one : NciHandler.answer packet.seen = .ok [] := if_pos command
    have same : packet.replies = [] := by
      rw [Packet.replies, one]
      rfl
    rw [if_neg command, same]
    exact ⟨one, rfl⟩

/-- What a host's packets give, whatever the reads were. -/
theorem NciHandler.handle_stream {packets : List Packet} {rest : Bytes} {reads : List Bytes}
    {fuel : Nat} (stream : Packets.received reads = nci.stream packets ++ rest)
    (incomplete : nci.Incomplete rest) (enough : (Packets.received reads).length < fuel) :
    handle fuel reads = some (packets.flatMap Packet.replies, .ok rest) :=
  @Packets.Format.serve_stream _ _ _ _ _ nci NciHandler.answer
    (fun out => (NciHandler.answer out).toOption.getD []) fuel
    (fun packet => (Packet.replies_ok packet).1) packets rest reads stream incomplete enough

end Casimir

structure Faithful {β γ : Type} (format : Packets.Format UInt8 β γ) (replies : β → List Bytes)
    (handle : Nat → List Bytes → Option (List Bytes × Except Fault Bytes)) : Prop where
  answers : ∀ packets rest reads fuel, Packets.received reads = format.stream packets ++ rest →
    format.Incomplete rest → (Packets.received reads).length < fuel →
      handle fuel reads = some (packets.flatMap replies, .ok rest)
  covers : ∀ stream, ∃ packets rest, stream = format.stream packets ++ rest ∧
    format.Incomplete rest

/-- The replies of both stubs depend only on the stream: one for each command, that names it and
counts its own bytes, and none for anything else. -/
theorem stubs_answer :
    Faithful RootCanal.hci RootCanal.Packet.replies RootCanal.HciHandler.handle ∧
      (∀ packet : RootCanal.Packet,
        match packet with
        | .command opcode _ =>
            ∃ event, packet.replies = [event] ∧ RootCanal.CommandComplete opcode.toNat event
        | _ => packet.replies = []) ∧
      Faithful Casimir.nci Casimir.Packet.replies Casimir.NciHandler.handle ∧
      ∀ packet : Casimir.Packet,
        if packet.mt = Casimir.MT_COMMAND then
          Casimir.Answered packet.gid packet.oid packet.replies
        else packet.replies = [] := by
  refine ⟨⟨?_, Packets.Format.split_incomplete RootCanal.HciHandler.turn_grows⟩,
    fun packet => (RootCanal.Packet.replies_ok packet).2,
    ⟨?_, Packets.Format.split_incomplete Casimir.NciHandler.turn_grows⟩,
    fun packet => (Casimir.Packet.replies_ok packet).2⟩
  · exact fun _ _ _ _ => RootCanal.HciHandler.handle_stream
  · exact fun _ _ _ _ => Casimir.NciHandler.handle_stream

/-- A command to reset behind a byte of no packet, in two reads. -/
example : RootCanal.HciHandler.handle 6 [[0xFF, 0x01, 0x03], [0x0C, 0x00]] =
    some ([[0x04, 0x0E, 0x04, 0x01, 0x03, 0x0C, 0x00]], .ok []) := by
  decide

end Bscp.HostDevices
