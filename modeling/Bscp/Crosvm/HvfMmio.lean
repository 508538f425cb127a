import Bscp.Crosvm.HvfRegisters
import Mathlib.Data.List.Basic

/-!
Loads and stores of an HVF vCPU outside its memory (`hypervisor/src/hvf/vcpu.rs`): `run` takes the
exception apart and leaves what is pending, and `handle_mmio` does it. Against that stand the load
and the store that the architecture describes by the same syndrome. The calls that read and write
registers of the vCPU succeed.
-/

namespace Bscp.Crosvm.Hvf

/-! ### Memory access from outside -/

structure Exception where
  syndrome : Word
  physicalAddress : Word

structure MmioPending where
  gpa : Word
  size : Nat
  write : Bool
  rt : Nat
  reg64 : Bool
  signExtend : Bool

def parseMmio (ex : Exception) : Option MmioPending :=
  let ec := ex.syndrome >>> 26
  if ec ≠ 0x24 ∧ ec ≠ 0x25 then none
  else
    let iss := ex.syndrome &&& 0x01ffffff
    some {
      gpa := ex.physicalAddress
      size := 1 <<< ((iss >>> 22) &&& 3).toNat
      write := (iss >>> 6) &&& 1 ≠ 0
      rt := ((iss >>> 16) &&& 0x1f).toNat
      reg64 := (iss >>> 15) &&& 1 ≠ 0
      signExtend := (iss >>> 21) &&& 1 ≠ 0 }

/-- What `run` does with an exception: three kinds it handles itself. -/
inductive Handling where
  | waitForEventTrap
  | psciCall
  | systemRegisterTrap
  | exitMmio (pending : MmioPending)
  | exitException

def runException (ex : Exception) : Handling :=
  let ec := ex.syndrome >>> 26
  if ec = 0x01 then .waitForEventTrap
  else if ec = 0x16 ∨ ec = 0x17 then .psciCall
  else if ec = 0x18 then .systemRegisterTrap
  else
    match parseMmio ex with
    | some pending => .exitMmio pending
    | none => .exitException

inductive IoOperation where
  | read (size : Nat)
  | write (data : List Byte)
  deriving DecidableEq

structure IoParams where
  address : Word
  operation : IoOperation
  deriving DecidableEq

/-- The function that a request is given to. A read fills as many bytes as it is asked for. -/
structure Handler where
  read : Word → (size : Nat) → Except Errno { data : List Byte // data.length = size }
  write : Word → List Byte → Except Errno Unit

abbrev IoEvents := Word → Option (Except Errno Unit)

inductive Answer where
  | ok
  | error (errno : Errno)
  /-- An addition has overflowed. -/
  | panicked
  deriving DecidableEq

structure Effect where
  registers : Registers
  asked : List IoParams := []
  signalled : List Word := []
  answer : Answer

def fromLeBytes : List Byte → Word
  | [] => 0
  | byte :: rest => (fromLeBytes rest) <<< 8 ||| byte.setWidth 64

def toLeBytes (value : Word) : List Byte :=
  (List.range 8).map fun place => (value >>> (8 * place)).setWidth 8

/-- The end of `handle_mmio`: the program counter and the event. -/
def advance (registers : Registers) (gpa : Word) (ioevents : IoEvents) (asked : List IoParams) :
    Effect :=
  let pc := registers .pc
  if pc.toNat + 4 < 2 ^ 64 then
    let registers := Function.update registers .pc (pc + 4)
    match ioevents gpa with
    | none => { registers, asked, answer := .ok }
    | some (.ok ()) => { registers, asked, signalled := [gpa], answer := .ok }
    | some (.error errno) => { registers, asked, signalled := [gpa], answer := .error errno }
  else { registers, asked, answer := .panicked }

def loadValue (mmio : MmioPending) (data : List Byte) : Word :=
  let val := fromLeBytes (data ++ List.replicate (8 - data.length) 0)
  let bits := mmio.size * 8
  let val :=
    if mmio.size < 8 ∧ mmio.signExtend then (val <<< (64 - bits)).sshiftRight (64 - bits) else val
  if mmio.reg64 then val else val &&& 0xffffffff

def handleMmio (pendingMmio : Option MmioPending) (registers : Registers) (handleFn : Handler)
    (ioevents : IoEvents) : Effect :=
  match pendingMmio with
  | none => { registers, answer := .error EINVAL }
  | some mmio =>
      if mmio.size ∉ [1, 2, 4, 8] then { registers, answer := .error EINVAL }
      else if mmio.write then
        let value := match xReg mmio.rt with
          | some reg => registers reg
          | none => 0
        let data := (toLeBytes value).take mmio.size
        let asked := [⟨mmio.gpa, .write data⟩]
        match handleFn.write mmio.gpa data with
        | .error errno => { registers, asked, answer := .error errno }
        | .ok () => advance registers mmio.gpa ioevents asked
      else
        let asked := [⟨mmio.gpa, .read mmio.size⟩]
        match handleFn.read mmio.gpa mmio.size with
        | .error errno => { registers, asked, answer := .error errno }
        | .ok data =>
            let registers := match xReg mmio.rt with
              | some reg => Function.update registers reg (loadValue mmio data.1)
              | none => registers
            advance registers mmio.gpa ioevents asked

/-! ### The architecture -/

/-- Bits 31 to 26: a data abort from a lower level or from the same one. -/
def IsDataAbort (syndrome : Word) : Prop :=
  syndrome.extractLsb' 26 6 = 0x24 ∨ syndrome.extractLsb' 26 6 = 0x25

/-- ISV: the bits below say which instruction it was. -/
def IsValid (syndrome : Word) : Prop := syndrome.getLsbD 24 = true

structure Access where
  /-- WnR. -/
  store : Bool
  /-- SAS, by its power of two. -/
  size : Nat
  /-- SRT. -/
  rt : BitVec 5
  /-- SSE. -/
  signed : Bool
  /-- SF. -/
  wide : Bool

def Access.ofSyndrome (syndrome : Word) : Access where
  store := syndrome.getLsbD 6
  size := 2 ^ (syndrome.extractLsb' 22 2).toNat
  rt := syndrome.extractLsb' 16 5
  signed := syndrome.getLsbD 21
  wide := syndrome.getLsbD 15

namespace Access

variable (access : Access)

/-- Register 31 is read as zero. -/
def operand (registers : Registers) : Word :=
  if within : access.rt.toNat < 31 then registers (.x ⟨access.rt.toNat, within⟩) else 0

/-- What is written to register 31 is lost. -/
def writeBack (registers : Registers) (value : Word) : Registers :=
  if within : access.rt.toNat < 31 then
    Function.update registers (.x ⟨access.rt.toNat, within⟩) value
  else registers

def stored (value : Word) : List Byte :=
  (List.range access.size).map fun place => value.extractLsb' (8 * place) 8

def number : List Byte → Nat
  | [] => 0
  | byte :: rest => byte.toNat + 256 * number rest

def loaded (data : List Byte) : Word :=
  let value := BitVec.ofNat (8 * access.size) (number data)
  let width := if access.wide then 64 else 32
  (if access.signed then value.signExtend width else value.setWidth width).setWidth 64

def request (address : Word) (registers : Registers) : IoParams :=
  ⟨address, if access.store then .write (access.stored (access.operand registers))
    else .read access.size⟩

def next (registers : Registers) : Registers :=
  Function.update registers .pc (registers .pc + 4)

def after (address : Word) (registers : Registers) (handler : Handler) : Option Registers :=
  if access.store then
    match handler.write address (access.stored (access.operand registers)) with
    | .ok () => some (next registers)
    | .error _ => none
  else
    match handler.read address access.size with
    | .ok data => some (next (access.writeBack registers (access.loaded data.1)))
    | .error _ => none

structure Does (address : Word) (registers : Registers) (handler : Handler) (ioevents : IoEvents)
    (effect : Effect) : Prop where
  asked : effect.asked = [access.request address registers]
  left : effect.registers = (access.after address registers handler).getD registers
  /-- The event of the address is signalled by a store, and by nothing else. -/
  signalled : effect.signalled =
    if access.store ∧ (access.after address registers handler).isSome ∧ (ioevents address).isSome
    then [address] else []

end Access

/-- `run` and `handle_mmio` do what the architecture says of the exception. -/
structure Emulated (ex : Exception) (registers : Registers) (handler : Handler)
    (ioevents : IoEvents) : Prop where
  treated : (∃ pending, runException ex = .exitMmio pending) ↔
    IsDataAbort ex.syndrome ∧ IsValid ex.syndrome
  does : IsDataAbort ex.syndrome → IsValid ex.syndrome → ∀ pending,
    runException ex = .exitMmio pending →
      (Access.ofSyndrome ex.syndrome).Does ex.physicalAddress registers handler ioevents
        (handleMmio (some pending) registers handler ioevents)

/-! ### The syndrome -/

/-- The shift of `run` keeps all bits from 26 on, and not the six of the class alone. -/
theorem class_iff (syndrome : Word) (kind : Nat) (small : kind < 64) :
    syndrome >>> 26 = BitVec.ofNat 64 kind ↔
      syndrome.extractLsb' 26 6 = BitVec.ofNat 6 kind ∧ syndrome >>> 32 = 0 := by
  have bound := syndrome.isLt
  simp only [BitVec.toNat_eq, BitVec.toNat_ushiftRight, BitVec.extractLsb'_toNat,
    BitVec.toNat_ofNat, Nat.shiftRight_eq_div_pow, BitVec.ofNat_eq_ofNat]
  omega

theorem bit_iff (value : Word) (place : Nat) :
    decide ((value >>> place) &&& 1 ≠ 0) = value.getLsbD place := by
  have one : (value >>> place) &&& 1 = BitVec.ofNat 64 (value.getLsbD place).toNat := by
    apply BitVec.eq_of_getLsbD_eq
    intro index _
    cases index with
    | zero => cases bit : value.getLsbD place <;> simp [bit]
    | succ index => cases bit : value.getLsbD place <;> simp [BitVec.getLsbD_one]
  rw [one]
  cases value.getLsbD place <;> decide

def Access.pending (access : Access) (gpa : Word) : MmioPending :=
  ⟨gpa, access.size, access.store, access.rt.toNat, access.wide, access.signed⟩

section Iss

variable (syndrome : Word)

theorem iss_toNat : (syndrome &&& 0x01ffffff).toNat = syndrome.toNat % 2 ^ 25 := by
  rw [BitVec.toNat_and]
  exact Nat.and_two_pow_sub_one_eq_mod syndrome.toNat 25

theorem iss_bit {place : Nat} (small : place < 25) :
    decide (((syndrome &&& 0x01ffffff) >>> place) &&& 1 ≠ 0) = syndrome.getLsbD place := by
  have mask : ∀ place < 25, (0x01ffffff : Word).getLsbD place = true := by decide
  rw [bit_iff, BitVec.getLsbD_and, mask place small, Bool.and_true]

theorem iss_sas : (((syndrome &&& 0x01ffffff) >>> 22) &&& 3).toNat =
    (syndrome.extractLsb' 22 2).toNat := by
  have mask := Nat.and_two_pow_sub_one_eq_mod ((syndrome &&& 0x01ffffff) >>> 22).toNat 2
  rw [BitVec.toNat_and]
  refine mask.trans ?_
  rw [BitVec.toNat_ushiftRight, iss_toNat, BitVec.extractLsb'_toNat, Nat.shiftRight_eq_div_pow,
    Nat.shiftRight_eq_div_pow]
  omega

theorem iss_srt : (((syndrome &&& 0x01ffffff) >>> 16) &&& 0x1f).toNat =
    (syndrome.extractLsb' 16 5).toNat := by
  have mask := Nat.and_two_pow_sub_one_eq_mod ((syndrome &&& 0x01ffffff) >>> 16).toNat 5
  rw [BitVec.toNat_and]
  refine mask.trans ?_
  rw [BitVec.toNat_ushiftRight, iss_toNat, BitVec.extractLsb'_toNat, Nat.shiftRight_eq_div_pow,
    Nat.shiftRight_eq_div_pow]
  omega

end Iss

theorem parseMmio_eq (ex : Exception) : parseMmio ex =
    if ex.syndrome >>> 26 ≠ 0x24 ∧ ex.syndrome >>> 26 ≠ 0x25 then none
    else some ((Access.ofSyndrome ex.syndrome).pending ex.physicalAddress) := by
  simp only [parseMmio, Access.pending, Access.ofSyndrome, iss_bit ex.syndrome (by decide : 6 < 25),
    iss_bit ex.syndrome (by decide : 15 < 25), iss_bit ex.syndrome (by decide : 21 < 25),
    iss_sas, iss_srt, Nat.one_shiftLeft]

/-- The data aborts of which no bit above the class is set are done as MMIO, valid or not. -/
theorem runException_iff (ex : Exception) (pending : MmioPending) :
    runException ex = .exitMmio pending ↔ IsDataAbort ex.syndrome ∧ ex.syndrome >>> 32 = 0 ∧
      pending = (Access.ofSyndrome ex.syndrome).pending ex.physicalAddress := by
  have lower := class_iff ex.syndrome 0x24 (by decide)
  have same := class_iff ex.syndrome 0x25 (by decide)
  rw [runException, parseMmio_eq]
  by_cases abort : ex.syndrome >>> 26 = 0x24 ∨ ex.syndrome >>> 26 = 0x25
  · have classed : IsDataAbort ex.syndrome ∧ ex.syndrome >>> 32 = 0 := by
      rcases abort with here | here
      · exact ⟨.inl (lower.mp here).1, (lower.mp here).2⟩
      · exact ⟨.inr (same.mp here).1, (same.mp here).2⟩
    have handled : ¬ex.syndrome >>> 26 = 0x01 ∧ ¬(ex.syndrome >>> 26 = 0x16 ∨
        ex.syndrome >>> 26 = 0x17) ∧ ¬ex.syndrome >>> 26 = 0x18 ∧
        ¬(ex.syndrome >>> 26 ≠ 0x24 ∧ ex.syndrome >>> 26 ≠ 0x25) := by
      rcases abort with here | here <;> rw [here] <;> decide
    simp only [handled, if_false, classed, true_and, Handling.exitMmio.injEq, eq_comm]
  · have outside : ¬(IsDataAbort ex.syndrome ∧ ex.syndrome >>> 32 = 0) := by
      rintro ⟨here | here, none⟩
      · exact abort (.inl (lower.mpr ⟨here, none⟩))
      · exact abort (.inr (same.mpr ⟨here, none⟩))
    rw [← and_assoc]
    refine iff_of_false (fun exits => ?_) fun classed => outside classed.1
    rw [if_pos (not_or.mp abort)] at exits
    split at exits <;> try cases exits
    split at exits <;> try cases exits
    split at exits <;> cases exits

/-! ### Bytes -/

theorem number_lt (data : List Byte) : Access.number data < 256 ^ data.length := by
  induction data with
  | nil => decide
  | cons byte rest next =>
      have small := byte.isLt
      rw [Access.number, List.length_cons, Nat.pow_succ]
      omega

theorem number_zeros (data : List Byte) (count : Nat) :
    Access.number (data ++ List.replicate count 0) = Access.number data := by
  induction data with
  | nil =>
      induction count with
      | zero => rfl
      | succ count next =>
          rw [List.nil_append] at next ⊢
          simp only [List.replicate_succ, Access.number, next]
          decide
  | cons byte rest next => rw [List.cons_append, Access.number, next, Access.number]

theorem fromLeBytes_eq (data : List Byte) :
    fromLeBytes data = BitVec.ofNat 64 (Access.number data) := by
  induction data with
  | nil => rfl
  | cons byte rest next =>
      have small := byte.isLt
      apply BitVec.eq_of_toNat_eq
      have shifted : (BitVec.ofNat 64 (Access.number rest) <<< 8).toNat =
          2 ^ 8 * (Access.number rest % 2 ^ 56) := by
        rw [BitVec.toNat_shiftLeft, BitVec.toNat_ofNat, Nat.shiftLeft_eq]
        omega
      have byte_kept : (byte.setWidth 64).toNat = byte.toNat := by
        rw [BitVec.toNat_setWidth]
        omega
      rw [fromLeBytes, next, BitVec.toNat_or, shifted, byte_kept,
        ← Nat.two_pow_add_eq_or_of_lt small, Access.number, BitVec.toNat_ofNat]
      omega

/-- Up to the top of the word and back, with the sign. -/
theorem shifted_signExtend (value : Word) {bits : Nat} (some_bits : 0 < bits) (within : bits ≤ 64) :
    (value <<< (64 - bits)).sshiftRight (64 - bits) = (value.setWidth bits).signExtend 64 := by
  apply BitVec.eq_of_getLsbD_eq
  intro place small
  have sign : (value <<< (64 - bits)).msb = (value.setWidth bits).msb := by
    have top : 64 - 1 - (64 - bits) = bits - 1 := by omega
    rw [BitVec.msb_shiftLeft, BitVec.msb_eq_getLsbD_last, BitVec.getMsbD_eq_getLsbD, top,
      BitVec.getLsbD_setWidth]
    have below : bits - 1 < bits := by omega
    simp [below, (by omega : 64 - bits < 64)]
  rw [BitVec.getLsbD_sshiftRight, BitVec.getLsbD_signExtend, sign, BitVec.getLsbD_shiftLeft,
    BitVec.getLsbD_setWidth]
  have inside : 64 - bits + place < 64 ↔ place < bits := by omega
  by_cases here : place < bits
  · have up : ¬64 ≤ place ∧ ¬64 - bits + place < 64 - bits := by omega
    simp [inside, here, small, up]
  · simp [inside, here, small]

theorem masked_eq (value : Word) : value &&& 0xffffffff = (value.setWidth 32).setWidth 64 := by
  apply BitVec.eq_of_toNat_eq
  have mask := Nat.and_two_pow_sub_one_eq_mod value.toNat 32
  rw [BitVec.toNat_and, BitVec.toNat_setWidth, BitVec.toNat_setWidth]
  refine mask.trans ?_
  omega

theorem signExtend_setWidth {bits : Nat} (value : BitVec bits) :
    (value.signExtend 64).setWidth 32 = value.signExtend 32 := by
  apply BitVec.eq_of_getLsbD_eq
  intro place small
  have also : place < 64 := by omega
  rw [BitVec.getLsbD_setWidth, BitVec.getLsbD_signExtend, BitVec.getLsbD_signExtend]
  simp only [small, also, decide_true, Bool.true_and]

theorem loadValue_eq {access : Access} {gpa : Word} {data : List Byte}
    (length : data.length = access.size) (size : access.size ∈ [1, 2, 4, 8]) :
    loadValue (access.pending gpa) data = access.loaded data := by
  have within : 0 < 8 * access.size ∧ 8 * access.size ≤ 64 := by
    simp only [List.mem_cons, List.not_mem_nil, or_false] at size
    omega
  -- The bytes fill the low bits of the word, and the rest of it is zero.
  have word : fromLeBytes (data ++ List.replicate (8 - data.length) 0) =
      BitVec.ofNat 64 (Access.number data) := by
    rw [fromLeBytes_eq, number_zeros]
  have small : Access.number data < 2 ^ (8 * access.size) := by
    have bound := number_lt data
    rwa [length, show (256 : Nat) = 2 ^ 8 by decide, ← Nat.pow_mul] at bound
  have cut : (BitVec.ofNat 64 (Access.number data)).setWidth (8 * access.size) =
      BitVec.ofNat (8 * access.size) (Access.number data) :=
    BitVec.setWidth_ofNat_of_le within.2 _
  have zeros : (BitVec.ofNat (8 * access.size) (Access.number data)).setWidth 64 =
      BitVec.ofNat 64 (Access.number data) := BitVec.setWidth_ofNat_of_le_of_lt within.2 small
  have extended : (if access.size < 8 ∧ access.signed = true then
        (BitVec.ofNat 64 (Access.number data) <<< (64 - access.size * 8)).sshiftRight
          (64 - access.size * 8)
      else BitVec.ofNat 64 (Access.number data)) =
      if access.signed then
        (BitVec.ofNat (8 * access.size) (Access.number data)).signExtend 64
      else (BitVec.ofNat (8 * access.size) (Access.number data)).setWidth 64 := by
    rw [zeros]
    cases access.signed with
    | false => simp
    | true =>
        by_cases short : access.size < 8
        · simp only [short, and_self, if_true]
          rw [Nat.mul_comm, shifted_signExtend _ within.1 within.2, cut]
        · have full : 8 * access.size = 64 := by omega
          simp only [short, false_and, if_false, if_true]
          rw [full, BitVec.signExtend_eq]
  simp only [loadValue, Access.pending, word, extended, Access.loaded]
  cases access.wide with
  | true => cases access.signed <;> simp
  | false =>
      simp only [Bool.false_eq_true, if_false]
      rw [masked_eq]
      cases access.signed with
      | true =>
          simp only [if_true, signExtend_setWidth]
          rfl
      | false =>
          have through := BitVec.setWidth_setWidth_of_le
            (BitVec.ofNat (8 * access.size) (Access.number data)) (by decide : 32 ≤ 64)
          simp only [Bool.false_eq_true, if_false, through]
          rfl

theorem stored_eq {access : Access} (value : Word) (size : access.size ∈ [1, 2, 4, 8]) :
    (toLeBytes value).take access.size = access.stored value := by
  have within : min access.size 8 = access.size := by
    simp only [List.mem_cons, List.not_mem_nil, or_false] at size
    omega
  rw [toLeBytes, ← List.map_take, List.take_range, within, Access.stored]
  rfl

/-! ### The request -/

section Request

variable {access : Access} {gpa : Word} {registers : Registers} {handler : Handler}
  {ioevents : IoEvents}

theorem size_mem (syndrome : Word) : (Access.ofSyndrome syndrome).size ∈ [1, 2, 4, 8] := by
  have small := (syndrome.extractLsb' 22 2).isLt
  have cases : ∀ power < 4, 2 ^ power ∈ [1, 2, 4, 8] := by decide
  exact cases _ small

theorem read_operand : (match xReg access.rt.toNat with
    | some reg => registers reg
    | none => 0) = access.operand registers := by
  unfold xReg Access.operand
  by_cases within : access.rt.toNat < 31 <;> simp [within]

theorem write_back (value : Word) : (match xReg access.rt.toNat with
    | some reg => Function.update registers reg value
    | none => registers) = access.writeBack registers value := by
  unfold xReg Access.writeBack
  by_cases within : access.rt.toNat < 31 <;> simp [within]

/-- The event is signalled wherever the program counter has been advanced, after a load too. -/
theorem advance_signalled {asked : List IoParams} (room : (registers .pc).toNat + 4 < 2 ^ 64) :
    (advance registers gpa ioevents asked).registers = Access.next registers ∧
      (advance registers gpa ioevents asked).asked = asked ∧
      (advance registers gpa ioevents asked).signalled =
        if (ioevents gpa).isSome then [gpa] else [] := by
  simp only [advance, room, if_true]
  cases ioevents gpa with
  | none => exact ⟨rfl, rfl, rfl⟩
  | some signal => cases signal <;> exact ⟨rfl, rfl, rfl⟩

theorem advance_panicked {asked : List IoParams} (full : ¬(registers .pc).toNat + 4 < 2 ^ 64) :
    advance registers gpa ioevents asked = { registers, asked, answer := .panicked } := by
  simp only [advance, full, if_false]

theorem writeBack_pc (value : Word) : access.writeBack registers value .pc = registers .pc := by
  unfold Access.writeBack
  split
  · exact Function.update_of_ne (by simp) _ _
  · rfl

theorem next_ne (registers : Registers) : Access.next registers ≠ registers := by
  intro same
  have pc := congrFun same .pc
  rw [Access.next, Function.update_self] at pc
  simp at pc

/-- What `handle_mmio` does with a request that is pending. -/
theorem handleMmio_eq (size : access.size ∈ [1, 2, 4, 8]) :
    handleMmio (some (access.pending gpa)) registers handler ioevents =
      if access.store then
        match handler.write gpa (access.stored (access.operand registers)) with
        | .error errno => ⟨registers, [access.request gpa registers], [], .error errno⟩
        | .ok () => advance registers gpa ioevents [access.request gpa registers]
      else
        match handler.read gpa access.size with
        | .error errno => ⟨registers, [access.request gpa registers], [], .error errno⟩
        | .ok data => advance (access.writeBack registers (access.loaded data.1)) gpa ioevents
            [access.request gpa registers] := by
  have known : ¬access.size ∉ [1, 2, 4, 8] := not_not_intro size
  simp only [handleMmio, Access.pending, known, if_false, read_operand, stored_eq _ size,
    Access.request]
  cases access.store with
  | true => rfl
  | false =>
      simp only [Bool.false_eq_true, if_false]
      cases handler.read gpa access.size with
      | error errno => rfl
      | ok data =>
          have value : loadValue (access.pending gpa) data.1 = access.loaded data.1 :=
            loadValue_eq data.2 size
          simp only [← value, ← write_back]
          rfl

/-- The load or the store is done, unless the program counter overflows or a load is signalled. -/
theorem does_iff (size : access.size ∈ [1, 2, 4, 8]) :
    access.Does gpa registers handler ioevents
        (handleMmio (some (access.pending gpa)) registers handler ioevents) ↔
      ((access.after gpa registers handler).isSome = true →
        (registers .pc).toNat + 4 < 2 ^ 64 ∧ (access.store = true ∨ ioevents gpa = none)) := by
  rw [handleMmio_eq size]
  cases store : access.store with
  | true =>
      simp only [if_true]
      cases write : handler.write gpa (access.stored (access.operand registers)) with
      | error errno =>
          have after : access.after gpa registers handler = none := by
            simp only [Access.after, store, if_true, write]
          refine iff_of_true ⟨rfl, ?_, ?_⟩ (by simp [after])
          · simp only [after, Option.getD_none]
          · simp [after]
      | ok done =>
          have after : access.after gpa registers handler = some (Access.next registers) := by
            simp only [Access.after, store, if_true, write]
          by_cases room : (registers .pc).toNat + 4 < 2 ^ 64
          · obtain ⟨left, asked, signalled⟩ := @advance_signalled gpa registers ioevents
              [access.request gpa registers] room
            refine iff_of_true ⟨asked, ?_, ?_⟩ fun _ => ⟨room, .inl trivial⟩
            · simp only [after, Option.getD_some, left]
            · simp [after, signalled, store]
          · refine iff_of_false (fun does => ?_) fun all => room (all (by simp [after])).1
            have left := does.left
            rw [advance_panicked room] at left
            simp only [after, Option.getD_some] at left
            exact next_ne registers left.symm
  | false =>
      simp only [Bool.false_eq_true, if_false]
      cases read : handler.read gpa access.size with
      | error errno =>
          have after : access.after gpa registers handler = none := by
            simp only [Access.after, store, Bool.false_eq_true, if_false, read]
          refine iff_of_true ⟨rfl, ?_, ?_⟩ (by simp [after])
          · simp only [after, Option.getD_none]
          · simp [after]
      | ok data =>
          have after : access.after gpa registers handler =
              some (Access.next (access.writeBack registers (access.loaded data.1))) := by
            simp only [Access.after, store, Bool.false_eq_true, if_false, read]
          have same := @writeBack_pc access registers (access.loaded data.1)
          by_cases room : (registers .pc).toNat + 4 < 2 ^ 64
          · rw [← same] at room
            obtain ⟨left, asked, signalled⟩ := @advance_signalled gpa _ ioevents
              [access.request gpa registers] room
            rw [same] at room
            have quiet : access.Does gpa registers handler ioevents
                (advance (access.writeBack registers (access.loaded data.1)) gpa ioevents
                  [access.request gpa registers]) ↔ ioevents gpa = none := by
              constructor
              · intro does
                have none := does.signalled
                rw [signalled] at none
                cases event : ioevents gpa with
                | none => rfl
                | some result => simp [event, store] at none
              · intro none
                refine ⟨asked, ?_, ?_⟩
                · simp only [after, Option.getD_some, left]
                · simp [signalled, none]
            refine quiet.trans ⟨fun none _ => ⟨room, .inr none⟩, fun all => ?_⟩
            exact (all (by simp [after])).2.resolve_left id
          · refine iff_of_false (fun does => ?_) fun all => room (all (by simp [after])).1
            have left := does.left
            rw [← same] at room
            simp only [advance_panicked room, after, Option.getD_some] at left
            exact next_ne _ left.symm

end Request

/-- A data abort is emulated where it is valid if and only if no bit above the class is set, where
the program counter has room, and where no event waits at the address of a load. -/
theorem emulated_iff (ex : Exception) (registers : Registers) (handler : Handler)
    (ioevents : IoEvents) : Emulated ex registers handler ioevents ↔
      (IsDataAbort ex.syndrome → (ex.syndrome >>> 32 = 0 ↔ IsValid ex.syndrome)) ∧
      (IsDataAbort ex.syndrome → IsValid ex.syndrome →
        ((Access.ofSyndrome ex.syndrome).after ex.physicalAddress registers handler).isSome →
          (registers .pc).toNat + 4 < 2 ^ 64 ∧
            ((Access.ofSyndrome ex.syndrome).store = true ∨
              ioevents ex.physicalAddress = none)) := by
  have size := size_mem ex.syndrome
  have treats : (∃ pending, runException ex = .exitMmio pending) ↔
      IsDataAbort ex.syndrome ∧ ex.syndrome >>> 32 = 0 := by
    simp [runException_iff]
  constructor
  · rintro ⟨treated, does⟩
    rw [treats] at treated
    refine ⟨fun abort => ?_, fun abort valid => ?_⟩
    · exact ⟨fun none => (treated.mp ⟨abort, none⟩).2, fun valid => (treated.mpr ⟨abort, valid⟩).2⟩
    · have none := (treated.mpr ⟨abort, valid⟩).2
      exact (does_iff size).mp (does abort valid _ ((runException_iff ex _).mpr ⟨abort, none, rfl⟩))
  · rintro ⟨same, rest⟩
    refine ⟨treats.trans (and_congr_right same), fun abort valid pending exits => ?_⟩
    obtain ⟨-, -, rfl⟩ := (runException_iff ex pending).mp exits
    exact (does_iff size).mpr (rest abort valid)

/-- A data abort whose bits say nothing of the instruction, as a load of a pair causes it. -/
def invalidAbort : Exception := ⟨0x90000000, 0x1000⟩

def zeroHandler : Handler where
  read _ size := .ok ⟨List.replicate size 0, List.length_replicate⟩
  write _ _ := .ok ()

/-- It is taken for a load of one byte to `X0`. -/
theorem invalid_abort_treated : ¬∀ (ex : Exception) (registers : Registers) (handler : Handler)
    (ioevents : IoEvents), Emulated ex registers handler ioevents := by
  intro always
  have treated := (always invalidAbort (fun _ => 0) zeroHandler fun _ => none).treated
  have valid := (treated.mp ⟨_, (runException_iff _ _).mpr ⟨.inl (by decide), by decide, rfl⟩⟩).2
  exact absurd valid (by decide : ¬invalidAbort.syndrome.getLsbD 24 = true)

end Bscp.Crosvm.Hvf
