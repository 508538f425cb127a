import Mathlib.Data.BitVec
import Mathlib.Logic.Function.Basic

/-!
The registers of an HVF vCPU that `hypervisor/src/hvf/vcpu.rs` reads and writes by name, and the
numbers of the system registers.
-/

namespace Bscp.Crosvm.Hvf

abbrev Word := BitVec 64
abbrev Byte := BitVec 8
abbrev Errno := Nat

def EIO : Errno := 5
def EINVAL : Errno := 22
def ENOTSUP : Errno := 45

instance registersNeZero : NeZero 31 := ⟨by decide⟩

inductive Reg where
  | x (number : Fin 31)
  | pc
  | fpcr
  | fpsr
  | cpsr
  deriving DecidableEq

abbrev Registers := Reg → Word

def xReg (number : Nat) : Option Reg :=
  if within : number < 31 then some (.x ⟨number, within⟩) else none

abbrev SysReg := BitVec 16

def newUnchecked (op0 op1 crn crm op2 : Byte) : SysReg :=
  (op0.setWidth 16 &&& 0b11) <<< 14 ||| (op1.setWidth 16 &&& 0b111) <<< 11 |||
    (crn.setWidth 16 &&& 0b1111) <<< 7 ||| (crm.setWidth 16 &&& 0b1111) <<< 3 |||
      (op2.setWidth 16 &&& 0b111)

def MDSCR_EL1 : SysReg := newUnchecked 0b10 0b000 0b0000 0b0010 0b010
def OSLAR_EL1 : SysReg := newUnchecked 0b10 0b000 0b0001 0b0000 0b100
def OSLSR_EL1 : SysReg := newUnchecked 0b10 0b000 0b0001 0b0001 0b100
def OSDLR_EL1 : SysReg := newUnchecked 0b10 0b000 0b0001 0b0011 0b100
def DBGPRCR_EL1 : SysReg := newUnchecked 0b10 0b000 0b0001 0b0100 0b100

def trappedSysReg (syndrome : Word) : SysReg :=
  newUnchecked (2 + ((syndrome >>> 20) &&& 0x1).setWidth 8)
    (((syndrome >>> 14) &&& 0x7).setWidth 8) (((syndrome >>> 10) &&& 0xf).setWidth 8)
    (((syndrome >>> 1) &&& 0xf).setWidth 8) (((syndrome >>> 17) &&& 0x7).setWidth 8)

end Bscp.Crosvm.Hvf
