import Bscp.Machine
import Bscp.Crosvm.HvfRegisters

/-!
The debug registers of an HVF vCPU (`hypervisor/src/hvf/debug_registers.rs`, and the traps and the
power-on in `hypervisor/src/hvf/vcpu.rs`): the guest reads and writes a shadow of them, and
`MDSCR_EL1` of the vCPU is set to what of the shadow is in effect. Each call that reads or writes a
register may fail.
-/

namespace Bscp.Crosvm.Hvf

/-! ### The shadow -/

def ENABLE_BITS : Word := (1 <<< 15) ||| (1 <<< 13) ||| 1
def SUPPORTED_MDSCR : Word := ENABLE_BITS ||| (1 <<< 12)

structure DebugRegisters where
  osLock : Bool := false
  doubleLock : Bool := false
  coreNoPowerdown : Bool := false
  mdscr : Word := 0
  deriving DecidableEq

def bit (value : Bool) : Word := if value then 1 else 0

namespace DebugRegisters

def owns (reg : SysReg) : Bool :=
  reg ∈ [OSLAR_EL1, OSLSR_EL1, OSDLR_EL1, DBGPRCR_EL1, MDSCR_EL1]

variable (self : DebugRegisters)

def inhibited : Bool := self.osLock || (self.doubleLock && !self.coreNoPowerdown)

def effectiveMdscr : Word := if self.inhibited then self.mdscr &&& ~~~ENABLE_BITS else self.mdscr

def read (reg : SysReg) : Except Errno Word :=
  if reg = OSLSR_EL1 then .ok (8 ||| (bit self.osLock <<< 1))
  else if reg = OSDLR_EL1 then .ok (bit self.doubleLock)
  else if reg = DBGPRCR_EL1 then .ok (bit self.coreNoPowerdown)
  else if reg = MDSCR_EL1 then .ok self.mdscr
  else .error EINVAL

def next (reg : SysReg) (value : Word) : Except Errno DebugRegisters :=
  if reg = OSLAR_EL1 then .ok { self with osLock := value &&& 1 ≠ 0 }
  else if reg = OSDLR_EL1 then .ok { self with doubleLock := value &&& 1 ≠ 0 }
  else if reg = DBGPRCR_EL1 then .ok { self with coreNoPowerdown := value &&& 1 ≠ 0 }
  else if reg = MDSCR_EL1 then
    if value &&& ~~~SUPPORTED_MDSCR ≠ 0 then .error ENOTSUP else .ok { self with mdscr := value }
  else .error EINVAL

end DebugRegisters

/-! ### The vCPU -/

inductive Mark where
  | reset
  /-- `MDSCR_EL1` of the vCPU is being set. -/
  | set
  | wrote (reg : SysReg) (value : Word)
  deriving DecidableEq

structure Cpu where
  registers : Registers
  simd : Fin 32 → BitVec 128
  /-- `MDSCR_EL1` of the vCPU. -/
  native : Word
  /-- The other system registers of the vCPU. -/
  system : SysReg → Word
  shadow : DebugRegisters
  /-- The newest one first. -/
  history : List Mark

/-- How one call of `sync_debug_mdscr` goes. -/
structure Native where
  set : Bool := true
  /-- What `MDSCR_EL1` holds behind the call that sets it. -/
  stored : Word
  get : Bool := true

structure Accesses where
  cpsr : Bool := true
  rt : Bool := true
  native : Native
  /-- The access to a register that is not owned. -/
  system : Bool := true
  pcRead : Bool := true
  pcWrite : Bool := true

abbrev Vcpu (α : Type) := EStateM Errno Cpu α

def checkHv (succeeds : Bool) : Vcpu Unit := if succeeds then pure () else throw EIO

def readReg (succeeds : Bool) (reg : Reg) : Vcpu Word := do
  checkHv succeeds
  return (← get).registers reg

def writeReg (succeeds : Bool) (reg : Reg) (value : Word) : Vcpu Unit := do
  checkHv succeeds
  modify fun cpu => { cpu with registers := Function.update cpu.registers reg value }

def xRegOrError (number : Nat) : Vcpu Reg :=
  match xReg number with
  | some reg => pure reg
  | none => throw EINVAL

def syncDebugMdscr (native : Native) (effective : Word) : Vcpu Unit := do
  modify fun cpu => { cpu with native := native.stored, history := .set :: cpu.history }
  checkHv native.set
  checkHv native.get
  let observed := (← get).native
  if observed ≠ effective then throw EIO

/-- `reset`, with the native register. -/
def resetDebugRegisters (native : Native) : Vcpu Unit := do
  let next : DebugRegisters := {}
  syncDebugMdscr native next.effectiveMdscr
  modify fun cpu => { cpu with shadow := next, history := .reset :: cpu.history }

/-- `write`, with the native register. -/
def writeDebugReg (native : Native) (reg : SysReg) (value : Word) : Vcpu Unit := do
  match (← get).shadow.next reg value with
  | .error errno => throw errno
  | .ok next =>
      syncDebugMdscr native next.effectiveMdscr
      modify fun cpu => { cpu with shadow := next, history := .wrote reg value :: cpu.history }

def readDebugReg (reg : SysReg) : Vcpu Word := do
  match (← get).shadow.read reg with
  | .error errno => throw errno
  | .ok value => return value

def advancePc (accesses : Accesses) : Vcpu Unit := do
  let pc ← readReg accesses.pcRead .pc
  writeReg accesses.pcWrite .pc (pc + 4)

def trappedRt (syndrome : Word) : Nat := ((syndrome >>> 5) &&& 0x1f).toNat

def trappedRead (syndrome : Word) : Bool := syndrome &&& 1 ≠ 0

def operand (accesses : Accesses) (rt : Nat) : Vcpu Word := do
  if rt < 31 then readReg accesses.rt (← xRegOrError rt) else return 0

def debugAccess (syndrome : Word) (accesses : Accesses) : Vcpu Unit := do
  let rt := trappedRt syndrome
  let reg := trappedSysReg syndrome
  let cpsr ← readReg accesses.cpsr .cpsr
  if cpsr &&& 0xf ≠ 4 ∧ cpsr &&& 0xf ≠ 5 then throw EINVAL
  if trappedRead syndrome then
    let value ← readDebugReg reg
    if rt < 31 then writeReg accesses.rt (← xRegOrError rt) value
  else
    let value ← operand accesses rt
    writeDebugReg accesses.native reg value

def systemAccess (syndrome : Word) (accesses : Accesses) : Vcpu Unit := do
  let rt := trappedRt syndrome
  let sys := trappedSysReg syndrome
  if trappedRead syndrome then
    checkHv accesses.system
    let value := (← get).system sys
    if rt < 31 then writeReg accesses.rt (← xRegOrError rt) value
  else
    let value ← operand accesses rt
    checkHv accesses.system
    modify fun cpu => { cpu with system := Function.update cpu.system sys value }

def handleSystemRegisterTrap (syndrome : Word) (accesses : Accesses) : Vcpu Unit := do
  if DebugRegisters.owns (trappedSysReg syndrome) then
    debugAccess syndrome accesses
    advancePc accesses
  else
    systemAccess syndrome accesses
    advancePc accesses

structure PowerAccesses where
  native : Native
  pc : Bool := true
  x0 : Bool := true

/-- The initialisation that `wait_until_powered_on` gives to `complete_on`. -/
def powerOn (entry context : Word) (accesses : PowerAccesses) : Vcpu Unit := do
  resetDebugRegisters accesses.native
  writeReg accesses.pc .pc entry
  writeReg accesses.x0 (.x 0) context

/-! ### Runs -/

inductive Event where
  /-- The guest runs, or one of its other exits is handled. Neither gets at the native
  `MDSCR_EL1`. -/
  | guest (registers : Registers) (simd : Fin 32 → BitVec 128) (system : SysReg → Word)
  | trap (syndrome : Word) (accesses : Accesses)
  | powerOn (entry context : Word) (accesses : PowerAccesses)

def Cpu.step (cpu : Cpu) : Event → EStateM.Result Errno Cpu Unit
  | .guest registers simd system =>
      .ok () { cpu with registers := registers, simd := simd, system := system }
  | .trap syndrome accesses => handleSystemRegisterTrap syndrome accesses cpu
  | .powerOn entry context accesses => Hvf.powerOn entry context accesses cpu

/-- A step, with its errors: whatever has failed, there may be another one. -/
inductive Does (cpu : Cpu) (event : Event) : Cpu → Prop
  | ok {next : Cpu} (step : cpu.step event = .ok () next) : Does cpu event next
  | error {errno : Errno} {next : Cpu} (step : cpu.step event = .error errno next) :
      Does cpu event next

/-- What `init` leaves. -/
def initial (registers : Registers) (simd : Fin 32 → BitVec 128) (system : SysReg → Word) : Cpu :=
  ⟨registers, simd, 0, system, {}, [.reset]⟩

def Reached (cpu : Cpu) : Prop :=
  ∃ registers simd system events,
    Machine.Trace Does (initial registers simd system) events cpu

/-! ### What is asked for -/

/-- The last value that was committed since the last reset. -/
def lastWritten (reg : SysReg) : List Mark → Word
  | [] => 0
  | .reset :: _ => 0
  | .set :: earlier => lastWritten reg earlier
  | .wrote other value :: earlier => if other = reg then value else lastWritten reg earlier

/-- What a register should read as: the lock registers have one bit, and `OSLSR_EL1` has that of
`OSLAR_EL1`. -/
def readsAs (reg : SysReg) (history : List Mark) : Word :=
  if reg = OSLSR_EL1 then 8 ||| ((lastWritten OSLAR_EL1 history &&& 1) <<< 1)
  else if reg = MDSCR_EL1 then lastWritten reg history
  else lastWritten reg history &&& 1

/-- `PSTATE.EL`. -/
def exceptionLevel (cpsr : Word) : Word := (cpsr >>> 2) &&& 3

/-- No set of the native register has failed since the last one that was committed. -/
def Cpu.Settled (cpu : Cpu) : Prop := cpu.history.head? ≠ some .set

def Cpu.InEffect (cpu : Cpu) : Prop := cpu.native = cpu.shadow.effectiveMdscr

structure Done (before : Cpu) (syndrome : Word) (after : Cpu) : Prop where
  /-- The native register is set by a write, and a read leaves it as it was. -/
  inEffect : (trappedRead syndrome = false ∨ before.Settled) → after.InEffect
  pc : after.registers .pc = before.registers .pc + 4
  level : exceptionLevel (before.registers .cpsr) = 1
  reads : trappedRead syndrome = true → ∀ within : trappedRt syndrome < 31,
    after.registers (.x ⟨trappedRt syndrome, within⟩) =
      readsAs (trappedSysReg syndrome) before.history

def Accesses.advancing (accesses : Accesses) : Accesses :=
  { accesses with pcRead := true, pcWrite := true }

structure Failed (before : Cpu) (syndrome : Word) (accesses : Accesses) (after : Cpu) : Prop where
  pc : after.registers .pc = before.registers .pc
  /-- If it has changed, only the update of the program counter failed. -/
  shadow : after.shadow = before.shadow ∨
    ∃ done, before.step (.trap syndrome accesses.advancing) = .ok () done

structure Sound (before : Cpu) (syndrome : Word) (accesses : Accesses) : Prop where
  done : DebugRegisters.owns (trappedSysReg syndrome) = true → ∀ after,
    before.step (.trap syndrome accesses) = .ok () after → Done before syndrome after
  failed : ∀ errno after, before.step (.trap syndrome accesses) = .error errno after →
    Failed before syndrome accesses after
  inhibited : before.shadow.inhibited = true →
    before.shadow.effectiveMdscr &&& ENABLE_BITS = 0 ∧
      (before.Settled → before.native &&& ENABLE_BITS = 0)
  /-- Of the general registers a trap changes `Xt` of a read. -/
  others : ∀ after, Does before (.trap syndrome accesses) after → ∀ number,
    after.registers (.x number) ≠ before.registers (.x number) →
      trappedRead syndrome = true ∧ number.1 = trappedRt syndrome

end Bscp.Crosvm.Hvf
