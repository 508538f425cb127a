import Bscp.Crosvm.DebugRegistersSafety
import Bscp.Crosvm.VcpuPower

/-!
What an HVF vCPU that was taken offline is entered with when it is brought online again
(`wait_until_powered_on` and `handle_psci_call` in `hypervisor/src/hvf/vcpu.rs`), for two histories
of it side by side.
-/

namespace Bscp.Crosvm.Hvf

structure View where
  registers : Registers
  simd : Fin 32 → BitVec 128
  native : Word
  system : SysReg → Word
  shadow : DebugRegisters

def Cpu.view (cpu : Cpu) : View :=
  ⟨cpu.registers, cpu.simd, cpu.native, cpu.system, cpu.shadow⟩

def EC_AA64_HVC : Word := 0x16
def EC_AA64_SMC : Word := 0x17

/-- `handle_psci_call` up to the call that the guest makes. -/
def handlePsciCall (exceptionClass : Word) (x0 : Bool) (accesses : Accesses) :
    Vcpu VcpuPower.Call := do
  let function := (← readReg x0 (.x 0)).setWidth 32
  if exceptionClass = EC_AA64_SMC then advancePc accesses
  else if exceptionClass ≠ EC_AA64_HVC then throw EINVAL
  return .ofFunction function

structure Offline (reset : Cpu) where
  cpu : Cpu
  ended : ∃ events last exceptionClass x0 accesses, Machine.Trace Does reset events last ∧
    handlePsciCall exceptionClass x0 accesses last = .ok .cpuOff cpu

/-- `hv_vcpu_run` is entered. A power-on that fails is tried again by the next `run`. -/
inductive Enters (entry context : Word) : Cpu → Cpu → Prop
  | once {cpu entered : Cpu} {accesses : PowerAccesses}
      (done : powerOn entry context accesses cpu = .ok () entered) : Enters entry context cpu entered
  | again {cpu middle entered : Cpu} {errno : Errno} {accesses : PowerAccesses}
      (failed : powerOn entry context accesses cpu = .error errno middle)
      (later : Enters entry context middle entered) : Enters entry context cpu entered

def poweredOn (reset : Cpu) (entry context : Word) : View :=
  ((reset.put .pc entry).put (.x 0) context).view

structure Agree (one two : Cpu) : Prop where
  registers : ∀ reg, reg ≠ .pc → reg ≠ .x 0 → one.registers reg = two.registers reg
  simd : one.simd = two.simd
  system : one.system = two.system

section PowerOn

variable {cpu entered reset : Cpu} {entry context : Word} {accesses : PowerAccesses}

theorem agree_put (cpu : Cpu) {reg : Reg} (value : Word) (either : reg = .pc ∨ reg = .x 0) :
    Agree (cpu.put reg value) cpu := by
  refine ⟨fun other one two => put_other (fun same => ?_) value, rfl, rfl⟩
  subst same
  rcases either with here | here
  · exact one here
  · exact two here

theorem Agree.trans {one two three : Cpu} (first : Agree one two) (last : Agree two three) :
    Agree one three :=
  ⟨fun reg other different =>
    (first.registers reg other different).trans (last.registers reg other different),
    first.simd.trans last.simd, first.system.trans last.system⟩

inductive PoweredOn (cpu : Cpu) (entry context : Word) : EStateM.Result Errno Cpu Unit → Prop
  | failed {errno : Errno} {after : Cpu} (agree : Agree after cpu) :
      PoweredOn cpu entry context (.error errno after)
  | done {after : Cpu} (agree : Agree after cpu) (pc : after.registers .pc = entry)
      (x0 : after.registers (.x 0) = context) (native : after.native = 0)
      (shadow : after.shadow = {}) : PoweredOn cpu entry context (.ok () after)

theorem powerOn_outcome : PoweredOn cpu entry context (powerOn entry context accesses cpu) := by
  unfold powerOn
  have resets := @resetDebugRegisters_apply cpu accesses.native
  split at resets
  · next synced =>
      rw [bind_of_ok resets]
      have committed : Agree (cpu.committed accesses.native .reset {}) cpu :=
        ⟨fun _ _ _ => rfl, rfl, rfl⟩
      have counted := (agree_put (cpu.committed accesses.native .reset {}) entry (.inl rfl)).trans
        committed
      cases pc : accesses.pc with
      | false => exact .failed committed
      | true =>
          cases x0 : accesses.x0 with
          | false => exact .failed counted
          | true =>
              refine .done ((agree_put _ context (.inr rfl)).trans counted) ?_ ?_ ?_ rfl
              · exact (put_other (by simp) context).trans (put_self .pc entry)
              · exact put_self (.x 0) context
              · exact synced.2.2
  · rw [bind_of_error resets]
    exact .failed ⟨fun _ _ _ => rfl, rfl, rfl⟩

theorem Agree.symm {one two : Cpu} (agree : Agree one two) : Agree two one :=
  ⟨fun reg other different => (agree.registers reg other different).symm, agree.simd.symm,
    agree.system.symm⟩

theorem Enters.outcome (enters : Enters entry context cpu entered) :
    PoweredOn cpu entry context (.ok () entered) := by
  induction enters with
  | @once cpu entered accesses done =>
      rw [← done]
      exact powerOn_outcome
  | @again cpu middle entered errno accesses failed later outcome =>
      have tried := @powerOn_outcome cpu entry context accesses
      rw [failed] at tried
      cases tried with
      | failed agree =>
          cases outcome with
          | done others pc x0 native shadow =>
              exact .done (others.trans agree) pc x0 native shadow

theorem enters (cpu : Cpu) (entry context : Word) :
    ∃ entered, Enters entry context cpu entered :=
  ⟨_, .once (show powerOn entry context { native := { stored := 0 } } cpu = .ok () _ from rfl)⟩

/-- What is entered is reset if and only if what no power-on sets had not changed. -/
theorem Enters.view_eq_iff {registers : Registers} {simd : Fin 32 → BitVec 128}
    {system : SysReg → Word} (enters : Enters entry context cpu entered) :
    entered.view = poweredOn (initial registers simd system) entry context ↔
      Agree cpu (initial registers simd system) := by
  have asked := (agree_put ((initial registers simd system).put .pc entry) context
    (.inr rfl)).trans (agree_put _ entry (.inl rfl))
  cases enters.outcome with
  | done others pc x0 native shadow =>
      constructor
      · intro same
        have agree : Agree entered (((initial registers simd system).put .pc entry).put (.x 0)
            context) :=
          ⟨fun reg _ _ => congrFun (congrArg View.registers same) reg, congrArg View.simd same,
            congrArg View.system same⟩
        exact (others.symm.trans agree).trans asked
      · intro agree
        have whole := (others.trans agree).trans asked.symm
        have all : entered.registers = (((initial registers simd system).put .pc entry).put (.x 0)
            context).registers := by
          funext reg
          by_cases counter : reg = .pc
          · rw [counter, pc, put_other (by simp), put_self]
          by_cases argument : reg = .x 0
          · rw [argument, x0, put_self]
          exact whole.registers reg counter argument
        simp only [Cpu.view, poweredOn, View.mk.injEq]
        exact ⟨all, whole.simd, native, whole.system, shadow⟩

end PowerOn

variable {registers : Registers} {simd : Fin 32 → BitVec 128} {system : SysReg → Word}

/-- Two histories are forgotten if and only if neither has left anything in a register that no
power-on sets. -/
theorem entered_alike_iff (first second : Offline (initial registers simd system))
    (entry context : Word) :
    (∀ one two, Enters entry context first.cpu one → Enters entry context second.cpu two →
      one.view = two.view ∧ one.view = poweredOn (initial registers simd system) entry context) ↔
    Agree first.cpu (initial registers simd system) ∧
      Agree second.cpu (initial registers simd system) := by
  constructor
  · intro alike
    obtain ⟨one, ones⟩ := enters first.cpu entry context
    obtain ⟨two, twos⟩ := enters second.cpu entry context
    obtain ⟨same, reset⟩ := alike one two ones twos
    exact ⟨ones.view_eq_iff.mp reset, twos.view_eq_iff.mp (same ▸ reset)⟩
  · intro ⟨agree, agree'⟩ one two ones twos
    have reset := ones.view_eq_iff.mpr agree
    exact ⟨reset.trans (twos.view_eq_iff.mpr agree').symm, reset⟩

/-! ### A history that is not forgotten -/

def calling (cpsr : Word) : Registers
  | .x 0 => 0x84000002
  | .cpsr => cpsr
  | _ => 0

def masked : Registers
  | .cpsr => 0x3c5
  | _ => 0

def offline (cpsr : Word) : Offline (initial masked (fun _ => 0) (fun _ => 0)) where
  cpu := { initial masked (fun _ => 0) (fun _ => 0) with registers := calling cpsr }
  ended := ⟨_, _, EC_AA64_HVC, true, { native := { stored := 0 } },
    .snoc .nil (.ok (show Cpu.step _ (.guest (calling cpsr) _ _) = _ from rfl)), rfl⟩

/-- Interrupts that were unmasked before `CPU_OFF` are unmasked after `CPU_ON`. -/
theorem masks_survive : ¬∀ (registers : Registers) (simd : Fin 32 → BitVec 128)
    (system : SysReg → Word) (first second : Offline (initial registers simd system))
    (entry context : Word) (one two : Cpu), Enters entry context first.cpu one →
      Enters entry context second.cpu two → one.view = two.view ∧
        one.view = poweredOn (initial registers simd system) entry context := by
  intro alike
  obtain ⟨one, ones⟩ := enters (offline 5).cpu 0x1000 0
  obtain ⟨two, twos⟩ := enters (offline 0x3c5).cpu 0x1000 0
  obtain ⟨-, reset⟩ := alike _ _ _ (offline 5) (offline 0x3c5) 0x1000 0 one two ones twos
  have same : (5 : Word) = 0x3c5 :=
    (ones.view_eq_iff.mp reset).registers .cpsr (by simp) (by simp)
  exact absurd same (by decide)

end Bscp.Crosvm.Hvf
