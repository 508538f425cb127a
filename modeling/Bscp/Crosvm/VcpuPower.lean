import Mathlib.Data.List.Basic
import Mathlib.Logic.Function.Basic

/-!
The power states of HVF vCPUs (`hypervisor/src/hvf/vcpu.rs`). The table of states is changed
under its lock only, so each critical section is one step; between two of them the thread of a
vCPU is at one of the places below, and any number of threads take their steps in any order. Every
read and write of a register, and the guest itself, may fail or leave at any time.
-/

namespace Bscp.Crosvm.VcpuPower

abbrev Word := BitVec 64

inductive Power where
  | on
  | off
  | onPending (entry context : Word)
  deriving DecidableEq, Repr

abbrev States := List Power

/-! What PSCI calls return. -/

def success : Int := 0

def notSupported : Int := -1

def invalidParams : Int := -2

def alreadyOn : Int := -4

def onPending : Int := -5

def affinityOn : Int := 0

def affinityOff : Int := 1

def affinityOnPending : Int := 2

def psciRet (code : Int) : Word := BitVec.ofInt 64 code

/-! `VcpuPowerControl`, each function under the lock; `initialStates` is `initialize`. -/

def initialStates (count : Nat) : States :=
  (List.range count).map fun id => if id = 0 then .on else .off

def requestOn (states : States) (id : Nat) (entry context : Word) : Int × States :=
  match states[id]? with
  | none => (invalidParams, states)
  | some .on => (alreadyOn, states)
  | some (.onPending ..) => (onPending, states)
  | some .off => (success, states.set id (.onPending entry context))

def setOff (states : States) (id : Nat) : Option States :=
  match states[id]? with
  | none => none
  | some _ => some (states.set id .off)

def affinityInfo (states : States) (id : Nat) : Int :=
  match states[id]? with
  | some .on => affinityOn
  | some .off => affinityOff
  | some (.onPending ..) => affinityOnPending
  | none => invalidParams

structure Registers where
  pc : Word
  x0 : Word
  x1 : Word
  x2 : Word
  x3 : Word
  deriving DecidableEq, Repr

/-- What the initialisation in `complete_on` does next. -/
inductive Stage where
  | resetDebug
  | writePc
  | writeX0
  deriving DecidableEq, Repr

inductive Place where
  /-- Not in `run`. -/
  | outside
  /-- At the head of the loop of `wait_until_powered_on`. -/
  | waiting
  /-- `OnPending` was read and the lock released; `complete_on` has not looked yet. -/
  | pending (entry context : Word)
  | initialising (entry context : Word) (stage : Stage)
  /-- Before the second critical section of `complete_on`. -/
  | initialised (entry context : Word)
  /-- `wait_until_powered_on` has returned true. -/
  | ready
  /-- In `hv_vcpu_run`. -/
  | running
  /-- At the head of `handle_psci_call`, by an SMC or by an HVC. -/
  | trapped (smc : Bool)
  | called
  /-- `X0` is to be written. -/
  | answering (response : Word)
  deriving DecidableEq, Repr

structure Vcpu where
  place : Place := .outside
  registers : Registers := ⟨0, 0, 0, 0, 0⟩
  immediateExit : Bool := false
  deriving DecidableEq, Repr

namespace Vcpu

def goes (v : Vcpu) (place : Place) : Vcpu := { v with place := place }

def setPc (v : Vcpu) (pc : Word) : Vcpu := { v with registers := { v.registers with pc := pc } }

def setX0 (v : Vcpu) (x0 : Word) : Vcpu := { v with registers := { v.registers with x0 := x0 } }

end Vcpu

/-- The calls that `handle_psci_call` tells apart. -/
inductive Call where
  | version
  | features
  | migrateInfoType
  | cpuOff
  | systemOff
  | systemReset
  | cpuOn
  | affinityInfo
  | cpuSuspend
  | unknown
  deriving DecidableEq, Repr

def Call.ofFunction (function : BitVec 32) : Call :=
  if function = 0x84000000 then .version
  else if function = 0x8400000a then .features
  else if function = 0x84000006 then .migrateInfoType
  else if function = 0x84000002 then .cpuOff
  else if function = 0x84000008 then .systemOff
  else if function = 0x84000009 then .systemReset
  else if function = 0x84000003 ∨ function = 0xc4000003 then .cpuOn
  else if function = 0x84000004 ∨ function = 0xc4000004 then .affinityInfo
  else if function = 0xc4000001 then .cpuSuspend
  else .unknown

def Registers.call (r : Registers) : Call := .ofFunction (r.x0.setWidth 32)

/-- The answers that do not depend on the table: `PSCI_0_2.minor` is 2. -/
def Registers.answer (r : Registers) : Option Word :=
  match r.call with
  | .version => some 2
  | .features =>
      if Call.ofFunction (r.x1.setWidth 32) = .unknown then some (psciRet notSupported)
      else some (psciRet success)
  | .migrateInfoType => some 2
  | .cpuSuspend => some (psciRet notSupported)
  | .unknown => some (psciRet notSupported)
  | .cpuOff | .systemOff | .systemReset | .cpuOn | .affinityInfo => none

/-- The steps of a vCPU's thread that leave the table alone and only look at its own entry. -/
inductive Moves (power : Option Power) : Vcpu → Vcpu → Prop
  | enters {v : Vcpu} (here : v.place = .outside) : Moves power v (v.goes .waiting)
  -- whoever owns the vCPU sets its registers between two runs
  | sets {v : Vcpu} (here : v.place = .outside) (registers : Registers) :
      Moves power v { v with registers := registers }
  | canceled {v : Vcpu} (here : v.place = .waiting) (asked : v.immediateExit = true) :
      Moves power v (v.goes .outside)
  | seesOn {v : Vcpu} (here : v.place = .waiting) (free : v.immediateExit = false)
      (on : power = some .on) : Moves power v (v.goes .ready)
  | seesPending {v : Vcpu} {entry context : Word} (here : v.place = .waiting)
      (free : v.immediateExit = false) (due : power = some (.onPending entry context)) :
      Moves power v (v.goes (.pending entry context))
  | seesOff {v : Vcpu} (here : v.place = .waiting) (free : v.immediateExit = false)
      (off : power = some .off) : Moves power v v
  | seesNone {v : Vcpu} (here : v.place = .waiting) (free : v.immediateExit = false)
      (none : power = none) : Moves power v (v.goes .outside)
  -- `complete_on`
  | checks {v : Vcpu} {entry context : Word} (here : v.place = .pending entry context)
      (expected : power = some (.onPending entry context)) :
      Moves power v (v.goes (.initialising entry context .resetDebug))
  | resetsDebug {v : Vcpu} {entry context : Word}
      (here : v.place = .initialising entry context .resetDebug) :
      Moves power v (v.goes (.initialising entry context .writePc))
  | writesPc {v : Vcpu} {entry context : Word}
      (here : v.place = .initialising entry context .writePc) :
      Moves power v ((v.setPc entry).goes (.initialising entry context .writeX0))
  | writesX0 {v : Vcpu} {entry context : Word}
      (here : v.place = .initialising entry context .writeX0) :
      Moves power v ((v.setX0 context).goes (.initialised entry context))
  -- `hv_vcpu_run` returns: `run` loops or returns, with what the guest left in the registers
  | continues {v : Vcpu} (here : v.place = .running) (registers : Registers) :
      Moves power v { v with place := .waiting, registers := registers }
  | returns {v : Vcpu} (here : v.place = .running) (registers : Registers) :
      Moves power v { v with place := .outside, registers := registers }
  | traps {v : Vcpu} (here : v.place = .running) (registers : Registers) (smc : Bool) :
      Moves power v { v with place := .trapped smc, registers := registers }
  -- `handle_psci_call`
  | advances {v : Vcpu} (here : v.place = .trapped true) :
      Moves power v ((v.setPc (v.registers.pc + 4)).goes .called)
  | calls {v : Vcpu} (here : v.place = .trapped false) : Moves power v (v.goes .called)
  | trapFails {v : Vcpu} {smc : Bool} (here : v.place = .trapped smc) :
      Moves power v (v.goes .outside)
  | callFails {v : Vcpu} (here : v.place = .called) : Moves power v (v.goes .outside)
  | answers {v : Vcpu} {response : Word} (here : v.place = .called)
      (fixed : v.registers.answer = some response) :
      Moves power v (v.goes (.answering response))
  | shutsDown {v : Vcpu} (here : v.place = .called)
      (call : v.registers.call = .systemOff ∨ v.registers.call = .systemReset) :
      Moves power v (v.goes .outside)
  | writesAnswer {v : Vcpu} {response : Word} (here : v.place = .answering response) :
      Moves power v ((v.setX0 response).goes .waiting)
  | answerFails {v : Vcpu} {response : Word} (here : v.place = .answering response) :
      Moves power v (v.goes .outside)

structure World where
  states : States
  vcpu : Nat → Vcpu := fun _ => {}

namespace World

def power (w : World) (id : Nat) : Option Power := w.states[id]?

def setVcpu (w : World) (id : Nat) (v : Vcpu) : World :=
  { w with vcpu := Function.update w.vcpu id v }

section SetVcpu

variable (w : World) (id : Nat) (v : Vcpu)

@[simp, grind =] theorem setVcpu_vcpu (other : Nat) :
    (w.setVcpu id v).vcpu other = if other = id then v else w.vcpu other := by
  unfold setVcpu
  exact Function.update_apply ..

@[simp, grind =] theorem setVcpu_states : (w.setVcpu id v).states = w.states := rfl

@[simp, grind =] theorem setVcpu_power : (w.setVcpu id v).power = w.power := rfl

end SetVcpu

end World

inductive Event where
  | silent
  | cpuOn (caller target : Nat) (entry context : Word) (response : Int)
  | cpuOff (id : Nat)
  | affinityInfo (caller target : Nat) (response : Int)
  /-- `complete_on` finds another state than the one it was called for. -/
  | refused (id : Nat)
  | initializeFails (id : Nat) (entry context : Word)
  | completes (id : Nat) (entry context : Word)
  /-- `hv_vcpu_run` is entered with these registers. -/
  | runs (id : Nat) (pc x0 : Word)
  deriving DecidableEq, Repr

inductive Step : World → Event → World → Prop
  | moves {w : World} {id : Nat} {v : Vcpu} (own : Moves (w.power id) (w.vcpu id) v) :
      Step w .silent (w.setVcpu id v)
  -- `set_immediate_exit`, at any time and by any thread
  | asks (w : World) (id : Nat) (exit : Bool) :
      Step w .silent (w.setVcpu id { w.vcpu id with immediateExit := exit })
  | refusedBefore {w : World} {id : Nat} {entry context : Word}
      (here : (w.vcpu id).place = .pending entry context)
      (other : w.power id ≠ some (.onPending entry context)) :
      Step w (.refused id) (w.setVcpu id ((w.vcpu id).goes .outside))
  | initializeFails {w : World} {id : Nat} {entry context : Word} {stage : Stage}
      (here : (w.vcpu id).place = .initialising entry context stage) :
      Step w (.initializeFails id entry context) (w.setVcpu id ((w.vcpu id).goes .outside))
  | refusedAfter {w : World} {id : Nat} {entry context : Word}
      (here : (w.vcpu id).place = .initialised entry context)
      (other : w.power id ≠ some (.onPending entry context)) :
      Step w (.refused id) (w.setVcpu id ((w.vcpu id).goes .outside))
  | completes {w : World} {id : Nat} {entry context : Word}
      (here : (w.vcpu id).place = .initialised entry context)
      (expected : w.power id = some (.onPending entry context)) :
      Step w (.completes id entry context)
        { w.setVcpu id ((w.vcpu id).goes .ready) with states := w.states.set id .on }
  | runs {w : World} {id : Nat} (here : (w.vcpu id).place = .ready) :
      Step w (.runs id (w.vcpu id).registers.pc (w.vcpu id).registers.x0)
        (w.setVcpu id ((w.vcpu id).goes .running))
  | cpuOff {w : World} {id : Nat} {states : States} (here : (w.vcpu id).place = .called)
      (call : (w.vcpu id).registers.call = .cpuOff) (known : setOff w.states id = some states) :
      Step w (.cpuOff id) { w.setVcpu id ((w.vcpu id).goes .waiting) with states := states }
  | cpuOffFails {w : World} {id : Nat} (here : (w.vcpu id).place = .called)
      (call : (w.vcpu id).registers.call = .cpuOff) (unknown : setOff w.states id = none) :
      Step w .silent (w.setVcpu id ((w.vcpu id).goes .outside))
  | cpuOn {w : World} {id target : Nat} {entry context : Word} {response : Int} {states : States}
      (here : (w.vcpu id).place = .called) (call : (w.vcpu id).registers.call = .cpuOn)
      (first : target = (w.vcpu id).registers.x1.toNat)
      (second : entry = (w.vcpu id).registers.x2) (third : context = (w.vcpu id).registers.x3)
      (request : requestOn w.states target entry context = (response, states)) :
      Step w (.cpuOn id target entry context response)
        { w.setVcpu id ((w.vcpu id).goes (.answering (psciRet response))) with states := states }
  | affinityInfo {w : World} {id target : Nat} {response : Int}
      (here : (w.vcpu id).place = .called) (call : (w.vcpu id).registers.call = .affinityInfo)
      (first : target = (w.vcpu id).registers.x1.toNat)
      (info : affinityInfo w.states target = response) :
      Step w (.affinityInfo id target response)
        (w.setVcpu id ((w.vcpu id).goes (.answering (psciRet response))))

def initial (count : Nat) : World := { states := initialStates count }

end Bscp.Crosvm.VcpuPower
