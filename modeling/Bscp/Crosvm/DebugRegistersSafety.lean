import Bscp.Crosvm.DebugRegisters

/-!
What the traps and the power-on keep, whatever fails: the shadow is what was committed last, and
the native `MDSCR_EL1` is what of it is in effect, unless a set of it has just failed.
-/

namespace Bscp.Crosvm.Hvf

/-! ### Calls one after the other -/

section Calls

variable {α β : Type} {first : Vcpu α} {rest : α → Vcpu β} {cpu after : Cpu} {value : β}
  {errno : Errno}

theorem bind_of_ok {result : α} {middle : Cpu} (ran : first cpu = .ok result middle) :
    (first >>= rest) cpu = rest result middle := by
  simp only [bind, EStateM.bind, ran]

theorem bind_of_error (ran : first cpu = .error errno after) :
    (first >>= rest) cpu = .error errno after := by
  simp only [bind, EStateM.bind, ran]

@[simp] theorem pure_apply (result : β) : (pure result : Vcpu β) cpu = .ok result cpu := rfl

@[simp] theorem throw_apply : (throw errno : Vcpu β) cpu = .error errno cpu := rfl

@[simp] theorem get_apply : (get : Vcpu Cpu) cpu = .ok cpu cpu := rfl

@[simp] theorem modify_apply (change : Cpu → Cpu) :
    (modify change : Vcpu Unit) cpu = .ok () (change cpu) := rfl

theorem checkHv_apply (succeeds : Bool) : checkHv succeeds cpu =
    if succeeds then .ok () cpu else .error EIO cpu := by
  cases succeeds <;> rfl

theorem readReg_apply (succeeds : Bool) (reg : Reg) : readReg succeeds reg cpu =
    if succeeds then .ok (cpu.registers reg) cpu else .error EIO cpu := by
  cases succeeds <;> rfl

def Cpu.put (cpu : Cpu) (reg : Reg) (value : Word) : Cpu :=
  { cpu with registers := Function.update cpu.registers reg value }

@[simp] theorem put_self (reg : Reg) (value : Word) : (cpu.put reg value).registers reg = value := by
  simp [Cpu.put]

theorem put_other {reg other : Reg} (differ : other ≠ reg) (value : Word) :
    (cpu.put reg value).registers other = cpu.registers other := by
  simp [Cpu.put, differ]

theorem writeReg_apply (succeeds : Bool) (reg : Reg) (value : Word) :
    writeReg succeeds reg value cpu =
      if succeeds then .ok () (cpu.put reg value) else .error EIO cpu := by
  cases succeeds <;> rfl

theorem advancePc_apply {accesses : Accesses} : advancePc accesses cpu =
    if accesses.pcRead && accesses.pcWrite then .ok () (cpu.put .pc (cpu.registers .pc + 4))
    else .error EIO cpu := by
  unfold advancePc
  cases read : accesses.pcRead <;> cases write : accesses.pcWrite <;> rfl

end Calls

/-! ### Setting the native register -/

section Native

variable {cpu after : Cpu} {native : Native} {effective : Word} {errno : Errno}

def Cpu.setting (cpu : Cpu) (native : Native) : Cpu :=
  { cpu with native := native.stored, history := .set :: cpu.history }

theorem syncDebugMdscr_apply : syncDebugMdscr native effective cpu =
    if native.set = true ∧ native.get = true ∧ native.stored = effective then
      .ok () (cpu.setting native)
    else .error EIO (cpu.setting native) := by
  unfold syncDebugMdscr
  rw [bind_of_ok (modify_apply _)]
  change (checkHv native.set >>= _) (cpu.setting native) = _
  cases sets : native.set with
  | false => simp [bind_of_error (show checkHv false (cpu.setting native) = .error EIO _ from rfl)]
  | true =>
      rw [bind_of_ok (show checkHv true (cpu.setting native) = .ok () _ from rfl)]
      cases gets : native.get with
      | false =>
          simp [bind_of_error (show checkHv false (cpu.setting native) = .error EIO _ from rfl)]
      | true =>
          rw [bind_of_ok (show checkHv true (cpu.setting native) = .ok () _ from rfl),
            bind_of_ok (show (get : Vcpu Cpu) (cpu.setting native) = .ok _ _ from rfl)]
          by_cases same : native.stored = effective
          · simp [Cpu.setting, same]
          · simp [Cpu.setting, same]

def Cpu.committed (cpu : Cpu) (native : Native) (mark : Mark) (next : DebugRegisters) : Cpu :=
  { cpu with native := native.stored, shadow := next, history := mark :: .set :: cpu.history }

theorem resetDebugRegisters_apply : resetDebugRegisters native cpu =
    if native.set = true ∧ native.get = true ∧ native.stored = 0 then
      .ok () (cpu.committed native .reset {})
    else .error EIO (cpu.setting native) := by
  unfold resetDebugRegisters
  have zero : ({} : DebugRegisters).effectiveMdscr = 0 := rfl
  rw [zero]
  by_cases synced : native.set = true ∧ native.get = true ∧ native.stored = 0
  · rw [bind_of_ok (by rw [syncDebugMdscr_apply, if_pos synced]), if_pos synced]
    rfl
  · rw [bind_of_error (by rw [syncDebugMdscr_apply, if_neg synced]), if_neg synced]

theorem writeDebugReg_apply (reg : SysReg) (value : Word) : writeDebugReg native reg value cpu =
    match cpu.shadow.next reg value with
    | .error errno => .error errno cpu
    | .ok next =>
        if native.set = true ∧ native.get = true ∧ native.stored = next.effectiveMdscr then
          .ok () (cpu.committed native (.wrote reg value) next)
        else .error EIO (cpu.setting native) := by
  unfold writeDebugReg
  rw [bind_of_ok (show (get : Vcpu Cpu) cpu = .ok cpu cpu from rfl)]
  cases cpu.shadow.next reg value with
  | error errno => rfl
  | ok next =>
      have sync := @syncDebugMdscr_apply cpu native next.effectiveMdscr
      by_cases synced : native.set = true ∧ native.get = true ∧ native.stored = next.effectiveMdscr
      · rw [if_pos synced] at sync
        simp only [if_pos synced]
        exact (bind_of_ok sync).trans rfl
      · rw [if_neg synced] at sync
        simp only [if_neg synced]
        exact bind_of_error sync

theorem readDebugReg_apply (reg : SysReg) : readDebugReg reg cpu =
    match cpu.shadow.read reg with
    | .error errno => .error errno cpu
    | .ok value => .ok value cpu := by
  unfold readDebugReg
  rw [bind_of_ok (show (get : Vcpu Cpu) cpu = .ok cpu cpu from rfl)]
  cases cpu.shadow.read reg <;> rfl

end Native

/-! ### Accesses -/

section Access

variable {cpu after : Cpu} {syndrome : Word} {accesses : Accesses} {errno : Errno}

/-- A value that was read goes to `Xt`, or is lost. -/
def Cpu.load (cpu : Cpu) (rt : Nat) (value : Word) : Cpu :=
  if within : rt < 31 then cpu.put (.x ⟨rt, within⟩) value else cpu

theorem writeRt_apply (rt : Nat) (value : Word) :
    (if rt < 31 then do writeReg accesses.rt (← xRegOrError rt) value else pure () : Vcpu Unit) cpu =
      if rt < 31 ∧ accesses.rt = false then .error EIO cpu else .ok () (cpu.load rt value) := by
  by_cases within : rt < 31
  · have known : xRegOrError rt cpu = .ok (.x ⟨rt, within⟩) cpu := by
      simp [xRegOrError, xReg, within]
    rw [if_pos within, bind_of_ok known, writeReg_apply]
    cases accesses.rt <;> simp [within, Cpu.load]
  · simp [within, Cpu.load]

theorem operand_cases (rt : Nat) : (∃ value, operand accesses rt cpu = .ok value cpu) ∨
    operand accesses rt cpu = .error EIO cpu := by
  unfold operand
  by_cases within : rt < 31
  · have known : xRegOrError rt cpu = .ok (.x ⟨rt, within⟩) cpu := by
      simp [xRegOrError, xReg, within]
    rw [if_pos within, bind_of_ok known, readReg_apply]
    cases accesses.rt <;> simp
  · simp [within]

theorem level_of_mode {cpsr : Word} (mode : ¬(cpsr &&& 0xf ≠ 4 ∧ cpsr &&& 0xf ≠ 5)) :
    exceptionLevel cpsr = 1 := by
  have either : cpsr &&& 0xf = 4 ∨ cpsr &&& 0xf = 5 := by
    by_contra neither
    exact mode (not_or.mp neither)
  have part : exceptionLevel cpsr = (cpsr &&& 0xf) >>> 2 := by
    have low := Nat.and_two_pow_sub_one_eq_mod (cpsr >>> 2).toNat 2
    have mode := Nat.and_two_pow_sub_one_eq_mod cpsr.toNat 4
    apply BitVec.eq_of_toNat_eq
    rw [exceptionLevel, BitVec.toNat_and, BitVec.toNat_ushiftRight (cpsr &&& 0xf), BitVec.toNat_and,
      Nat.shiftRight_eq_div_pow]
    refine low.trans ?_
    rw [BitVec.toNat_ushiftRight, Nat.shiftRight_eq_div_pow]
    refine Eq.trans ?_ (congrArg (· / 2 ^ 2) mode).symm
    omega
  rcases either with here | here <;> rw [part, here] <;> decide

inductive DebugAccessed (cpu : Cpu) (syndrome : Word) (accesses : Accesses) :
    EStateM.Result Errno Cpu Unit → Prop
  | refused {errno : Errno} : DebugAccessed cpu syndrome accesses (.error errno cpu)
  | unset : DebugAccessed cpu syndrome accesses (.error EIO (cpu.setting accesses.native))
  | read {value : Word} (reads : trappedRead syndrome = true)
      (level : exceptionLevel (cpu.registers .cpsr) = 1)
      (known : cpu.shadow.read (trappedSysReg syndrome) = .ok value) :
      DebugAccessed cpu syndrome accesses (.ok () (cpu.load (trappedRt syndrome) value))
  | written {value : Word} {next : DebugRegisters} (writes : trappedRead syndrome = false)
      (level : exceptionLevel (cpu.registers .cpsr) = 1)
      (known : cpu.shadow.next (trappedSysReg syndrome) value = .ok next)
      (stored : accesses.native.stored = next.effectiveMdscr) :
      DebugAccessed cpu syndrome accesses
        (.ok () (cpu.committed accesses.native (.wrote (trappedSysReg syndrome) value) next))

theorem debugAccessed : DebugAccessed cpu syndrome accesses (debugAccess syndrome accesses cpu) := by
  unfold debugAccess
  cases here : accesses.cpsr with
  | false =>
      have fails : readReg false .cpsr cpu = .error EIO cpu := rfl
      simp only [bind_of_error fails]
      exact .refused
  | true =>
      have read : readReg true .cpsr cpu = .ok (cpu.registers .cpsr) cpu := rfl
      simp only [bind_of_ok read]
      by_cases mode : cpu.registers .cpsr &&& 0xf ≠ 4 ∧ cpu.registers .cpsr &&& 0xf ≠ 5
      · simp only [if_pos mode]
        exact .refused
      · have level := level_of_mode mode
        simp only [if_neg mode]
        cases reads : trappedRead syndrome with
        | true =>
            simp only [if_true]
            have ran := @readDebugReg_apply cpu (trappedSysReg syndrome)
            cases known : cpu.shadow.read (trappedSysReg syndrome) with
            | error errno =>
                rw [known] at ran
                rw [bind_of_error ran]
                exact .refused
            | ok value =>
                rw [known] at ran
                rw [bind_of_ok ran, writeRt_apply]
                split
                · exact .refused
                · exact .read reads level known
        | false =>
            simp only [Bool.false_eq_true, if_false]
            rcases @operand_cases cpu accesses (trappedRt syndrome) with
              ⟨value, ran⟩ | ran
            · rw [bind_of_ok ran, writeDebugReg_apply]
              cases known : cpu.shadow.next (trappedSysReg syndrome) value with
              | error errno => exact .refused
              | ok next =>
                  by_cases synced : accesses.native.set = true ∧ accesses.native.get = true ∧
                      accesses.native.stored = next.effectiveMdscr
                  · simp only [if_pos synced]
                    exact .written reads level known synced.2.2
                  · simp only [if_neg synced]
                    exact .unset
            · rw [bind_of_error ran]
              exact .refused

inductive SystemAccessed (cpu : Cpu) (syndrome : Word) : EStateM.Result Errno Cpu Unit → Prop
  | refused {errno : Errno} : SystemAccessed cpu syndrome (.error errno cpu)
  | read {value : Word} (reads : trappedRead syndrome = true) :
      SystemAccessed cpu syndrome (.ok () (cpu.load (trappedRt syndrome) value))
  | written {system : SysReg → Word} :
      SystemAccessed cpu syndrome (.ok () { cpu with system := system })

theorem systemAccessed : SystemAccessed cpu syndrome (systemAccess syndrome accesses cpu) := by
  unfold systemAccess
  have checked := @checkHv_apply cpu accesses.system
  cases reads : trappedRead syndrome with
  | true =>
      simp only [if_true]
      cases here : accesses.system with
      | false =>
          rw [here] at checked
          rw [bind_of_error checked]
          exact .refused
      | true =>
          rw [here] at checked
          rw [bind_of_ok checked, bind_of_ok (get_apply), writeRt_apply]
          split
          · exact .refused
          · exact .read reads
  | false =>
      simp only [Bool.false_eq_true, if_false]
      rcases @operand_cases cpu accesses (trappedRt syndrome) with
        ⟨value, ran⟩ | ran
      · rw [bind_of_ok ran]
        cases here : accesses.system with
        | false =>
            rw [here] at checked
            rw [bind_of_error checked]
            exact .refused
        | true =>
            rw [here] at checked
            rw [bind_of_ok checked]
            exact .written
      · rw [bind_of_error ran]
        exact .refused

inductive Accessed (cpu : Cpu) (syndrome : Word) (accesses : Accesses) : Cpu → Prop
  | debug {middle : Cpu} (owned : DebugRegisters.owns (trappedSysReg syndrome) = true)
      (ran : DebugAccessed cpu syndrome accesses (.ok () middle)) :
      Accessed cpu syndrome accesses middle
  | system {middle : Cpu} (other : DebugRegisters.owns (trappedSysReg syndrome) = false)
      (ran : SystemAccessed cpu syndrome (.ok () middle)) : Accessed cpu syndrome accesses middle

inductive Trapped (cpu : Cpu) (syndrome : Word) (accesses : Accesses) :
    EStateM.Result Errno Cpu Unit → Prop
  | refused {errno : Errno} : Trapped cpu syndrome accesses (.error errno cpu)
  | unset : Trapped cpu syndrome accesses (.error EIO (cpu.setting accesses.native))
  | stuck {middle done : Cpu} (accessed : Accessed cpu syndrome accesses middle)
      (only : handleSystemRegisterTrap syndrome accesses.advancing cpu = .ok () done) :
      Trapped cpu syndrome accesses (.error EIO middle)
  | done {middle : Cpu} (accessed : Accessed cpu syndrome accesses middle) :
      Trapped cpu syndrome accesses (.ok () (middle.put .pc (middle.registers .pc + 4)))

theorem Accessed.advance {middle done : Cpu} (accessed : Accessed cpu syndrome accesses middle)
    (only : handleSystemRegisterTrap syndrome accesses.advancing cpu = .ok () done) :
    Trapped cpu syndrome accesses (advancePc accesses middle) := by
  rw [advancePc_apply]
  split
  · exact .done accessed
  · exact .stuck accessed only

theorem trapped :
    Trapped cpu syndrome accesses (handleSystemRegisterTrap syndrome accesses cpu) := by
  unfold handleSystemRegisterTrap
  cases owned : DebugRegisters.owns (trappedSysReg syndrome) with
  | true =>
      simp only [if_true]
      have accessed := @debugAccessed cpu syndrome accesses
      generalize outcome : debugAccess syndrome accesses cpu = result at accessed
      cases result with
      | ok done middle =>
          have only : handleSystemRegisterTrap syndrome accesses.advancing cpu =
              .ok () (middle.put .pc (middle.registers .pc + 4)) := by
            unfold handleSystemRegisterTrap
            rw [owned, if_pos rfl]
            exact (bind_of_ok outcome).trans advancePc_apply
          rw [bind_of_ok outcome]
          exact (Accessed.debug owned accessed).advance only
      | error errno middle =>
          rw [bind_of_error outcome]
          cases accessed with
          | refused => exact .refused
          | unset => exact .unset
  | false =>
      simp only [Bool.false_eq_true, if_false]
      have accessed := @systemAccessed cpu syndrome accesses
      generalize outcome : systemAccess syndrome accesses cpu = result at accessed
      cases result with
      | ok done middle =>
          have only : handleSystemRegisterTrap syndrome accesses.advancing cpu =
              .ok () (middle.put .pc (middle.registers .pc + 4)) := by
            unfold handleSystemRegisterTrap
            rw [owned, if_neg Bool.false_ne_true]
            exact (bind_of_ok outcome).trans advancePc_apply
          rw [bind_of_ok outcome]
          exact (Accessed.system owned accessed).advance only
      | error errno middle =>
          rw [bind_of_error outcome]
          cases accessed with
          | refused => exact .refused

end Access

/-! ### What every step keeps -/

theorem bit_low (value : Word) : bit (decide (value &&& 1 ≠ 0)) = value &&& 1 := by
  have low : (value &&& 1).toNat = value.toNat % 2 := by
    rw [BitVec.toNat_and]
    exact Nat.and_one_is_mod value.toNat
  rcases Nat.mod_two_eq_zero_or_one value.toNat with even | odd
  · have zero : value &&& 1 = 0 := BitVec.eq_of_toNat_eq (low.trans even)
    rw [zero]
    rfl
  · have one : value &&& 1 = 1 := BitVec.eq_of_toNat_eq (low.trans odd)
    rw [one]
    rfl

structure Mirrors (shadow : DebugRegisters) (history : List Mark) : Prop where
  osLock : bit shadow.osLock = lastWritten OSLAR_EL1 history &&& 1
  doubleLock : bit shadow.doubleLock = lastWritten OSDLR_EL1 history &&& 1
  coreNoPowerdown : bit shadow.coreNoPowerdown = lastWritten DBGPRCR_EL1 history &&& 1
  mdscr : shadow.mdscr = lastWritten MDSCR_EL1 history

theorem mirrors_reset (history : List Mark) : Mirrors {} (.reset :: history) :=
  ⟨by simp [bit, lastWritten], by simp [bit, lastWritten], by simp [bit, lastWritten], rfl⟩

theorem Mirrors.set {shadow : DebugRegisters} {history : List Mark}
    (mirrors : Mirrors shadow history) : Mirrors shadow (.set :: history) :=
  ⟨mirrors.osLock, mirrors.doubleLock, mirrors.coreNoPowerdown, mirrors.mdscr⟩

/-- The numbers of the registers that can be written differ. -/
theorem registers_distinct : [OSLAR_EL1, OSDLR_EL1, DBGPRCR_EL1, MDSCR_EL1, OSLSR_EL1].Nodup := by
  decide

theorem Mirrors.next {shadow next : DebugRegisters} {history : List Mark} {reg : SysReg}
    {value : Word} (mirrors : Mirrors shadow history) (known : shadow.next reg value = .ok next) :
    Mirrors next (.wrote reg value :: history) := by
  have distinct := registers_distinct
  simp only [List.nodup_cons, List.mem_cons, List.not_mem_nil, or_false, not_or, List.nodup_nil,
    and_true, not_false_eq_true] at distinct
  obtain ⟨⟨one, two, three, _⟩, ⟨four, five, _⟩, ⟨six, _⟩, _⟩ := distinct
  unfold DebugRegisters.next at known
  split at known
  · next same =>
      subst same
      obtain rfl := Except.ok.inj known
      exact ⟨by simpa [lastWritten] using bit_low value, by simpa [lastWritten, one] using
        mirrors.doubleLock, by simpa [lastWritten, two] using mirrors.coreNoPowerdown,
        by simpa [lastWritten, three] using mirrors.mdscr⟩
  split at known
  · next same =>
      subst same
      obtain rfl := Except.ok.inj known
      exact ⟨by simpa [lastWritten, Ne.symm one] using mirrors.osLock,
        by simpa [lastWritten] using bit_low value,
        by simpa [lastWritten, four] using mirrors.coreNoPowerdown,
        by simpa [lastWritten, five] using mirrors.mdscr⟩
  split at known
  · next same =>
      subst same
      obtain rfl := Except.ok.inj known
      exact ⟨by simpa [lastWritten, Ne.symm two] using mirrors.osLock,
        by simpa [lastWritten, Ne.symm four] using mirrors.doubleLock,
        by simpa [lastWritten] using bit_low value,
        by simpa [lastWritten, six] using mirrors.mdscr⟩
  split at known
  · next same =>
      subst same
      split at known
      · cases known
      · obtain rfl := Except.ok.inj known
        exact ⟨by simpa [lastWritten, Ne.symm three] using mirrors.osLock,
          by simpa [lastWritten, Ne.symm five] using mirrors.doubleLock,
          by simpa [lastWritten, Ne.symm six] using mirrors.coreNoPowerdown,
          by simp [lastWritten]⟩
  · cases known

/-- What is read is what was committed last. -/
theorem Mirrors.read {shadow : DebugRegisters} {history : List Mark} {reg : SysReg} {value : Word}
    (mirrors : Mirrors shadow history) (known : shadow.read reg = .ok value) :
    value = readsAs reg history := by
  unfold DebugRegisters.read at known
  unfold readsAs
  split at known
  · next same =>
      obtain rfl := Except.ok.inj known
      rw [if_pos same, mirrors.osLock]
  next other =>
  rw [if_neg other]
  split at known
  · next same =>
      obtain rfl := Except.ok.inj known
      subst same
      exact mirrors.doubleLock
  split at known
  · next same =>
      obtain rfl := Except.ok.inj known
      subst same
      exact mirrors.coreNoPowerdown
  split at known
  · next same =>
      obtain rfl := Except.ok.inj known
      subst same
      exact mirrors.mdscr
  · cases known

structure Kept (cpu : Cpu) : Prop where
  inEffect : cpu.Settled → cpu.InEffect
  mirrors : Mirrors cpu.shadow cpu.history

section Kept

variable {cpu middle : Cpu} {syndrome : Word} {accesses : Accesses}

theorem Kept.put (kept : Kept cpu) (reg : Reg) (value : Word) : Kept (cpu.put reg value) :=
  ⟨kept.inEffect, kept.mirrors⟩

theorem Kept.load (kept : Kept cpu) (rt : Nat) (value : Word) : Kept (cpu.load rt value) := by
  unfold Cpu.load
  split
  · exact kept.put _ value
  · exact kept

theorem Kept.setting (kept : Kept cpu) (native : Native) : Kept (cpu.setting native) :=
  ⟨fun settled => absurd rfl settled, kept.mirrors.set⟩

theorem Kept.accessed (kept : Kept cpu) (accessed : Accessed cpu syndrome accesses middle) :
    Kept middle := by
  cases accessed with
  | debug owned ran =>
      cases ran with
      | read => exact kept.load _ _
      | written _ _ known stored => exact ⟨fun _ => stored, kept.mirrors.set.next known⟩
  | system other ran =>
      cases ran with
      | read => exact kept.load _ _
      | written => exact ⟨kept.inEffect, kept.mirrors⟩

def KeptBy {α : Type} : EStateM.Result Errno Cpu α → Prop
  | .ok _ after => Kept after
  | .error _ after => Kept after

theorem KeptBy.bind {α β : Type} {first : Vcpu α} {rest : α → Vcpu β}
    (one : KeptBy (first cpu)) (two : ∀ result middle, Kept middle → KeptBy (rest result middle)) :
    KeptBy ((first >>= rest) cpu) := by
  cases ran : first cpu with
  | ok result middle =>
      rw [ran] at one
      rw [bind_of_ok ran]
      exact two result middle one
  | error errno middle =>
      rw [ran] at one
      rw [bind_of_error ran]
      exact one

theorem Kept.trapped {result : EStateM.Result Errno Cpu Unit} (kept : Kept cpu)
    (trapped : Trapped cpu syndrome accesses result) : KeptBy result := by
  cases trapped with
  | refused => exact kept
  | unset => exact kept.setting _
  | stuck accessed => exact kept.accessed accessed
  | done accessed => exact (kept.accessed accessed).put _ _

theorem Kept.writeReg (kept : Kept cpu) (succeeds : Bool) (reg : Reg) (value : Word) :
    KeptBy (writeReg succeeds reg value cpu) := by
  rw [writeReg_apply]
  split
  · exact kept.put reg value
  · exact kept

theorem Kept.resetDebugRegisters (kept : Kept cpu) (native : Native) :
    KeptBy (resetDebugRegisters native cpu) := by
  rw [resetDebugRegisters_apply]
  split
  · next synced => exact ⟨fun _ => synced.2.2, mirrors_reset _⟩
  · exact kept.setting native

theorem Kept.powerOn (kept : Kept cpu) (entry context : Word) (accesses : PowerAccesses) :
    KeptBy (powerOn entry context accesses cpu) :=
  (kept.resetDebugRegisters _).bind fun _ _ kept =>
    (kept.writeReg _ _ _).bind fun _ _ kept => kept.writeReg _ _ _

theorem Kept.step (kept : Kept cpu) (event : Event) : KeptBy (cpu.step event) := by
  cases event with
  | guest => exact ⟨kept.inEffect, kept.mirrors⟩
  | trap syndrome accesses => exact kept.trapped Hvf.trapped
  | powerOn entry context accesses => exact kept.powerOn entry context accesses

theorem Kept.does {event : Event} {next : Cpu} (kept : Kept cpu) (does : Does cpu event next) :
    Kept next := by
  have by_step := kept.step event
  cases does with
  | ok step => rwa [step] at by_step
  | error step => rwa [step] at by_step

theorem kept_of_reached (reached : Reached cpu) : Kept cpu := by
  obtain ⟨registers, simd, system, events, trace⟩ := reached
  induction trace with
  | nil => exact ⟨fun _ => rfl, mirrors_reset []⟩
  | snoc _ does kept => exact kept.does does

end Kept

/-! ### What a trap does -/

section Trap

variable {cpu middle : Cpu} {syndrome : Word} {accesses : Accesses}

theorem load_pc (rt : Nat) (value : Word) :
    (cpu.load rt value).registers .pc = cpu.registers .pc := by
  unfold Cpu.load
  split
  · exact put_other (by simp) value
  · rfl

/-- Before the program counter, a trap changes `Xt` of a read, and no other register. -/
theorem Accessed.registers (accessed : Accessed cpu syndrome accesses middle) :
    middle.registers .pc = cpu.registers .pc ∧ ∀ number,
      middle.registers (.x number) ≠ cpu.registers (.x number) →
        trappedRead syndrome = true ∧ number.1 = trappedRt syndrome := by
  have loaded : ∀ value, trappedRead syndrome = true →
      (cpu.load (trappedRt syndrome) value).registers .pc = cpu.registers .pc ∧ ∀ number,
        (cpu.load (trappedRt syndrome) value).registers (.x number) ≠ cpu.registers (.x number) →
          trappedRead syndrome = true ∧ number.1 = trappedRt syndrome := by
    refine fun value reads => ⟨load_pc _ value, fun number changed => ⟨reads, ?_⟩⟩
    unfold Cpu.load at changed
    split at changed
    · by_contra other
      refine changed (put_other (fun same => other ?_) value)
      exact congrArg Fin.val (Reg.x.inj same)
    · exact absurd rfl changed
  cases accessed with
  | debug owned ran =>
      cases ran with
      | read reads => exact loaded _ reads
      | written => exact ⟨rfl, fun _ changed => absurd rfl changed⟩
  | system other ran =>
      cases ran with
      | read reads => exact loaded _ reads
      | written => exact ⟨rfl, fun _ changed => absurd rfl changed⟩

theorem inhibited_eq {shadow : DebugRegisters} (inhibited : shadow.inhibited = true) :
    shadow.effectiveMdscr &&& ENABLE_BITS = 0 := by
  rw [DebugRegisters.effectiveMdscr, if_pos inhibited, BitVec.and_assoc]
  simp

theorem Kept.done (kept : Kept cpu) (owned : DebugRegisters.owns (trappedSysReg syndrome) = true)
    {after : Cpu} (done : cpu.step (.trap syndrome accesses) = .ok () after) :
    Done cpu syndrome after := by
  have outcome := @Hvf.trapped cpu syndrome accesses
  rw [show handleSystemRegisterTrap syndrome accesses cpu = .ok () after from done] at outcome
  cases outcome with
  | done accessed =>
      have pc := accessed.registers.1
      cases accessed with
      | system other => simp [other] at owned
      | debug _ ran =>
          have advanced := congrArg (· + 4) pc
          cases ran with
          | read reads level known =>
              refine ⟨fun how => ?_, ?_, level, fun _ within => ?_⟩
              · have settled : cpu.Settled := how.resolve_left (by simp [reads])
                have still := kept.inEffect settled
                unfold Cpu.load
                split <;> exact still
              · exact (put_self _ _).trans advanced
              · rw [← kept.mirrors.read known]
                simp [Cpu.load, Cpu.put, within]
          | written writes level known stored =>
              refine ⟨fun _ => stored, ?_, level, fun reads => ?_⟩
              · exact (put_self _ _).trans advanced
              · simp [writes] at reads

theorem failed_of_trap {errno : Errno} {after : Cpu}
    (failed : cpu.step (.trap syndrome accesses) = .error errno after) :
    Failed cpu syndrome accesses after := by
  have outcome := @Hvf.trapped cpu syndrome accesses
  rw [show handleSystemRegisterTrap syndrome accesses cpu = .error errno after from failed]
    at outcome
  cases outcome with
  | refused => exact ⟨rfl, .inl rfl⟩
  | unset => exact ⟨rfl, .inl rfl⟩
  | stuck accessed only => exact ⟨accessed.registers.1, .inr ⟨_, only⟩⟩

theorem changed_of_trap {after : Cpu} (does : Does cpu (.trap syndrome accesses) after)
    (number : Fin 31) (changed : after.registers (.x number) ≠ cpu.registers (.x number)) :
    trappedRead syndrome = true ∧ number.1 = trappedRt syndrome := by
  have outcome := @Hvf.trapped cpu syndrome accesses
  cases does with
  | ok done =>
      rw [show handleSystemRegisterTrap syndrome accesses cpu = .ok () after from done] at outcome
      cases outcome with
      | done accessed =>
          refine accessed.registers.2 number fun same => changed ?_
          exact (put_other (by simp) _).trans same
  | @error errno _ failed =>
      rw [show handleSystemRegisterTrap syndrome accesses cpu = .error errno after from failed]
        at outcome
      cases outcome with
      | refused => exact absurd rfl changed
      | unset => exact absurd rfl changed
      | stuck accessed => exact accessed.registers.2 number changed

theorem sound_of_reached (reached : Reached cpu) : Sound cpu syndrome accesses where
  done owned _ done := (kept_of_reached reached).done owned done
  failed _ _ failed := failed_of_trap failed
  inhibited inhibited :=
    ⟨inhibited_eq inhibited, fun settled =>
      ((kept_of_reached reached).inEffect settled).symm ▸ inhibited_eq inhibited⟩
  others _ does := changed_of_trap does

end Trap

def guest : Registers
  | .x 0 => 1
  | .cpsr => 5
  | _ => 0

def fresh : Cpu := initial guest (fun _ => 0) (fun _ => 0)

theorem reached_fresh : Reached fresh := ⟨guest, _, _, [], .nil⟩

/-- `MRS X1, OSLSR_EL1`. -/
def readLock : Word := 0x80423

/-- `MSR MDSCR_EL1, X0`. -/
def writeMdscr : Word := 0x40004

/-- `MSR OSLAR_EL1, X0`. -/
def writeLock : Word := 0x80400

/-- The lock is taken, `MDSCR_EL1` is written behind it, and the lock is read. -/
theorem sound_after_writes : ∃ cpu, Reached cpu ∧
    readsAs OSLSR_EL1 cpu.history = 10 ∧ readsAs MDSCR_EL1 cpu.history = 1 ∧
    Sound cpu readLock { native := { stored := 0 } } := by
  obtain ⟨registers, simd, system, events, trace⟩ := reached_fresh
  -- Behind the lock nothing of `MDSCR_EL1` is in effect, so zero is stored both times.
  have locked := trace.snoc
    (show Does fresh (.trap writeLock { native := { stored := 0 } }) _ from .ok rfl)
  have wrote := locked.snoc
    (show Does _ (.trap writeMdscr { native := { stored := 0 } }) _ from .ok rfl)
  have reached : Reached _ := ⟨registers, simd, system, _, wrote⟩
  exact ⟨_, reached, rfl, rfl, sound_of_reached reached⟩

/-- `MDSCR_EL1` was set, and could not be read back. The next trap is a read, and succeeds. -/
theorem read_succeeds_behind_failed_write :
    ¬∀ cpu, Reached cpu → ∀ syndrome accesses after,
      DebugRegisters.owns (trappedSysReg syndrome) = true →
        cpu.step (.trap syndrome accesses) = .ok () after → after.InEffect := by
  intro inEffect
  have unread : fresh.step (.trap writeMdscr { native := { stored := 1, get := false } }) =
      .error EIO (fresh.setting { stored := 1, get := false }) := rfl
  obtain ⟨registers, simd, system, events, trace⟩ := reached_fresh
  have reached : Reached (fresh.setting { stored := 1, get := false }) :=
    ⟨registers, simd, system, _, trace.snoc (.error unread)⟩
  have differ : (1 : Word) = 0 :=
    inEffect _ reached readLock { native := { stored := 0 } } _ (by decide) rfl
  exact absurd differ (by decide)

end Bscp.Crosvm.Hvf
