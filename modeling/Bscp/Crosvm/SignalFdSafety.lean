import Bscp.Crosvm.SignalFd

/-!
What the calls on `SignalFd` keep, as long as there is one value at a time: where each call stands,
what it has changed outside the value so far, and when the pipe has a byte. A run that goes against
the condition loses the byte of a child that was reaped with another one.
-/

namespace Bscp.Crosvm.SignalFd

open Machine

/-! ### What is told of a child -/

theorem siginfo_told (child : Child) :
    siginfoFromWaitStatus SIGCHLD child.pid child.ending.status = child.told := by
  obtain ⟨pid, ending⟩ := child
  cases ending with
  | exited code =>
      have small : code.toNat < 256 := code.toNat_lt
      have whole : code.toNat * 256 % 128 = 0 := by omega
      have high : code.toNat * 256 / 256 % 256 = code.toNat := by omega
      simp only [siginfoFromWaitStatus, Ending.status, exitCode, whole, if_true, high, Child.told]
  | signaled signal core =>
      obtain ⟨signal, some_signal, small⟩ := signal
      have low : (signal + if core then 128 else 0) % 128 = signal := by
        split <;> omega
      have other : ¬signal = 0 := by omega
      have known : signal ≠ 127 ∧ signal ≠ 0 := by omega
      simp only [siginfoFromWaitStatus, Ending.status, exitCode, termSignal, low, other, if_false,
        known, ne_eq, not_false_eq_true, and_self, if_true, Child.told]

/-! ### Where the calls stand -/

section Standing

variable (origin : Origin)

structure Quiet (globals : Globals) : Prop where
  blocked : globals.blocked = origin.blocked
  action : globals.action = .other origin.action
  relay : globals.relay = none

structure Suitable (thread : Thread) : Prop where
  unblocked : origin.blocked thread = false
  other : ∃ other, other ≠ thread ∧ origin.blocked other = false

def Origin.masked (thread : Thread) : Thread → Bool := Function.update origin.blocked thread true

structure Held (globals : Globals) (value : Value) : Prop where
  suitable : Suitable origin value.creator
  blocked : globals.blocked = origin.masked value.creator
  action : globals.action = .relaySignal
  relay : globals.relay = some value.pipe
  opened : value.pipe ∈ globals.opened
  signal : value.signal = SIGCHLD
  old : value.oldAction = .other origin.action

end Standing

/-- When the pipe has a byte. A read that has taken the last one puts at most one child into the
queue. -/
def Due : Call → List Siginfo → Prop → Nat → Prop
  | .read .byte _, pending, signalled, bytes => pending = [] ∧ (signalled → 0 < bytes)
  | .read .reap _, pending, _, bytes => pending.length ≤ 1 ∨ 0 < bytes
  | .read .popReaped _, pending, signalled, bytes => (1 < pending.length ∨ signalled) → 0 < bytes
  | _, pending, signalled, bytes => (pending ≠ [] ∨ signalled) → 0 < bytes

def Settled (origin : Origin) (s : State) (globals : Globals) : Prop :=
  (s.alive = [] ∧ Quiet origin globals) ∨
    ∃ value, s.alive = [value] ∧ Held origin globals value ∧
      Due s.call value.pending (s.Signalled value.pipe) (s.bytes value.pipe)

def Call.opens : Call → Option Pipe
  | .new (.store pipe) _ _ | .new (.block pipe) _ _ | .new (.sigaction pipe) _ _ => some pipe
  | _ => Option.none

def State.bound (s : State) : Pipe := s.call.opens.getD s.fresh

structure Aged (s : State) : Prop where
  opens : ∀ pipe, s.call.opens = some pipe → pipe < s.fresh
  values : ∀ value ∈ s.alive, value.pipe < s.bound
  zombies : ∀ zombie ∈ s.zombies, ∀ pipe, zombie.relayed = some pipe → pipe < s.bound
  relay : s.globals.action = .relaySignal → ∀ pipe, s.globals.relay = some pipe → pipe < s.bound

def Place (origin : Origin) (s : State) : Prop :=
  match s.call with
  | .none => Settled origin s s.globals
  | .new stage thread before =>
      match stage with
      | .pipe => s.globals = before ∧ Settled origin s before
      | .store pipe => s.globals = { before with opened := pipe :: before.opened } ∧
          Settled origin s before
      | .block pipe => s.alive = [] ∧ Quiet origin before ∧
          s.globals = { before with opened := pipe :: before.opened, relay := some pipe }
      | .sigaction pipe | .clear pipe =>
          s.alive = [] ∧ Quiet origin before ∧ Suitable origin thread ∧
            s.globals = { before with opened := pipe :: before.opened, relay := some pipe,
                                      blocked := origin.masked thread }
      | .close pipe => s.alive = [] ∧ Quiet origin before ∧ Suitable origin thread ∧
          s.globals = { before with opened := pipe :: before.opened,
                                    blocked := origin.masked thread }
      | .unblock => s.alive = [] ∧ Quiet origin before ∧ Suitable origin thread ∧
          s.globals = { before with blocked := origin.masked thread }
  | .read _ index => index = 0 ∧ s.alive ≠ [] ∧ Settled origin s s.globals
  | .drop stage thread value =>
      s.alive = [] ∧ Suitable origin thread ∧ value.oldAction = .other origin.action ∧
        match stage with
        | .restore => s.globals.blocked = origin.masked thread
        | .clear => s.globals.blocked = origin.masked thread ∧
            s.globals.action = .other origin.action
        | .unblock => s.globals.blocked = origin.masked thread ∧
            s.globals.action = .other origin.action ∧ s.globals.relay = none
        | .close => Quiet origin s.globals

theorem Due.mono {call : Call} {pending : List Siginfo} {signalled later : Prop} {bytes more : Nat}
    (due : Due call pending signalled bytes) (fewer : later → signalled) (up : bytes ≤ more) :
    Due call pending later more := by
  unfold Due at due ⊢
  split <;> simp only at due
  · exact ⟨due.1, fun holds => Nat.lt_of_lt_of_le (due.2 (fewer holds)) up⟩
  · exact due.imp_right fun some_bytes => Nat.lt_of_lt_of_le some_bytes up
  · exact fun either => Nat.lt_of_lt_of_le (due (either.imp_right fewer)) up
  · exact fun either => Nat.lt_of_lt_of_le (due (either.imp_right fewer)) up

/-- A byte in the pipe is always enough. -/
theorem Due.filled {call : Call} {pending : List Siginfo} {signalled later : Prop} {bytes more : Nat}
    (due : Due call pending signalled bytes) (some_bytes : 0 < more) :
    Due call pending later more := by
  unfold Due at due ⊢
  split <;> simp only at due
  · exact ⟨due.1, fun _ => some_bytes⟩
  · exact .inr some_bytes
  · exact fun _ => some_bytes
  · exact fun _ => some_bytes

/-! ### What one step can do -/

def State.exited (s : State) (child : Child) : State :=
  { s with zombies := s.zombies ++ [{ child }], raised := true, exits := s.exits ++ [child] }

inductive Stepped (s : State) : Event → State → Prop
  | exit (child : Child) : Stepped s (.exit child) (s.exited child)
  | deliver {thread : Thread} (raised : s.raised = true) : Stepped s (.deliver thread) s.delivered
  | refuse {thread : Thread} {signal : Nat} (call : s.call = .none) :
      Stepped s (.callNew thread signal) (s.fail s.globals)
  | new {thread : Thread} {signal : Nat} (call : s.call = .none) :
      Stepped s (.callNew thread signal) (s.enter (.new .pipe thread s.globals))
  | read {index : Nat} {value : Value} (call : s.call = .none)
      (found : s.alive[index]? = some value) :
      Stepped s (.callRead index) (s.enter (.read .pop index))
  | drop {thread : Thread} {index : Nat} {value : Value} (call : s.call = .none)
      (found : s.alive[index]? = some value) : Stepped s (.callDrop thread index)
        { s with alive := s.alive.eraseIdx index, call := .drop .restore thread value }
  | newGoes {stage : NewStage} {thread : Thread} {before : Globals}
      (call : s.call = .new stage thread before) : Stepped s .goes (s.newGoes thread before stage)
  | readGoes {stage : ReadStage} {index : Nat} {value : Value} {next : State}
      (call : s.call = .read stage index) (found : s.alive[index]? = some value)
      (goes : s.readGoes index value stage = some next) : Stepped s .goes next
  | dropGoes {stage : DropStage} {thread : Thread} {value : Value}
      (call : s.call = .drop stage thread value) :
      Stepped s .goes (s.dropGoes thread value stage)
  | failsPipe {thread : Thread} {before : Globals} (call : s.call = .new .pipe thread before) :
      Stepped s .failsPipe (s.fail before)
  | failsBlock {fault : BlockFault} {next : State} : Stepped s (.failsBlock fault) next
  | failsSigaction {pipe : Pipe} {thread : Thread} {before : Globals}
      (call : s.call = .new (.sigaction pipe) thread before) :
      Stepped s .failsSigaction (s.enter (.new (.clear pipe) thread before))
  | failsRead {index : Nat} (call : s.call = .read .byte index) :
      Stepped s .failsRead (s.enter .none)
  | reaps {index place : Nat} {value : Value} {zombie : Zombie}
      (call : s.call = .read .reap index) (found : s.alive[index]? = some value)
      (exited : s.zombies[place]? = some zombie) :
      Stepped s (.reaps place) (s.reaps index value zombie place)

theorem stepped {s next : State} {event : Event} (does : Does s event next) :
    Stepped s event next := by
  unfold Does step at does
  cases event with
  | exit child =>
      obtain rfl := Option.some.inj does
      exact .exit child
  | deliver thread =>
      simp only at does
      split at does
      · next may =>
          obtain rfl := Option.some.inj does
          exact .deliver may.1
      · cases does
  | callNew thread signal =>
      simp only at does
      split at does
      · next call =>
          split at does
          · obtain rfl := Option.some.inj does
            exact .refuse call
          · obtain rfl := Option.some.inj does
            exact .new call
      · cases does
  | callRead index =>
      simp only at does
      split at does
      · next value call found =>
          obtain rfl := Option.some.inj does
          exact .read call found
      · cases does
  | callDrop thread index =>
      simp only at does
      split at does
      · next value call found =>
          obtain rfl := Option.some.inj does
          exact .drop call found
      · cases does
  | goes =>
      simp only at does
      split at does
      · cases does
      · next stage thread before call =>
          obtain rfl := Option.some.inj does
          exact .newGoes call
      · next stage index call =>
          obtain ⟨value, found, goes⟩ := Option.bind_eq_some_iff.mp does
          exact .readGoes call found goes
      · next stage thread value call =>
          obtain rfl := Option.some.inj does
          exact .dropGoes call
  | failsPipe =>
      simp only at does
      split at does
      · next thread before call =>
          obtain rfl := Option.some.inj does
          exact .failsPipe call
      · cases does
  | failsBlock fault => exact .failsBlock
  | failsSigaction =>
      simp only at does
      split at does
      · next pipe thread before call =>
          obtain rfl := Option.some.inj does
          exact .failsSigaction call
      · cases does
  | failsRead =>
      simp only at does
      split at does
      · next index call =>
          obtain rfl := Option.some.inj does
          exact .failsRead call
      · cases does
  | reaps place =>
      simp only at does
      split at does
      · next index call =>
          obtain ⟨value, found, goes⟩ := Option.bind_eq_some_iff.mp does
          obtain ⟨zombie, exited, rfl⟩ := Option.map_eq_some_iff.mp goes
          exact .reaps call found exited
      · cases does

/-! ### Children and signals -/

section Environment

variable {origin : Origin} {s later : State}

structure Outside (s later : State) : Prop where
  call : later.call = s.call
  globals : later.globals = s.globals
  alive : later.alive = s.alive
  fresh : later.fresh = s.fresh
  failed : later.failed = s.failed
  due : ∀ value : Value, s.globals.action = .relaySignal → s.globals.relay = some value.pipe →
    value.pipe ∈ s.globals.opened →
      Due s.call value.pending (s.Signalled value.pipe) (s.bytes value.pipe) →
        Due s.call value.pending (later.Signalled value.pipe) (later.bytes value.pipe)

theorem Settled.outside {globals : Globals} (settled : Settled origin s globals)
    (outside : Outside s later) (action : s.globals.action = globals.action)
    (relay : s.globals.relay = globals.relay) (opened : globals.opened ⊆ s.globals.opened) :
    Settled origin later globals := by
  rcases settled with ⟨none, quiet⟩ | ⟨value, single, held, due⟩
  · exact .inl ⟨outside.alive.trans none, quiet⟩
  · refine .inr ⟨value, outside.alive.trans single, held, ?_⟩
    rw [outside.call]
    exact outside.due value (action.trans held.action) (relay.trans held.relay)
      (opened held.opened) due

theorem Place.outside (place : Place origin s) (outside : Outside s later) :
    Place origin later := by
  unfold Place at place ⊢
  rw [outside.call, outside.globals, outside.alive]
  split
  · next none =>
      rw [none] at place
      exact Settled.outside place outside rfl rfl (List.Subset.refl _)
  · next stage thread before here =>
      rw [here] at place
      cases stage with
      | pipe =>
          obtain ⟨same, settled⟩ := place
          exact ⟨same, settled.outside outside (by rw [same]) (by rw [same])
            (same ▸ List.Subset.refl _)⟩
      | store pipe =>
          obtain ⟨same, settled⟩ := place
          exact ⟨same, settled.outside outside (by rw [same]) (by rw [same])
            (same ▸ List.subset_cons_self _ _)⟩
      | block pipe => exact place
      | sigaction pipe => exact place
      | clear pipe => exact place
      | close pipe => exact place
      | unblock => exact place
  · next stage index here =>
      rw [here] at place
      exact ⟨place.1, place.2.1,
        Settled.outside place.2.2 outside rfl rfl (List.Subset.refl _)⟩
  · next stage thread value here =>
      rw [here] at place
      exact place

theorem outside_exit (s : State) (child : Child) :
    Outside s (s.exited child) := by
  refine ⟨rfl, rfl, rfl, rfl, rfl, fun value _ _ _ due => due.mono ?_ (Nat.le_refl _)⟩
  rintro ⟨zombie, member, signalled⟩
  rcases List.mem_append.mp member with old | new
  · exact ⟨zombie, old, signalled⟩
  · obtain rfl := List.mem_singleton.mp new
    cases signalled

theorem outside_delivered (s : State) : Outside s s.delivered := by
  unfold State.delivered
  simp only
  split
  · next other => exact ⟨rfl, rfl, rfl, rfl, rfl, fun _ _ _ _ due => due⟩
  · next relays =>
      unfold State.relaySignal
      simp only
      split
      · next none =>
          exact ⟨rfl, rfl, rfl, rfl, rfl, fun value _ relay _ _ => by simp [none] at relay⟩
      · next pipe target =>
          split
          · refine ⟨rfl, rfl, rfl, rfl, rfl, fun value _ relay _ due => due.filled ?_⟩
            obtain rfl : pipe = value.pipe := Option.some.inj (target.symm.trans relay)
            simp
          · next full =>
              refine ⟨rfl, rfl, rfl, rfl, rfl, fun value _ relay opened due => due.filled ?_⟩
              obtain rfl : pipe = value.pipe := Option.some.inj (target.symm.trans relay)
              have many : ¬s.bytes value.pipe < PIPE_SIZE := fun room => full ⟨opened, room⟩
              have some_room : 0 < PIPE_SIZE := by decide
              exact Nat.lt_of_lt_of_le some_room (Nat.not_lt.mp many)

end Environment

/-! ### Calls -/

section Calls

variable {origin : Origin} {s : State}

/-- What holds between two calls. -/
theorem place_between (place : Place origin s) (call : s.call = .none) :
    Settled origin s s.globals := by
  unfold Place at place
  rwa [call] at place

/-- The value that is asked for is the only one. -/
theorem only_value {globals : Globals} (settled : Settled origin s globals) {index : Nat}
    {value : Value} (found : s.alive[index]? = some value) :
    index = 0 ∧ s.alive = [value] ∧ Held origin globals value ∧
      Due s.call value.pending (s.Signalled value.pipe) (s.bytes value.pipe) := by
  rcases settled with ⟨none, _⟩ | ⟨only, single, held⟩
  · rw [none] at found
    cases found
  · rw [single] at found
    obtain ⟨rfl, rfl⟩ : index = 0 ∧ only = value := by
      cases index with
      | zero => exact ⟨rfl, Option.some.inj found⟩
      | succ index => cases found
    exact ⟨rfl, single, held⟩

/-- Between the calls, and at the beginning of one, the same is asked of the pipe. -/
theorem Settled.enter {globals : Globals} (settled : Settled origin s globals)
    (call : s.call = .none) {next : Call}
    (same : ∀ pending signalled bytes, Due .none pending signalled bytes →
      Due next pending signalled bytes) : Settled origin (s.enter next) globals := by
  rcases settled with ⟨none, quiet⟩ | ⟨value, single, held, due⟩
  · exact .inl ⟨none, quiet⟩
  · rw [call] at due
    exact .inr ⟨value, single, held, same _ _ _ due⟩

theorem place_callDrop {thread : Thread} {index : Nat} {value : Value} (place : Place origin s)
    (call : s.call = .none) (found : s.alive[index]? = some value)
    (allowed : Allowed s (.callDrop thread index)) : Place origin
      { s with alive := s.alive.eraseIdx index, call := .drop .restore thread value } := by
  obtain ⟨rfl, single, held, _⟩ := only_value (place_between place call) found
  obtain rfl : value.creator = thread := allowed value found
  exact ⟨by simp [single], held.suitable, held.old, held.blocked⟩

/-- A call of `new` that fails where nothing has been changed but the children. -/
theorem Settled.fail {before : Globals} {thread : Thread} {stage : NewStage}
    (settled : Settled origin s before) (call : s.call = .new stage thread before)
    (same : s.globals = before) : Place origin (s.fail before) := by
  rcases settled with ⟨none, quiet⟩ | ⟨value, single, held, due⟩
  · exact .inl ⟨none, same ▸ quiet⟩
  · rw [call] at due
    exact .inr ⟨value, single, same ▸ held, due⟩

theorem masked_unblock {thread : Thread} (suitable : Suitable origin thread) :
    Function.update (origin.masked thread) thread false = origin.blocked := by
  funext other
  by_cases same : other = thread
  · subst same
    simp [suitable.unblocked]
  · simp [Origin.masked, same]

theorem place_newGoes {thread : Thread} {before : Globals} {stage : NewStage} (aged : Aged s)
    (place : Place origin s) (call : s.call = .new stage thread before)
    (allowed : Allowed s .goes) : Place origin (s.newGoes thread before stage) := by
  unfold Place at place
  rw [call] at place
  unfold Allowed at allowed
  rw [call] at allowed
  cases stage with
  | pipe =>
      obtain ⟨rfl, settled⟩ := place
      refine ⟨rfl, ?_⟩
      rcases settled with ⟨none, quiet⟩ | ⟨value, single, held, due⟩
      · exact .inl ⟨none, quiet⟩
      · have older := aged.values value (single ▸ List.mem_singleton_self value)
        rw [call] at due
        rw [State.bound, call] at older
        have other : value.pipe ≠ s.fresh := Nat.ne_of_lt older
        refine .inr ⟨value, single, held, ?_⟩
        have bytes : (s.newGoes thread s.globals .pipe).bytes value.pipe = s.bytes value.pipe := by
          simp [State.newGoes, other]
        rw [bytes]
        exact due
  | store pipe =>
      obtain ⟨same, settled⟩ := place
      rcases settled with ⟨none, quiet⟩ | ⟨value, single, _⟩
      · refine ⟨none, quiet, ?_⟩
        simp only [State.newGoes, State.setRelay, State.enter, same]
      · have absent : s.alive = [] := allowed
        rw [single] at absent
        cases absent
  | block pipe =>
      obtain ⟨none, quiet, same⟩ := place
      obtain ⟨unblocked, other, apart, free⟩ := allowed
      have mask : s.globals.blocked = origin.blocked := by rw [same, ← quiet.blocked]
      rw [mask] at unblocked free
      have goes : s.newGoes thread before (.block pipe) =
          (s.setBlocked thread true).enter (.new (.sigaction pipe) thread before) := by
        simp only [State.newGoes, mask, unblocked, Bool.false_eq_true, if_false]
      rw [goes]
      refine ⟨none, quiet, ⟨unblocked, other, apart, free⟩, ?_⟩
      simp only [State.setBlocked, State.enter, mask]
      rw [same]
      rfl
  | sigaction pipe =>
      obtain ⟨none, quiet, suitable, same⟩ := place
      refine .inr ⟨⟨pipe, SIGCHLD, s.globals.action, [], thread⟩, ?_, ?_, ?_⟩
      · simp [State.newGoes, State.setAction, none]
      · refine ⟨suitable, ?_, rfl, ?_, ?_, rfl, ?_⟩
        · simp only [State.newGoes, State.setAction, same]
        · simp only [State.newGoes, State.setAction, same]
        · simp only [State.newGoes, State.setAction, same, List.mem_cons_self]
        · rw [same]
          exact quiet.action
      · rintro (some_pending | ⟨zombie, member, relayed⟩)
        · exact absurd rfl some_pending
        · have older := aged.zombies zombie member pipe relayed
          rw [State.bound, call] at older
          exact absurd older (Nat.lt_irrefl pipe)
  | clear pipe =>
      obtain ⟨none, quiet, suitable, same⟩ := place
      refine ⟨none, quiet, suitable, ?_⟩
      simp only [State.newGoes, State.setRelay, State.enter, same]
      rw [← quiet.relay]
  | close pipe =>
      obtain ⟨none, quiet, suitable, same⟩ := place
      refine ⟨none, quiet, suitable, ?_⟩
      simp only [State.newGoes, State.close, State.enter, same, List.erase_cons_head]
  | unblock =>
      obtain ⟨none, quiet, suitable, same⟩ := place
      refine .inl ⟨none, ?_, ?_, ?_⟩
      · simp only [State.newGoes, State.setBlocked, State.fail, same, masked_unblock suitable]
      · simp only [State.newGoes, State.setBlocked, State.fail, same, quiet.action]
      · simp only [State.newGoes, State.setBlocked, State.fail, same, quiet.relay]

/-- What holds during a read. -/
theorem place_reading {stage : ReadStage} {index : Nat} (place : Place origin s)
    (call : s.call = .read stage index) {value : Value} (found : s.alive[index]? = some value) :
    index = 0 ∧ s.alive = [value] ∧ Held origin s.globals value ∧
      Due (.read stage index) value.pending (s.Signalled value.pipe) (s.bytes value.pipe) := by
  unfold Place at place
  rw [call] at place
  have only := only_value place.2.2 found
  rwa [call] at only

theorem place_of_held {value : Value} (single : s.alive = [value])
    (held : Held origin s.globals value) (call : s.call = .none)
    (due : Due .none value.pending (s.Signalled value.pipe) (s.bytes value.pipe)) :
    Place origin s := by
  unfold Place
  rw [call]
  exact .inr ⟨value, single, held, call ▸ due⟩

theorem place_of_reading {value : Value} {stage : ReadStage} (single : s.alive = [value])
    (held : Held origin s.globals value) (call : s.call = .read stage 0)
    (due : Due (.read stage 0) value.pending (s.Signalled value.pipe) (s.bytes value.pipe)) :
    Place origin s := by
  unfold Place
  rw [call]
  exact ⟨rfl, by simp [single], .inr ⟨value, single, held, call ▸ due⟩⟩

theorem Held.requeued {globals : Globals} {value : Value} (held : Held origin globals value)
    (pending : List Siginfo) : Held origin globals { value with pending := pending } :=
  ⟨held.suitable, held.blocked, held.action, held.relay, held.opened, held.signal, held.old⟩

/-- The first is taken off a queue, of which more than one asks for a byte. -/
theorem place_popQueue {value : Value} {first : Siginfo} {rest : List Siginfo} {otherwise : Call}
    (single : s.alive = [value]) (held : Held origin s.globals value)
    (queue : value.pending = first :: rest)
    (due : (rest ≠ [] ∨ s.Signalled value.pipe) → 0 < s.bytes value.pipe) :
    Place origin (s.popQueue 0 value otherwise) := by
  have goes : s.popQueue 0 value otherwise =
      { s with alive := s.alive.set 0 { value with pending := rest }
               returned := s.returned ++ [first]
               call := .none } := by
    simp only [State.popQueue, queue]
  rw [goes]
  exact place_of_held (by simp [single]) (held.requeued rest) rfl due

theorem place_readGoes {stage : ReadStage} {index : Nat} {value : Value} {next : State}
    (place : Place origin s) (call : s.call = .read stage index)
    (found : s.alive[index]? = some value) (goes : s.readGoes index value stage = some next) :
    Place origin next := by
  obtain ⟨rfl, single, held, due⟩ := place_reading place call found
  cases stage with
  | pop =>
      obtain rfl := Option.some.inj goes
      cases queue : value.pending with
      | nil =>
          have stays : s.popQueue 0 value (.read .byte 0) = s.enter (.read .byte 0) := by
            simp only [State.popQueue, queue]
          rw [stays]
          exact place_of_reading single held rfl ⟨queue, fun signalled => due (.inr signalled)⟩
      | cons first rest =>
          have some_pending : value.pending ≠ [] := by simp [queue]
          exact place_popQueue single held queue fun _ => due (.inl some_pending)
  | byte =>
      unfold State.readGoes at goes
      simp only at goes
      split at goes
      · next empty =>
          obtain rfl := Option.some.inj goes
          refine place_of_held single held rfl ?_
          rintro (some_pending | signalled)
          · exact absurd due.1 some_pending
          · exact due.2 signalled
      · obtain rfl := Option.some.inj goes
        exact place_of_reading single held rfl (.inl (by simp [due.1]))
  | reap =>
      unfold State.readGoes at goes
      simp only at goes
      split at goes
      · next none =>
          obtain rfl := Option.some.inj goes
          refine place_of_reading single held rfl ?_
          rintro (many | ⟨zombie, member, _⟩)
          · exact due.resolve_left (Nat.not_le.mpr many)
          · have member : zombie ∈ s.zombies := member
            rw [List.isEmpty_iff.mp none] at member
            cases member
      · cases goes
  | popReaped =>
      obtain rfl := Option.some.inj goes
      cases queue : value.pending with
      | nil =>
          have stays : s.popQueue 0 value .none = s.enter .none := by
            simp only [State.popQueue, queue]
          rw [stays]
          refine place_of_held single held rfl ?_
          rintro (some_pending | signalled)
          · exact absurd queue some_pending
          · exact due (.inr signalled)
      | cons first rest =>
          refine place_popQueue single held queue ?_
          rintro (more | signalled)
          · refine due (.inl ?_)
            rw [queue, List.length_cons]
            exact Nat.succ_lt_succ (List.length_pos_iff.mpr more)
          · exact due (.inr signalled)

theorem place_reaps {index place_of : Nat} {value : Value} {zombie : Zombie}
    (place : Place origin s) (call : s.call = .read .reap index)
    (found : s.alive[index]? = some value) (allowed : Allowed s (.reaps place_of)) :
    Place origin (s.reaps index value zombie place_of) := by
  obtain ⟨rfl, single, held, due⟩ := place_reading place call found
  unfold Allowed at allowed
  rw [call] at allowed
  refine place_of_reading (by simp [State.reaps, single]; rfl) (held.requeued _) call ?_
  rcases allowed value found with empty | some_bytes
  · exact .inl (by simp [empty])
  · exact .inr some_bytes

theorem place_dropGoes {stage : DropStage} {thread : Thread} {value : Value}
    (place : Place origin s) (call : s.call = .drop stage thread value) :
    Place origin (s.dropGoes thread value stage) := by
  unfold Place at place
  rw [call] at place
  obtain ⟨none, suitable, old, facts⟩ := place
  cases stage with
  | restore => exact ⟨none, suitable, old, facts, old⟩
  | clear => exact ⟨none, suitable, old, facts.1, facts.2, rfl⟩
  | unblock =>
      obtain ⟨mask, action, relay⟩ := facts
      refine ⟨none, suitable, old, ?_, action, relay⟩
      simp only [State.dropGoes, State.setBlocked, State.enter, mask, masked_unblock suitable]
  | close => exact .inl ⟨none, facts.blocked, facts.action, facts.relay⟩

/-- A read that fails has taken nothing. -/
theorem place_failsRead {index : Nat} (place : Place origin s)
    (call : s.call = .read .byte index) : Place origin (s.enter .none) := by
  unfold Place at place
  rw [call] at place
  rcases place.2.2 with ⟨none, quiet⟩ | ⟨value, single, held, due⟩
  · exact .inl ⟨none, quiet⟩
  · rw [call] at due
    refine place_of_held single held rfl ?_
    rintro (some_pending | signalled)
    · exact absurd due.1 some_pending
    · exact due.2 signalled

/-- One step of a run keeps the place of the calls. -/
theorem place_step {event : Event} {next : State} (aged : Aged s) (place : Place origin s)
    (does : Does s event next) (allowed : Allowed s event) : Place origin next := by
  cases stepped does with
  | exit child => exact place.outside (outside_exit s child)
  | deliver => exact place.outside (outside_delivered s)
  | refuse call => exact (place_between place call).enter call fun _ _ _ due => due
  | new call => exact ⟨rfl, (place_between place call).enter call fun _ _ _ due => due⟩
  | read call found =>
      have settled := place_between place call
      obtain ⟨rfl, single, _⟩ := only_value settled found
      exact ⟨rfl, by simp [State.enter, single], settled.enter call fun _ _ _ due => due⟩
  | drop call found => exact place_callDrop place call found allowed
  | newGoes call => exact place_newGoes aged place call allowed
  | readGoes call found goes => exact place_readGoes place call found goes
  | dropGoes call => exact place_dropGoes place call
  | failsPipe call =>
      unfold Place at place
      rw [call] at place
      exact place.2.fail call place.1
  | failsBlock => exact absurd allowed id
  | failsSigaction call =>
      unfold Place at place ⊢
      rw [call] at place
      exact place
  | failsRead call => exact place_failsRead place call
  | reaps call found => exact place_reaps place call found allowed

/-! ### Pipes are new -/

theorem Aged.bound_le (aged : Aged s) : s.bound ≤ s.fresh := by
  unfold State.bound
  cases opens : s.call.opens with
  | none => exact Nat.le_refl _
  | some pipe => exact Nat.le_of_lt (aged.opens pipe opens)

/-- Where no pipe comes up that was not there, and the call makes none. -/
theorem Aged.keep {next : State} (aged : Aged s) (call : next.call.opens = none)
    (fresh : next.fresh = s.fresh)
    (values : ∀ value ∈ next.alive, ∃ old ∈ s.alive, value.pipe = old.pipe)
    (zombies : ∀ zombie ∈ next.zombies, zombie ∈ s.zombies)
    (relay : next.globals.action = .relaySignal → ∀ pipe, next.globals.relay = some pipe →
      s.globals.action = .relaySignal ∧ s.globals.relay = some pipe) : Aged next := by
  have up : s.bound ≤ next.bound := by
    change s.bound ≤ next.call.opens.getD next.fresh
    rw [call, fresh]
    exact aged.bound_le
  refine ⟨fun pipe opens => ?_, fun value member => ?_, fun zombie member pipe relayed => ?_,
    fun action pipe target => ?_⟩
  · rw [call] at opens
    cases opens
  · obtain ⟨old, listed, same⟩ := values value member
    exact same ▸ Nat.lt_of_lt_of_le (aged.values old listed) up
  · exact Nat.lt_of_lt_of_le (aged.zombies zombie (zombies zombie member) pipe relayed) up
  · obtain ⟨was, target⟩ := relay action pipe target
    exact Nat.lt_of_lt_of_le (aged.relay was pipe target) up

theorem Aged.enter (aged : Aged s) {call : Call} (opens : call.opens = none) :
    Aged (s.enter call) :=
  aged.keep opens rfl (fun value member => ⟨value, member, rfl⟩) (fun _ member => member)
    fun action _ target => ⟨action, target⟩

theorem Aged.fail (aged : Aged s) (before : Globals) : Aged (s.fail before) :=
  aged.keep rfl rfl (fun value member => ⟨value, member, rfl⟩) (fun _ member => member)
    fun action _ target => ⟨action, target⟩

theorem Aged.exit (aged : Aged s) (child : Child) :
    Aged (s.exited child) := by
  refine ⟨aged.opens, aged.values, fun zombie member pipe relayed => ?_, aged.relay⟩
  rcases List.mem_append.mp member with old | new
  · exact aged.zombies zombie old pipe relayed
  · obtain rfl := List.mem_singleton.mp new
    cases relayed

theorem delivered_same (s : State) : s.delivered.call = s.call ∧
    s.delivered.globals = s.globals ∧ s.delivered.alive = s.alive ∧
      s.delivered.fresh = s.fresh ∧ ∀ zombie ∈ s.delivered.zombies,
        zombie ∈ s.zombies ∨
          s.globals.action = .relaySignal ∧ zombie.relayed = s.globals.relay := by
  unfold State.delivered
  simp only
  split
  · exact ⟨rfl, rfl, rfl, rfl, fun _ member => .inl member⟩
  · next relays =>
      have marked : ∀ zombie ∈ s.zombies.map fun zombie =>
          { zombie with relayed := s.globals.relay }, zombie ∈ s.zombies ∨
            s.globals.action = .relaySignal ∧ zombie.relayed = s.globals.relay := by
        intro zombie member
        obtain ⟨old, _, rfl⟩ := List.mem_map.mp member
        exact .inr ⟨relays, rfl⟩
      unfold State.relaySignal
      simp only
      split
      · exact ⟨rfl, rfl, rfl, rfl, marked⟩
      · split <;> exact ⟨rfl, rfl, rfl, rfl, marked⟩

theorem Aged.delivered (aged : Aged s) : Aged s.delivered := by
  obtain ⟨call, globals, alive, fresh, marked⟩ := delivered_same s
  have bound : s.delivered.bound = s.bound := by rw [State.bound, call, fresh, State.bound]
  refine ⟨?_, ?_, fun zombie member pipe relayed => ?_, ?_⟩
  · rw [call, fresh]
    exact aged.opens
  · rw [alive, bound]
    exact aged.values
  · rw [bound]
    rcases marked zombie member with old | ⟨relays, target⟩
    · exact aged.zombies zombie old pipe relayed
    · exact aged.relay relays pipe (target.symm.trans relayed)
  · rw [globals, bound]
    exact aged.relay

theorem Aged.newGoes {thread : Thread} {before : Globals} {stage : NewStage} (aged : Aged s)
    (place : Place origin s) (call : s.call = .new stage thread before)
    (allowed : Allowed s .goes) : Aged (s.newGoes thread before stage) := by
  unfold Place at place
  rw [call] at place
  unfold Allowed at allowed
  rw [call] at allowed
  have bound : s.bound = (Call.new stage thread before).opens.getD s.fresh := by
    rw [State.bound, call]
  have opens_below := aged.opens
  have values := aged.values
  have zombies := aged.zombies
  have relay := aged.relay
  rw [bound] at values zombies relay
  rw [call] at opens_below
  cases stage with
  | pipe =>
      refine ⟨fun pipe opens => ?_, fun value member => ?_, fun zombie member pipe relayed => ?_,
        fun action pipe target => ?_⟩
      · obtain rfl := Option.some.inj opens
        exact Nat.lt_succ_self _
      · exact values value member
      · exact zombies zombie member pipe relayed
      · exact relay action pipe target
  | store pipe =>
      have below := opens_below pipe rfl
      refine ⟨fun other opens => ?_, fun value member => ?_, fun zombie member other relayed => ?_,
        fun action other target => ?_⟩
      · obtain rfl := Option.some.inj opens
        exact below
      · exact values value member
      · exact zombies zombie member other relayed
      · -- The target is set before the handler is there.
        obtain ⟨same, settled⟩ := place
        have absent : s.alive = [] := allowed
        rcases settled with ⟨_, quiet⟩ | ⟨value, single, _⟩
        · have relays : s.globals.action = .relaySignal := action
          rw [same, quiet.action] at relays
          cases relays
        · rw [single] at absent
          cases absent
  | block pipe =>
      have below := opens_below pipe rfl
      have goes : s.newGoes thread before (.block pipe) =
          (s.setBlocked thread true).enter (.new (.sigaction pipe) thread before) := by
        simp only [State.newGoes, allowed.1, Bool.false_eq_true, if_false]
      rw [goes]
      refine ⟨fun other opens => ?_, fun value member => ?_, fun zombie member other relayed => ?_,
        fun action other target => ?_⟩
      · obtain rfl := Option.some.inj opens
        exact below
      · exact values value member
      · exact zombies zombie member other relayed
      · exact relay action other target
  | sigaction pipe =>
      have below := opens_below pipe rfl
      obtain ⟨none, quiet, suitable, same⟩ := place
      refine ⟨fun other opens => (nomatch opens), fun value member => ?_,
        fun zombie member other relayed => ?_, fun action other target => ?_⟩
      · have listed : value ∈ s.alive ++ [⟨pipe, SIGCHLD, s.globals.action, [], thread⟩] := member
        rw [none, List.nil_append] at listed
        obtain rfl := List.mem_singleton.mp listed
        exact below
      · have older : other < pipe := zombies zombie member other relayed
        exact Nat.lt_trans older below
      · have target : s.globals.relay = some other := target
        rw [same] at target
        obtain rfl := Option.some.inj target
        exact below
  | clear pipe =>
      refine aged.keep (by rfl) (by rfl) (fun value member => ⟨value, member, rfl⟩)
        (fun _ member => member) fun _ _ target => ?_
      cases target
  | close pipe =>
      exact aged.keep (by rfl) (by rfl) (fun value member => ⟨value, member, rfl⟩)
        (fun _ member => member) fun action _ target => ⟨action, target⟩
  | unblock =>
      exact aged.keep (by rfl) (by rfl) (fun value member => ⟨value, member, rfl⟩)
        (fun _ member => member) fun action _ target => ⟨action, target⟩

/-- A value whose queue has changed. -/
theorem mem_requeued {values : List Value} {index : Nat} {value changed : Value}
    (found : values[index]? = some value) (same : changed.pipe = value.pipe) :
    ∀ other ∈ values.set index changed, ∃ old ∈ values, other.pipe = old.pipe := by
  intro other member
  rcases List.mem_or_eq_of_mem_set member with old | rfl
  · exact ⟨other, old, rfl⟩
  · exact ⟨value, List.mem_of_getElem? found, same⟩

theorem Aged.popQueue (aged : Aged s) {index : Nat} {value : Value}
    (found : s.alive[index]? = some value) {otherwise : Call} (opens : otherwise.opens = none) :
    Aged (s.popQueue index value otherwise) := by
  unfold State.popQueue
  split
  · exact aged.enter opens
  · exact aged.keep rfl rfl (mem_requeued found rfl) (fun _ member => member)
      fun action _ target => ⟨action, target⟩

theorem Aged.readGoes (aged : Aged s) {stage : ReadStage} {index : Nat} {value : Value}
    {next : State} (found : s.alive[index]? = some value)
    (goes : s.readGoes index value stage = some next) : Aged next := by
  unfold State.readGoes at goes
  cases stage with
  | pop =>
      obtain rfl := Option.some.inj goes
      exact aged.popQueue found rfl
  | byte =>
      simp only at goes
      split at goes
      · obtain rfl := Option.some.inj goes
        exact aged.enter rfl
      · obtain rfl := Option.some.inj goes
        exact aged.keep rfl rfl (fun value member => ⟨value, member, rfl⟩) (fun _ member => member)
          fun action _ target => ⟨action, target⟩
  | reap =>
      simp only at goes
      split at goes
      · obtain rfl := Option.some.inj goes
        exact aged.enter rfl
      · cases goes
  | popReaped =>
      obtain rfl := Option.some.inj goes
      exact aged.popQueue found rfl

theorem Aged.dropGoes (aged : Aged s) (place : Place origin s) {stage : DropStage}
    {thread : Thread} {value : Value} (call : s.call = .drop stage thread value) :
    Aged (s.dropGoes thread value stage) := by
  unfold Place at place
  rw [call] at place
  have old := place.2.2.1
  have values : ∀ value ∈ s.alive, ∃ old ∈ s.alive, value.pipe = old.pipe :=
    fun value member => ⟨value, member, rfl⟩
  cases stage with
  | restore =>
      refine aged.keep rfl rfl values (fun _ member => member) fun action _ _ => ?_
      have relays : value.oldAction = .relaySignal := action
      rw [old] at relays
      cases relays
  | clear =>
      refine aged.keep (by rfl) (by rfl) values (fun _ member => member) fun _ _ target => ?_
      cases target
  | unblock =>
      exact aged.keep (by rfl) (by rfl) values (fun _ member => member)
        fun action _ target => ⟨action, target⟩
  | close =>
      exact aged.keep (by rfl) (by rfl) values (fun _ member => member)
        fun action _ target => ⟨action, target⟩

theorem aged_step {event : Event} {next : State} (aged : Aged s) (place : Place origin s)
    (does : Does s event next) (allowed : Allowed s event) : Aged next := by
  cases stepped does with
  | exit child => exact aged.exit child
  | deliver => exact aged.delivered
  | refuse => exact aged.fail _
  | new => exact aged.enter rfl
  | read => exact aged.enter rfl
  | drop =>
      exact aged.keep rfl rfl (fun value member => ⟨value, List.mem_of_mem_eraseIdx member, rfl⟩)
        (fun _ member => member) fun action _ target => ⟨action, target⟩
  | newGoes call => exact aged.newGoes place call allowed
  | readGoes call found goes => exact aged.readGoes found goes
  | dropGoes call => exact aged.dropGoes place call
  | failsPipe => exact aged.fail _
  | failsBlock => exact absurd allowed id
  | failsSigaction => exact aged.enter rfl
  | failsRead => exact aged.enter rfl
  | reaps call found =>
      exact aged.keep (by simp [State.reaps, call, Call.opens]) rfl (mem_requeued found rfl)
        (fun _ member => List.mem_of_mem_eraseIdx member) fun action _ target => ⟨action, target⟩

/-! ### Every exit once -/

def State.accounted (s : State) : List Siginfo := s.returned ++ s.queued ++ s.waiting ++ s.lost

theorem waiting_delivered (s : State) : s.delivered.waiting = s.waiting := by
  unfold State.delivered
  simp only
  split
  · rfl
  · simp only [State.waiting, List.map_map]
    rfl

theorem books_delivered (s : State) : s.delivered.accounted = s.accounted ∧
    s.delivered.exits = s.exits ∧ s.delivered.failed = s.failed := by
  have rest : s.delivered.returned = s.returned ∧ s.delivered.lost = s.lost ∧
      s.delivered.exits = s.exits ∧ s.delivered.failed = s.failed := by
    unfold State.delivered State.relaySignal
    simp only
    split
    · exact ⟨rfl, rfl, rfl, rfl⟩
    · split
      · exact ⟨rfl, rfl, rfl, rfl⟩
      · split <;> exact ⟨rfl, rfl, rfl, rfl⟩
  obtain ⟨returned, lost, exits, failed⟩ := rest
  obtain ⟨call, _, alive, _⟩ := delivered_same s
  refine ⟨?_, exits, failed⟩
  simp only [State.accounted, State.queued, State.dropping, returned, lost, alive, call,
    waiting_delivered]

/-- What a call of `new` does is not about the children. -/
theorem books_newGoes {thread : Thread} {before : Globals} {stage : NewStage}
    (call : s.call = .new stage thread before) :
    (s.newGoes thread before stage).accounted = s.accounted ∧
      (s.newGoes thread before stage).exits = s.exits := by
  have none : s.dropping = [] := by rw [State.dropping, call]
  cases stage with
  | block pipe =>
      unfold State.newGoes
      simp only
      split
      · exact ⟨by simp only [State.accounted, State.queued, none]; rfl, rfl⟩
      · exact ⟨by simp only [State.accounted, State.queued, none]; rfl, rfl⟩
  | sigaction pipe =>
      refine ⟨?_, rfl⟩
      have queue : (s.newGoes thread before (.sigaction pipe)).queued = s.queued := by
        have after : (s.newGoes thread before (.sigaction pipe)).queued =
            (s.alive ++ [Value.mk pipe SIGCHLD s.globals.action [] thread] ++ []).flatMap
              Value.pending := rfl
        rw [after, State.queued, none]
        simp
      simp only [State.accounted, queue]
      rfl
  | _ => exact ⟨by simp only [State.accounted, State.queued, none]; rfl, rfl⟩

theorem queued_single {value : Value} (single : s.alive = [value]) (none : s.dropping = []) :
    s.queued = value.pending := by
  simp [State.queued, single, none]

theorem exits_popQueue (s : State) (index : Nat) (value : Value) (otherwise : Call) :
    (s.popQueue index value otherwise).exits = s.exits := by
  unfold State.popQueue
  split <;> rfl

theorem once_popQueue {value : Value} {otherwise : Call} (single : s.alive = [value])
    (none : s.dropping = []) (other : (s.enter otherwise).dropping = []) :
    ((s.popQueue 0 value otherwise).accounted).Perm s.accounted := by
  refine List.Perm.of_eq ?_
  unfold State.popQueue
  cases queue : value.pending with
  | nil =>
      simp only
      rw [State.accounted, State.accounted, queued_single single none,
        queued_single (by exact single) other]
      rfl
  | cons first rest =>
      simp only
      have before := queued_single single none
      have after : State.queued
          { s with alive := s.alive.set 0 { value with pending := rest },
                   returned := s.returned ++ [first], call := .none } = rest := by
        simp [State.queued, State.dropping, single]
      rw [State.accounted, State.accounted, after, before, queue]
      simp [State.waiting]

theorem dropping_reading {stage : ReadStage} {index : Nat} (call : s.call = .read stage index) :
    s.dropping = [] := by
  rw [State.dropping, call]

theorem once_readGoes {stage : ReadStage} {index : Nat} {value : Value} {next : State}
    (place : Place origin s) (call : s.call = .read stage index)
    (found : s.alive[index]? = some value) (goes : s.readGoes index value stage = some next) :
    next.accounted.Perm s.accounted ∧ next.exits = s.exits := by
  obtain ⟨rfl, single, _⟩ := place_reading place call found
  have none := dropping_reading call
  have entered : ∀ other : Call, (s.enter other).dropping = [] →
      ((s.enter other).accounted).Perm s.accounted := by
    intro other empty
    refine List.Perm.of_eq ?_
    rw [State.accounted, State.accounted, queued_single single none,
      queued_single (by exact single) empty]
    rfl
  unfold State.readGoes at goes
  cases stage with
  | pop =>
      obtain rfl := Option.some.inj goes
      exact ⟨once_popQueue single none rfl, exits_popQueue _ _ _ _⟩
  | byte =>
      simp only at goes
      split at goes
      · obtain rfl := Option.some.inj goes
        exact ⟨entered _ rfl, rfl⟩
      · obtain rfl := Option.some.inj goes
        exact ⟨entered (.read .reap 0) rfl, rfl⟩
  | reap =>
      simp only at goes
      split at goes
      · obtain rfl := Option.some.inj goes
        exact ⟨entered _ rfl, rfl⟩
      · cases goes
  | popReaped =>
      obtain rfl := Option.some.inj goes
      exact ⟨once_popQueue single none rfl, exits_popQueue _ _ _ _⟩

/-- A child that is reaped goes over to the queue. -/
theorem once_reaps {index place_of : Nat} {value : Value} {zombie : Zombie}
    (place : Place origin s) (call : s.call = .read .reap index)
    (found : s.alive[index]? = some value) (exited : s.zombies[place_of]? = some zombie) :
    (s.reaps index value zombie place_of).accounted.Perm s.accounted := by
  obtain ⟨rfl, single, held, _⟩ := place_reading place call found
  have none := dropping_reading call
  obtain ⟨within, at_place⟩ := List.getElem?_eq_some_iff.mp exited
  have told : siginfoFromWaitStatus value.signal zombie.child.pid zombie.child.ending.status =
      zombie.child.told := by
    rw [held.signal, siginfo_told]
  have after : (s.reaps 0 value zombie place_of).queued = value.pending ++ [zombie.child.told] := by
    rw [← told]
    simp [State.queued, State.reaps, State.dropping, single, call]
  have moved : (zombie.child.told :: (s.reaps 0 value zombie place_of).waiting).Perm
      s.waiting := by
    have taken := (List.getElem_cons_eraseIdx_perm within).map fun zombie : Zombie =>
      zombie.child.told
    rw [at_place] at taken
    exact taken
  rw [State.accounted, State.accounted, after, queued_single single none]
  change (s.returned ++ (value.pending ++ [zombie.child.told]) ++
    (s.reaps 0 value zombie place_of).waiting ++ s.lost).Perm _
  refine List.Perm.append_right _ ?_
  rw [← List.append_assoc, List.append_assoc (s.returned ++ value.pending)]
  exact List.Perm.append_left _ moved

theorem once_dropGoes {stage : DropStage} {thread : Thread} {value : Value}
    (place : Place origin s) (call : s.call = .drop stage thread value) :
    (s.dropGoes thread value stage).accounted.Perm s.accounted := by
  unfold Place at place
  rw [call] at place
  have none : s.alive = [] := place.1
  have before : s.queued = value.pending := by
    simp [State.queued, State.dropping, none, call]
  cases stage with
  | close =>
      have after : (s.dropGoes thread value .close).queued = [] := by
        simp [State.queued, State.dropping, State.dropGoes, State.close, none]
      rw [State.accounted, State.accounted, after, before]
      change (s.returned ++ [] ++ s.waiting ++ (s.lost ++ value.pending)).Perm _
      rw [List.append_nil, List.append_assoc, List.append_assoc, List.append_assoc]
      refine List.Perm.append_left _ ?_
      rw [← List.append_assoc]
      exact List.perm_append_comm
  | _ =>
      refine List.Perm.of_eq ?_
      simp [State.accounted, State.queued, State.dropping, State.dropGoes, State.setAction,
        State.setRelay, State.setBlocked, State.enter, State.waiting, none, call]

theorem once_step {event : Event} {next : State} (place : Place origin s)
    (does : Does s event next) (allowed : Allowed s event)
    (once : (s.exits.map Child.told).Perm s.accounted) :
    (next.exits.map Child.told).Perm next.accounted := by
  -- Between two calls nothing is being dropped, so that entering one leaves the books alone.
  have idle : s.call = .none → ∀ other : Call, (s.enter other).dropping = [] →
      ((s.enter other).exits.map Child.told).Perm (s.enter other).accounted := by
    intro call other empty
    have none : s.dropping = [] := by rw [State.dropping, call]
    rw [State.accounted, State.queued] at once ⊢
    rw [none] at once
    rw [empty]
    exact once
  cases stepped does with
  | exit child =>
      have moved : (s.accounted ++ [child.told]).Perm (s.exited child).accounted := by
        have waiting : (s.exited child).waiting = s.waiting ++ [child.told] := by
          simp [State.waiting, State.exited]
        rw [State.accounted, State.accounted, waiting]
        change (s.returned ++ s.queued ++ s.waiting ++ s.lost ++ [child.told]).Perm
          (s.returned ++ s.queued ++ (s.waiting ++ [child.told]) ++ s.lost)
        rw [List.append_assoc _ s.lost, ← List.append_assoc _ s.waiting, List.append_assoc _ [_]]
        exact List.Perm.append_left _ List.perm_append_comm
      have exits : (s.exited child).exits.map Child.told =
          s.exits.map Child.told ++ [child.told] := by
        simp [State.exited]
      rw [exits]
      exact (once.append_right _).trans moved
  | deliver =>
      obtain ⟨same, exits, _⟩ := books_delivered s
      rw [same, exits]
      exact once
  | refuse call => exact idle call .none rfl
  | new call => exact idle call _ rfl
  | read call => exact idle call _ rfl
  | drop call found =>
      obtain ⟨rfl, single, _⟩ := only_value (place_between place call) found
      have none : s.dropping = [] := by rw [State.dropping, call]
      rw [State.accounted, queued_single single none] at once
      simpa [State.accounted, State.queued, State.dropping, State.waiting, single] using once
  | newGoes call =>
      obtain ⟨same, exits⟩ := books_newGoes call
      rw [same, exits]
      exact once
  | readGoes call found goes =>
      obtain ⟨moved, exits⟩ := once_readGoes place call found goes
      rw [exits]
      exact once.trans moved.symm
  | dropGoes call =>
      have moved := once_dropGoes place call
      have exits : ∀ stage thread value, (s.dropGoes thread value stage).exits = s.exits := by
        intro stage thread value
        cases stage <;> rfl
      rw [exits]
      exact once.trans moved.symm
  | failsPipe call =>
      have none : s.dropping = [] := by rw [State.dropping, call]
      rw [State.accounted, State.queued, none] at once
      exact once
  | failsBlock => exact absurd allowed id
  | failsSigaction call =>
      have none : s.dropping = [] := by rw [State.dropping, call]
      rw [State.accounted, State.queued, none] at once
      exact once
  | failsRead call =>
      have none : s.dropping = [] := by rw [State.dropping, call]
      rw [State.accounted, State.queued, none] at once
      exact once
  | reaps call found exited => exact once.trans (once_reaps place call found exited).symm

/-! ### Calls of `new` that fail -/

/-- What is noted of the calls that fail says that they have changed nothing. -/
theorem failed_step {event : Event} {next : State} (place : Place origin s)
    (does : Does s event next) (allowed : Allowed s event)
    (failed : ∀ pair ∈ s.failed, pair.2 = pair.1) : ∀ pair ∈ next.failed, pair.2 = pair.1 := by
  have noted : ∀ before : Globals, s.globals = before →
      ∀ pair ∈ (s.fail before).failed, pair.2 = pair.1 := by
    intro before same pair member
    rcases List.mem_append.mp member with old | new
    · exact failed pair old
    · rw [List.mem_singleton.mp new]
      exact same
  cases stepped does with
  | deliver =>
      rw [(books_delivered s).2.2]
      exact failed
  | refuse => exact noted s.globals rfl
  | @newGoes stage thread before call =>
      unfold Place at place
      rw [call] at place
      unfold Allowed at allowed
      rw [call] at allowed
      cases stage with
      | block pipe =>
          have goes : s.newGoes thread before (.block pipe) =
              (s.setBlocked thread true).enter (.new (.sigaction pipe) thread before) := by
            simp only [State.newGoes, allowed.1, Bool.false_eq_true, if_false]
          rw [goes]
          exact failed
      | unblock =>
          obtain ⟨_, quiet, suitable, same⟩ := place
          intro pair member
          rcases List.mem_append.mp member with old | new
          · exact failed pair old
          · rw [List.mem_singleton.mp new]
            have mask : Function.update s.globals.blocked thread false = before.blocked := by
              rw [same, masked_unblock suitable, quiet.blocked]
            change { s.globals with blocked := Function.update s.globals.blocked thread false } =
              before
            rw [mask, same]
      | _ => exact failed
  | @readGoes stage index value next call found goes =>
      have same : next.failed = s.failed := by
        unfold State.readGoes State.popQueue at goes
        cases stage with
        | pop =>
            obtain rfl := Option.some.inj goes
            split <;> rfl
        | byte =>
            simp only at goes
            split at goes <;> (obtain rfl := Option.some.inj goes; rfl)
        | reap =>
            simp only at goes
            split at goes
            · obtain rfl := Option.some.inj goes
              rfl
            · cases goes
        | popReaped =>
            obtain rfl := Option.some.inj goes
            split <;> rfl
      rw [same]
      exact failed
  | @dropGoes stage thread value call =>
      have same : (s.dropGoes thread value stage).failed = s.failed := by
        cases stage <;> rfl
      rw [same]
      exact failed
  | failsPipe call =>
      unfold Place at place
      rw [call] at place
      exact noted _ place.1
  | failsBlock => exact absurd allowed id
  | _ => exact failed

/-! ### Reads -/

theorem run_append (first second : List Event) (s : State) :
    run s (first ++ second) = (run s first).bind fun next => run next second := by
  induction first generalizing s with
  | nil => rfl
  | cons event first next =>
      simp only [List.cons_append, run]
      cases step s event with
      | none => rfl
      | some middle => exact next middle

def Reads (s after : State) : Prop :=
  ∃ events, (∀ event ∈ events, event.isRead = true) ∧ run s events = some after

theorem Reads.refl (s : State) : Reads s s := ⟨[], fun _ none => absurd none List.not_mem_nil, rfl⟩

theorem Reads.cons {event : Event} {next after : State} (of_read : event.isRead = true)
    (does : step s event = some next) (reads : Reads next after) : Reads s after := by
  obtain ⟨events, all, ran⟩ := reads
  refine ⟨event :: events, List.forall_mem_cons.mpr ⟨of_read, all⟩, ?_⟩
  rw [run, does]
  exact ran

theorem Reads.trans {middle after : State} (before : Reads s middle) (reads : Reads middle after) :
    Reads s after := by
  obtain ⟨first, first_all, first_ran⟩ := before
  obtain ⟨second, second_all, second_ran⟩ := reads
  refine ⟨first ++ second, fun event member => ?_, ?_⟩
  · exact (List.mem_append.mp member).elim (first_all event) (second_all event)
  · rw [run_append, first_ran]
    exact second_ran

def State.holding (s : State) (value : Value) (pending : List Siginfo) : State :=
  { s with alive := [{ value with pending := pending }] }

/-- A queue is returned from its beginning to its end. -/
theorem reads_queue (value : Value) (queue : List Siginfo) {s : State} (call : s.call = .none) :
    Reads (s.holding value queue)
      { s.holding value [] with returned := s.returned ++ queue } := by
  induction queue generalizing s with
  | nil =>
      have same : { s.holding value [] with returned := s.returned ++ [] } = s.holding value [] := by
        rw [List.append_nil]
        rfl
      rw [same]
      exact .refl _
  | cons first rest next =>
      let popped : State := { s with returned := s.returned ++ [first], call := .none }
      have after := @next popped rfl
      have entered : step (s.holding value (first :: rest)) (.callRead 0) =
          some ((s.holding value (first :: rest)).enter (.read .pop 0)) := by
        simp [step, State.holding, call]
      have taken : step ((s.holding value (first :: rest)).enter (.read .pop 0)) .goes =
          some (popped.holding value rest) := by
        simp [step, State.holding, State.enter, State.readGoes, State.popQueue, popped]
      have same : { popped.holding value [] with returned := popped.returned ++ rest } =
          { s.holding value [] with returned := s.returned ++ first :: rest } := by
        simp [popped, State.holding, call]
      rw [same] at after
      exact .cons rfl entered (.cons rfl taken after)

/-- All the children are reaped. -/
theorem reads_children (value : Value) (children : List Zombie) (pending : List Siginfo)
    (signal : value.signal = SIGCHLD) {s : State} (call : s.call = .read .reap 0)
    (zombies : s.zombies = children) {after : State}
    (reads : Reads { s.holding value (pending ++ children.map fun zombie => zombie.child.told) with
      zombies := [] } after) : Reads (s.holding value pending) after := by
  induction children generalizing s pending with
  | nil =>
      have same : { s.holding value (pending ++ []) with zombies := [] } =
          s.holding value pending := by
        rw [List.append_nil, ← zombies]
        rfl
      rw [List.map_nil, same] at reads
      exact reads
  | cons first children next =>
      let reaped : State := { s with zombies := children }
      have told := siginfo_told first.child
      have taken : step (s.holding value pending) (.reaps 0) =
          some (reaped.holding value (pending ++ [first.child.told])) := by
        simp [step, State.holding, call, zombies, State.reaps, reaped, signal, told]
      refine .cons rfl taken (@next (pending ++ [first.child.told]) reaped call rfl ?_)
      rw [List.append_assoc]
      exact reads

/-- As long as there is a byte, reads return the queue and all the children that have exited. -/
theorem reads_all {value : Value} (single : s.alive = [value]) (signal : value.signal = SIGCHLD)
    (call : s.call = .none) (some_bytes : 0 < s.bytes value.pipe) :
    ∃ after, Reads s after ∧ after.returned = s.returned ++ value.pending ++ s.waiting := by
  have held : s = s.holding value value.pending := by
    rw [State.holding, ← single]
  let emptied : State := { s with returned := s.returned ++ value.pending }
  have drained : Reads s (emptied.holding value []) := by
    have reads := reads_queue value value.pending call
    rw [← held] at reads
    exact reads
  let taken : State :=
    { emptied with
      bytes := Function.update s.bytes value.pipe (s.bytes value.pipe - 1)
      call := .read .reap 0 }
  let reaped : State := { taken with zombies := [], call := .none }
  have entered : step (emptied.holding value []) (.callRead 0) =
      some ((emptied.holding value []).enter (.read .pop 0)) := by
    simp [step, State.holding, emptied, call]
  have asked : step ((emptied.holding value []).enter (.read .pop 0)) .goes =
      some ((emptied.holding value []).enter (.read .byte 0)) := by
    simp [step, State.holding, State.enter, State.readGoes, State.popQueue]
  have byte : step ((emptied.holding value []).enter (.read .byte 0)) .goes =
      some (taken.holding value []) := by
    have not_empty : ¬s.bytes value.pipe = 0 := Nat.ne_of_gt some_bytes
    simp [step, State.holding, State.enter, State.readGoes, emptied, taken, not_empty]
  have ended : step { taken.holding value s.waiting with zombies := [] } .goes =
      some ({ taken.holding value s.waiting with zombies := [] }.enter (.read .popReaped 0)) := by
    simp [step, State.holding, State.enter, State.readGoes, taken]
  have last : ∃ after, Reads
      ({ taken.holding value s.waiting with zombies := [] }.enter (.read .popReaped 0)) after ∧
        after.returned = s.returned ++ value.pending ++ s.waiting := by
    cases waiting : s.waiting with
    | nil =>
        have popped : step ({ taken.holding value [] with zombies := [] }.enter
            (.read .popReaped 0)) .goes = some (reaped.holding value []) := by
          simp [step, State.holding, State.enter, State.readGoes, State.popQueue, taken, reaped]
        refine ⟨reaped.holding value [], .cons rfl popped (.refl _), ?_⟩
        simp [State.holding, reaped, taken, emptied]
    | cons first rest =>
        let returned : State := { reaped with returned := reaped.returned ++ [first] }
        have popped : step ({ taken.holding value (first :: rest) with zombies := [] }.enter
            (.read .popReaped 0)) .goes = some (returned.holding value rest) := by
          simp [step, State.holding, State.enter, State.readGoes, State.popQueue, taken, reaped,
            returned]
        refine ⟨_, .cons rfl popped (reads_queue value rest rfl), ?_⟩
        simp [returned, reaped, taken, emptied]
  obtain ⟨after, reads, result⟩ := last
  have all : Reads (taken.holding value []) after :=
    @reads_children value s.zombies [] signal taken rfl rfl after (.cons rfl ended reads)
  have later : Reads (emptied.holding value []) after :=
    .cons rfl entered (.cons rfl asked (.cons rfl byte all))
  exact ⟨after, drained.trans later, result⟩

end Calls

/-! ### Runs -/

section Runs

variable {origin : Origin} {s : State}

/-- A value leaves a thread on which the signal is delivered. -/
theorem Settled.deliverable {globals : Globals} (settled : Settled origin s globals)
    (some_alive : s.alive ≠ []) : ∃ thread, globals.blocked thread = false := by
  rcases settled with ⟨none, _⟩ | ⟨value, _, held, _⟩
  · exact absurd none some_alive
  · obtain ⟨other, apart, free⟩ := held.suitable.other
    refine ⟨other, ?_⟩
    rw [held.blocked, Origin.masked, Function.update_of_ne apart]
    exact free

theorem Place.deliverable (place : Place origin s) (some_alive : s.alive ≠ []) :
    ∃ thread, s.globals.blocked thread = false := by
  unfold Place at place
  split at place
  · exact Settled.deliverable place some_alive
  · next stage thread before _ =>
      cases stage with
      | pipe => exact place.1 ▸ place.2.deliverable some_alive
      | store pipe =>
          rw [place.1]
          exact place.2.deliverable some_alive
      | _ => exact absurd place.1 some_alive
  · exact place.2.2.deliverable some_alive
  · exact absurd place.1 some_alive

structure Kept (origin : Origin) (s : State) : Prop where
  place : Place origin s
  aged : Aged s
  once : (s.exits.map Child.told).Perm s.accounted
  failed : ∀ pair ∈ s.failed, pair.2 = pair.1

theorem kept_start (origin : Origin) : Kept origin origin.start where
  place := .inl ⟨rfl, rfl, rfl, rfl⟩
  aged := ⟨nofun, nofun, nofun, nofun⟩
  once := .refl _
  failed := nofun

theorem kept_step {event : Event} {next : State} (kept : Kept origin s)
    (does : DoesAllowed s event next) : Kept origin next where
  place := place_step kept.aged kept.place does.1 does.2
  aged := aged_step kept.aged kept.place does.1 does.2
  once := once_step kept.place does.1 does.2 kept.once
  failed := failed_step kept.place does.1 does.2 kept.failed

theorem Kept.sound (kept : Kept origin s) : Sound origin s where
  once := kept.once
  deliverable := kept.place.deliverable
  readable call value member due := by
    obtain ⟨index, found⟩ := List.getElem?_of_mem member
    obtain ⟨_, _, _, some_bytes⟩ := only_value (place_between kept.place call) found
    rw [call] at some_bytes
    exact some_bytes due
  returns call value member due := by
    obtain ⟨index, found⟩ := List.getElem?_of_mem member
    obtain ⟨_, single, held, some_bytes⟩ := only_value (place_between kept.place call) found
    rw [call] at some_bytes
    obtain ⟨after, ⟨events, all, ran⟩, result⟩ :=
      reads_all single held.signal call (some_bytes due)
    exact ⟨events, after, all, ran, result⟩
  failed := kept.failed
  restored call none := by
    rcases place_between kept.place call with ⟨_, quiet⟩ | ⟨value, single, _⟩
    · exact ⟨quiet.blocked, quiet.action, quiet.relay⟩
    · rw [none] at single
      cases single

/-- In a run all of whose steps meet the condition, the claim on the values holds throughout. -/
theorem sound_of_allowed {events : List Event}
    (trace : Trace DoesAllowed origin.start events s) : Sound origin s := by
  have kept : Kept origin s := by
    induction trace with
    | nil => exact kept_start origin
    | snoc _ does kept => exact kept_step kept does
  exact kept.sound

def openOrigin : Origin := ⟨fun _ => false, 0⟩

set_option maxRecDepth 2000 in
/-- A value is made, a child exits and is signalled, a read returns it, and the value is dropped. -/
theorem sound_of_allowed_served :
    ∃ read dropped : State, read.alive.length = 1 ∧ dropped.alive = [] ∧
      read.returned = [⟨SIGCHLD, 10, CLD_EXITED, 1⟩] ∧ dropped.returned = read.returned ∧
      Sound openOrigin read ∧ Sound openOrigin dropped := by
  have called : Trace DoesAllowed openOrigin.start [.callNew 0 SIGCHLD] _ :=
    .snoc .nil ⟨rfl, trivial⟩
  -- `new`: the pipe, the relay target, the mask, the disposition with the value.
  have piped := called.snoc (show DoesAllowed _ .goes _ from ⟨rfl, trivial⟩)
  have stored := piped.snoc (show DoesAllowed _ .goes _ from ⟨rfl, rfl⟩)
  have blocked := stored.snoc (show DoesAllowed _ .goes _ from ⟨rfl, rfl, 1, by decide, rfl⟩)
  have made := blocked.snoc (show DoesAllowed _ .goes _ from ⟨rfl, trivial⟩)
  have exited := made.snoc
    (show DoesAllowed _ (.exit ⟨10, .exited 1⟩) _ from ⟨rfl, trivial⟩)
  have delivered := exited.snoc (show DoesAllowed _ (.deliver 1) _ from ⟨rfl, trivial⟩)
  -- `read`: an empty queue, a byte of the pipe, the child, no other child, the queue again.
  have reading := delivered.snoc (show DoesAllowed _ (.callRead 0) _ from ⟨rfl, trivial⟩)
  have popped := reading.snoc (show DoesAllowed _ .goes _ from ⟨rfl, trivial⟩)
  have taken := popped.snoc (show DoesAllowed _ .goes _ from ⟨rfl, trivial⟩)
  have reaped := taken.snoc (show DoesAllowed _ (.reaps 0) _ from
    ⟨rfl, fun _ found => .inl (by cases found; rfl)⟩)
  have drained := reaped.snoc (show DoesAllowed _ .goes _ from ⟨rfl, trivial⟩)
  have read := drained.snoc (show DoesAllowed _ .goes _ from ⟨rfl, trivial⟩)
  have dropping := read.snoc (show DoesAllowed _ (.callDrop 0 0) _ from
    ⟨rfl, fun _ found => by cases found; rfl⟩)
  -- `drop`: the disposition, the relay target, the mask, the descriptors.
  have restored := dropping.snoc (show DoesAllowed _ .goes _ from ⟨rfl, trivial⟩)
  have cleared := restored.snoc (show DoesAllowed _ .goes _ from ⟨rfl, trivial⟩)
  have unblocked := cleared.snoc (show DoesAllowed _ .goes _ from ⟨rfl, trivial⟩)
  have dropped := unblocked.snoc (show DoesAllowed _ .goes _ from ⟨rfl, trivial⟩)
  refine ⟨_, _, ?_, ?_, ?_, ?_, sound_of_allowed read, sound_of_allowed dropped⟩ <;> rfl

/-! ### The condition is needed -/

theorem trace_of_run {events : List Event} {start : State} (ran : run start events = some s) :
    Trace Does start events s := by
  induction events using List.reverseRecOn generalizing s with
  | nil =>
      obtain rfl := Option.some.inj ran
      exact .nil
  | append_singleton events event before =>
      rw [run_append] at ran
      obtain ⟨middle, first, second⟩ := Option.bind_eq_some_iff.mp ran
      obtain ⟨next, does, same⟩ := Option.bind_eq_some_iff.mp second
      obtain rfl := Option.some.inj same
      exact (before first).snoc does

def coalesced : List Event :=
  [.callNew 0 SIGCHLD, .goes, .goes, .goes, .goes, .exit ⟨10, .exited 1⟩, .exit ⟨11, .exited 2⟩,
    .deliver 1, .callRead 0, .goes, .goes, .reaps 0, .reaps 0, .goes, .goes]

/-- The second child is in the queue, and the descriptor is not readable any more. -/
theorem not_always_sound : ¬∀ (origin : Origin) (events : List Event) (s : State),
    Trace Does origin.start events s → Sound origin s := by
  intro always
  have ran : ∃ s, run openOrigin.start coalesced = some s ∧ s.call = .none ∧
      ∃ value, s.alive = [value] ∧ value.pending ≠ [] ∧ s.bytes value.pipe = 0 :=
    ⟨_, rfl, rfl, _, rfl, List.cons_ne_nil _ _, rfl⟩
  obtain ⟨s, ran, call, value, single, queued, empty⟩ := ran
  have readable := (always _ _ s (trace_of_run ran)).readable call value
    (single ▸ List.mem_singleton_self value) (.inl queued)
  exact absurd empty (Nat.ne_of_gt readable)

end Runs

end Bscp.Crosvm.SignalFd
