import Bscp.Lifecycle.Retention

/-!
`native.NativeOwner` at the Guest's socket. The operations that a platform
overrides, the socket calls and `emit` answer from tapes; of the owner's state
only the flags that guard a request are kept. Each command handed to the socket,
each complete response and each emitted result leaves an event.
-/

namespace Bscp.NativeOwner

open Script Session Supervise ComputeProtocol

structure Native where
  sentStop : Bool := false
  transportUnknown : Bool := false
  faultAttempted : Bool := false
  deriving DecidableEq, Repr

inductive Event (Snap : Type) where
  | wrote (command : Text)
  | received (command : Text) (out : List UInt8)
  | emitted (result : Result Snap) (answer : Except Fault Unit)
  deriving DecidableEq

inductive FaultMode where
  | timeout
  | disconnect
  deriving DecidableEq, Repr

/-- `request_fault_test` of a profile, with what the code asks of it. -/
structure FaultTest where
  instanceMatches : Bool
  posix : Bool
  mode : Option FaultMode
  enabled : Bool
  deriving DecidableEq, Repr

structure Config where
  gpuOff : Bool
  requestFaultTest : Option FaultTest
  deriving DecidableEq, Repr

structure Platform (Snap : Type) where
  start : Tape Fault Unit
  observe : Tape Fault Unit
  guestPresent : Tape Fault Bool
  payloadReady : Tape Fault Bool
  bindInstanceIdentity : Tape Fault Unit
  createConnection : Tape Fault Unit
  bindFaultMembers : Tape Fault Unit
  sendall : Tape Fault Unit
  recv : Tape Fault (List UInt8)
  closeSocket : Tape Fault Unit
  clock : Nat → Int
  guestDone : Tape Fault Bool
  guestExit : Tape Fault Unit
  cleanupServices : Tape Fault Unit
  snapshot : Tape Fault (Reply Snap)
  failureCleanup : Tape Fault (Reply (Cleanup Snap))
  finalizeIfTerminal : Tape Fault Bool
  controllerReleaseReady : Tape Fault Bool
  retentionStatus : Tape Fault Unit
  terminalReceipt : Tape Fault (Option Snap)
  emit : Tape Fault Unit
  forcedMacosCleanupRequested : Bool
  forcedLinuxCleanupRequested : Bool
  forcedCleanupRequested : Bool

def decode (out : List UInt8) : Option Text :=
  (String.fromUTF8? ⟨out.toArray⟩).map String.toList

def stopCommand : Text := "STOP".toList

def infoCommand : Text := "INFO".toList

def contract : Text := "HEADLESS_COUNTER_V1 GUEST_ENCRYPTED_STORAGE\n".toList

section Model

variable {Snap : Type} (config : Config) (platform : Platform Snap)

abbrev State (Snap : Type) := Session Native (Event Snap)

abbrev Run (Snap α : Type) := Script (State Snap) Fault α

def receive (limit : Int) : Nat → List UInt8 → Run Snap (List UInt8)
  | 0, _ => fun session => (.unfinished, session)
  | fuel + 1, out =>
      if out.getLast? = some 10 then Script.ret out else do
        let now ← sense platform.clock
        require (now < limit) "response deadline"
        let chunk ← consult platform.recv
        require (decide (chunk ≠ [])) "response EOF"
        require (decide ((out ++ chunk).length ≤ 34816)) "response limit"
        receive limit fuel (out ++ chunk)

/-- The checks of an injected fault, made on the open connection. -/
def injectedFault (fault : FaultTest) : Run Snap (Option FaultMode) := do
  require fault.instanceMatches "fault test instance mismatch"
  given fault.posix (consult platform.bindFaultMembers)
  require (fault.mode.isSome && fault.enabled) "fault test disabled/invalid"
  let self ← read
  require (!self.faultAttempted) "fault request may not replay"
  update fun self => { self with faultAttempted := true }
  Script.ret fault.mode

/-- From the moment the outcome is uncertain to a decoded response. -/
def transmit (command : Text) (inject : Option FaultMode) (fuel : Nat) : Run Snap Text := do
  update fun self => { self with transportUnknown := true }
  query platform.sendall fun _ => .wrote command
  match inject with
  | some .timeout => Script.raise ⟨.timeoutError, "test-only response withheld for10seconds; outcome unknown"⟩
  | some .disconnect => Script.raise ⟨.osError, "test-only own request socket disconnected; outcome unknown"⟩
  | none => do
      let now ← sense platform.clock
      let out ← receive platform (now + 10000) fuel []
      require (decide (out.count 10 = 1)) "malformed response"
      consult platform.closeSocket
      match decode out with
      | none => Script.raise ⟨.unicodeDecodeError, "utf-8"⟩
      | some response => do
          mark (.received command out)
          update fun self => { self with transportUnknown := false }
          Script.ret response

def connect (command : Text) (fuel : Nat) : Run Snap Text := do
  consult platform.observe
  let present ← consult platform.guestPresent
  require present "no verified Guest ownership"
  consult platform.createConnection
  match config.requestFaultTest with
  | some fault =>
      if command = "ADD 1".toList then do
        let mode ← injectedFault platform fault
        transmit platform command mode fuel
      else transmit platform command none fuel
  | none => transmit platform command none fuel

def request (command : Text) (fuel : Nat) : Run Snap Text := do
  let self ← read
  require (!self.transportUnknown) "prior request outcome unknown"
  if "VADD ".toList.isPrefixOf command then do
    let _ ← Script.ofExcept (parse command)
    if config.gpuOff then Script.ret "VADD ERR GPU_DISABLED\n".toList
    else connect config platform command fuel
  else connect config platform command fuel

def ready (fuel : Nat) : Run Snap Bool := do
  consult platform.observe
  let present ← consult platform.guestPresent
  if !present then Script.ret false else do
    let notified ← consult platform.payloadReady
    if !notified then Script.ret false else do
      consult platform.bindInstanceIdentity
      let response ← request config platform infoCommand fuel
      require (decide (response = contract)) "unexpected payload contract"
      Script.ret true

def stop (fuel : Nat) : Run Snap Text := do
  let self ← read
  require (!self.sentStop) "STOP must not be repeated"
  update fun self => { self with sentStop := true }
  request config platform stopCommand fuel

variable [DecidableEq Snap] [EmptyCollection Snap]

/-- Both places that read a reaped receipt ask for a snapshot that is not empty. -/
def keeper (fuel : Nat) : Keeper (State Snap) Snap where
  start := consult platform.start
  ready := ready config platform fuel
  observe := consult platform.observe
  request command := do
    let response ← request config platform command fuel
    Script.ret (.value response)
  guestDone := consult platform.guestDone
  stop := do
    let response ← stop config platform fuel
    Script.ret (.value response)
  guestExit := do
    consult platform.guestExit
    Script.ret (.value 0)
  cleanupServices := consult platform.cleanupServices
  snapshot := consult platform.snapshot
  failureCleanup := consult platform.failureCleanup
  setTransportUnknown unknown session :=
    { session with data := { session.data with transportUnknown := unknown } }
  forcedMacosCleanupRequested _ := platform.forcedMacosCleanupRequested
  forcedLinuxCleanupRequested _ := platform.forcedLinuxCleanupRequested
  forcedCleanupRequested _ := platform.forcedCleanupRequested
  finalizeIfTerminal := consult platform.finalizeIfTerminal
  controllerReleaseReady := consult platform.controllerReleaseReady
  retentionStatus := consult platform.retentionStatus
  terminalReceipt := do
    let found ← consult platform.terminalReceipt
    Script.ret (found.filter fun snapshot => decide (snapshot ≠ ∅))
  sentStop session := session.data.sentStop
  transportUnknown session := session.data.transportUnknown

omit [DecidableEq Snap] [EmptyCollection Snap] in
def around (clock : Nat → Int) (commands : Nat → Option Text) (timeout : Int) :
    Surroundings (State Snap) Snap where
  clock := clock
  commands := commands
  timeout := timeout
  emit result := query platform.emit (.emitted result)

def guestHistory (clock : Nat → Int) (commands : Nat → Option Text) (timeout : Int) (fuel : Nat) :
    List (Event Snap) :=
  (run (keeper config platform fuel) (around platform clock commands timeout) fuel
    { owner := ⟨{}, 0, []⟩ }).2.owner.history

end Model

section Statement

variable {Snap : Type}

def Complete (out : List UInt8) : Prop := out.getLast? = some 10 ∧ out.count 10 = 1

/-- The complete response has been received and taken: the supervisor has emitted
it with its request, or it is the contract line that `ready` asks for. -/
def Accepted (command : Text) (since : List (Event Snap)) : Prop :=
  ∃ out response, .received command out ∈ since ∧ Complete out ∧ decode out = some response ∧
    ((∃ result, .emitted result (.ok ()) ∈ since ∧ Completed result command response) ∨
      (command = infoCommand ∧ response = contract))

def Received (command : Text) (since : List (Event Snap)) : Prop :=
  ∃ out, .received command out ∈ since ∧ Complete out ∧ (decode out).isSome

/-- The last command before was answered and accepted, or it was an INFO with
another answer and this is the STOP. -/
def LastAccepted (earlier : List (Event Snap)) (other : Text) : Prop :=
  ∀ since command before, earlier = since ++ Event.wrote command :: before →
    (∀ later, .wrote later ∉ since) →
    Accepted command since ∨ (command = infoCommand ∧ Received command since ∧ other = stopCommand)

def Permitted (earlier : List (Event Snap)) : Event Snap → Prop
  | .wrote other => .wrote stopCommand ∉ earlier ∧ LastAccepted earlier other ∧
      ∀ result error, .emitted result (.error error) ∈ earlier → ¬ AroundRequest result
  | _ => True

end Statement

section Histories

variable {Snap : Type} {earlier : List (Event Snap)} {other command : Text}

abbrev MayWrite (earlier : List (Event Snap)) (other : Text) : Prop :=
  Permitted earlier (.wrote other)

theorem Accepted.later {since : List (Event Snap)} (accepted : Accepted command since)
    (event : Event Snap) : Accepted command (event :: since) := by
  obtain ⟨out, response, received, complete, decoded, taken⟩ := accepted
  refine ⟨out, response, List.mem_cons_of_mem _ received, complete, decoded, ?_⟩
  rcases taken with ⟨result, emitted, completed⟩ | info
  · exact Or.inl ⟨result, List.mem_cons_of_mem _ emitted, completed⟩
  · exact Or.inr info

/-- A result emitted since the last write, if the emission is not a failed one
around a request, takes no permission away. -/
theorem mayWrite_emitted {result : Result Snap} {answer : Except Fault Unit}
    (plain : answer = .ok () ∨ ¬ AroundRequest result) (may : MayWrite earlier other) :
    MayWrite (.emitted result answer :: earlier) other := by
  obtain ⟨unstopped, last, calm⟩ := may
  refine ⟨by simpa using unstopped, ?_, ?_⟩
  · intro since command before split quiet
    cases since with
    | nil => simp at split
    | cons event since =>
        simp only [List.cons_append, List.cons.injEq] at split
        have older := last since command before split.2 fun later member =>
          quiet later (List.mem_cons_of_mem _ member)
        rcases older with accepted | ⟨info, ⟨out, received, complete⟩, isStop⟩
        · exact Or.inl (accepted.later event)
        · exact Or.inr ⟨info, ⟨out, List.mem_cons_of_mem _ received, complete⟩, isStop⟩
  · intro shown error member
    rcases List.mem_cons.mp member with newest | old
    · cases newest
      exact plain.resolve_left (by simp)
    · exact calm shown error old

/-- The history after a command and what followed it in its own exchange. -/
theorem mayWrite_answered (since : List (Event Snap)) (may : MayWrite earlier command)
    (other_ : command ≠ stopCommand) (quiet : ∀ later, .wrote later ∉ since)
    (calm : ∀ result error, .emitted result (.error error) ∈ since → ¬ AroundRequest result)
    (taken : Accepted command since ∨
      (command = infoCommand ∧ Received command since ∧ other = stopCommand)) :
    MayWrite (since ++ .wrote command :: earlier) other := by
  refine ⟨?_, ?_, ?_⟩
  · simp only [List.mem_append, List.mem_cons, Event.wrote.injEq, not_or]
    exact ⟨quiet _, Ne.symm other_, may.1⟩
  · intro newer last before split silent
    -- Both parts end at the newest write, so they are the same.
    have same : newer = since ∧ last = command := by
      clear taken calm
      induction since generalizing newer with
      | nil =>
          cases newer with
          | nil => simpa using (List.cons.inj split).1.symm
          | cons event newer =>
              simp only [List.nil_append, List.cons_append, List.cons.injEq] at split
              exact absurd (split.1 ▸ List.mem_cons_self) (silent command)
      | cons event since ih =>
          cases newer with
          | nil =>
              simp only [List.nil_append, List.cons_append, List.cons.injEq] at split
              exact absurd (split.1 ▸ List.mem_cons_self) (quiet last)
          | cons newest newer =>
              simp only [List.cons_append, List.cons.injEq] at split
              have tail := ih (fun later member => quiet later (List.mem_cons_of_mem _ member))
                newer split.2 fun later member => silent later (List.mem_cons_of_mem _ member)
              exact ⟨by rw [split.1, tail.1], tail.2⟩
    obtain ⟨rfl, rfl⟩ := same
    exact taken
  · intro result error member
    rcases List.mem_append.mp member with new | old
    · exact calm result error new
    · exact may.2.2 result error (by simpa using old)

theorem mayWrite_new (other : Text) : MayWrite ([] : List (Event Snap)) other :=
  ⟨by simp, fun since command before split => by simp at split, by simp⟩

end Histories

section Proofs

variable {Snap : Type}

abbrev Sound (state : State Snap) : Prop := Lawful Permitted state.history

/-- The owner is asked nothing that it remembers. -/
theorem receive_spec (platform : Platform Snap) (limit : Int) (fuel : Nat) (out : List UInt8)
    {pre : State Snap → Prop} {fault : Fault → State Snap → Prop}
    (turned : ∀ state turn, pre state → pre { state with turn := turn })
    (lawful : ∀ state, pre state → Sound state)
    (refused : ∀ error state, pre state → fault error state) :
    Triple Sound pre (receive platform limit fuel out)
      (fun out state => pre state ∧ out.getLast? = some 10) fault := by
  induction fuel generalizing out with
  | zero => exact fun state holds => lawful state holds
  | succ fuel ih =>
      unfold receive
      refine Triple.ite (fun ended => Triple.ret fun state holds => ⟨holds, ended⟩) fun _ => ?_
      refine Triple.sensing turned fun now => ?_
      refine Triple.requiring (fun _ state => refused _ state) fun _ => ?_
      refine Triple.andThen (Triple.consult turned refused) fun chunk => ?_
      refine Triple.requiring (fun _ state => refused _ state) fun _ => ?_
      refine Triple.requiring (fun _ state => refused _ state) fun _ => ?_
      exact ih (out ++ chunk)

/-- A request that has not reached the socket has changed nothing; one that has
is either answered completely or leaves its outcome unknown. -/
def Requested (stopped : Bool) (history : List (Event Snap)) (command response : Text)
    (state : State Snap) : Prop :=
  Sound state ∧ state.data.sentStop = stopped ∧ state.data.transportUnknown = false ∧
    (state.history = history ∨ ∃ out, Complete out ∧ decode out = some response ∧
      state.history = .received command out :: .wrote command :: history)

def Refused (stopped : Bool) (history : List (Event Snap)) (_ : Fault) (state : State Snap) : Prop :=
  Sound state ∧ state.data.sentStop = stopped ∧
    (state.data.transportUnknown = true ∨ state.history = history)

variable {history : List (Event Snap)} {command : Text} (may : MayWrite history command)

include may

theorem transmit_spec (platform : Platform Snap) (inject : Option FaultMode) (fuel : Nat)
    (stopped : Bool) :
    Triple Sound (fun state => Sound state ∧ state.data.sentStop = stopped ∧
        state.data.transportUnknown = false ∧ state.history = history)
      (transmit platform command inject fuel) (Requested stopped history command)
      (Refused stopped history) := by
  unfold transmit
  refine Triple.andThen (m := fun _ state => Sound state ∧ state.data.sentStop = stopped ∧
    state.data.transportUnknown = true ∧ state.history = history)
    (Triple.update fun state holds => ⟨holds.1, holds.2.1, rfl, holds.2.2.2⟩) fun _ => ?_
  refine Triple.andThen (m := fun _ state => Sound state ∧ state.data.sentStop = stopped ∧
    state.data.transportUnknown = true ∧ state.history = .wrote command :: history)
    (Triple.query ?_ ?_) fun _ => ?_
  · rintro state ⟨sound, sent, unknown, rfl⟩ _
    exact ⟨⟨may, sound⟩, sent, unknown, rfl⟩
  · rintro state ⟨sound, sent, unknown, rfl⟩ error
    exact ⟨⟨may, sound⟩, sent, Or.inl unknown⟩
  have refused : ∀ (error : Fault) (state : State Snap), (Sound state ∧
      state.data.sentStop = stopped ∧ state.data.transportUnknown = true ∧
      state.history = .wrote command :: history) → Refused stopped history error state :=
    fun _ state holds => ⟨holds.1, holds.2.1, Or.inl holds.2.2.1⟩
  match inject with
  | some .timeout => exact Triple.raise fun state => refused _ state
  | some .disconnect => exact Triple.raise fun state => refused _ state
  | none =>
    refine Triple.sensing (fun _ _ holds => holds) fun now => ?_
    refine Triple.andThen (receive_spec platform _ fuel [] (fun _ _ holds => holds)
      (fun _ holds => holds.1) refused) fun out => ?_
    refine Triple.requiring (fun _ state holds => refused _ state holds.1) fun once => ?_
    refine Triple.andThen (Triple.consult (fun _ _ holds => holds)
      fun error state holds => refused error state holds.1) fun _ => ?_
    cases decoded : decode out with
    | none => exact Triple.raise fun state holds => refused _ state holds.1
    | some response =>
      refine Triple.andThen (m := fun _ state => Sound state ∧ state.data.sentStop = stopped ∧
        Complete out ∧ state.history = .received command out :: .wrote command :: history)
        (Triple.mark fun state holds => ?_) fun _ => ?_
      · obtain ⟨⟨sound, sent, _, past⟩, last⟩ := holds
        exact ⟨⟨trivial, sound⟩, sent, ⟨last, by simpa using once⟩, by rw [past]⟩
      refine Triple.andThen (m := fun _ => Requested stopped history command response)
        (Triple.update fun state holds => ?_) fun _ => Triple.ret fun _ holds => holds
      obtain ⟨sound, sent, complete, past⟩ := holds
      exact ⟨sound, sent, rfl, Or.inr ⟨out, complete, decoded, past⟩⟩

theorem connect_spec (config : Config) (platform : Platform Snap) (fuel : Nat) (stopped : Bool) :
    Triple Sound (fun state => Sound state ∧ state.data.sentStop = stopped ∧
        state.data.transportUnknown = false ∧ state.history = history)
      (connect config platform command fuel) (Requested stopped history command)
      (Refused stopped history) := by
  have refused : ∀ (error : Fault) (state : State Snap), (Sound state ∧
      state.data.sentStop = stopped ∧ state.data.transportUnknown = false ∧
      state.history = history) → Refused stopped history error state :=
    fun _ state holds => ⟨holds.1, holds.2.1, Or.inr holds.2.2.2⟩
  unfold connect
  refine Triple.andThen (Triple.consult (fun _ _ holds => holds) refused) fun _ => ?_
  refine Triple.andThen (Triple.consult (fun _ _ holds => holds) refused) fun present => ?_
  refine Triple.requiring (fun _ state => refused _ state) fun _ => ?_
  refine Triple.andThen (Triple.consult (fun _ _ holds => holds) refused) fun _ => ?_
  cases config.requestFaultTest with
  | none => exact transmit_spec may platform none fuel stopped
  | some fault =>
    refine Triple.ite (fun _ => ?_) fun _ => transmit_spec may platform none fuel stopped
    refine Triple.andThen (m := fun _ state => Sound state ∧ state.data.sentStop = stopped ∧
      state.data.transportUnknown = false ∧ state.history = history) ?_
      fun mode => transmit_spec may platform mode fuel stopped
    unfold injectedFault
    refine Triple.requiring (fun _ state => refused _ state) fun _ => ?_
    refine Triple.andThen (m := fun _ state => Sound state ∧ state.data.sentStop = stopped ∧
      state.data.transportUnknown = false ∧ state.history = history)
      (Triple.given (fun _ => Triple.consult (fun _ _ holds => holds) refused)
        fun _ _ holds => holds) fun _ => ?_
    refine Triple.requiring (fun _ state => refused _ state) fun _ => ?_
    refine Triple.reading fun self => ?_
    refine Triple.requiring (fun _ state holds => refused _ state holds.1) fun _ => ?_
    refine Triple.andThen (m := fun _ state => Sound state ∧ state.data.sentStop = stopped ∧
      state.data.transportUnknown = false ∧ state.history = history)
      (Triple.update fun state holds => holds.1) fun _ => Triple.ret fun _ holds => holds

theorem request_spec (config : Config) (platform : Platform Snap) (fuel : Nat) (stopped : Bool) :
    Triple Sound (fun state => Sound state ∧ state.data.sentStop = stopped ∧
        state.data.transportUnknown = false ∧ state.history = history)
      (request config platform command fuel) (Requested stopped history command)
      (Refused stopped history) := by
  have refused : ∀ (error : Fault) (state : State Snap), (Sound state ∧
      state.data.sentStop = stopped ∧ state.data.transportUnknown = false ∧
      state.history = history) → Refused stopped history error state :=
    fun _ state holds => ⟨holds.1, holds.2.1, Or.inr holds.2.2.2⟩
  unfold request
  refine Triple.reading fun self => ?_
  refine Triple.requiring (fun _ state holds => refused _ state holds.1) fun _ => ?_
  refine Triple.ite (fun _ => ?_) fun _ =>
    (connect_spec may config platform fuel stopped).before fun _ holds => holds.1
  cases parse command with
  | error error =>
      exact Triple.andThen (m := fun _ _ => False)
        (Triple.raise fun state holds => refused _ state holds.1) fun _ _ impossible => impossible.elim
  | ok parsed =>
      refine Triple.andThen (m := fun _ state => Sound state ∧ state.data.sentStop = stopped ∧
        state.data.transportUnknown = false ∧ state.history = history)
        (Triple.ret fun _ holds => holds.1) fun _ => ?_
      refine Triple.ite (fun _ => Triple.ret fun state holds => ?_)
        fun _ => connect_spec may config platform fuel stopped
      exact ⟨holds.1, holds.2.1, holds.2.2.1, Or.inl holds.2.2.2⟩

end Proofs

section Phases

variable {Snap : Type}

def Idle (unknown : Bool) (state : State Snap) : Prop :=
  Sound state ∧ state.data.sentStop = false ∧ state.data.transportUnknown = unknown ∧
    ∀ other, MayWrite state.history other

/-- After a failure only a STOP may follow, and only where no outcome is unknown. -/
def Broken (state : State Snap) : Prop :=
  Sound state ∧ (state.data.sentStop = false → state.data.transportUnknown = false →
    MayWrite state.history stopCommand)

def Answered (command response : Text) (state : State Snap) : Prop :=
  Sound state ∧ state.data.sentStop = false ∧ state.data.transportUnknown = false ∧
    ∀ result, Completed result command response →
      ∀ other, MayWrite (.emitted result (.ok ()) :: state.history) other

def Ended (state : State Snap) : Prop := Sound state ∧ state.data.sentStop = true

theorem legal_ne_stop {command : Text} (legal : Legal command) : command ≠ stopCommand := by
  rintro rfl
  have foreign : isCommand stopCommand = false := by decide
  exact absurd (foreign.symm.trans legal) (by simp)

variable (config : Config) (platform : Platform Snap)

theorem ready_spec (fuel : Nat) :
    Triple Sound (Idle false) (ready config platform fuel) (fun _ => Idle false)
      (fun _ => Broken) := by
  have refused : ∀ (error : Fault) (state : State Snap), Idle false state → Broken state :=
    fun _ state idle => ⟨idle.1, fun _ _ => idle.2.2.2 _⟩
  unfold ready
  refine Triple.andThen (Triple.consult (fun _ _ idle => idle) refused) fun _ => ?_
  refine Triple.andThen (Triple.consult (fun _ _ idle => idle) refused) fun present => ?_
  refine Triple.ite (fun _ => Triple.ret fun _ idle => idle) fun _ => ?_
  refine Triple.andThen (Triple.consult (fun _ _ idle => idle) refused) fun notified => ?_
  refine Triple.ite (fun _ => Triple.ret fun _ idle => idle) fun _ => ?_
  refine Triple.andThen (Triple.consult (fun _ _ idle => idle) refused) fun _ => ?_
  apply Triple.start
  rintro start ⟨sound, unsent, known, may⟩
  refine Triple.andThen ((request_spec (may infoCommand) config platform fuel false).consequence
    (by rintro state rfl; exact ⟨sound, unsent, known, rfl⟩) (fun _ _ holds => holds) ?_)
    fun response => ?_
  · rintro error state ⟨sound, _, unknown | past⟩
    · exact ⟨sound, fun _ certain => absurd (unknown.symm.trans certain) (by simp)⟩
    · exact ⟨sound, fun _ _ => past ▸ may stopCommand⟩
  have settled : ∀ state : State Snap, Requested false start.history infoCommand response state →
      ∀ other, other = stopCommand ∨ response = contract → MayWrite state.history other := by
    rintro state ⟨_, _, _, past | ⟨out, complete, decoded, past⟩⟩ other allowed
    · exact past ▸ may other
    · rw [past]
      refine mayWrite_answered [_] (may infoCommand) (by decide) (by simp) (by simp) ?_
      rcases allowed with isStop | isContract
      · exact Or.inr ⟨rfl, ⟨out, by simp, complete, by simp [decoded]⟩, isStop⟩
      · exact Or.inl ⟨out, response, by simp, complete, decoded, Or.inr ⟨rfl, isContract⟩⟩
  refine Triple.requiring (fun _ state holds => ?_) fun expected => Triple.ret fun state holds => ?_
  · exact ⟨holds.1, fun _ _ => settled state holds _ (Or.inl rfl)⟩
  · exact ⟨holds.1, holds.2.1, holds.2.2.1, fun other =>
      settled state holds other (Or.inr (by simpa using expected))⟩

theorem stop_spec (fuel : Nat) :
    Triple Sound
      (fun state : State Snap => Sound state ∧ state.data.sentStop = false ∧
        state.data.transportUnknown = false ∧ MayWrite state.history stopCommand)
      (stop config platform fuel) (fun _ => Ended) (fun _ => Ended) := by
  unfold stop
  refine Triple.reading fun self => ?_
  refine Triple.requiring ?_ fun _ => ?_
  · rintro refused state ⟨⟨_, unsent, _⟩, rfl⟩
    simp [unsent] at refused
  apply Triple.start
  rintro start ⟨⟨sound, _, known, may⟩, _⟩
  refine Triple.andThen (m := fun _ state => Sound state ∧ state.data.sentStop = true ∧
    state.data.transportUnknown = false ∧ state.history = start.history)
    (Triple.update ?_) fun _ => ?_
  · rintro state rfl
    exact ⟨sound, rfl, known, rfl⟩
  · exact (request_spec may config platform fuel true).consequence (fun _ holds => holds)
      (fun _ _ holds => ⟨holds.1, holds.2.1⟩) (fun _ _ holds => ⟨holds.1, holds.2.1⟩)

/-- Emitting a result that is not around a request. -/
theorem emit_idle (result : Result Snap) (plain : ¬ AroundRequest result) (unknown : Bool) :
    Triple Sound (Idle unknown) (query platform.emit (.emitted result))
      (fun _ => Idle unknown) (fun _ => Broken) := by
  apply Triple.query
  · rintro state ⟨sound, unsent, same, may⟩ _
    exact ⟨⟨trivial, sound⟩, unsent, same, fun other => mayWrite_emitted (Or.inl rfl) (may other)⟩
  · rintro state ⟨sound, unsent, same, may⟩ error
    exact ⟨⟨trivial, sound⟩, fun _ _ => mayWrite_emitted (Or.inr plain) (may _)⟩

theorem emit_broken (result : Result Snap) (plain : ¬ AroundRequest result) :
    Triple Sound Broken (query platform.emit (.emitted result)) (fun _ => Broken)
      (fun _ => Broken) := by
  apply Triple.query
  · rintro state ⟨sound, may⟩ _
    exact ⟨⟨trivial, sound⟩, fun unsent known => mayWrite_emitted (Or.inl rfl) (may unsent known)⟩
  · rintro state ⟨sound, may⟩ error
    exact ⟨⟨trivial, sound⟩, fun unsent known => mayWrite_emitted (Or.inr plain) (may unsent known)⟩

variable (clock : Nat → Int) (commands : Nat → Option Text) (timeout : Int)

theorem idle_consult {α : Type} (tape : Tape Fault α) :
    Triple Sound (Idle false) (consult tape : Run Snap α) (fun _ => Idle false) (fun _ => Broken) :=
  Triple.consult (fun _ _ idle => idle) fun _ _ idle => ⟨idle.1, fun _ _ => idle.2.2.2 _⟩

theorem ended_broken {state : State Snap} (ended : Ended state) : Broken state :=
  ⟨ended.1, fun unsent => absurd (ended.2.symm.trans unsent) (by simp)⟩

theorem ended_consult {α : Type} (tape : Tape Fault α) :
    Triple Sound Ended (consult tape : Run Snap α) (fun _ => Ended) (fun _ => Broken) :=
  Triple.consult (fun _ _ ended => ended) fun _ _ ended => ended_broken ended

theorem broken_consult {α : Type} (tape : Tape Fault α) :
    Triple Sound Broken (consult tape : Run Snap α) (fun _ => Broken) (fun _ => Broken) :=
  Triple.consult (fun _ _ broken => broken) fun _ _ broken => broken

/-- What the supervisor learns from a request that it has announced. -/
theorem request_answered (fuel : Nat) {command : Text} (legal : Legal command) :
    Triple Sound (Idle false) (request config platform command fuel)
      (fun response => Answered command response)
      (fun _ state => Sound state ∧ state.data.sentStop = false) := by
  apply Triple.start
  rintro start ⟨sound, unsent, known, may⟩
  refine (request_spec (may command) config platform fuel false).consequence
    (by rintro state rfl; exact ⟨sound, unsent, known, rfl⟩) ?_
    (fun _ _ holds => ⟨holds.1, holds.2.1⟩)
  rintro response state ⟨sound, unsent, known, past⟩
  refine ⟨sound, unsent, known, fun result completed other => ?_⟩
  rcases past with past | ⟨out, complete, decoded, past⟩
  · exact mayWrite_emitted (Or.inl rfl) (past ▸ may other)
  · rw [past]
    refine mayWrite_answered [_, _] (may command) (legal_ne_stop legal) (by simp) (by simp) ?_
    exact Or.inl ⟨out, response, by simp, complete, decoded, Or.inl ⟨result, by simp, completed⟩⟩

variable [DecidableEq Snap] [EmptyCollection Snap]

def phases (fuel : Nat) : Phases (keeper config platform fuel).toOwner
    (around platform clock commands timeout).emit where
  always := Sound
  idle := Idle false
  marked := Idle true
  announced := Idle true
  answered := Answered
  doubtful state := Sound state ∧ state.data.sentStop = false
  ended := Ended
  broken := Broken
  evidence _ _ := True
  idle_broken state idle := ⟨idle.1, fun _ _ => idle.2.2.2 _⟩
  ended_broken state := ended_broken
  broken_always state broken := broken.1
  answered_doubtful _ _ state answered := ⟨answered.1, answered.2.1⟩
  start := idle_consult _
  ready := ready_spec config platform fuel
  observe := idle_consult _
  polled := idle_consult _
  idleEmit result plain := emit_idle platform result plain false
  mark state idle := ⟨idle.1, idle.2.1, rfl, idle.2.2.2⟩
  announce result last := by
    apply Triple.query
    · rintro state ⟨sound, unsent, same, may⟩ _
      exact ⟨⟨trivial, sound⟩, unsent, same, fun other => mayWrite_emitted (Or.inl rfl) (may other)⟩
    · rintro state ⟨sound, unsent, _⟩ error
      exact ⟨⟨trivial, sound⟩, unsent⟩
  request command legal := by
    refine Triple.andThen ((request_answered config platform fuel legal).before ?_) fun response =>
      Triple.ret fun state answered => ⟨⟨answered.1, answered.2.1⟩, fun _ same => ?_⟩
    · rintro state ⟨before, idle, rfl⟩
      exact ⟨idle.1, idle.2.1, rfl, idle.2.2.2⟩
    · cases same
      exact answered
  complete result command response completed := by
    apply Triple.query
    · rintro state ⟨sound, unsent, known, may⟩ _
      exact ⟨⟨trivial, sound⟩, unsent, known, may result completed⟩
    · rintro state ⟨sound, unsent, _⟩ error
      exact ⟨⟨trivial, sound⟩, unsent⟩
  doubt state doubtful := ⟨doubtful.1, fun _ known => absurd known (by simp [keeper])⟩
  stop := by
    refine Triple.andThen ((stop_spec config platform fuel).consequence (fun state idle => ?_)
      (fun _ _ ended => ended) (fun _ _ ended => ended_broken ended))
      fun _ => Triple.ret fun _ ended => ended
    exact ⟨idle.1, idle.2.1, idle.2.2.1, idle.2.2.2 _⟩
  awaited := ended_consult _
  guestExit := Triple.andThen (ended_consult _) fun _ => Triple.ret fun _ ended => ended
  cleanupServices := ended_consult _
  snapshot := ended_consult _
  endedEmit result plain := by
    apply Triple.query
    · exact fun state ended _ => ⟨⟨trivial, ended.1⟩, ended.2⟩
    · exact fun state ended error => ended_broken ⟨⟨trivial, ended.1⟩, ended.2⟩
  failureCleanup := (broken_consult _).consequence (fun _ holds => holds)
    (fun _ _ broken => ⟨broken, fun _ _ _ _ _ => trivial⟩) (fun _ _ holds => holds)
  brokenEmit := emit_broken platform
  evidentEmit result snapshot := Triple.query (fun _ _ _ => trivial) (fun _ _ _ => trivial)

theorem consult_harmless {α : Type} (fuel : Nat) (tape : Tape Fault α) :
    Harmless (phases config platform clock commands timeout fuel) (consult tape) where
  broken := broken_consult tape
  evident _ := (broken_consult tape).consequence (fun _ holds => holds.1) (fun _ _ _ => trivial)
    (fun _ _ _ => trivial)

theorem retentionPhases (fuel : Nat) :
    RetentionPhases (phases config platform clock commands timeout fuel) where
  finalizeIfTerminal := consult_harmless config platform clock commands timeout fuel _
  controllerReleaseReady := consult_harmless config platform clock commands timeout fuel _
  retentionStatus := consult_harmless config platform clock commands timeout fuel _
  stop := by
    refine Triple.andThen ((stop_spec config platform fuel).consequence ?_
      (fun _ _ ended => ended_broken ended) (fun _ _ ended => ended_broken ended))
      fun _ => Triple.ret fun _ broken => broken
    rintro state ⟨broken, unsent, known⟩
    exact ⟨broken.1, unsent, known, broken.2 unsent known⟩
  stopEvident snapshot := by
    refine Triple.andThen ((stop_spec config platform fuel).consequence ?_ (fun _ _ _ => trivial)
      (fun _ _ _ => trivial)) fun _ => Triple.ret fun _ (holds : True) => holds
    rintro state ⟨⟨broken, unsent, known⟩, _⟩
    exact ⟨broken.1, unsent, known, broken.2 unsent known⟩
  terminalReceipt := {
    broken := Triple.andThen (broken_consult _) fun _ => Triple.ret fun _ broken => broken
    evident := fun _ => Triple.andThen ((broken_consult _).consequence (fun _ holds => holds.1)
      (fun _ _ broken => broken) (fun _ _ _ => trivial)) fun _ => Triple.ret fun _ _ => trivial }
  found := by
    refine Triple.andThen ((broken_consult _).consequence (fun _ holds => holds)
      (fun _ _ broken => broken) (fun _ _ _ => trivial)) fun found => Triple.ret fun _ _ => ?_
    intro snapshot named
    obtain ⟨_, nonempty⟩ := Option.filter_eq_some_iff.mp named
    exact ⟨by simpa using nonempty, trivial⟩
  lastEmit result plain := {
    broken := emit_broken platform result plain
    evident := fun _ => (emit_broken platform result plain).consequence (fun _ holds => holds.1)
      (fun _ _ _ => trivial) (fun _ _ _ => trivial) }

/-- The commands that reach the Guest in a run of the supervisor and of the
retention after it. Nothing follows a STOP; a later command finds the one before
it answered and accepted, or is the STOP after an INFO that was answered with
another contract; and nothing follows a failed emit around a request. -/
theorem guest_commands (fuel : Nat) :
    (∀ (later : List (Event Snap)) (other : Text) (earlier : List (Event Snap)),
      guestHistory config platform clock commands timeout fuel = later ++ Event.wrote other :: earlier →
      Event.wrote stopCommand ∉ earlier) ∧
    (∀ (later : List (Event Snap)) (other : Text) (since : List (Event Snap)) (command : Text)
      (earlier : List (Event Snap)),
      guestHistory config platform clock commands timeout fuel =
        later ++ Event.wrote other :: (since ++ Event.wrote command :: earlier) →
      (∀ between, Event.wrote between ∉ since) →
      Accepted command since ∨
        (command = infoCommand ∧ Received command since ∧ other = stopCommand)) ∧
    ∀ (later : List (Event Snap)) (result : Result Snap) (error : Fault)
      (earlier : List (Event Snap)),
      guestHistory config platform clock commands timeout fuel =
        later ++ Event.emitted result (.error error) :: earlier →
      AroundRequest result → ∀ other, Event.wrote other ∉ later := by
  have lawful : Lawful Permitted (guestHistory config platform clock commands timeout fuel) := by
    have moved := run_moves (retentionPhases config platform clock commands timeout fuel) fuel
      { owner := ⟨{}, 0, []⟩ } ⟨⟨trivial, rfl, rfl, fun other => mayWrite_new other⟩, trivial⟩
    unfold guestHistory
    match ends : run (keeper config platform fuel) (around platform clock commands timeout) fuel
        { owner := ⟨{}, 0, []⟩ } with
    | (.done result, world) =>
        rw [ends] at moved
        obtain ⟨_, ended | lost⟩ := moved
        · exact ended.1.1
        · exact lost.broken.1
    | (.raised error, world) =>
        rw [ends] at moved
        exact moved.1.1
    | (.unfinished, world) =>
        rw [ends] at moved
        exact moved
  refine ⟨?_, ?_, ?_⟩
  · intro later other earlier split
    exact (Lawful.at (split ▸ lawful)).1
  · intro later other since command earlier split quiet
    exact (Lawful.at (split ▸ lawful)).2.1 since command earlier rfl quiet
  · intro later result error earlier split around other member
    obtain ⟨newest, since, rfl⟩ := List.append_of_mem member
    rw [List.append_assoc, List.cons_append] at split
    exact (Lawful.at (split ▸ lawful)).2.2 result error (by simp) around

end Phases

section Instances

def foreignGuest : Platform (List Nat) where
  start _ := .ok ()
  observe _ := .ok ()
  guestPresent _ := .ok true
  payloadReady _ := .ok true
  bindInstanceIdentity _ := .ok ()
  createConnection _ := .ok ()
  bindFaultMembers _ := .ok ()
  sendall _ := .ok ()
  recv _ := .ok [88, 10]
  closeSocket _ := .ok ()
  clock _ := 0
  guestDone _ := .ok false
  guestExit _ := .ok ()
  cleanupServices _ := .ok ()
  snapshot _ := .ok (.value [1])
  failureCleanup _ := .ok (.value {})
  finalizeIfTerminal _ := .ok false
  controllerReleaseReady _ := .ok false
  retentionStatus _ := .ok ()
  terminalReceipt _ := .ok none
  emit _ := .ok ()
  forcedMacosCleanupRequested := false
  forcedLinuxCleanupRequested := false
  forcedCleanupRequested := false

def foreignFailed : Result (List Nat) where
  state := .unknown
  needsRecovery := true
  error := some ⟨.runtimeError, "unexpected payload contract"⟩
  forcedGuest := none
  normalGuestExitProven := some false
  events := [.ownerStarted, .failurePreserved]

def foreignRetained : Result (List Nat) :=
  { foreignFailed with
    events := [.ownerStarted, .failurePreserved, .ownerMustBeRetained]
    failureCleanup := some (.value {})
    ownerTerminal := some false }

/-- The foreign answer to INFO is not accepted, and a retained `stop` is still
written after it. -/
theorem stop_after_foreign_info : ∃ later since earlier,
    guestHistory ⟨false, none⟩ foreignGuest (fun _ => 0) (fun _ => some "stop".toList) 60 3 =
      later ++ Event.wrote stopCommand :: (since ++ Event.wrote infoCommand :: earlier) ∧
    (∀ between, .wrote between ∉ since) ∧ ¬ Accepted infoCommand since := by
  refine ⟨[.received stopCommand [88, 10]],
    [.emitted foreignRetained (.ok ()), .emitted foreignFailed (.ok ()),
      .received infoCommand [88, 10]],
    [.emitted { events := [.ownerStarted] } (.ok ())], by decide +kernel, by simp, ?_⟩
  rintro ⟨out, response, received, _, decoded, taken⟩
  have foreign : decode [88, 10] = some ['X', '\n'] := by decide
  have same : out = [88, 10] := by simpa using received
  rw [same, foreign] at decoded
  rcases taken with ⟨result, emitted, last, _⟩ | ⟨_, isContract⟩
  · have shown : result = foreignRetained ∨ result = foreignFailed := by simpa using emitted
    rcases shown with rfl | rfl
    · simp [foreignRetained] at last
    · simp [foreignFailed] at last
  · rw [isContract] at decoded
    exact absurd decoded (by decide)

end Instances

end Bscp.NativeOwner
