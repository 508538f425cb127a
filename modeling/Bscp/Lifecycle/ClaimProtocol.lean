import Bscp.Machine
import Bscp.Lifecycle.Supervise

/-!
The file protocol of `runtime.run` on one prepared instance: the reads of the
record, the plan and the profile, the claim file, the re-validation under it,
the saves and the final unlink. Any number of runs take their file-system steps
in any order, and at each step a run may go on, raise or be killed.

A run is named by a number. Its token and its attempt directory are named by
that number too, which is the uniqueness that `uuid4` is relied on for. A step
that raises has no effect on the files beyond what a partial write leaves.
-/

namespace Bscp.ClaimProtocol

open Supervise (RunState)

abbrev RunId := Nat

inductive GpuMode where
  | on
  | off
  | other
  deriving DecidableEq, Repr

structure Config where
  gpuMode : Option GpuMode
  rest : Nat
  deriving DecidableEq, Repr

/-- The record's fields that the protocol reads; `rest` stands for all others. -/
structure Doc where
  schema : Nat
  config : Config
  state : RunState
  attempt : Option RunId
  profileSha256 : Nat
  instanceIdentity : Option Nat
  rest : Nat
  deriving DecidableEq, Repr

structure LaunchPlan where
  gpuMode : Option GpuMode
  configBinding : Option Config
  deriving DecidableEq, Repr

/-- The bytes of a JSON file: what `loads` reads from them, if they are well
formed, and how they spell it. -/
structure Stored (α : Type) where
  value : Option α
  spelling : Nat
  deriving DecidableEq, Repr

def dump (doc : Doc) : Stored Doc := ⟨some doc, 0⟩

/-- `owner.claim`. Inode numbers are used again once a file is gone; `file`
tells apart what the open calls of different runs created. -/
structure Claim where
  file : RunId
  inode : Nat
  bytes : Option RunId
  deriving DecidableEq, Repr

structure Root where
  state : Bool := false
  layout : Nat := 0
  attempts : List RunId := []
  instanceId : Option Nat := none
  deriving DecidableEq, Repr

/-- The files of the instance. The profile is known by its digest. -/
structure Files where
  record : Stored Doc
  next : Option (Stored Doc)
  plan : Stored LaunchPlan
  profile : Nat
  claim : Option Claim
  root : Option Root
  deriving DecidableEq, Repr

/-- Where a save goes on once it is done: to the launch, back to the supervisor,
or out of the exception handler. -/
inductive After where
  | launch
  | serving
  | raise
  deriving DecidableEq, Repr

inductive Pc where
  | preflight
  | readPlan
  | verifyMode
  | readRecord
  | readProfile
  | readIdentity
  | lookClaim
  | awaitPort
  | createClaim
  | statClaim
  | writeClaim
  | syncClaim
  | closeClaim
  | recheckRecord
  | recheckProfile
  | recheckPlan
  | recheckPort
  | releaseLook
  | releaseRead
  | releaseUnlink
  | released
  | prepareRoot
  | prepareState
  | prepareLayout
  | prepareAttempt
  | prepareOwner
  | openNext (after : After)
  | writeNext (after : After)
  | replaceRecord (after : After)
  | launch
  | serving
  | unlinkClaim
  | unlinked
  | handler
  deriving DecidableEq, Repr

inductive Status where
  | idle
  | active
  | raised
  | killed
  | returned
  deriving DecidableEq, Repr

structure Call where
  record : Doc
  resume : Bool
  windows : Bool
  sdk37 : Bool
  deriving DecidableEq, Repr

/-- The variables of a run. `pc` of a run that has ended is its last step. -/
structure Local where
  status : Status := .idle
  pc : Pc := .preflight
  resume : Bool := false
  windows : Bool := false
  sdk37 : Bool := false
  record : Doc
  before : Stored Doc
  plan : Stored LaunchPlan
  inode : Nat := 0
  deriving DecidableEq, Repr

/-- What happens while the supervisor runs: a result is emitted, or the run ends
with a result that is `STOPPED` or not. -/
inductive Serve where
  | emit (state : RunState) (instanceIdentity : Option Nat) (rest : Nat)
  | finish (stopped : Bool)
  deriving DecidableEq, Repr

/-- How a step goes. `inode` is the number that a new file gets, `left` what a
failing step leaves behind of a partial write. -/
inductive Choice where
  | proceed (inode : Nat) (serve : Serve)
  | fail (left : Nat)
  | kill
  deriving DecidableEq, Repr

def gpuMode (config : Config) : Option GpuMode :=
  match config.gpuMode with
  | none => some .on
  | some .other => none
  | some mode => some mode

def verifyMode (record : Doc) (plan : LaunchPlan) : Bool :=
  match gpuMode record.config with
  | none => false
  | some mode =>
      if record.schema = 1 then
        record.config.gpuMode.isNone && plan.gpuMode.isNone && decide (mode = .on)
      else
        decide (record.schema = 2) && record.config.gpuMode.isSome &&
          decide (plan.gpuMode = some mode) && decide (plan.configBinding = some record.config)

def Doc.eligible (doc : Doc) (resume : Bool) : Bool :=
  decide (doc.state = if resume then .stopped else .prepared)

/-- The identity check for guests whose service allocates the instance id. -/
def identityAgrees (self : Local) (root : Option Root) : Bool :=
  let present := root.bind Root.instanceId
  !self.sdk37 ||
    if self.resume then self.record.instanceIdentity.isSome &&
      decide (present = self.record.instanceIdentity)
    else present.isNone

namespace Local

@[simp] def goto (self : Local) (pc : Pc) : Local := { self with pc }

@[simp] def raise (self : Local) : Local := { self with status := .raised }

@[simp] def returns (self : Local) : Local := { self with status := .returned }

/-- `record.update(state='STARTING', attempt=str(attempt), ...)`. -/
@[simp] def starting (self : Local) (me : RunId) : Local :=
  { self with record := { self.record with state := .starting, attempt := some me } }

/-- The exception handler's `record.update(state='UNKNOWN', ...)`. -/
@[simp] def toUnknown (self : Local) : Local :=
  { self with record := { self.record with state := .unknown } }

@[simp] def emitting (self : Local) (state : RunState) (instanceIdentity : Option Nat) (rest : Nat) :
    Local :=
  let known := if self.sdk37 then instanceIdentity.or self.record.instanceIdentity
    else self.record.instanceIdentity
  { self with record := { self.record with state, instanceIdentity := known, rest } }

end Local

/-- A step that raises. Nothing before the re-validation is caught; the
re-validation is caught to release the claim; everything later reaches the
exception handler, except that the supervisor catches what `emit` raises and
that the handler's own save raises out of `run`. -/
def failure (me : RunId) (left : Nat) (self : Local) (files : Files) : Local × Files :=
  match self.pc with
  | .recheckRecord | .recheckProfile | .recheckPlan | .recheckPort =>
      (self.goto .releaseLook, files)
  | .writeClaim =>
      -- A short write leaves part of the token; the file is the one behind the descriptor.
      (self.raise, { files with claim := files.claim.map fun claim =>
        if claim.file = me then { claim with bytes := none } else claim })
  | .prepareRoot | .prepareState | .launch | .serving | .unlinkClaim =>
      (self.goto .handler, files)
  | .prepareLayout =>
      (self.goto .handler,
        { files with root := files.root.map fun root => { root with layout := left } })
  | .prepareAttempt | .prepareOwner => (self.goto .handler, files)
  | .openNext after => (caught after, files)
  | .writeNext after => (caught after, { files with next := some ⟨none, left⟩ })
  | .replaceRecord after => (caught after, files)
  | _ => (self.raise, files)
where
  caught : After → Local
    | .launch => self.goto .handler
    | .serving => self.goto .serving
    | .raise => self.raise

/-- A step that does not raise of itself. Where the code compares what it has
read, the comparison is part of the step and leads to `failure`. -/
def advance (me : RunId) (inode : Nat) (serve : Serve) (self : Local) (files : Files) :
    Local × Files :=
  match self.pc with
  | .preflight => (self.goto .readPlan, files)
  | .readPlan => ({ self.goto .verifyMode with plan := files.plan }, files)
  | .verifyMode =>
      match files.plan.value with
      | some plan =>
          if verifyMode self.record plan then (self.goto .readRecord, files) else refused
      | none => refused
  | .readRecord =>
      if files.record.value = some self.record ∧ self.record.eligible self.resume then
        ({ self.goto .readProfile with before := files.record }, files)
      else refused
  | .readProfile =>
      if files.profile = self.record.profileSha256 then (self.goto .readIdentity, files)
      else refused
  | .readIdentity =>
      if identityAgrees self files.root then (self.goto .lookClaim, files) else refused
  | .lookClaim => if files.claim.isNone then (self.goto .awaitPort, files) else refused
  | .awaitPort => (self.goto .createClaim, files)
  | .createClaim =>
      if files.claim.isNone then
        ({ self.goto .statClaim with inode }, { files with claim := some ⟨me, inode, none⟩ })
      else refused
  | .statClaim => (self.goto .writeClaim, files)
  | .writeClaim =>
      (self.goto .syncClaim, { files with claim := files.claim.map fun claim =>
        if claim.file = me then { claim with bytes := some me } else claim })
  | .syncClaim => (self.goto .closeClaim, files)
  | .closeClaim => (self.goto .recheckRecord, files)
  | .recheckRecord =>
      if files.record = self.before then (self.goto .recheckProfile, files) else refused
  | .recheckProfile =>
      if files.profile = self.record.profileSha256 then (self.goto .recheckPlan, files)
      else refused
  | .recheckPlan => if files.plan = self.plan then (self.goto .recheckPort, files) else refused
  | .recheckPort => (self.goto .prepareRoot, files)
  | .releaseLook =>
      match files.claim with
      | some claim =>
          if claim.inode = self.inode then (self.goto .releaseRead, files) else refused
      | none => refused
  | .releaseRead =>
      match files.claim with
      | some claim =>
          if claim.bytes = some me then (self.goto .releaseUnlink, files) else refused
      | none => refused
  | .releaseUnlink =>
      -- The unlink is by name; the re-validation's error is raised again after it.
      if files.claim.isSome then
        ((self.goto .released).raise, { files with claim := none })
      else refused
  | .prepareRoot =>
      if self.resume then
        if files.root.isSome then (self.goto .prepareLayout, files) else refused
      else if self.record.state = .prepared ∧ files.root.isNone then
        (self.goto .prepareState, { files with root := some {} })
      else refused
  | .prepareState =>
      (self.goto .prepareLayout,
        { files with root := files.root.map fun root => { root with state := true } })
  | .prepareLayout =>
      (self.goto .prepareAttempt, if self.windows && !self.resume then
        { files with root := files.root.map fun root => { root with layout := root.layout + 1 } }
      else files)
  | .prepareAttempt =>
      (self.goto .prepareOwner, { files with
        root := files.root.map fun root => { root with attempts := me :: root.attempts } })
  | .prepareOwner => ((self.starting me).goto (.openNext .launch), files)
  | .openNext after =>
      if files.next.isNone then
        (self.goto (.writeNext after), { files with next := some ⟨none, 0⟩ })
      else refused
  | .writeNext after =>
      (self.goto (.replaceRecord after), { files with next := some (dump self.record) })
  | .replaceRecord after =>
      match files.next with
      | some text => (saved after, { files with record := text, next := none })
      | none => refused
  | .launch => (self.goto .serving, files)
  | .serving =>
      match serve with
      | .emit state instanceIdentity rest =>
          ((self.emitting state instanceIdentity rest).goto (.openNext .serving), files)
      | .finish true => (self.goto .unlinkClaim, files)
      | .finish false => (self.returns, files)
  | .unlinkClaim =>
      if files.claim.isSome then
        ((self.goto .unlinked).returns, { files with claim := none })
      else refused
  | .handler => (self.toUnknown.goto (.openNext .raise), files)
  | .released | .unlinked => (self, files)
where
  refused : Local × Files := failure me 0 self files
  saved : After → Local
    | .launch => self.goto .launch
    | .serving => self.goto .serving
    | .raise => self.raise

def act (me : RunId) (choice : Choice) (self : Local) (files : Files) : Local × Files :=
  match choice with
  | .proceed inode serve => advance me inode serve self files
  | .fail left => failure me left self files
  | .kill => ({ self with status := .killed }, files)

/-- All runs with the files they share. `started`, newest first, lists the
executions of `owner.start` with the content of `record.json` they go from. -/
structure System where
  runs : RunId → Local
  files : Files
  started : List (RunId × Stored Doc) := []

/-- A call, a step of a run, or a change of what the runs do not write: the plan,
the profile, and the root, where the guest writes. -/
inductive Move where
  | call (id : RunId) (call : Call)
  | run (id : RunId) (choice : Choice)
  | environment (plan : Stored LaunchPlan) (profile : Nat) (root : Option Root)

def Move.actor : Move → Option RunId
  | .call id _ | .run id _ => some id
  | .environment .. => none

/-- The step that executes `owner.start`. -/
def launches (self : Local) (choice : Choice) : Bool :=
  match self.pc, choice with
  | .launch, .proceed _ _ => true
  | _, _ => false

def step (system : System) : Move → System
  | .call id call =>
      let self := system.runs id
      if self.status = .idle then
        { system with runs := Function.update system.runs id { self with
            status := .active, pc := .preflight, record := call.record, resume := call.resume,
            windows := call.windows, sdk37 := call.sdk37 } }
      else system
  | .run id choice =>
      let self := system.runs id
      if self.status = .active then
        let (self', files') := act id choice self system.files
        { runs := Function.update system.runs id self', files := files',
          started := if launches self choice then (id, self.before) :: system.started
            else system.started }
      else system
  | .environment plan profile root =>
      { system with files := { system.files with plan, profile, root } }

structure Instance where
  files : Files
  plain : ∀ doc, files.record.value = some doc → doc.attempt = none
  unsaved : files.next = none
  unclaimed : files.claim = none

def Instance.system (fresh : Instance) : System where
  runs _ := { record := ⟨0, ⟨none, 0⟩, .unknown, none, 0, none, 0⟩, before := ⟨none, 0⟩,
              plan := ⟨none, 0⟩ }
  files := fresh.files

end Bscp.ClaimProtocol
