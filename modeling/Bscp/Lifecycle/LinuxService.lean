import Bscp.Processes
import Bscp.Python
import Mathlib.Data.List.Infix

/-!
`native.PosixOwner` on Linux: `linux_live`, `observe`, `guest_done`,
`cleanup_services`, `release_service_handles` and the part of
`finalize_if_terminal` that the retention loop repeats. The kernel is part of
the state. Before each call that reaches it, the processes change as a schedule
says: any of them may exit, be reaped, or have its number given to another. A
call that fails with ENOENT answers `none`; any other failure comes from a tape.
-/

namespace Bscp.LinuxService

open Script Session Processes

abbrev Fd := Nat

structure Info where
  ppid : Pid
  sid : Pid
  exe : Text
  cmd : Text
  deriving DecidableEq, Repr

structure Row extends Info where
  start : Nat
  deriving DecidableEq, Repr

inductive Kind where
  | virtmgr
  | crosvm
  deriving DecidableEq, Repr

structure Member where
  row : Row
  kind : Kind
  deriving DecidableEq, Repr

inductive Evidence where
  | gone
  | exitIdentityPending
  | live
  deriving DecidableEq, Repr

structure Owner where
  owned : Dict Pid Member := []
  evidence : Option Evidence := none
  serviceFds : Dict Pid Fd := []
  serviceTermAttempts : List Pid := []
  serviceCleanupDeadline : Option Int := none
  serviceSignalUnknown : Bool := false
  serviceCloseUnknown : Bool := false
  ownerTerminal : Bool := false
  deriving DecidableEq, Repr

structure Target where
  pid : Pid
  start : Nat
  deriving DecidableEq, Repr

structure Kernel where
  processes : Table Info
  descriptors : Dict Fd Target := []

structure Data where
  self : Owner := {}
  kernel : Kernel

/-- What is seen of a run. `signalled` carries the owned members at that moment
and the process that the signal reached, if the descriptor's process was still
there. -/
inductive Event where
  | cleanup
  | gone (pid : Pid)
  | opened (fd : Fd) (target : Target)
  | exitReported (fd : Fd)
  | signalled (pid : Pid) (owned : Dict Pid Member) (reached : Option Target)
  | closed (fd : Fd)
  deriving DecidableEq, Repr

structure Platform where
  virtmgr : Text
  crosvm : Text
  serviceSocket : Text
  /-- `re.search(r'--cid[ =]<cid>\b', cmd)`. -/
  cidMatches : Text → Bool
  childPid : Pid
  pidfdAvailable : Bool
  schedule : Nat → List (Change Info)
  descriptor : Nat → Fd
  failure : Tape Fault Unit
  procView : Tape Fault Unit
  table : Tape Fault (Dict Pid Row)
  getsid : Tape Fault Pid
  writeText : Tape Fault Unit
  childPoll : Tape Fault (Option Int)
  sessionEmpty : Tape Fault Bool
  closeLog : Tape Fault Unit
  clock : Nat → Int

abbrev State := Session Data Event

abbrev Run (α : Type) := Script State Fault α

def self : Run Owner := fun session => (.done session.data.self, session)

def kernel : Run Kernel := fun session => (.done session.data.kernel, session)

def setSelf (change : Owner → Owner) : Run Unit :=
  update fun data => { data with self := change data.self }

def setDescriptors (change : Dict Fd Target → Dict Fd Target) : Run Unit :=
  update fun data => { data with kernel :=
    { data.kernel with descriptors := change data.kernel.descriptors } }

def Kernel.reaches (kernel : Kernel) (fd : Fd) : Option Target :=
  (kernel.descriptors.find fd).bind fun target =>
    if (kernel.processes.entry target.pid).any (·.start == target.start) then some target else none

/-- A process descriptor is readable once its process has exited. -/
def Kernel.readable (kernel : Kernel) (fd : Fd) : Option Bool :=
  (kernel.descriptors.find fd).map fun target =>
    !kernel.processes.running target.pid target.start

def freeFd (descriptors : Dict Fd Target) (proposed : Fd) : Fd :=
  if proposed ∈ descriptors.keys then descriptors.keys.max?.getD 0 + 1 else proposed

section Model

variable (platform : Platform)

def elapse : Run Unit := fun session =>
  (.done (), { session with
    data := { session.data with kernel := { session.data.kernel with
      processes := session.data.kernel.processes.run (platform.schedule session.turn) } }
    turn := session.turn + 1 })

/-- A call that looks at the process table at one moment. -/
def look {α : Type} (answer : Table Info → α) : Run α := do
  elapse platform
  consult platform.failure
  let kernel ← kernel
  Script.ret (answer kernel.processes)

structure Stat where
  ppid : Pid
  sid : Pid
  start : Nat
  deriving DecidableEq, Repr

def linuxStat (pid : Pid) : Run (Option Stat) :=
  look platform fun table =>
    (table.entry pid).map fun process => ⟨process.info.ppid, process.info.sid, process.start⟩

/-- The link of a process that has exited cannot be resolved. -/
def readExe (pid : Pid) : Run (Option Text) :=
  look platform fun table => (table.entry pid).bind fun process =>
    if process.exited then none else some process.info.exe

def readCmdline (pid : Pid) : Run (Option Text) :=
  look platform fun table => (table.entry pid).map fun process =>
    if process.exited then [] else process.info.cmd

def verifyProcView : Run Unit := consult platform.procView

def linuxAbsence (pid : Pid) : Run Bool := do
  let present ← look platform fun table => (table.entry pid).isSome
  if present then
    Script.raise ⟨.runtimeError, "incomplete owned proc observation; PID directory remains"⟩
  else do
    verifyProcView platform
    setSelf fun self => { self with evidence := some .gone }
    mark (.gone pid)
    Script.ret false

def Stat.agrees (stat : Stat) (row : Row) : Bool :=
  decide (stat.start = row.start) && decide (stat.sid = row.sid)

/-- Parent lineage is not part of the identity. -/
def sameIdentity (record : Row) (stat : Stat) (exe cmd : Text) : Bool :=
  stat.agrees record && decide (record.exe = exe) && decide (record.cmd = cmd)

/-- `exe` or `cmdline` was not there: same generation means still pending. -/
def linuxRecheck (pid : Pid) (row : Row) : Run Bool := do
  let after ← linuxStat platform pid
  match after with
  | none => linuxAbsence platform pid
  | some after => do
      require (after.agrees row) "PID generation/session changed during observation"
      setSelf fun self => { self with evidence := some .exitIdentityPending }
      Script.ret true

def linuxConfirm (pid : Pid) (row : Row) (first : Stat) (exe cmd : Text) : Run Bool := do
  let after ← linuxStat platform pid
  match after with
  | none => linuxAbsence platform pid
  | some after => do
      require (after.agrees row) "PID generation/session changed after identity"
      require (sameIdentity row first exe cmd) "PID identity changed; no action"
      setSelf fun self => { self with evidence := some .live }
      Script.ret true

def linuxLive (pid : Pid) (row : Row) : Run Bool := do
  setSelf fun self => { self with evidence := none }
  verifyProcView platform
  let first ← linuxStat platform pid
  match first with
  | none => linuxAbsence platform pid
  | some first => do
      require (first.agrees row) "PID generation/session changed; no action"
      let exe ← readExe platform pid
      match exe with
      | none => linuxRecheck platform pid row
      | some exe => do
          let cmd ← readCmdline platform pid
          match cmd with
          | none => linuxRecheck platform pid row
          | some cmd => linuxConfirm platform pid row first exe cmd

/-- `self.owned.setdefault(pid, ...)`. -/
def own (pid : Pid) (row : Row) (kind : Kind) : Run Unit :=
  setSelf fun self => { self with
    owned := if (self.owned.find pid).isSome then self.owned else self.owned.put pid ⟨row, kind⟩ }

def observeVirtmgr (pid : Pid) (row : Row) : Run Unit :=
  given (decide (row.exe = platform.virtmgr) && decide (platform.serviceSocket <:+: row.cmd)) do
    let session ← consult platform.getsid
    given (session = platform.childPid) (own pid row .virtmgr)

def observeCrosvm (table : Dict Pid Row) (pid : Pid) (row : Row) : Run Unit := do
  let self ← self
  match self.owned.find row.ppid, table.find row.ppid with
  | some parent, some actual =>
      given (sameIdentity parent.row ⟨actual.ppid, actual.sid, actual.start⟩ actual.exe actual.cmd &&
        decide (row.sid = parent.row.sid) && decide (row.exe = platform.crosvm) &&
        platform.cidMatches row.cmd) (own pid row .crosvm)
  | _, _ => Script.ret ()

def observe : Run Unit := do
  let table ← consult platform.table
  each table fun entry => observeVirtmgr platform entry.1 entry.2
  each table fun entry => observeCrosvm platform table entry.1 entry.2
  consult platform.writeText
  let status ← consult platform.childPoll
  require (decide (status = none ∨ status = some 0)) "launcher failed"

/-- `any(self.live(pid,row) for ... if row['kind']=='crosvm')`, which stops at
the first that is alive. -/
def anyCrosvmLive : Dict Pid Member → Run Bool
  | [] => Script.ret false
  | (pid, member) :: rest =>
      if member.kind = .crosvm then do
        let alive ← linuxLive platform pid member.row
        if alive then Script.ret true else anyCrosvmLive rest
      else anyCrosvmLive rest

def guestPresent (owned : Dict Pid Member) : Bool := owned.any fun entry => entry.2.kind = .crosvm

def guestDone : Run Bool := do
  observe platform
  let self ← self
  if guestPresent self.owned then do
    let alive ← anyCrosvmLive platform self.owned
    Script.ret (!alive)
  else Script.ret false

def pidfdOpen (pid : Pid) : Run Fd := do
  elapse platform
  consult platform.failure
  let kernel ← kernel
  let proposed ← sense platform.descriptor
  match kernel.processes.entry pid with
  | none => Script.raise ⟨.osError, "no such process"⟩
  | some process => do
      let fd := freeFd kernel.descriptors proposed
      let target : Target := ⟨pid, process.start⟩
      setDescriptors fun descriptors => descriptors.put fd target
      mark (.opened fd target)
      Script.ret fd

/-- `bool(select.select([fd],[],[],timeout)[0])`. -/
def selectReadable (fd : Fd) : Run Bool := do
  elapse platform
  consult platform.failure
  let kernel ← kernel
  match kernel.readable fd with
  | none => Script.raise ⟨.osError, "bad file descriptor"⟩
  | some false => Script.ret false
  | some true => do
      mark (.exitReported fd)
      Script.ret true

/-- The signal may have been delivered even if the call raises. -/
def pidfdSendSignal (pid : Pid) (fd : Fd) : Run Unit := do
  elapse platform
  let kernel ← kernel
  let self ← self
  mark (.signalled pid self.owned (kernel.reaches fd))
  consult platform.failure

/-- The descriptor is gone even if the call raises. -/
def osClose (fd : Fd) : Run Unit := do
  elapse platform
  mark (.closed fd)
  setDescriptors fun descriptors => descriptors.remove fd
  consult platform.failure

def releaseEach : Dict Pid Fd → Run Bool
  | [] => Script.ret true
  | (pid, fd) :: rest => do
      let exited ← selectReadable platform fd
      if exited then do
        handle (osClose platform fd) fun exc => do
          setSelf fun self => { self with serviceCloseUnknown := true }
          Script.raise exc
        setSelf fun self => { self with serviceFds := self.serviceFds.remove pid }
        releaseEach rest
      else Script.ret false

def releaseServiceHandles : Run Bool := do
  let self ← self
  require (!self.serviceSignalUnknown) "service signal outcome unknown"
  require (!self.serviceCloseUnknown) "service close outcome unknown"
  releaseEach platform self.serviceFds

/-- `self.live(pid,row) and self.observation_evidence.get('state')=='LIVE'`. -/
def verifiedLive (pid : Pid) (row : Row) : Run Bool := do
  let alive ← linuxLive platform pid row
  let self ← self
  Script.ret (alive && decide (self.evidence = some .live))

def handleFor (pid : Pid) : Run Fd := do
  let self ← self
  match self.serviceFds.find pid with
  | some fd => Script.ret fd
  | none => do
      let fd ← pidfdOpen platform pid
      setSelf fun self => { self with serviceFds := self.serviceFds.put pid fd }
      Script.ret fd

def termOnce (pid : Pid) (row : Row) (fd : Fd) : Run Unit := do
  let verified ← verifiedLive platform pid row
  require verified "pinned service identity pending"
  setSelf fun self => { self with serviceTermAttempts := pid :: self.serviceTermAttempts }
  handle (pidfdSendSignal platform pid fd) fun exc => do
    setSelf fun self => { self with serviceSignalUnknown := true }
    Script.raise exc

def setDeadline : Run Unit := do
  let self ← self
  given self.serviceCleanupDeadline.isNone do
    let now ← sense platform.clock
    setSelf fun self => { self with serviceCleanupDeadline := some (now + 5000) }

/-- The body for a service that `live` has reported. -/
def cleanupLive (pid : Pid) (row : Row) : Run Unit := do
  let current ← self
  require (decide (current.evidence = some .live)) "service identity pending; no signal"
  require platform.pidfdAvailable "stable Linux process handle unavailable"
  setDeadline platform
  let current ← self
  require (!current.serviceSignalUnknown) "service signal result unknown; retain"
  let fd ← handleFor platform pid
  let exited ← selectReadable platform fd
  let current ← self
  given (!exited && decide (pid ∉ current.serviceTermAttempts)) (termOnce platform pid row fd)
  let _ ← sense platform.clock
  let exited ← selectReadable platform fd
  require exited "service cleanup deadline; original handle retained"
  let released ← releaseServiceHandles platform
  require released "original service handle exit pending"

def cleanupMember (pid : Pid) (member : Member) : Run Unit :=
  given (decide (member.kind = .virtmgr)) do
    let alive ← linuxLive platform pid member.row
    given alive (cleanupLive platform pid member.row)

def cleanupServices : Run Unit := do
  mark .cleanup
  let done ← guestDone platform
  require done "Guest still alive"
  let current ← self
  each current.owned fun entry => cleanupMember platform entry.1 entry.2
  let status ← consult platform.childPoll
  require (decide (status = some 0)) "launcher has not completed successfully"
  let empty ← consult platform.sessionEmpty
  require empty "unaccounted session process remains"
  let released ← releaseServiceHandles platform
  require released "original service handle still pending"
  consult platform.closeLog
  setSelf fun self => { self with ownerTerminal := true }
  consult platform.writeText

/-- `finalize_if_terminal` of an owner without a fault binding. -/
def finalizeIfTerminal : Run Bool := do
  let current ← self
  if current.ownerTerminal then Script.ret true else do
    let empty ← consult platform.sessionEmpty
    if empty then do
      let released ← releaseServiceHandles platform
      if released then do
        consult platform.closeLog
        setSelf fun self => { self with ownerTerminal := true }
        Script.ret true
      else Script.ret false
    else do
      let status ← consult platform.childPoll
      given (decide (status = none ∨ status = some 0)) do
        let done ← guestDone platform
        given done (cleanupServices platform)
      let current ← self
      Script.ret current.ownerTerminal

/-- What the supervisor and the retention loop call. -/
inductive Operation where
  | observe
  | guestDone
  | cleanupServices
  | releaseServiceHandles
  | finalizeIfTerminal
  deriving DecidableEq, Repr

def perform : Operation → Run Unit
  | .observe => observe platform
  | .guestDone => andThen (guestDone platform) fun _ => Script.ret ()
  | .cleanupServices => cleanupServices platform
  | .releaseServiceHandles => andThen (releaseServiceHandles platform) fun _ => Script.ret ()
  | .finalizeIfTerminal => andThen (finalizeIfTerminal platform) fun _ => Script.ret ()

/-- Any operations in any order; what each raises is ignored, and the processes
go on between them. -/
def operate (operations : List Operation) : Run Unit :=
  each operations fun operation => handle (perform platform operation) fun _ => Script.ret ()

end Model

section Statement

def Event.opens (fd : Fd) : Event → Bool
  | .opened other _ => other == fd
  | _ => false

def Event.begins : Event → Bool
  | .cleanup => true
  | _ => false

def since (marks : Event → Bool) (history : List Event) : List Event :=
  history.takeWhile fun event => !marks event

/-- A signal goes through the handle of an owned virtmgr, reaches nothing but the
recorded generation of its number, is the first for that number, and comes after
every owned crosvm was seen gone in the same call of `cleanup_services`. A close
is the first since the descriptor was opened, which has reported the exit. -/
def permitted (earlier : List Event) : Event → Prop
  | .signalled pid owned reached =>
      (∃ member, owned.find pid = some member ∧ member.kind = .virtmgr ∧
        ∀ target, reached = some target → target = ⟨pid, member.row.start⟩) ∧
      (∀ owned' reached', .signalled pid owned' reached' ∉ earlier) ∧
      .cleanup ∈ earlier ∧
      ∀ other member, (other, member) ∈ owned → member.kind = .crosvm →
        .gone other ∈ since Event.begins earlier
  | .closed fd =>
      (∃ target, .opened fd target ∈ earlier) ∧
      .exitReported fd ∈ since (Event.opens fd) earlier ∧
      .closed fd ∉ since (Event.opens fd) earlier
  | _ => True

end Statement

end Bscp.LinuxService
