import Bscp.Machine
import Bscp.Transaction
import Mathlib.Data.List.AList
import Mathlib.Logic.Function.Basic
import Mathlib.Algebra.Ring.Nat
import Mathlib.Algebra.Ring.Int.Defs

/-!
The desktop service for VM contexts (`host_internal_service.rs`) in any number of
processes that share one directory of leases (`desktop_lease.rs`). A call runs on a
thread of its service; what it does with `State` locked is one step of it, and a VM
object it has taken out is dropped in a later step.
-/

namespace Bscp.Virtmgr.HostService

open Transaction (refuse)

abbrev Vm := Nat
abbrev InstanceId := Vector UInt8 64

/-- The lease files `cid-{cid}` and `instance-{id}`. -/
inductive LeaseKey where
  | cid (cid : Int)
  | instance (id : InstanceId)
  deriving DecidableEq

inductive Error where
  | security
  | badCid
  | invalidCid
  | relativeRoot
  | openRoot
  | tooMany
  | exhausted
  | nonUtf8
  | lease
  | directory
  | unknownCid
  | handed
  | notRegistered
  | upgrade
  | claimed
  | notClaimed
  deriving DecidableEq, Repr

/-- The texts that the service itself gives. -/
def Error.message : Error → Option String
  | .invalidCid => some "invalid guest CID"
  | .relativeRoot => some "temporary root must be absolute"
  | .openRoot => some "temporary root must be a private owned directory"
  | .exhausted => some "CID exhausted"
  | .nonUtf8 => some "non UTF-8 instance path"
  | .unknownCid => some "unknown or already registered CID"
  | .handed => some "VM already handed to service owner"
  | .notRegistered => some "CID not registered"
  | .claimed => some "instance already claimed"
  | .notClaimed => some "instance not claimed"
  | _ => none

/-- `State`. A context holds its path, and its lease as long as it is there; so does a
claim. `registered` holds weak references and `owned` strong ones. -/
structure Service where
  contexts : AList (fun _ : Int => String) := ∅
  registered : AList (fun _ : Int => Vm) := ∅
  owned : AList (fun _ : Int => Vm) := ∅
  claims : AList (fun _ : InstanceId => Unit) := ∅

abbrev Leases := LeaseKey → Option Nat

/-- What a thread of a service sees: whether it holds the lock of `State`, and the strong
references it has dropped, each with whether it held the lock then. -/
structure Local where
  service : Service
  leases : Leases
  held : Bool := false
  dropped : List (Vm × Bool) := []

abbrev Action (α : Type) := Transaction.Action Error Local α

/-- The body runs with `State` locked; the guard goes however the body ends. -/
def locked {α : Type} (body : Action α) : Action α :=
  ExceptT.mk fun s =>
    ((body.on { s with held := true }).1, { (body.on { s with held := true }).2 with held := false })

def modifyService (change : Service → Service) : Action Unit :=
  modify fun s => { s with service := change s.service }

def dropStrong (vm : Vm) : Action Unit :=
  modify fun s => { s with dropped := (vm, s.held) :: s.dropped }

def authorize (allowed : Bool) : Action Unit := refuse (allowed = false) .security

/-- `acquire`: `flock` refuses a file that anyone has locked, and all else may fail too. -/
def acquire (me : Nat) (key : LeaseKey) (possible : Bool) : Action Unit := do
  let s ← get
  refuse (possible = false ∨ s.leases key ≠ none) .lease
  modify fun s => { s with leases := Function.update s.leases key (some me) }

def release (key : LeaseKey) : Action Unit :=
  modify fun s => { s with leases := Function.update s.leases key none }

structure Environment where
  allowed : Bool
  /-- What `VIRTMGR_GUEST_CID` parses to, if it is set. -/
  guestCid : Option (Option Int)
  root : String
  absolute : Bool
  ownedRoot : Bool
  utf8 : Bool
  leasable : Bool
  creatable : Bool

structure VmContext where
  cid : Int
  tempDir : String
  deriving DecidableEq, Repr

def contextPath (me : Nat) (root : String) (cid : Int) : String :=
  root ++ "/virtmgr-" ++ toString me ++ "-" ++ toString cid

def Environment.base (env : Environment) : Action Int :=
  match env.guestCid with
  | none => pure 2048
  | some none => throw .badCid
  | some (some base) => pure base

/-- The end of `allocateVmContext`: a lease whose directory cannot be created goes with
its file. -/
def createContext (me : Nat) (env : Environment) (cid : Int) : Action VmContext := do
  acquire me (.cid cid) env.leasable
  if env.creatable then
    modifyService fun s =>
      { s with contexts := s.contexts.insert cid (contextPath me env.root cid) }
    pure ⟨cid, contextPath me env.root cid⟩
  else
    release (.cid cid)
    throw .directory

def allocateVmContext (me : Nat) (env : Environment) : Action VmContext := do
  authorize env.allowed
  let base ← env.base
  refuse (base < 3) .invalidCid
  refuse (env.absolute = false) .relativeRoot
  refuse (env.ownedRoot = false) .openRoot
  locked do
    let s ← get
    refuse (2 ^ 31 ≤ s.service.contexts.entries.length) .tooMany
    refuse (2 ^ 31 ≤ base + s.service.contexts.entries.length) .exhausted
    refuse (env.utf8 = false) .nonUtf8
    createContext me env (base + s.service.contexts.entries.length)

def registerVirtualMachine (allowed : Bool) (cid : Int) (vm : Vm) : Action Unit := do
  authorize allowed
  locked do
    let s ← get
    refuse (cid ∉ s.service.contexts ∨ cid ∈ s.service.registered) .unknownCid
    modifyService fun s => { s with registered := s.registered.insert cid vm }

/-- `retain_for_start`. An insertion drops what it displaces, there and then. -/
def retainForStart (cid : Int) (alive : Bool) : Action Unit :=
  locked do
    let s ← get
    refuse (cid ∈ s.service.owned) .handed
    match s.service.registered.lookup cid with
    | none => throw .notRegistered
    | some vm =>
        refuse (alive = false) .upgrade
        modifyService fun s => { s with owned := s.owned.insert cid vm }
        match s.service.owned.lookup cid with
        | some displaced => dropStrong displaced
        | none => pure ()

/-- `release_owned_registration`, up to the drop of what it returns. -/
def releaseOwnedRegistration (cid : Int) : Action (Option Vm) :=
  locked do
    let s ← get
    modifyService fun s => { s with registered := s.registered.erase cid }
    refuse (s.service.registered.lookup cid = none) .notRegistered
    modifyService fun s => { s with owned := s.owned.erase cid }
    pure (s.service.owned.lookup cid)

def unregisterVirtualMachine (allowed : Bool) (cid : Int) : Action (Option Vm) := do
  authorize allowed
  releaseOwnedRegistration cid

def claimVmInstance (me : Nat) (allowed : Bool) (id : InstanceId) (leasable : Bool) :
    Action Unit := do
  authorize allowed
  locked do
    let s ← get
    refuse (id ∈ s.service.claims) .claimed
    acquire me (.instance id) leasable
    modifyService fun s => { s with claims := s.claims.insert id () }

def removeVmInstance (allowed : Bool) (id : InstanceId) : Action Unit := do
  authorize allowed
  locked do
    let s ← get
    modifyService fun s => { s with claims := s.claims.erase id }
    refuse (s.service.claims.lookup id = none) .notClaimed
    release (.instance id)

inductive Call where
  | allocateVmContext (env : Environment)
  | registerVirtualMachine (allowed : Bool) (cid : Int) (vm : Vm)
  | retainForStart (cid : Int) (alive : Bool)
  | unregisterVirtualMachine (allowed : Bool) (cid : Int)
  | unregisterOwnedVm (cid : Int)
  | claimVmInstance (allowed : Bool) (id : InstanceId) (leasable : Bool)
  | removeVmInstance (allowed : Bool) (id : InstanceId)

structure Reply where
  context : Option VmContext := none
  removed : Option Vm := none

def Call.run (me : Nat) : Call → Action Reply
  | .allocateVmContext env => do return { context := ← HostService.allocateVmContext me env }
  | .registerVirtualMachine allowed cid vm => do
      HostService.registerVirtualMachine allowed cid vm
      return {}
  | .retainForStart cid alive => do
      HostService.retainForStart cid alive
      return {}
  | .unregisterVirtualMachine allowed cid => do
      return { removed := ← HostService.unregisterVirtualMachine allowed cid }
  | .unregisterOwnedVm cid => do return { removed := ← releaseOwnedRegistration cid }
  | .claimVmInstance allowed id leasable => do
      HostService.claimVmInstance me allowed id leasable
      return {}
  | .removeVmInstance allowed id => do
      HostService.removeVmInstance allowed id
      return {}

structure World where
  services : Nat → Option Service := fun _ => none
  leases : Leases := fun _ => none
  /-- The CIDs that a service has handed out. -/
  handed : Nat → List Int := fun _ => []
  /-- The objects that calls have taken out and not dropped yet. -/
  carried : List (Nat × Vm) := []
  dropped : List (Vm × Bool) := []

def World.after (w : World) (me : Nat) (result : Except Error Reply × Local) : World :=
  { w with
    services := Function.update w.services me (some result.2.service)
    leases := result.2.leases
    dropped := result.2.dropped ++ w.dropped
    handed := match result.1 with
      | .ok ⟨some context, _⟩ => Function.update w.handed me (context.cid :: w.handed me)
      | _ => w.handed
    carried := match result.1 with
      | .ok ⟨_, some vm⟩ => (me, vm) :: w.carried
      | _ => w.carried }

def World.call (w : World) (me : Nat) (s : Service) (call : Call) : World :=
  w.after me ((call.run me).on { service := s, leases := w.leases })

inductive Step : World → World → Prop
  | start {w : World} (me : Nat) (free : w.services me = none) :
      Step w { w with
        services := Function.update w.services me (some {})
        handed := Function.update w.handed me [] }
  | call {w : World} {me : Nat} {s : Service} (live : w.services me = some s) (call : Call) :
      Step w (w.call me s call)
  | drop {w : World} {before after : List (Nat × Vm)} {me : Nat} {vm : Vm} {s : Service}
      (taken : w.carried = before ++ (me, vm) :: after) (live : w.services me = some s) :
      Step w { w with
        carried := before ++ after
        dropped := ((dropStrong vm).on { service := s, leases := w.leases }).2.dropped ++ w.dropped }
  | exit {w : World} (me : Nat) :
      Step w { w with
        services := Function.update w.services me none
        leases := fun key => if w.leases key = some me then none else w.leases key
        carried := w.carried.filter fun held => held.1 ≠ me }

abbrev Reachable (w : World) : Prop := Machine.Reach Step {} w

end Bscp.Virtmgr.HostService
