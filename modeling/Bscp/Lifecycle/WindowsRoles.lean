import Bscp.Python
import Bscp.Struct
import Mathlib.Data.List.Perm.Basic
import Mathlib.Logic.Function.Basic

/-!
`windows_initial.observe_roles`: which member of the original Job has which role, and whether the
Guest is live. A member is a retained handle with the identity that was read at its start; what
waiting for it and asking for its parent give is a function of the member, as each is asked once.
-/

namespace Bscp.WindowsRoles

structure Identity where
  pid : Nat
  creationFiletime : Nat
  exePath : String
  exeSha256 : String
  deriving DecidableEq

structure Member where
  handle : Nat
  initial : Identity
  deriving DecidableEq

/-- What `wait(0)` gives. -/
inductive Observation where
  | running
  | exited (exitCode : Nat) (terminateRequested : Bool)
  deriving DecidableEq

def Observation.isExited : Observation → Bool
  | .running => false
  | .exited .. => true

inductive Role where
  | vm
  | virtmgr
  | crosvm
  | console
  deriving DecidableEq

def Role.name : Role → String
  | .vm => "vm"
  | .virtmgr => "virtmgr"
  | .crosvm => "crosvm"
  | .console => "console"

structure Images where
  vm : String
  virtmgr : String
  crosvm : String
  conhost : String

/-- A later entry of the dictionary stands for an earlier one with its key. -/
def Images.role (images : Images) (path : String) : Option Role :=
  if path = images.conhost then some .console
  else if path = images.crosvm then some .crosvm
  else if path = images.virtmgr then some .virtmgr
  else if path = images.vm then some .vm
  else none

structure Family where
  root : Member
  members : List Member

abbrev Roles := Role → List Member

inductive Row where
  | root (identity : Identity) (observation : Observation)
  | child (role : Role) (identity parentIdentity : Identity) (observation : Observation)
  deriving DecidableEq

structure Evidence where
  readyRolesLive : Bool
  members : List Row
  deriving DecidableEq

def refuse {α : Type} (text : String) : Except Fault α := .error ⟨.runtimeError, text⟩

def classify (images : Images) (root : Member) : Roles → List Member → Except Fault Roles
  | roles, [] => .ok roles
  | roles, member :: rest =>
      match images.role member.initial.exePath with
      | none => refuse "unknown original Job image role"
      | some role =>
          if role = .vm ∧ member ≠ root then refuse "additional vm is not original root"
          else if 1 < (roles role ++ [member]).length then
            refuse ("additional " ++ role.name ++ " member exceeds ordinary-run contract")
          else classify images root (Function.update roles role (roles role ++ [member])) rest

section Observe

variable (wait : Member → Except Fault Observation) (parentQuery : Member → Except Fault Nat)

def waitAll (states : Member → Observation) :
    List Member → Except Fault (Member → Observation)
  | [] => .ok states
  | member :: rest => do
      let observation ← wait member
      waitAll (Function.update states member observation) rest

def Role.parent : Role → Role
  | .crosvm => .virtmgr
  | _ => .vm

def childRows (roles : Roles) (states : Member → Observation) (role : Role) :
    List Member → Except Fault (List Row)
  | [] => .ok []
  | member :: rest =>
      match roles role.parent with
      | [parent] => do
          let pid ← parentQuery member
          if pid ≠ parent.initial.pid ∨
              member.initial.creationFiletime < parent.initial.creationFiletime then
            refuse ("original " ++ role.name ++ " parent/generation mismatch")
          else
            let rows ← childRows roles states role rest
            return .child role member.initial parent.initial (states member) :: rows
      | _ => refuse ("missing original " ++ role.parent.name ++ " parent")

def only (group : List Member) (holds : Member → Bool) : Bool :=
  match group with
  | [member] => holds member
  | _ => false

def observeGroups (root : Member) (roles : Roles) : Except Fault (Roles × Evidence) := do
  if roles .vm ≠ [root] then refuse "original vm root missing"
  let states ← waitAll wait (fun _ => .running)
    (roles .vm ++ roles .virtmgr ++ roles .crosvm ++ roles .console)
  let virtmgr ← childRows parentQuery roles states .virtmgr (roles .virtmgr)
  let crosvm ← childRows parentQuery roles states .crosvm (roles .crosvm)
  let console ← childRows parentQuery roles states .console (roles .console)
  let live (role : Role) : Bool := only (roles role) fun member => !(states member).isExited
  let guestEnded := only (roles .crosvm) fun member => (states member).isExited
  if (states root).isExited ∧ !guestEnded then
    refuse "Initial vm owner ended before Guest exit proof"
  if roles .crosvm ≠ [] ∧ !guestEnded ∧ !live .virtmgr then
    refuse "Initial service ended before Guest exit proof"
  return (roles, {
    readyRolesLive := live .vm && live .virtmgr && live .crosvm
    members := .root root.initial (states root) :: virtmgr ++ crosvm ++ console })

def observeRoles (images : Images) (family : Family) : Except Fault (Roles × Evidence) := do
  observeGroups wait parentQuery family.root
    (← classify images family.root (fun _ => []) family.members)

end Observe

/-! ### The classification -/

section Classify

variable {images : Images} {root : Member} {roles : Roles} {members others : List Member}

def Images.has (images : Images) (role : Role) (member : Member) : Bool :=
  images.role member.initial.exePath = some role

def Known (images : Images) (root : Member) (members : List Member) : Prop :=
  ∀ member ∈ members, ∃ role, images.role member.initial.exePath = some role ∧
    (role = .vm → member = root)

theorem known_cons {member : Member} {role : Role}
    (known : images.role member.initial.exePath = some role) :
    Known images root (member :: members) ↔
      (role = .vm → member = root) ∧ Known images root members := by
  rw [Known, List.forall_mem_cons]
  refine and_congr_left fun _ => ⟨?_, fun own => ⟨role, known, own⟩⟩
  rintro ⟨other, same, own⟩
  rw [known] at same
  cases same
  exact own

/-- A member joins the group of its role. -/
theorem grouped {before : Roles} {member : Member} {role : Role}
    (known : images.role member.initial.exePath = some role) (other : Role) :
    Function.update before role (before role ++ [member]) other ++
        members.filter (images.has other) =
      before other ++ (member :: members).filter (images.has other) := by
  by_cases own : other = role
  · subst own
    rw [Function.update_self, List.filter_cons_of_pos (by simp [Images.has, known])]
    simp
  · rw [Function.update_of_ne own,
      List.filter_cons_of_neg (by simpa [Images.has, known] using Ne.symm own)]

theorem classify_eq_ok {before after : Roles} (single : ∀ role, (before role).length ≤ 1) :
    classify images root before members = .ok after ↔
      Known images root members ∧
      (∀ role, (before role ++ members.filter (images.has role)).length ≤ 1) ∧
      after = fun role => before role ++ members.filter (images.has role) := by
  induction members generalizing before with
  | nil =>
      simp only [classify, Known, List.not_mem_nil, false_implies, implies_true, true_and,
        List.filter_nil, List.append_nil, single, Except.ok.injEq]
      exact eq_comm
  | cons member rest more =>
      rw [classify]
      cases known : images.role member.initial.exePath with
      | none =>
          refine ⟨nofun, ?_⟩
          rintro ⟨all, -⟩
          obtain ⟨role, found, -⟩ := all member (.head _)
          rw [known] at found
          cases found
      | some role =>
          simp only [known_cons known, ← grouped known]
          by_cases foreign : role = .vm ∧ member ≠ root
          · rw [if_pos foreign]
            exact ⟨nofun, fun both => absurd (both.1.1 foreign.1) foreign.2⟩
          · have own : role = .vm → member = root := fun vm => by_contra fun ne => foreign ⟨vm, ne⟩
            rw [if_neg foreign]
            by_cases many : 1 < (before role ++ [member]).length
            · rw [if_pos many]
              refine ⟨nofun, ?_⟩
              rintro ⟨-, few, -⟩
              have own_few := few role
              rw [Function.update_self, List.length_append] at own_few
              omega
            · rw [if_neg many, more, and_iff_right own]
              intro other
              by_cases same : other = role
              · subst same
                rw [Function.update_self]
                exact Nat.le_of_not_lt many
              · rw [Function.update_of_ne same]
                exact single other

theorem classify_error {before : Roles} {fault : Fault}
    (failed : classify images root before members = .error fault) : fault.kind = .runtimeError := by
  induction members generalizing before with
  | nil => cases failed
  | cons member rest more =>
      rw [classify] at failed
      split at failed
      · cases failed
        rfl
      · split at failed
        · cases failed
          rfl
        · split at failed
          · cases failed
            rfl
          · exact more failed

/-- A group of one member at most is the same in every order. -/
theorem group_perm (order : members.Perm others) {holds : Member → Bool}
    (single : (members.filter holds).length ≤ 1) : members.filter holds = others.filter holds := by
  have same := order.filter holds
  match found : members.filter holds with
  | [] => rw [found] at same; exact (List.nil_perm.mp same).symm
  | [member] => rw [found] at same; exact List.singleton_perm.mp same
  | _ :: _ :: _ => rw [found] at single; simp at single

/-- The members in another order: the same groups, or no groups again. -/
theorem classify_perm (order : members.Perm others) :
    (classify images root (fun _ => []) members).mapError Fault.kind =
      (classify images root (fun _ => []) others).mapError Fault.kind := by
  have one_way {one two : List Member} (order : one.Perm two) {roles : Roles}
      (found : classify images root (fun _ => []) one = .ok roles) :
      classify images root (fun _ => []) two = .ok roles := by
    obtain ⟨known, single, rfl⟩ := (classify_eq_ok (by simp)).mp found
    simp only [List.nil_append] at single
    refine (classify_eq_ok (by simp)).mpr
      ⟨fun member among => known member (order.mem_iff.mpr among), fun role => ?_, ?_⟩
    · rw [List.nil_append, ← group_perm order (single role)]
      exact single role
    · funext role
      rw [List.nil_append, group_perm order (single role), List.nil_append]
  cases found : classify images root (fun _ => []) members with
  | ok roles => rw [one_way order found]
  | error fault =>
      cases other : classify images root (fun _ => []) others with
      | ok roles =>
          rw [one_way order.symm other] at found
          cases found
      | error second =>
          simp [Except.mapError, classify_error found, classify_error other]

end Classify

/-! ### What a success tells -/

section Accepted

variable {wait : Member → Except Fault Observation} {parentQuery : Member → Except Fault Nat}
  {images : Images} {root : Member} {roles : Roles} {states : Member → Observation}

theorem waitAll_ok {after : Member → Observation} {members : List Member}
    (waited : waitAll wait states members = .ok after) :
    (∀ member ∈ members, wait member = .ok (after member)) ∧
      ∀ member ∉ members, after member = states member := by
  induction members generalizing states with
  | nil =>
      cases waited
      exact ⟨by simp, fun _ _ => rfl⟩
  | cons member rest more =>
      obtain ⟨observation, first, waited⟩ := Struct.bind_inv waited
      obtain ⟨later, others⟩ := more waited
      refine ⟨List.forall_mem_cons.mpr ⟨?_, later⟩, fun other outside => ?_⟩
      · by_cases again : member ∈ rest
        · exact later member again
        · rw [others member again, Function.update_self]
          exact first
      · simp only [List.mem_cons, not_or] at outside
        rw [others other outside.2, Function.update_of_ne outside.1]

/-- A member of a role with its parent, which it was made by and not before. -/
structure Child (parentQuery : Member → Except Fault Nat) (parent member : Member) : Prop where
  query : parentQuery member = .ok parent.initial.pid
  later : parent.initial.creationFiletime ≤ member.initial.creationFiletime

theorem childRows_ok {role : Role} {members : List Member} {rows : List Row}
    (found : childRows parentQuery roles states role members = .ok rows) :
    ∀ member ∈ members, ∃ parent, roles role.parent = [parent] ∧
      Child parentQuery parent member := by
  induction members generalizing rows with
  | nil => simp
  | cons member rest more =>
      rw [childRows] at found
      split at found
      · rename_i parent alone
        obtain ⟨pid, query, found⟩ := Struct.bind_inv found
        split at found
        · cases found
        · rename_i same
          simp only [not_or, not_not, Nat.not_lt] at same
          obtain ⟨later, more_found, -⟩ := Struct.bind_inv found
          exact List.forall_mem_cons.mpr
            ⟨⟨parent, alone, same.1 ▸ query, same.2⟩, more more_found⟩
      · cases found

theorem only_eq_true {group : List Member} {holds : Member → Bool} :
    only group holds = true ↔ ∃ member, group = [member] ∧ holds member = true := by
  unfold only
  split
  · rename_i member
    simp
  · rename_i other
    simp only [Bool.false_eq_true, false_iff, not_exists, not_and]
    exact fun member alone => absurd alone (other member)

def GuestEnded (wait : Member → Except Fault Observation) (roles : Roles) : Prop :=
  ∃ guest code requested, roles .crosvm = [guest] ∧ wait guest = .ok (.exited code requested)

def Live (wait : Member → Except Fault Observation) (roles : Roles) (role : Role) : Prop :=
  ∃ member, roles role = [member] ∧ wait member = .ok .running

theorem only_live {role : Role}
    (waits : ∀ member ∈ roles role, wait member = .ok (states member)) :
    (only (roles role) fun member => !(states member).isExited) = true ↔ Live wait roles role := by
  rw [only_eq_true]
  refine exists_congr fun member => and_congr_right fun alone => ?_
  rw [waits member (by simp [alone])]
  cases states member <;> simp [Observation.isExited]

theorem only_ended (waits : ∀ member ∈ roles .crosvm, wait member = .ok (states member)) :
    (only (roles .crosvm) fun member => (states member).isExited) = true ↔
      GuestEnded wait roles := by
  rw [only_eq_true]
  constructor
  · rintro ⟨member, alone, exited⟩
    cases state : states member with
    | running => simp [state, Observation.isExited] at exited
    | exited code requested =>
        exact ⟨member, code, requested, alone, by rw [waits member (by simp [alone]), state]⟩
  · rintro ⟨member, code, requested, alone, exited⟩
    rw [waits member (by simp [alone])] at exited
    exact ⟨member, alone, by rw [Except.ok.inj exited]; rfl⟩

structure Accepted (wait : Member → Except Fault Observation)
    (parentQuery : Member → Except Fault Nat) (root : Member) (roles : Roles) : Prop where
  vm : roles .vm = [root]
  child : ∀ role ≠ .vm, ∀ member ∈ roles role, ∃ parent, roles role.parent = [parent] ∧
    Child parentQuery parent member
  rootLive : wait root = .ok .running ∨ GuestEnded wait roles
  serviceLive : roles .crosvm = [] ∨ Live wait roles .virtmgr ∨ GuestEnded wait roles

theorem accepted_of_ok {result : Roles × Evidence}
    (found : observeGroups wait parentQuery root roles = .ok result) :
    Accepted wait parentQuery root roles ∧ result.1 = roles ∧
      (result.2.readyRolesLive = true ↔
        Live wait roles .vm ∧ Live wait roles .virtmgr ∧ Live wait roles .crosvm) := by
  unfold observeGroups at found
  by_cases vm : roles .vm = [root]
  · simp only [ne_eq, vm, not_true_eq_false, if_false] at found
    obtain ⟨states, waited, found⟩ := Struct.bind_inv found
    obtain ⟨virtmgr_rows, virtmgr, found⟩ := Struct.bind_inv found
    obtain ⟨crosvm_rows, crosvm, found⟩ := Struct.bind_inv found
    obtain ⟨console_rows, console, found⟩ := Struct.bind_inv found
    obtain ⟨waits, -⟩ := waitAll_ok waited
    have waits_root : wait root = .ok (states root) := waits root (by simp)
    have live (role : Role) (among : ∀ member ∈ roles role, member ∈ [root] ++ roles .virtmgr ++
        roles .crosvm ++ roles .console) :=
      only_live fun member given => waits member (among member given)
    have live_vm := live .vm (by simp [vm])
    have live_virtmgr := live .virtmgr (by simp +contextual)
    have live_crosvm := live .crosvm (by simp +contextual)
    have ended : _ ↔ GuestEnded wait roles :=
      only_ended fun member given => waits member (by simp [given])
    by_cases early : (states root).isExited = true ∧
        (!only (roles .crosvm) fun member => (states member).isExited) = true
    · rw [if_pos early] at found
      cases found
    · rw [if_neg early] at found
      by_cases orphan : roles .crosvm ≠ [] ∧
          (!only (roles .crosvm) fun member => (states member).isExited) = true ∧
          (!only (roles .virtmgr) fun member => !(states member).isExited) = true
      · rw [if_pos orphan] at found
        cases found
      · rw [if_neg orphan] at found
        cases found
        refine ⟨⟨vm, fun role other member given => ?_, ?_, ?_⟩, rfl, ?_⟩
        · cases role with
          | vm => exact absurd rfl other
          | virtmgr => exact childRows_ok virtmgr member given
          | crosvm => exact childRows_ok crosvm member given
          | console => exact childRows_ok console member given
        · cases state : states root with
          | running => exact .inl (by rw [waits_root, state])
          | exited code requested =>
              refine .inr (ended.mp (by_contra fun alive => early ?_))
              simpa [state, Observation.isExited] using alive
        · by_contra dead
          simp only [not_or] at dead
          refine orphan ⟨dead.1, ?_, ?_⟩
          · simpa [← ended] using dead.2.2
          · simpa [← live_virtmgr] using dead.2.1
        · rw [vm] at live_vm
          simp only [Bool.and_eq_true, live_vm, live_virtmgr, live_crosvm, and_assoc]
  · simp only [ne_eq, vm, not_false_eq_true, if_true] at found
    cases found

end Accepted

/-! ### Observations -/

section Observations

variable {wait : Member → Except Fault Observation} {parentQuery : Member → Except Fault Nat}
  {images : Images} {family : Family}

def Family.groups (images : Images) (family : Family) : Roles :=
  fun role => family.members.filter (images.has role)

theorem observeRoles_eq_ok {result : Roles × Evidence} :
    observeRoles wait parentQuery images family = .ok result ↔
      Known images family.root family.members ∧
      (∀ role, (family.groups images role).length ≤ 1) ∧
      observeGroups wait parentQuery family.root (family.groups images) = .ok result := by
  constructor
  · intro found
    obtain ⟨roles, classified, found⟩ := Struct.bind_inv found
    obtain ⟨known, single, rfl⟩ := (classify_eq_ok (by simp)).mp classified
    exact ⟨known, single, found⟩
  · rintro ⟨known, single, found⟩
    have classified : classify images family.root (fun _ => []) family.members =
        .ok (family.groups images) := (classify_eq_ok (by simp)).mpr ⟨known, single, rfl⟩
    rw [observeRoles, classified]
    exact found

theorem observeRoles_perm {root : Member} {members others : List Member}
    (order : members.Perm others) :
    (observeRoles wait parentQuery images ⟨root, members⟩).mapError Fault.kind =
      (observeRoles wait parentQuery images ⟨root, others⟩).mapError Fault.kind := by
  have same := @classify_perm images root members others order
  unfold observeRoles
  simp only
  cases one : classify images root (fun _ => []) members with
  | ok roles =>
      cases two : classify images root (fun _ => []) others with
      | ok others =>
          rw [one, two] at same
          cases same
          rfl
      | error fault => rw [one, two] at same; cases same
  | error fault =>
      cases two : classify images root (fun _ => []) others with
      | ok others => rw [one, two] at same; cases same
      | error second =>
          rw [one, two] at same
          exact congrArg Except.error (Except.error.inj same)

theorem ready_iff : (∃ result, observeRoles wait parentQuery images family = .ok result ∧
      result.2.readyRolesLive = true) ↔
    (∃ result, observeRoles wait parentQuery images family = .ok result) ∧
      ∀ role ≠ .console, Live wait (family.groups images) role := by
  have each : (∀ role ≠ Role.console, Live wait (family.groups images) role) ↔
      Live wait (family.groups images) .vm ∧ Live wait (family.groups images) .virtmgr ∧
        Live wait (family.groups images) .crosvm := by
    constructor
    · exact fun all => ⟨all _ nofun, all _ nofun, all _ nofun⟩
    · rintro ⟨vm, virtmgr, crosvm⟩ role other
      cases role with
      | vm => exact vm
      | virtmgr => exact virtmgr
      | crosvm => exact crosvm
      | console => exact absurd rfl other
  rw [each]
  constructor
  · rintro ⟨result, found, ready⟩
    obtain ⟨-, -, live⟩ := accepted_of_ok (observeRoles_eq_ok.mp found).2.2
    exact ⟨⟨result, found⟩, live.mp ready⟩
  · rintro ⟨⟨result, found⟩, live⟩
    obtain ⟨-, -, ready⟩ := accepted_of_ok (observeRoles_eq_ok.mp found).2.2
    exact ⟨result, found, ready.mpr live⟩

end Observations

section Moments

variable {images : Images}

/-- What can be asked at one time. Waiting may fail, as may asking for a parent. -/
structure Moment where
  family : Family
  state : Member → Observation
  fails : Member → Option Fault
  parentQuery : Member → Except Fault Nat

def Moment.wait (moment : Moment) (member : Member) : Except Fault Observation :=
  match moment.fails member with
  | some fault => .error fault
  | none => .ok (moment.state member)

def Moment.observe (images : Images) (moment : Moment) : Except Fault (Roles × Evidence) :=
  observeRoles moment.wait moment.parentQuery images moment.family

/-- Members are added, and have ended once they have. -/
structure Moment.Later (before after : Moment) : Prop where
  members : ∀ member ∈ before.family.members, member ∈ after.family.members
  ended : ∀ member, (before.state member).isExited = true → (after.state member).isExited = true

theorem Moment.later_of_le {moments : Nat → Moment}
    (later : ∀ time, (moments time).Later (moments (time + 1))) {first last : Nat}
    (order : first ≤ last) : (moments first).Later (moments last) := by
  induction order with
  | refl => exact ⟨fun _ given => given, fun _ ended => ended⟩
  | step _ before =>
      exact ⟨fun member given => (later _).members member (before.members member given),
        fun member ended => (later _).ended member (before.ended member ended)⟩

def Moment.GuestExited (images : Images) (moment : Moment) : Prop :=
  ∃ guest ∈ moment.family.members, images.has .crosvm guest = true ∧
    (moment.state guest).isExited = true

theorem Moment.GuestExited.later {before after : Moment} (exited : before.GuestExited images)
    (later : before.Later after) : after.GuestExited images := by
  obtain ⟨guest, among, has, ended⟩ := exited
  exact ⟨guest, later.members guest among, has, later.ended guest ended⟩

theorem not_ready_of_exited {moment : Moment} {result : Roles × Evidence}
    (exited : moment.GuestExited images) (found : moment.observe images = .ok result) :
    result.2.readyRolesLive = false := by
  refine Bool.eq_false_iff.mpr fun ready => ?_
  obtain ⟨-, live⟩ := ready_iff.mp ⟨result, found, ready⟩
  obtain ⟨member, alone, running⟩ := live .crosvm nofun
  obtain ⟨guest, among, has, ended⟩ := exited
  have same : guest ∈ [member] := alone ▸ List.mem_filter.mpr ⟨among, has⟩
  cases List.mem_singleton.mp same
  unfold Moment.wait at running
  split at running
  · cases running
  · rw [Except.ok.inj running] at ended
    cases ended

/-- `WindowsOwner.observe` keeps the evidence of the last observation that succeeded. -/
def roleEvidence (images : Images) (moments : Nat → Moment) : Nat → Option Evidence
  | 0 => none
  | time + 1 =>
      match (moments time).observe images with
      | .ok result => some result.2
      | .error _ => roleEvidence images moments time

def guestPresent (images : Images) (moments : Nat → Moment) (time : Nat) : Bool :=
  (roleEvidence images moments time).any Evidence.readyRolesLive

theorem guestPresent_succ {moments : Nat → Moment} {time : Nat} :
    guestPresent images moments (time + 1) = true →
      (∃ result, (moments time).observe images = .ok result ∧ result.2.readyRolesLive = true) ∨
      (∃ fault, (moments time).observe images = .error fault) ∧
        guestPresent images moments time = true := by
  unfold guestPresent
  rw [roleEvidence]
  intro present
  cases found : (moments time).observe images with
  | ok result => exact .inl ⟨result, rfl, by simpa [found] using present⟩
  | error fault => exact .inr ⟨⟨fault, rfl⟩, by simpa [found] using present⟩

/-- The order of the members does not matter; a success tells who everyone is; the roles are ready
exactly if it is one and the three of them run; and not any more once the Guest has ended, nor is
the Guest present for the owner that has observed it. -/
theorem observeRoles_sound (images : Images) :
    (∀ wait parentQuery root members others, List.Perm members others →
      (observeRoles wait parentQuery images ⟨root, members⟩).mapError Fault.kind =
        (observeRoles wait parentQuery images ⟨root, others⟩).mapError Fault.kind) ∧
    (∀ wait parentQuery family result,
      observeRoles wait parentQuery images family = .ok result →
        Known images family.root family.members ∧
        (∀ role, (family.groups images role).length ≤ 1) ∧
        Accepted wait parentQuery family.root (family.groups images)) ∧
    (∀ wait parentQuery family,
      (∃ result, observeRoles wait parentQuery images family = .ok result ∧
        result.2.readyRolesLive = true) ↔
      (∃ result, observeRoles wait parentQuery images family = .ok result) ∧
        ∀ role ≠ .console, Live wait (family.groups images) role) ∧
    ∀ moments : Nat → Moment, (∀ time, (moments time).Later (moments (time + 1))) →
      ∀ first last result, first ≤ last → (moments first).GuestExited images →
        ((moments last).observe images = .ok result → result.2.readyRolesLive = false) ∧
        ((moments first).observe images = .ok result →
          guestPresent images moments (last + 1) = false) := by
  refine ⟨fun _ _ _ _ _ order => observeRoles_perm order, fun _ _ _ _ found => ?_,
    fun _ _ _ => ready_iff, fun moments later first last result order exited => ⟨?_, ?_⟩⟩
  · obtain ⟨known, single, grouped⟩ := observeRoles_eq_ok.mp found
    exact ⟨known, single, (accepted_of_ok grouped).1⟩
  · exact not_ready_of_exited (exited.later (Moment.later_of_le later order))
  · intro observed
    refine Bool.eq_false_iff.mpr fun present => ?_
    -- From the first observation on, none that succeeds is ready; one that fails keeps the last.
    induction order with
    | refl =>
        obtain ⟨result, found, ready⟩ | ⟨⟨fault, failed⟩, -⟩ := guestPresent_succ present
        · exact absurd ready (by simp [not_ready_of_exited exited found])
        · rw [observed] at failed
          cases failed
    | @step last between before =>
        obtain ⟨result, found, ready⟩ | ⟨-, still⟩ := guestPresent_succ present
        · have between := Moment.later_of_le later (Nat.le_succ_of_le between)
          exact absurd ready (by simp [not_ready_of_exited (exited.later between) found])
        · exact before still

end Moments

namespace Sample

def identity (pid : Nat) (path : String) : Identity := ⟨pid, pid, path, ""⟩

def root : Member := ⟨1, identity 1 "vm.exe"⟩
def service : Member := ⟨2, identity 2 "virtmgr.exe"⟩
def guest : Member := ⟨3, identity 3 "crosvm.exe"⟩

def images : Images := ⟨"vm.exe", "virtmgr.exe", "crosvm.exe", "conhost.exe"⟩

def wait (ended : Bool) (member : Member) : Observation :=
  if member = guest ∧ ended then .exited 0 false else .running

def moments (time : Nat) : Moment where
  family := ⟨root, [guest, root, service]⟩
  state := wait (decide (time ≠ 0))
  fails := fun _ => none
  parentQuery := fun member => .ok (member.initial.pid - 1)

end Sample

theorem observeRoles_sound_sample :
    (∃ result, (Sample.moments 0).observe Sample.images = .ok result ∧
      result.2.readyRolesLive = true) ∧
    (∃ result, (Sample.moments 1).observe Sample.images = .ok result) ∧
    ∀ last, guestPresent Sample.images Sample.moments (last + 2) = false := by
  have later (time : Nat) : (Sample.moments time).Later (Sample.moments (time + 1)) := by
    refine ⟨fun _ given => given, fun member ended => ?_⟩
    by_cases own : member = Sample.guest
    · simp [Sample.moments, Sample.wait, own, Observation.isExited]
    · simp [Sample.moments, Sample.wait, own, Observation.isExited] at ended
  have exited : (Sample.moments 1).GuestExited Sample.images :=
    ⟨Sample.guest, .head _, by decide, by decide⟩
  refine ⟨⟨_, rfl, by decide⟩, ⟨_, rfl⟩, fun last => ?_⟩
  exact ((observeRoles_sound Sample.images).2.2.2 Sample.moments later 1 (last + 1) _
    (Nat.le_add_left 1 last) exited).2 rfl

end Bscp.WindowsRoles
