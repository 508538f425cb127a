import Bscp.WindowsAccess
import Mathlib.Data.List.Basic
import Mathlib.Tactic.Common

/-!
The checks of who else may use a file or a directory: `check_security_details` in
`libs/desktop_host/src/windows_private_directory.rs`, and `noForeignWrite` with the check of the
owner in `windows-platform/WindowsAccessControl.cpp`.
-/

namespace Bscp.Virtmgr.PrivateDirectory

open WindowsAccess

structure Object where
  /-- The size of the descriptor. -/
  needed : Nat
  validDescriptor : Bool := true
  /-- There is an owner. -/
  owned : Bool := true
  descriptor : Descriptor
  validAcl : Bool := true

/-! ### `check_security_details` -/

inductive Failure where
  | oversized
  | invalidDescriptor
  | missingOwner
  | foreignOwner
  | invalidDacl
  | complexAce
  | truncatedAce
  | truncatedSid
  | foreignAccess
  | notInheritable
  deriving DecidableEq

def Failure.text : Failure → String
  | .oversized => "unavailable or oversized security descriptor"
  | .invalidDescriptor => "invalid descriptor"
  | .missingOwner => "missing owner"
  | .foreignOwner => "foreign owner"
  | .invalidDacl => "missing or invalid DACL"
  | .complexAce => "unsupported complex ACE"
  | .truncatedAce => "truncated ACE"
  | .truncatedSid => "truncated ACE SID"
  | .foreignAccess => "foreign access violates lease privacy"
  | .notInheritable =>
      "private child requires inheritable owner full access, not default-token ACL fallback"

def trusted (sid owner : Sid) : Bool := sid = owner || sid = LOCAL_SYSTEM || sid = ADMINISTRATORS

def FOREIGN_WRITE : Mask :=
  0x40000000 ||| 0x10000000 ||| FILE_WRITE_DATA ||| FILE_APPEND_DATA ||| FILE_WRITE_EA |||
    FILE_WRITE_ATTRIBUTES ||| FILE_DELETE_CHILD ||| DELETE ||| WRITE_DAC ||| WRITE_OWNER

section CheckSecurity

variable (owner : Sid) (isPrivate creatingChild containerChild : Bool)

/-- Full access of the owner that directories below inherit. -/
def ownerInherits (ace : Ace) : Bool :=
  containerChild && ace.has CONTAINER_INHERIT_ACE && ace.sid = owner &&
    (ace.mask &&& GENERIC_ALL ≠ 0 || ace.mask &&& FILE_ALL_ACCESS = FILE_ALL_ACCESS)

def checkAce (inherits : Bool) (ace : Ace) : Except Failure Bool := do
  if ace.aceType ≠ 0 ∧ ace.aceType ≠ 1 then throw .complexAce
  if ace.size < 16 then throw .truncatedAce
  if ace.sid.revision ≠ 1 ∨ 15 < ace.sid.subAuthorities.length ∨ ace.size < 8 + ace.sid.size then
    throw .truncatedSid
  if ace.aceType = 1 ∨ (creatingChild = false ∧ ace.has INHERIT_ONLY_ACE = true) then
    return inherits
  if trusted ace.sid owner = false ∧
      (if isPrivate then ace.mask ≠ 0 else ace.mask &&& FOREIGN_WRITE ≠ 0) then
    throw .foreignAccess
  return inherits || ownerInherits owner containerChild ace

def checkSecurityDetails (object : Object) : Except Failure Unit := do
  if object.needed = 0 ∨ 65536 < object.needed then throw .oversized
  if object.validDescriptor = false then throw .invalidDescriptor
  if object.owned = false ∨ object.descriptor.owner.valid = false then throw .missingOwner
  if if isPrivate then object.descriptor.owner ≠ owner
      else trusted object.descriptor.owner owner = false then
    throw .foreignOwner
  match object.descriptor.dacl with
  | none => throw .invalidDacl
  | some aces =>
      if object.validAcl = false then throw .invalidDacl
      let inherits ← aces.foldlM (checkAce owner isPrivate creatingChild containerChild) false
      if containerChild = true ∧ inherits = false then throw .notInheritable

end CheckSecurity

/-! ### `noForeignWrite` -/

def ERROR_SUCCESS : Nat := 0
def ERROR_ACCESS_DENIED : Nat := 5
def ERROR_NOT_SUPPORTED : Nat := 50
def ERROR_INVALID_ACL : Nat := 1336
def ERROR_INVALID_SID : Nat := 1337

def trustedSystemSid (sid : Sid) : Bool := sid = LOCAL_SYSTEM || sid = ADMINISTRATORS

def noForeignWriteIn (owner : Sid) : List Ace → Nat
  | [] => ERROR_SUCCESS
  | ace :: rest =>
      if ace.aceType = 1 then noForeignWriteIn owner rest
      else if ace.aceType ≠ 0 then ERROR_NOT_SUPPORTED
      else if ace.size < 12 then ERROR_INVALID_ACL
      else
        let available := ace.size - 8
        if available < 8 ∨ 15 < ace.sid.subAuthorities.length ∨ available < ace.sid.size ∨
            ace.sid.valid = false then
          ERROR_INVALID_SID
        else if mapGenericMask ace.mask &&& WRITES ≠ 0 ∧ owner ≠ ace.sid ∧
            trustedSystemSid ace.sid = false then
          ERROR_ACCESS_DENIED
        else noForeignWriteIn owner rest

def noForeignWrite (object : Object) : Nat :=
  match object.descriptor.dacl with
  | none => ERROR_INVALID_ACL
  | some aces =>
      if object.validAcl = false then ERROR_INVALID_ACL
      else noForeignWriteIn object.descriptor.owner aces

inductive FileAccessKind where
  | readImage
  | readOwnedDirectory
  | writeInstance
  deriving DecidableEq

/-- The check of the owner in `checkCurrentCallerFile`, and then that of the list. -/
def checkOwnerAndList (kind : FileAccessKind) (caller : Sid) (object : Object) : Nat :=
  if object.descriptor.owner ≠ caller ∧
      (kind ≠ .readImage ∨ trustedSystemSid object.descriptor.owner = false) then
    ERROR_ACCESS_DENIED
  else noForeignWrite object

/-! ### What is accepted -/

section Accepted

variable {owner : Sid} {isPrivate creatingChild containerChild : Bool}

def Restricted (isPrivate : Bool) (mask : Mask) : Prop :=
  if isPrivate then mask = 0 else mask &&& FOREIGN_WRITE = 0

/-- An entry that denies, or is passed over, or is of someone trusted, or may not do much. -/
structure Guarded (owner : Sid) (isPrivate creatingChild : Bool) (ace : Ace) : Prop where
  simple : ace.aceType = 0 ∨ ace.aceType = 1
  harmless : ace.aceType = 1 ∨ (creatingChild = false ∧ ace.has INHERIT_ONLY_ACE = true) ∨
    trusted ace.sid owner = true ∨ Restricted isPrivate ace.mask

theorem guarded_of_checkAce {inherits after : Bool} {ace : Ace}
    (checked : checkAce owner isPrivate creatingChild containerChild inherits ace = .ok after) :
    Guarded owner isPrivate creatingChild ace := by
  unfold checkAce at checked
  by_cases complex : ace.aceType ≠ 0 ∧ ace.aceType ≠ 1
  · simp only [if_pos complex] at checked
    cases checked
  by_cases short : ace.size < 16
  · simp only [if_neg complex, if_pos short] at checked
    cases checked
  by_cases truncated : ace.sid.revision ≠ 1 ∨ 15 < ace.sid.subAuthorities.length ∨
      ace.size < 8 + ace.sid.size
  · simp only [if_neg complex, if_neg short, if_pos truncated] at checked
    cases checked
  have simple : ace.aceType = 0 ∨ ace.aceType = 1 := by
    by_contra neither
    exact complex (not_or.mp neither)
  refine ⟨simple, ?_⟩
  by_cases passed : ace.aceType = 1 ∨ (creatingChild = false ∧ ace.has INHERIT_ONLY_ACE = true)
  · exact passed.imp_right .inl
  by_cases bad : trusted ace.sid owner = false ∧
      (if isPrivate then ace.mask ≠ 0 else ace.mask &&& FOREIGN_WRITE ≠ 0)
  · simp only [if_neg complex, if_neg short, if_neg truncated, if_neg passed, if_pos bad] at checked
    cases checked
  · refine .inr (.inr ?_)
    cases known : trusted ace.sid owner with
    | true => exact .inl rfl
    | false =>
        refine .inr ?_
        have fine := fun some => bad ⟨known, some⟩
        unfold Restricted
        cases isPrivate <;> simpa using fine

theorem guarded_of_loop {aces : List Ace} {inherits after : Bool}
    (checked : aces.foldlM (checkAce owner isPrivate creatingChild containerChild) inherits =
      .ok after) : ∀ ace ∈ aces, Guarded owner isPrivate creatingChild ace := by
  induction aces generalizing inherits with
  | nil => exact fun _ member => absurd member List.not_mem_nil
  | cons ace rest more =>
      rw [List.foldlM_cons] at checked
      cases one : checkAce owner isPrivate creatingChild containerChild inherits ace with
      | error failure =>
          rw [one] at checked
          cases checked
      | ok next =>
          rw [one] at checked
          exact List.forall_mem_cons.mpr ⟨guarded_of_checkAce one, more checked⟩

theorem guarded_of_checked {object : Object}
    (checked : checkSecurityDetails owner isPrivate creatingChild containerChild object = .ok ()) :
    ∃ aces, object.descriptor.dacl = some aces ∧
      (∀ ace ∈ aces, Guarded owner isPrivate creatingChild ace) ∧
        trusted object.descriptor.owner owner = true := by
  unfold checkSecurityDetails at checked
  by_cases oversized : object.needed = 0 ∨ 65536 < object.needed
  · simp only [if_pos oversized] at checked
    cases checked
  by_cases invalid : object.validDescriptor = false
  · simp only [if_neg oversized, if_pos invalid] at checked
    cases checked
  by_cases missing : object.owned = false ∨ object.descriptor.owner.valid = false
  · simp only [if_neg oversized, if_neg invalid, if_pos missing] at checked
    cases checked
  by_cases foreign : if isPrivate then object.descriptor.owner ≠ owner
      else trusted object.descriptor.owner owner = false
  · simp only [if_neg oversized, if_neg invalid, if_neg missing, if_pos foreign] at checked
    cases checked
  have known : trusted object.descriptor.owner owner = true := by
    cases isPrivate with
    | true =>
        have same : object.descriptor.owner = owner := by simpa using foreign
        simp [trusted, same]
    | false => simpa using foreign
  simp only [if_neg oversized, if_neg invalid, if_neg missing, if_neg foreign] at checked
  cases listed : object.descriptor.dacl with
  | none =>
      rw [listed] at checked
      cases checked
  | some aces =>
      rw [listed] at checked
      by_cases broken : object.validAcl = false
      · simp only [if_pos broken] at checked
        cases checked
      simp only [if_neg broken] at checked
      cases looped : aces.foldlM (checkAce owner isPrivate creatingChild containerChild) false with
      | error failure =>
          rw [looped] at checked
          cases checked
      | ok inherits => exact ⟨aces, rfl, guarded_of_loop looped, known⟩

end Accepted

/-! ### What a foreign token is granted -/

/-- A token without the owner, `LocalSystem` and `Administrators`. -/
def Foreign (token : Token) (owner : Sid) : Prop := ∀ sid ∈ token.sids, trusted sid owner = false

def withheldBits (isPrivate : Bool) : Mask := if isPrivate then BitVec.allOnes 32 else WRITES

theorem restricted_bits {isPrivate : Bool} {mask : Mask} (restricted : Restricted isPrivate mask) :
    mapGenericMask mask &&& withheldBits isPrivate = 0 := by
  cases isPrivate with
  | true =>
      have zero : mask = 0 := restricted
      rw [zero, mapGenericMask_zero]
      exact BitVec.zero_and
  | false =>
      have none : mask &&& FOREIGN_WRITE = 0 := restricted
      exact mapGenericMask_and_eq_zero (and_part_eq_zero (by decide) none) (.inr (by decide))
        (.inl (and_part_eq_zero (by decide) none)) (.inr (by decide))
        (.inl (and_part_eq_zero (by decide) none))

section Granted

variable {owner : Sid} {isPrivate creatingChild containerChild : Bool} {token : Token}
  {aces : List Ace}

theorem withheld_of_guarded (foreign : Foreign token owner)
    (guarded : ∀ ace ∈ aces, Guarded owner isPrivate creatingChild ace) :
    Withheld (withheldBits isPrivate) token aces := by
  intro ace member effective allows holds
  rcases (guarded ace member).harmless with denies | passed | known | restricted
  · rw [Ace.allows, denies] at allows
    exact absurd allows (by decide)
  · rw [passed.2] at effective
    cases effective
  · rw [foreign _ holds] at known
    cases known
  · exact restricted_bits restricted

theorem foreign_owner (foreign : Foreign token owner) {sid : Sid}
    (known : trusted sid owner = true) : sid ∉ token.sids := by
  intro holds
  rw [foreign sid holds] at known
  cases known

theorem granted_of_checked (foreign : Foreign token owner) {object : Object}
    (checked : checkSecurityDetails owner isPrivate creatingChild containerChild object = .ok ()) :
    token.access object.descriptor &&& withheldBits isPrivate = 0 := by
  obtain ⟨aces, listed, guarded, known⟩ := guarded_of_checked checked
  exact access_and_eq_zero listed (foreign_owner foreign known)
    (withheld_of_guarded foreign guarded)

def Harmless (owner : Sid) (ace : Ace) : Prop :=
  ace.aceType = 1 ∨ ace.aceType = 0 ∧
    (mapGenericMask ace.mask &&& WRITES = 0 ∨ trusted ace.sid owner = true)

theorem harmless_of_accepted (accepted : noForeignWriteIn owner aces = ERROR_SUCCESS) :
    ∀ ace ∈ aces, Harmless owner ace := by
  induction aces with
  | nil => exact fun _ member => absurd member List.not_mem_nil
  | cons ace rest more =>
      unfold noForeignWriteIn at accepted
      split at accepted
      · next denies => exact List.forall_mem_cons.mpr ⟨.inl denies, more accepted⟩
      split at accepted
      · cases accepted
      next allows =>
      split at accepted
      · cases accepted
      simp only at accepted
      split at accepted
      · cases accepted
      split at accepted
      · cases accepted
      · next fine =>
          refine List.forall_mem_cons.mpr ⟨.inr ⟨not_not.mp allows, ?_⟩, more accepted⟩
          by_cases writes : mapGenericMask ace.mask &&& WRITES = 0
          · exact .inl writes
          · refine .inr ?_
            by_contra untrusted
            simp only [trusted, Bool.or_eq_true, decide_eq_true_eq, not_or] at untrusted
            refine fine ⟨writes, Ne.symm untrusted.1.1, ?_⟩
            simp [trustedSystemSid, untrusted.1.2, untrusted.2]

theorem granted_of_noForeignWrite {object : Object}
    (foreign : Foreign token object.descriptor.owner)
    (accepted : noForeignWrite object = ERROR_SUCCESS) :
    token.access object.descriptor &&& WRITES = 0 := by
  unfold noForeignWrite at accepted
  split at accepted
  · cases accepted
  next aces listed =>
  split at accepted
  · cases accepted
  have harmless := harmless_of_accepted accepted
  refine access_and_eq_zero listed (foreign_owner foreign (by simp [trusted])) ?_
  intro ace member _ allows holds
  rcases harmless ace member with denies | ⟨-, none | known⟩
  · rw [Ace.allows, denies] at allows
    exact absurd allows (by decide)
  · exact none
  · rw [foreign _ holds] at known
    cases known

end Granted

theorem accepted_of_caller {kind : FileAccessKind} {caller : Sid} {object : Object}
    (accepted : checkOwnerAndList kind caller object = ERROR_SUCCESS) :
    (object.descriptor.owner = caller ∨ trustedSystemSid object.descriptor.owner = true) ∧
      noForeignWrite object = ERROR_SUCCESS := by
  unfold checkOwnerAndList at accepted
  split at accepted
  · cases accepted
  next known =>
  refine ⟨?_, accepted⟩
  by_contra neither
  obtain ⟨other, untrusted⟩ := not_or.mp neither
  exact known ⟨other, .inr (by simpa using untrusted)⟩

/-! ### Objects below a directory -/

section Descendants

variable {owner : Sid} {isPrivate : Bool} {token : Token}

/-- Neither placeholder: the owner is the user of a token. -/
structure Real (owner : Sid) : Prop where
  not_owner : owner ≠ CREATOR_OWNER
  not_group : owner ≠ CREATOR_GROUP

theorem restricted_mapped {mask : Mask} (restricted : Restricted isPrivate mask) :
    Restricted isPrivate (mapGenericMask mask) := by
  cases isPrivate with
  | true =>
      have zero : mask = 0 := restricted
      rw [zero, mapGenericMask_zero]
      rfl
  | false =>
      have none : mask &&& FOREIGN_WRITE = 0 := restricted
      exact mapGenericMask_and_eq_zero none (.inr (by decide))
        (.inl (and_part_eq_zero (by decide) none)) (.inr (by decide))
        (.inl (and_part_eq_zero (by decide) none))

theorem substituted_trusted (real : Real owner) {sid creator group : Sid}
    (known : trusted sid owner = true) : substituted creator group sid = sid := by
  have placeholder : sid ≠ CREATOR_OWNER ∧ sid ≠ CREATOR_GROUP := by
    simp only [trusted, Bool.or_eq_true, decide_eq_true_eq] at known
    rcases known with (rfl | rfl) | rfl
    · exact ⟨real.not_owner, real.not_group⟩
    · decide
    · decide
  rw [substituted, if_neg placeholder.1, if_neg placeholder.2]

theorem Guarded.inherited (real : Real owner) {container : Bool} {creator group : Sid}
    {ace child : Ace} (guarded : Guarded owner isPrivate true ace)
    (member : child ∈ ace.inherited container creator group) :
    Guarded owner isPrivate true child := by
  obtain ⟨same, entry⟩ := mem_inherited member
  refine ⟨same ▸ guarded.simple, ?_⟩
  rcases guarded.harmless with denies | passed | known | restricted
  · exact .inl (same.trans denies)
  · cases passed.1
  · refine .inr (.inr (.inl ?_))
    rcases entry with ⟨-, sid⟩ | ⟨-, sid⟩
    · rwa [sid]
    · rwa [sid, substituted_trusted real known]
  · refine .inr (.inr (.inr ?_))
    rcases entry with ⟨mask, -⟩ | ⟨mask, -⟩
    · rwa [mask]
    · rw [mask]
      exact restricted_mapped restricted

theorem guarded_below (real : Real owner) {root descriptor : Descriptor} {container : Bool}
    (guarded : ∃ aces, root.dacl = some aces ∧ ∀ ace ∈ aces, Guarded owner isPrivate true ace)
    (below : Below root descriptor container) :
    ∃ aces, descriptor.dacl = some aces ∧ ∀ ace ∈ aces, Guarded owner isPrivate true ace := by
  induction below with
  | here => exact guarded
  | child container group _ _ _ parents =>
      obtain ⟨aces, listed, all⟩ := parents
      refine ⟨_, by rw [Descriptor.child, listed]; rfl, fun child member => ?_⟩
      obtain ⟨ace, given, from_ace⟩ := List.mem_flatMap.mp member
      exact (all ace given).inherited real from_ace

/-- A list that is checked for children as well guards every object below. -/
theorem granted_below (real : Real owner) {object : Object} {containerChild container : Bool}
    {descriptor : Descriptor} (foreign : Foreign token owner)
    (checked : checkSecurityDetails owner isPrivate true containerChild object = .ok ())
    (below : Below object.descriptor descriptor container)
    (unowned : descriptor.owner ∉ token.sids) :
    token.access descriptor &&& withheldBits isPrivate = 0 := by
  obtain ⟨aces, listed, guarded, -⟩ := guarded_of_checked checked
  obtain ⟨others, others_listed, all⟩ := guarded_below real ⟨aces, listed, guarded⟩ below
  exact access_and_eq_zero others_listed unowned (withheld_of_guarded foreign all)

end Descendants

/-! ### Both checks -/

structure Sound (owner : Sid) (object : Object) (token : Token) : Prop where
  exclusive : ∀ creatingChild containerChild,
    checkSecurityDetails owner true creatingChild containerChild object = .ok () →
      token.access object.descriptor = 0
  shared : ∀ creatingChild containerChild,
    checkSecurityDetails owner false creatingChild containerChild object = .ok () →
      token.access object.descriptor &&& WRITES = 0
  listed : object.descriptor.owner = owner ∨ trustedSystemSid object.descriptor.owner = true →
    object.descriptor.owner ∉ token.sids → noForeignWrite object = ERROR_SUCCESS →
      token.access object.descriptor &&& WRITES = 0
  called : ∀ kind, object.descriptor.owner ∉ token.sids →
    checkOwnerAndList kind owner object = ERROR_SUCCESS →
      token.access object.descriptor &&& WRITES = 0
  below : Real owner → ∀ isPrivate containerChild,
    checkSecurityDetails owner isPrivate true containerChild object = .ok () →
      ∀ descriptor container, Below object.descriptor descriptor container →
        descriptor.owner ∉ token.sids →
          token.access descriptor &&& (if isPrivate then BitVec.allOnes 32 else WRITES) = 0

variable {owner : Sid} {object : Object} {token : Token}

theorem foreign_of_system (foreign : Foreign token owner)
    (unowned : object.descriptor.owner ∉ token.sids) : Foreign token object.descriptor.owner := by
  intro sid holds
  have other := foreign sid holds
  simp only [trusted, Bool.or_eq_false_iff, decide_eq_false_iff_not] at other ⊢
  exact ⟨⟨fun same => unowned (same ▸ holds), other.1.2⟩, other.2⟩

theorem sound_of_foreign (foreign : Foreign token owner) : Sound owner object token where
  exclusive _ _ checked := by
    have none := granted_of_checked foreign checked
    rwa [withheldBits, if_pos rfl, BitVec.and_allOnes] at none
  shared _ _ checked := granted_of_checked foreign checked
  listed _ unowned accepted := granted_of_noForeignWrite (foreign_of_system foreign unowned) accepted
  called _ unowned accepted :=
    granted_of_noForeignWrite (foreign_of_system foreign unowned) (accepted_of_caller accepted).2
  below real _ _ checked _ _ below unowned := granted_below real foreign checked below unowned

/-! ### A directory -/

def user (number : BitVec 32) : Sid := { authority := 5, subAuthorities := [21, number] }

def fullAccess (sid : Sid) : Ace := ⟨0, 0x3, FILE_ALL_ACCESS, 8 + sid.size, sid⟩

def directory : Object where
  needed := 120
  descriptor := ⟨user 1001, some [fullAccess (user 1001), fullAccess ADMINISTRATORS]⟩

theorem sound_directory : Foreign ⟨[user 1002], []⟩ (user 1001) ∧
    Sound (user 1001) directory ⟨[user 1002], []⟩ :=
  ⟨by unfold Foreign; decide, sound_of_foreign (by unfold Foreign; decide)⟩

/-- An administrator has made a file below and owns it as the user that it is, who may read its
list and change it without being one. -/
theorem owner_below_is_granted : ¬∀ owner object token, Foreign token owner → Real owner →
    checkSecurityDetails owner true true false object = .ok () →
      ∀ descriptor container, Below object.descriptor descriptor container →
        token.access descriptor = 0 := by
  intro exclusive
  have below : Below directory.descriptor
      (directory.descriptor.child false (user 1002) (user 513)) false :=
    @Below.child _ _ ⟨[user 1002, ADMINISTRATORS], []⟩ _ false (user 513) .here (by decide)
      (by decide)
  have none := exclusive (user 1001) directory ⟨[user 1002], []⟩ (by unfold Foreign; decide)
    ⟨by decide, by decide⟩ (by decide) _ _ below
  exact absurd none (by decide)

end Bscp.Virtmgr.PrivateDirectory
