import Mathlib.Data.BitVec

/-!
The access check of Windows on files: what the entries of a discretionary list grant to a token,
one after the other, and which entries the objects below a directory inherit.
-/

namespace Bscp.WindowsAccess

abbrev Mask := BitVec 32

/-! ### Rights -/

def FILE_WRITE_DATA : Mask := 0x2
def FILE_APPEND_DATA : Mask := 0x4
def FILE_WRITE_EA : Mask := 0x10
def FILE_DELETE_CHILD : Mask := 0x40
def FILE_WRITE_ATTRIBUTES : Mask := 0x100
def DELETE : Mask := 0x10000
def READ_CONTROL : Mask := 0x20000
def WRITE_DAC : Mask := 0x40000
def WRITE_OWNER : Mask := 0x80000

def GENERIC_READ : Mask := 0x80000000
def GENERIC_WRITE : Mask := 0x40000000
def GENERIC_EXECUTE : Mask := 0x20000000
def GENERIC_ALL : Mask := 0x10000000

def FILE_GENERIC_READ : Mask := 0x120089
def FILE_GENERIC_WRITE : Mask := 0x120116
def FILE_GENERIC_EXECUTE : Mask := 0x1200a0
def FILE_ALL_ACCESS : Mask := 0x1f01ff

/-- What writes, appends, deletes, or changes attributes, the list or the owner. -/
def WRITES : Mask :=
  FILE_WRITE_DATA ||| FILE_APPEND_DATA ||| FILE_WRITE_EA ||| FILE_WRITE_ATTRIBUTES |||
    FILE_DELETE_CHILD ||| DELETE ||| WRITE_DAC ||| WRITE_OWNER

def mapped (mask generic specific : Mask) : Mask := if mask &&& generic ≠ 0 then specific else 0

def mapGenericMask (mask : Mask) : Mask :=
  (mask ||| mapped mask GENERIC_READ FILE_GENERIC_READ |||
    mapped mask GENERIC_WRITE FILE_GENERIC_WRITE |||
    mapped mask GENERIC_EXECUTE FILE_GENERIC_EXECUTE ||| mapped mask GENERIC_ALL FILE_ALL_ACCESS) &&&
      ~~~(GENERIC_READ ||| GENERIC_WRITE ||| GENERIC_EXECUTE ||| GENERIC_ALL)

/-! ### Descriptors -/

structure Sid where
  revision : BitVec 8 := 1
  authority : BitVec 48
  subAuthorities : List (BitVec 32)
  deriving DecidableEq

def LOCAL_SYSTEM : Sid := { authority := 5, subAuthorities := [18] }
def ADMINISTRATORS : Sid := { authority := 5, subAuthorities := [32, 544] }
def CREATOR_OWNER : Sid := { authority := 3, subAuthorities := [0] }
def CREATOR_GROUP : Sid := { authority := 3, subAuthorities := [1] }
def OWNER_RIGHTS : Sid := { authority := 3, subAuthorities := [4] }

def Sid.valid (sid : Sid) : Bool := sid.revision = 1 && sid.subAuthorities.length ≤ 15

def Sid.size (sid : Sid) : Nat := 8 + 4 * sid.subAuthorities.length

structure Ace where
  aceType : BitVec 8
  flags : BitVec 8
  mask : Mask
  /-- What the header gives as the size of the entry. -/
  size : Nat
  sid : Sid
  deriving DecidableEq

def OBJECT_INHERIT_ACE : BitVec 8 := 0x1
def CONTAINER_INHERIT_ACE : BitVec 8 := 0x2
def NO_PROPAGATE_INHERIT_ACE : BitVec 8 := 0x4
def INHERIT_ONLY_ACE : BitVec 8 := 0x8
def INHERITED_ACE : BitVec 8 := 0x10

def Ace.has (ace : Ace) (flag : BitVec 8) : Bool := ace.flags &&& flag ≠ 0

/-- `ACCESS_ALLOWED_ACE_TYPE`, and the other types that allow. -/
def Ace.allows (ace : Ace) : Bool := ace.aceType ∈ [0, 4, 5, 9, 11]

/-- `ACCESS_DENIED_ACE_TYPE`, and the other types that deny. -/
def Ace.denies (ace : Ace) : Bool := ace.aceType ∈ [1, 6, 10, 12]

structure Descriptor where
  owner : Sid
  /-- Nothing if there is no list: everyone has every right. -/
  dacl : Option (List Ace)

structure Token where
  sids : List Sid
  denyOnly : List Sid := []

/-! ### The check -/

namespace Token

variable (token : Token)

/-- An entry for the rights of the owner is for whoever holds the owner. -/
def holds (owner sid : Sid) : Bool :=
  sid ∈ token.sids || (sid = OWNER_RIGHTS && owner ∈ token.sids)

structure Decided where
  granted : Mask
  denied : Mask := 0

def weigh (owner : Sid) (decided : Decided) (ace : Ace) : Decided :=
  if ace.has INHERIT_ONLY_ACE then decided
  else if ace.allows && token.holds owner ace.sid then
    { decided with granted := decided.granted ||| (mapGenericMask ace.mask &&& ~~~decided.denied) }
  else if ace.denies && (token.holds owner ace.sid || ace.sid ∈ token.denyOnly) then
    { decided with denied := decided.denied ||| (mapGenericMask ace.mask &&& ~~~decided.granted) }
  else decided

/-- What the owner has without any entry, unless there are entries for these rights. -/
def implicit (owner : Sid) (aces : List Ace) : Mask :=
  if owner ∈ token.sids ∧
      ¬aces.any fun ace => ace.sid = OWNER_RIGHTS && !ace.has INHERIT_ONLY_ACE then
    READ_CONTROL ||| WRITE_DAC
  else 0

def access (descriptor : Descriptor) : Mask :=
  match descriptor.dacl with
  | none => BitVec.allOnes 32
  | some aces =>
      (aces.foldl (token.weigh descriptor.owner)
        ⟨token.implicit descriptor.owner aces, 0⟩).granted

end Token

/-! ### Inheritance -/

/-- The placeholders stand for who creates an object. -/
def substituted (owner group sid : Sid) : Sid :=
  if sid = CREATOR_OWNER then owner else if sid = CREATOR_GROUP then group else sid

/-- An entry as it applies to a new object itself. -/
def Ace.effective (owner group : Sid) (ace : Ace) : Ace :=
  { ace with
    sid := substituted owner group ace.sid
    mask := mapGenericMask ace.mask
    flags := INHERITED_ACE }

/-- What a new object gets of an entry of its parent. -/
def Ace.inherited (container : Bool) (owner group : Sid) (ace : Ace) : List Ace :=
  if container then
    if ace.has CONTAINER_INHERIT_ACE then
      if ace.has NO_PROPAGATE_INHERIT_ACE then [ace.effective owner group]
      else if (ace.effective owner group).mask = ace.mask ∧
          (ace.effective owner group).sid = ace.sid then
        [{ ace with flags := (ace.flags &&& ~~~INHERIT_ONLY_ACE) ||| INHERITED_ACE }]
      else
        [ace.effective owner group,
          { ace with flags := ace.flags ||| INHERIT_ONLY_ACE ||| INHERITED_ACE }]
    else if ace.has OBJECT_INHERIT_ACE && !ace.has NO_PROPAGATE_INHERIT_ACE then
      [{ ace with flags := ace.flags ||| INHERIT_ONLY_ACE ||| INHERITED_ACE }]
    else []
  else if ace.has OBJECT_INHERIT_ACE then [ace.effective owner group]
  else []

def Descriptor.child (container : Bool) (owner group : Sid) (parent : Descriptor) : Descriptor :=
  ⟨owner, parent.dacl.map fun aces => aces.flatMap (Ace.inherited container owner group)⟩

/-- The objects below a directory, and whether each is one as well. Whoever creates an object may
do so in its parent, and chooses an owner of its own. -/
inductive Below (root : Descriptor) : Descriptor → Bool → Prop
  | here : Below root root true
  | child {parent : Descriptor} {creator : Token} {owner : Sid} (container : Bool) (group : Sid)
      (below : Below root parent true)
      (may : creator.access parent &&& (if container then FILE_APPEND_DATA else FILE_WRITE_DATA) ≠ 0)
      (own : owner ∈ creator.sids) : Below root (parent.child container owner group) container

/-! ### Rights that no entry grants -/

section Rights

variable {bits mask : Mask}

theorem and_part_eq_zero {part : Mask} (within : part &&& bits = part) (none : mask &&& bits = 0) :
    mask &&& part = 0 := by
  rw [← within, BitVec.and_comm part, ← BitVec.and_assoc, none]
  exact BitVec.zero_and

theorem or_and_eq_zero {one two : Mask} (first : one &&& bits = 0) (second : two &&& bits = 0) :
    (one ||| two) &&& bits = 0 := by
  rw [BitVec.and_or_distrib_right, first, second]
  exact BitVec.or_zero

theorem and_and_eq_zero (other : Mask) (none : mask &&& bits = 0) :
    mask &&& other &&& bits = 0 := by
  rw [BitVec.and_assoc, BitVec.and_comm other, ← BitVec.and_assoc, none]
  exact BitVec.zero_and

theorem mapped_and_eq_zero {generic specific : Mask}
    (none : mask &&& generic = 0 ∨ specific &&& bits = 0) :
    mapped mask generic specific &&& bits = 0 := by
  unfold mapped
  split
  · next some => exact none.resolve_left some
  · exact BitVec.zero_and

/-- Rights of which the mask has none, and none of the generic rights that they are part of. -/
theorem mapGenericMask_and_eq_zero (none : mask &&& bits = 0)
    (read : mask &&& GENERIC_READ = 0 ∨ FILE_GENERIC_READ &&& bits = 0)
    (write : mask &&& GENERIC_WRITE = 0 ∨ FILE_GENERIC_WRITE &&& bits = 0)
    (execute : mask &&& GENERIC_EXECUTE = 0 ∨ FILE_GENERIC_EXECUTE &&& bits = 0)
    (all : mask &&& GENERIC_ALL = 0 ∨ FILE_ALL_ACCESS &&& bits = 0) :
    mapGenericMask mask &&& bits = 0 :=
  and_and_eq_zero _ (or_and_eq_zero (or_and_eq_zero (or_and_eq_zero (or_and_eq_zero none
    (mapped_and_eq_zero read)) (mapped_and_eq_zero write)) (mapped_and_eq_zero execute))
    (mapped_and_eq_zero all))

@[simp] theorem mapGenericMask_zero : mapGenericMask 0 = 0 := by decide

variable {token : Token} {owner : Sid} {aces : List Ace}

def Withheld (bits : Mask) (token : Token) (aces : List Ace) : Prop :=
  ∀ ace ∈ aces, ace.has INHERIT_ONLY_ACE = false → ace.allows = true → ace.sid ∈ token.sids →
    mapGenericMask ace.mask &&& bits = 0

theorem holds_eq {sid : Sid} (foreign : owner ∉ token.sids) (holds : token.holds owner sid = true) :
    sid ∈ token.sids := by
  simpa [Token.holds, foreign] using holds

theorem weigh_and_eq_zero {decided : Token.Decided} {ace : Ace} (foreign : owner ∉ token.sids)
    (withheld : Withheld bits token [ace]) (none : decided.granted &&& bits = 0) :
    (token.weigh owner decided ace).granted &&& bits = 0 := by
  unfold Token.weigh
  split
  · exact none
  split
  · next effective allowed =>
      rw [Bool.and_eq_true] at allowed
      have grants := withheld ace (.head []) (by simpa using effective) allowed.1
        (holds_eq foreign allowed.2)
      exact or_and_eq_zero none (and_and_eq_zero _ grants)
  split
  · exact none
  · exact none

theorem access_and_eq_zero {descriptor : Descriptor} (listed : descriptor.dacl = some aces)
    (foreign : descriptor.owner ∉ token.sids) (withheld : Withheld bits token aces) :
    token.access descriptor &&& bits = 0 := by
  have loop : ∀ decided : Token.Decided, decided.granted &&& bits = 0 →
      (aces.foldl (token.weigh descriptor.owner) decided).granted &&& bits = 0 := by
    clear listed
    induction aces with
    | nil => exact fun _ none => none
    | cons ace rest more =>
        intro decided none
        refine more (fun other member => withheld other (.tail ace member)) _ ?_
        refine weigh_and_eq_zero foreign (fun other member => ?_) none
        exact withheld other (List.mem_singleton.mp member ▸ .head rest)
  have implicit : token.implicit descriptor.owner aces = 0 := if_neg fun own => foreign own.1
  rw [Token.access, listed]
  exact loop _ (by rw [implicit]; exact BitVec.zero_and)

end Rights

/-! ### What inheritance does to an entry -/

section Inheritance

variable {container : Bool} {owner group : Sid} {ace child : Ace}

theorem mem_inherited (member : child ∈ ace.inherited container owner group) :
    child.aceType = ace.aceType ∧
      (child.mask = ace.mask ∧ child.sid = ace.sid ∨
        child.mask = mapGenericMask ace.mask ∧ child.sid = substituted owner group ace.sid) := by
  have applied : (ace.effective owner group).aceType = ace.aceType ∧
      ((ace.effective owner group).mask = ace.mask ∧ (ace.effective owner group).sid = ace.sid ∨
        (ace.effective owner group).mask = mapGenericMask ace.mask ∧
          (ace.effective owner group).sid = substituted owner group ace.sid) :=
    ⟨rfl, .inr ⟨rfl, rfl⟩⟩
  have kept (flags : BitVec 8) : ({ ace with flags := flags } : Ace).aceType = ace.aceType ∧
      (({ ace with flags := flags } : Ace).mask = ace.mask ∧
        ({ ace with flags := flags } : Ace).sid = ace.sid ∨
          ({ ace with flags := flags } : Ace).mask = mapGenericMask ace.mask ∧
            ({ ace with flags := flags } : Ace).sid = substituted owner group ace.sid) :=
    ⟨rfl, .inl ⟨rfl, rfl⟩⟩
  unfold Ace.inherited at member
  split at member
  · split at member
    · split at member
      · obtain rfl := List.mem_singleton.mp member
        exact applied
      split at member
      · obtain rfl := List.mem_singleton.mp member
        exact kept _
      · rcases List.mem_pair.mp member with rfl | rfl
        · exact applied
        · exact kept _
    split at member
    · obtain rfl := List.mem_singleton.mp member
      exact kept _
    · cases member
  split at member
  · obtain rfl := List.mem_singleton.mp member
    exact applied
  · cases member

end Inheritance

end Bscp.WindowsAccess
