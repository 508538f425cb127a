import Bscp.Virtmgr.NdrOwner
import Mathlib.Data.List.Perm.Basic

/-!
Where every node is, and which releasing calls are made for it. A node keeps what it was made
with until a call takes it; the calls of one owner follow from what the owner still has. The
list of servers, the retained nodes and those let go are only ever permuted, but for the node
that an operation changes.
-/

namespace Bscp.Virtmgr.NdrOwner

/-! ### A node and its calls -/

def Call.has : Call → Resources → Bool
  | .releaseServer, node => node.server.isSome
  | .releaseAcceptor, node => node.cap.isSome
  | .stop, node => node.listenerOwned

def Call.settled (call : Call) (node : Resources) : Bool := !call.has node || node.ambiguous

def Event.took (e : Event) : Prop := e.left = none ∧ (e.call = .stop → e.status = 0)

/-- A call is made for what the owner has, never for an ambiguous owner, and the listener is
stopped last. -/
structure Event.Lawful (e : Event) : Prop where
  has : e.call.has e.owner = true
  unambiguous : e.owner.ambiguous = false
  last : e.call = .stop → e.owner.server = none ∧ e.owner.cap = none

/-- After a call that succeeded the same owner makes it no more. -/
def Event.Once (first later : Event) : Prop :=
  first.owner.id = later.owner.id → first.call = later.call → first.status ≠ 0

structure Changes (node : Resources) (calls : List Event) (after : Resources) : Prop where
  id : after.id = node.id
  owner : ∀ e ∈ calls, e.owner.id = node.id
  lawful : ∀ e ∈ calls, e.Lawful
  unsettled : ∀ e ∈ calls, e.call.settled node = false
  settled : ∀ call : Call, call.settled node = true → call.settled after = true
  done : ∀ e ∈ calls, e.status = 0 → e.call.settled after = true
  once : calls.Pairwise Event.Once
  taken : ∀ call : Call, call.has node = true →
    call.has after = true ∨ ∃ e ∈ calls, e.call = call ∧ e.took

theorem Changes.refl (node : Resources) : Changes node [] node where
  id := rfl
  owner := List.forall_mem_nil _
  lawful := List.forall_mem_nil _
  unsettled := List.forall_mem_nil _
  settled := fun _ settled => settled
  done := List.forall_mem_nil _
  once := .nil
  taken := fun _ has => .inl has

theorem Changes.trans {node middle after : Resources} {calls more : List Event}
    (first : Changes node calls middle) (second : Changes middle more after) :
    Changes node (calls ++ more) after where
  id := second.id.trans first.id
  owner := by
    intro e mem
    rcases List.mem_append.mp mem with mem | mem
    · exact first.owner e mem
    · exact (second.owner e mem).trans first.id
  lawful := by
    intro e mem
    rcases List.mem_append.mp mem with mem | mem
    · exact first.lawful e mem
    · exact second.lawful e mem
  unsettled := by
    intro e mem
    rcases List.mem_append.mp mem with mem | mem
    · exact first.unsettled e mem
    · by_contra settled
      have still := first.settled e.call (by simpa using settled)
      exact absurd (still.symm.trans (second.unsettled e mem)) nofun
  settled := fun call settled => second.settled call (first.settled call settled)
  done := by
    intro e mem ok
    rcases List.mem_append.mp mem with mem | mem
    · exact second.settled _ (first.done e mem ok)
    · exact second.done e mem ok
  once := by
    refine List.pairwise_append.mpr ⟨first.once, second.once, fun e mem f later _ same ok => ?_⟩
    have still := first.done e mem ok
    rw [same] at still
    exact absurd (still.symm.trans (second.unsettled f later)) nofun
  taken := by
    intro call has
    rcases first.taken call has with has | ⟨e, mem, same, took⟩
    · rcases second.taken call has with has | ⟨e, mem, same, took⟩
      · exact .inl has
      · exact .inr ⟨e, List.mem_append_right _ mem, same, took⟩
    · exact .inr ⟨e, List.mem_append_left _ mem, same, took⟩

/-- A single call. -/
theorem Changes.single {node after : Resources} {e : Event} (id : after.id = node.id)
    (owner : e.owner = node) (lawful : e.Lawful) (settled : ∀ call : Call,
      call.settled node = true → call.settled after = true)
    (done : e.status = 0 → e.call.settled after = true)
    (taken : ∀ call : Call, call.has node = true → call.has after = true ∨ e.call = call ∧ e.took) :
    Changes node [e] after where
  id := id
  owner := fun f mem => by rw [List.mem_singleton.mp mem, owner]
  lawful := fun f mem => by rw [List.mem_singleton.mp mem]; exact lawful
  unsettled := by
    intro f mem
    obtain rfl := List.mem_singleton.mp mem
    subst owner
    simp [Call.settled, lawful.has, lawful.unambiguous]
  settled := settled
  done := fun f mem ok => by
    obtain rfl := List.mem_singleton.mp mem
    exact done ok
  once := List.pairwise_singleton _ _
  taken := by
    intro call has
    rcases taken call has with has | took
    · exact .inl has
    · exact .inr ⟨e, List.mem_singleton_self e, took⟩

/-! ### `release_joined` -/

theorem Stage.andThen_changes {node : Resources} {stage : Stage} {next : Resources → Stage}
    (first : Changes node stage.calls stage.node)
    (second : stage.failure = none → Changes stage.node (next stage.node).calls (next stage.node).node) :
    Changes node (stage.andThen next).calls (stage.andThen next).node := by
  unfold Stage.andThen
  cases fails : stage.failure with
  | some failure => exact first
  | none => exact first.trans (second fails)

section Stages

variable {g : Resources}

theorem Changes.server (there : g.server.isNone ≠ true) (clean : g.ambiguous = false)
    (answer : Answer) (ambiguous : Bool)
    (kept : answer.status = 0 → answer.left = none ∨ ambiguous = true) :
    Changes g [⟨.releaseServer, g, answer.status, answer.left⟩]
      { g with server := answer.left, ambiguous := ambiguous } := by
  apply Changes.single
  case id => rfl
  case owner => rfl
  case lawful => exact ⟨by simpa [Call.has, Option.isSome_iff_ne_none] using there, clean, nofun⟩
  case settled => rintro (_ | _ | _) <;> grind -ring -linarith [Call.settled, Call.has]
  case done => grind -ring -linarith [Call.settled, Call.has]
  case taken => rintro (_ | _ | _) <;> cases left : answer.left <;> simp_all [Call.has, Event.took]

theorem releaseServer_changes (clean : g.ambiguous = false) (answer : Answer) :
    Changes g (releaseServer g answer).calls (releaseServer g answer).node := by
  unfold releaseServer
  split
  · exact .refl g
  · rename_i there
    dsimp only
    split
    · exact .refl g
    · split
      · exact .server there clean answer _ fun ok => absurd ok ‹_›
      · split
        · exact .server there clean answer _ fun _ => .inr rfl
        · exact .server there clean answer _ fun _ => .inl (Option.not_isSome_iff_eq_none.mp ‹_›)

theorem Changes.acceptor (there : g.cap.isNone ≠ true) (clean : g.ambiguous = false)
    (answer : Answer) (ambiguous : Bool)
    (kept : answer.status = 0 → answer.left = none ∨ ambiguous = true) :
    Changes g [⟨.releaseAcceptor, g, answer.status, answer.left⟩]
      { g with cap := answer.left, ambiguous := ambiguous } := by
  apply Changes.single
  case id => rfl
  case owner => rfl
  case lawful => exact ⟨by simpa [Call.has, Option.isSome_iff_ne_none] using there, clean, nofun⟩
  case settled => rintro (_ | _ | _) <;> grind -ring -linarith [Call.settled, Call.has]
  case done => grind -ring -linarith [Call.settled, Call.has]
  case taken => rintro (_ | _ | _) <;> cases left : answer.left <;> simp_all [Call.has, Event.took]

theorem releaseAcceptor_changes (clean : g.ambiguous = false) (answer : Answer) :
    Changes g (releaseAcceptor g answer).calls (releaseAcceptor g answer).node := by
  unfold releaseAcceptor
  split
  · exact .refl g
  · rename_i there
    dsimp only
    split
    · exact .acceptor there clean answer _ fun ok => absurd ok ‹_›
    · split
      · exact .acceptor there clean answer _ fun _ => .inr rfl
      · exact .acceptor there clean answer _ fun _ => .inl (Option.not_isSome_iff_eq_none.mp ‹_›)

theorem stopListener_changes (clean : g.ambiguous = false) (null : g.server = none ∧ g.cap = none)
    (status : Int) : Changes g (stopListener g status).calls (stopListener g status).node := by
  unfold stopListener
  split
  · exact .refl g
  · rename_i owned
    dsimp only
    have lawful : Event.Lawful ⟨.stop, g, status, none⟩ :=
      ⟨by simpa [Call.has] using owned, clean, fun _ => null⟩
    split
    · apply Changes.single (e := ⟨.stop, g, status, none⟩)
      case id => rfl
      case owner => rfl
      case lawful => exact lawful
      case settled => exact fun _ settled => settled
      case done => exact fun ok => absurd ok ‹_›
      case taken => exact fun _ => .inl
    · apply Changes.single (e := ⟨.stop, g, status, none⟩)
      case id => rfl
      case owner => rfl
      case lawful => exact lawful
      case settled => rintro (_ | _ | _) <;> grind -ring -linarith [Call.settled, Call.has]
      case done => grind -ring -linarith [Call.settled, Call.has]
      case taken => rintro (_ | _ | _) <;> grind -ring -linarith [Call.has, Event.took]

/-- After it, without a failure, there is no server. -/
theorem releaseServer_null (clean : g.ambiguous = false) (answer : Answer)
    (went : (releaseServer g answer).failure = none) :
    (releaseServer g answer).node.server = none ∧
      (releaseServer g answer).node.ambiguous = false := by
  unfold releaseServer at went ⊢
  grind -ring -linarith [Option.isNone_iff_eq_none, Option.not_isSome_iff_eq_none]

theorem releaseAcceptor_null (clean : g.ambiguous = false) (answer : Answer)
    (went : (releaseAcceptor g answer).failure = none) :
    (releaseAcceptor g answer).node.cap = none ∧
      (releaseAcceptor g answer).node.ambiguous = false ∧
      (releaseAcceptor g answer).node.server = g.server := by
  unfold releaseAcceptor at went ⊢
  grind -ring -linarith [Option.isNone_iff_eq_none, Option.not_isSome_iff_eq_none]

theorem releaseJoined_changes (natives : Releasing) :
    Changes g (releaseJoined g natives).calls (releaseJoined g natives).node := by
  unfold releaseJoined
  split
  · exact .refl g
  · rename_i clean
    rw [Bool.not_eq_true] at clean
    apply Stage.andThen_changes (releaseServer_changes clean natives.server)
    intro went
    obtain ⟨server, clean⟩ := releaseServer_null clean natives.server went
    generalize (releaseServer g natives.server).node = g at server clean
    apply Stage.andThen_changes (releaseAcceptor_changes clean natives.acceptor)
    intro went
    obtain ⟨cap, clean, same⟩ := releaseAcceptor_null clean natives.acceptor went
    exact stopListener_changes clean ⟨same.trans server, cap⟩ natives.stop

end Stages

/-! ### Where the nodes are -/

namespace World

def nodes (w : World) : List Resources := w.live.map (·.inner) ++ w.retained ++ w.freed

end World

structure Kept (w : World) (node : Resources) : Prop where
  done : ∀ e ∈ w.calls, e.owner.id = node.id → e.status = 0 → e.call.settled node = true
  taken : ∀ made ∈ w.made, made.id = node.id → ∀ call : Call, call.has made = true →
    call.has node = true ∨ ∃ e ∈ w.calls, e.owner.id = node.id ∧ e.call = call ∧ e.took

structure Owned (w : World) : Prop where
  places : (w.nodes.map (·.id)).Perm (w.made.map (·.id))
  unique : (w.made.map (·.id)).Nodup
  young : ∀ node ∈ w.made, node.id < w.nextId
  past : ∀ e ∈ w.calls, e.owner.id < w.nextId
  lawful : ∀ e ∈ w.calls, e.Lawful
  once : w.calls.Pairwise Event.Once
  kept : ∀ node ∈ w.nodes, Kept w node
  empty : ∀ node ∈ w.freed, node.holds = false

theorem Owned.new : Owned {} where
  places := .refl _
  unique := List.nodup_nil
  young := List.forall_mem_nil _
  past := List.forall_mem_nil _
  lawful := List.forall_mem_nil _
  once := .nil
  kept := List.forall_mem_nil _
  empty := List.forall_mem_nil _

/-- The nodes moved, and nothing was called. -/
theorem Owned.moved {w next : World} (owned : Owned w) (nodes : next.nodes.Perm w.nodes)
    (same : next.nextId = w.nextId ∧ next.made = w.made ∧ next.calls = w.calls)
    (empty : ∀ node ∈ next.freed, node.holds = false) : Owned next := by
  obtain ⟨id, made, calls⟩ := same
  constructor
  case places => rw [made]; exact (nodes.map _).trans owned.places
  case unique => rw [made]; exact owned.unique
  case young => rw [made, id]; exact owned.young
  case past => rw [calls, id]; exact owned.past
  case lawful => rw [calls]; exact owned.lawful
  case once => rw [calls]; exact owned.once
  case kept =>
    intro node mem
    obtain ⟨done, taken⟩ := owned.kept node (nodes.mem_iff.mp mem)
    exact ⟨by rwa [calls], by rwa [made, calls]⟩
  case empty => exact empty

/-- More calls keep what was taken. -/
theorem Kept.taken_more {w next : World} {node : Resources} {calls : List Event}
    (kept : Kept w node) (made : next.made = w.made) (more : next.calls = w.calls ++ calls) :
    ∀ made ∈ next.made, made.id = node.id → ∀ call : Call, call.has made = true →
      call.has node = true ∨ ∃ e ∈ next.calls, e.owner.id = node.id ∧ e.call = call ∧ e.took := by
  intro born mem same call has
  rw [made] at mem
  rcases kept.taken born mem same call has with has | ⟨e, mem, took⟩
  · exact .inl has
  · exact .inr ⟨e, by rw [more]; exact List.mem_append_left _ mem, took⟩

/-- One node changed, under the calls made for it. -/
theorem Owned.changed {w next : World} {node after : Resources} {rest : List Resources}
    {calls : List Event} (owned : Owned w) (changes : Changes node calls after)
    (before : w.nodes.Perm (node :: rest)) (nodes : next.nodes.Perm (after :: rest))
    (same : next.nextId = w.nextId ∧ next.made = w.made ∧ next.freed = w.freed)
    (more : next.calls = w.calls ++ calls) : Owned next := by
  obtain ⟨id, made, freed⟩ := same
  have ids : (w.nodes.map (·.id)).Perm (node.id :: rest.map (·.id)) := before.map _
  have here : Kept w node := owned.kept node (before.mem_iff.mpr List.mem_cons_self)
  have known : node.id < w.nextId := by
    have mem := (ids.symm.trans owned.places).mem_iff.mp List.mem_cons_self
    obtain ⟨born, mem, same⟩ := List.mem_map.mp mem
    exact same ▸ owned.young born mem
  -- no other node has the owner's identity
  have others : ∀ other ∈ rest, other.id ≠ node.id := by
    have unique := (ids.symm.trans owned.places).nodup_iff.mpr owned.unique
    intro other mem same
    exact (List.nodup_cons.mp unique).1 (same ▸ List.mem_map_of_mem mem)
  constructor
  case places =>
    rw [made]
    refine (nodes.map _).trans (.trans ?_ owned.places)
    rw [List.map_cons, changes.id]
    exact ids.symm
  case unique => rw [made]; exact owned.unique
  case young => rw [made, id]; exact owned.young
  case past =>
    rw [more, id]
    intro e mem
    rcases List.mem_append.mp mem with mem | mem
    · exact owned.past e mem
    · exact (changes.owner e mem).symm ▸ known
  case lawful =>
    rw [more]
    intro e mem
    rcases List.mem_append.mp mem with mem | mem
    · exact owned.lawful e mem
    · exact changes.lawful e mem
  case once =>
    rw [more]
    refine List.pairwise_append.mpr ⟨owned.once, changes.once, fun e mem f later owner same ok => ?_⟩
    have settled := here.done e mem (owner.trans (changes.owner f later)) ok
    rw [same] at settled
    exact absurd (settled.symm.trans (changes.unsettled f later)) nofun
  case kept =>
    intro other mem
    rcases List.mem_cons.mp (nodes.mem_iff.mp mem) with rfl | mem
    · constructor
      · rw [more, changes.id]
        intro e mem owner ok
        rcases List.mem_append.mp mem with mem | mem
        · exact changes.settled _ (here.done e mem owner ok)
        · exact changes.done e mem ok
      · rw [changes.id]
        intro born mem same call has
        rcases here.taken_more made more born mem same call has with has | took
        · rcases changes.taken call has with has | ⟨e, mem, same, took⟩
          · exact .inl has
          · exact .inr ⟨e, by rw [more]; exact List.mem_append_right _ mem, changes.owner e mem,
              same, took⟩
        · exact .inr took
    · have kept := owned.kept other (before.mem_iff.mpr (List.mem_cons_of_mem _ mem))
      refine ⟨?_, kept.taken_more made more⟩
      rw [more]
      intro e held owner ok
      rcases List.mem_append.mp held with held | held
      · exact kept.done e held owner ok
      · exact absurd (owner.symm.trans (changes.owner e held)) (others other mem)
  case empty => rw [freed]; exact owned.empty

/-- A node was made. -/
theorem Owned.made {w next : World} {node : Resources} (owned : Owned w) (id : node.id = w.nextId)
    (nodes : next.nodes.Perm (node :: w.nodes))
    (same : next.nextId = w.nextId + 1 ∧ next.made = node :: w.made ∧ next.calls = w.calls)
    (empty : ∀ node ∈ next.freed, node.holds = false) : Owned next := by
  obtain ⟨later, made, calls⟩ := same
  have fresh : ∀ born ∈ w.made, born.id ≠ node.id := by
    intro born mem same
    exact absurd (owned.young born mem) (by omega)
  constructor
  case places =>
    rw [made]
    exact (nodes.map _).trans (owned.places.cons node.id)
  case unique =>
    rw [made]
    refine List.nodup_cons.mpr ⟨fun mem => ?_, owned.unique⟩
    obtain ⟨born, mem, same⟩ := List.mem_map.mp mem
    exact fresh born mem same
  case young =>
    rw [made, later]
    intro born mem
    rcases List.mem_cons.mp mem with rfl | mem
    · omega
    · exact Nat.lt_succ_of_lt (owned.young born mem)
  case past =>
    rw [calls, later]
    exact fun e mem => Nat.lt_succ_of_lt (owned.past e mem)
  case lawful => rw [calls]; exact owned.lawful
  case once => rw [calls]; exact owned.once
  case kept =>
    intro other mem
    rcases List.mem_cons.mp (nodes.mem_iff.mp mem) with rfl | mem
    · constructor
      · rw [calls]
        exact fun e mem owner => absurd (owned.past e mem) (by omega)
      · rw [made]
        intro born mem same call has
        rcases List.mem_cons.mp mem with rfl | mem
        · exact .inl has
        · exact absurd same (fresh born mem)
    · have kept := owned.kept other mem
      have place := owned.places.mem_iff.mp (List.mem_map_of_mem mem)
      obtain ⟨known, there, eq⟩ := List.mem_map.mp place
      constructor
      · rw [calls]
        exact kept.done
      · rw [made, calls]
        intro born mem same
        rcases List.mem_cons.mp mem with rfl | mem
        · exact absurd (eq.trans same.symm) (fresh known there)
        · exact kept.taken born mem same
  case empty => exact empty

/-! ### The operations -/

section Operations

variable {w : World}

def World.others (w : World) (k : Nat) : List Resources :=
  (w.live.eraseIdx k).map (·.inner) ++ w.retained ++ w.freed

theorem nodes_at {k : Nat} {s : Server} (there : w.live[k]? = some s) :
    w.nodes.Perm (s.inner :: w.others k) := by
  obtain ⟨bound, eq⟩ := List.getElem?_eq_some_iff.mp there
  have split := (List.getElem_cons_eraseIdx_perm bound).symm
  rw [eq] at split
  exact ((split.map (·.inner)).append_right w.retained).append_right w.freed

theorem nodes_set {k : Nat} {s : Server} (there : w.live[k]? = some s) (after : Server)
    (calls : List Event) :
    World.nodes { w with live := w.live.set k after, calls := calls } |>.Perm
      (after.inner :: w.others k) := by
  obtain ⟨bound, eq⟩ := List.getElem?_eq_some_iff.mp there
  have split := List.set_perm_cons_eraseIdx bound after
  exact ((split.map (·.inner)).append_right w.retained).append_right w.freed

structure Spares (node after : Resources) : Prop where
  id : after.id = node.id
  ambiguous : after.ambiguous = node.ambiguous
  has : ∀ call : Call, call.has after = call.has node

theorem Spares.changes {node after : Resources} (spares : Spares node after) :
    Changes node [] after where
  id := spares.id
  owner := List.forall_mem_nil _
  lawful := List.forall_mem_nil _
  unsettled := List.forall_mem_nil _
  settled := fun call settled => by
    rwa [Call.settled, spares.has call, spares.ambiguous]
  done := List.forall_mem_nil _
  once := .nil
  taken := fun call has => .inl ((spares.has call).trans has)

theorem on_owned {α : Type} (owned : Owned w) (k : Nat)
    {operation : Server → Server × Except Failure α}
    (spares : ∀ s, Spares s.inner (operation s).1.inner) : Owned (w.on k operation) := by
  unfold World.on
  cases there : w.live[k]? with
  | none => exact owned
  | some s =>
      have changes := (spares s).changes
      exact owned.changed changes (nodes_at there) (nodes_set there _ w.calls) ⟨rfl, rfl, rfl⟩
        (List.append_nil _).symm

theorem release_owned (owned : Owned w) (k : Nat) (natives : Releasing) :
    Owned (w.release k natives) := by
  unfold World.release
  cases there : w.live[k]? with
  | none => exact owned
  | some s =>
      exact owned.changed (releaseJoined_changes natives) (nodes_at there)
        (nodes_set there _ _) ⟨rfl, rfl, rfl⟩ rfl

theorem drop_owned (owned : Owned w) (k : Nat) : Owned (w.drop k) := by
  unfold World.drop
  cases there : w.live[k]? with
  | none => exact owned
  | some s =>
      have nodes := nodes_at there
      dsimp only
      split
      · apply owned.moved
        case nodes => exact .trans (List.perm_middle.append_right w.freed) nodes.symm
        case same => exact ⟨rfl, rfl, rfl⟩
        case empty => exact owned.empty
      · rename_i holds
        apply owned.moved
        case nodes => exact List.perm_middle.trans nodes.symm
        case same => exact ⟨rfl, rfl, rfl⟩
        case empty =>
          intro node mem
          rcases List.mem_cons.mp mem with rfl | mem
          · exact Bool.eq_false_iff.mpr holds
          · exact owned.empty node mem

theorem unlink_some {id : Nat} {list : List Resources} :
    ∀ {value : Resources} {rest : List Resources},
      World.unlink id list = some (value, rest) → list.Perm (value :: rest) ∧ value.id = id := by
  induction list with
  | nil => exact nofun
  | cons head next ih =>
      intro value rest found
      unfold World.unlink at found
      split at found
      · rename_i same
        obtain ⟨rfl, rfl⟩ := Prod.mk.inj (Option.some.inj found)
        exact ⟨.refl _, same⟩
      · obtain ⟨⟨inner, left⟩, within, eq⟩ := Option.map_eq_some_iff.mp found
        obtain ⟨rfl, rfl⟩ := Prod.mk.inj eq
        obtain ⟨perm, same⟩ := ih within
        exact ⟨(perm.cons head).trans (.swap inner head left), same⟩

theorem unlink_none {id : Nat} {list : List Resources} (absent : World.unlink id list = none) :
    ∀ node ∈ list, node.id ≠ id := by
  induction list with
  | nil => exact nofun
  | cons head next ih =>
      unfold World.unlink at absent
      split at absent
      · exact absurd absent nofun
      · rename_i different
        intro node mem
        rcases List.mem_cons.mp mem with rfl | mem
        · exact different
        · exact ih (Option.map_eq_none_iff.mp absent) node mem

/-- Where the identities differ, the walk takes out one node and keeps the others in order. -/
theorem unlink_filter {id : Nat} {list : List Resources} :
    ∀ {value : Resources} {rest : List Resources}, (list.map (·.id)).Nodup →
      World.unlink id list = some (value, rest) → rest = list.filter (·.id ≠ id) := by
  induction list with
  | nil => exact fun _ => nofun
  | cons head next ih =>
      intro value rest unique found
      obtain ⟨absent, unique⟩ := List.nodup_cons.mp unique
      unfold World.unlink at found
      split at found
      · rename_i same
        obtain ⟨rfl, rfl⟩ := Prod.mk.inj (Option.some.inj found)
        rw [List.filter_cons_of_neg (by simpa using same)]
        refine (List.filter_eq_self.mpr fun node mem => ?_).symm
        simp only [ne_eq, decide_not, Bool.not_eq_true', decide_eq_false_iff_not]
        exact fun again => absent (List.mem_map.mpr ⟨node, mem, again.trans same.symm⟩)
      · rename_i different
        obtain ⟨⟨inner, left⟩, within, eq⟩ := Option.map_eq_some_iff.mp found
        obtain ⟨rfl, rfl⟩ := Prod.mk.inj eq
        rw [List.filter_cons_of_pos (by simpa using different), ih unique within]

theorem recover_owned (owned : Owned w) (id : Nat) : Owned (w.recoverRetained id).1 := by
  unfold World.recoverRetained
  cases found : World.unlink id w.retained with
  | none => exact owned
  | some pair =>
      obtain ⟨value, rest⟩ := pair
      apply owned.moved
      case nodes =>
        obtain ⟨perm, -⟩ := unlink_some found
        unfold World.nodes
        dsimp only
        rw [List.map_append, List.append_assoc (w.live.map _)]
        exact (perm.symm.append_left (w.live.map (·.inner))).append_right w.freed
      case same => exact ⟨rfl, rfl, rfl⟩
      case empty => exact owned.empty

def Created.Proper (id : Nat) : Created → Prop
  | .live node => node.id = id
  | .retained node _ => node.id = id
  | .dropped node _ => node.id = id ∧ node.holds = false

theorem create_proper (id : Nat) (listening : Listening) (factory : Factory) :
    (create id listening factory).Proper id := by
  unfold create
  dsimp only
  split
  · split
    · exact rfl
    · rename_i null
      exact ⟨rfl, by simpa [Resources.holds] using null⟩
  · split
    · exact rfl
    · split
      · exact rfl
      · exact rfl

theorem newListener_owned (owned : Owned w) (endpoint : List Nat) (listening : Listening)
    (factory : Factory) : Owned (w.newListener endpoint listening factory).1 := by
  unfold World.newListener
  split
  · exact owned
  · split
    · exact owned
    · have cases := create_proper w.nextId listening factory
      dsimp only
      cases created : create w.nextId listening factory with
      | live node =>
          rw [created] at cases
          apply @Owned.made w _ node owned cases
          case nodes =>
            unfold World.nodes
            dsimp only
            rw [List.map_append, List.append_assoc, List.append_assoc, List.append_assoc]
            exact List.perm_middle
          case same => exact ⟨rfl, rfl, rfl⟩
          case empty => exact owned.empty
      | retained node failure =>
          rw [created] at cases
          apply @Owned.made w _ node owned cases
          case nodes => exact List.perm_middle.append_right w.freed
          case same => exact ⟨rfl, rfl, rfl⟩
          case empty => exact owned.empty
      | dropped node failure =>
          rw [created] at cases
          apply @Owned.made w _ node owned cases.1
          case nodes => exact List.perm_middle
          case same => exact ⟨rfl, rfl, rfl⟩
          case empty =>
            intro other mem
            rcases List.mem_cons.mp mem with rfl | mem
            · exact cases.2
            · exact owned.empty other mem

theorem Spares.refl (node : Resources) : Spares node node := ⟨rfl, rfl, fun _ => rfl⟩

/-- What is observed and whether it was joined are no resources. -/
theorem Spares.observed (node : Resources) (last : NdrServer.Observation) (joined : Bool) :
    Spares node { node with last := last, joined := joined } :=
  ⟨rfl, rfl, fun call => by cases call <;> rfl⟩

theorem start_spares (s : Server) (maxThreads : Nat) (status : Int) :
    Spares s.inner (start s maxThreads status).1.inner := by
  unfold start
  split
  · exact .refl _
  · split
    · exact .refl _
    · split
      · exact .refl _
      · split
        · exact .refl _
        · exact .observed _ _ _

theorem waitReady_spares (s : Server) (budget : Nat) (observed : NdrServer.Observation) :
    Spares s.inner (waitReady s budget observed).1.inner := by
  unfold waitReady
  cases millis budget with
  | error failure => exact .refl _
  | ok ms =>
      dsimp only
      split
      · exact .refl _
      · split
        · exact .observed _ _ _
        · exact .observed _ _ _

theorem shutdownJoin_spares (s : Server) (budget : Nat) (observed : NdrServer.Observation) :
    Spares s.inner (shutdownJoin s budget observed).1.inner := by
  unfold shutdownJoin
  cases millis budget with
  | error failure => exact .refl _
  | ok ms =>
      dsimp only [shutdown]
      split
      · exact .refl _
      · exact .observed _ _ _

/-- Every operation keeps it. -/
theorem step_owned (owned : Owned w) (op : Op) : Owned (w.step op) := by
  cases op with
  | create endpoint listening factory => exact newListener_owned owned endpoint listening factory
  | recoverRetained id => exact recover_owned owned id
  | start k maxThreads status => exact on_owned owned k fun s => start_spares s maxThreads status
  | waitReady k budget observed =>
      exact on_owned owned k fun s => waitReady_spares s budget observed
  | shutdown k => exact on_owned owned k fun s => .refl s.inner
  | shutdownJoin k budget observed =>
      exact on_owned owned k fun s => shutdownJoin_spares s budget observed
  | release k natives => exact release_owned owned k natives
  | drop k => exact drop_owned owned k

end Operations

theorem run_owned (ops : List Op) : Owned (Machine.play World.step {} ops) := by
  have kept : ∀ w op, Owned w → Owned (World.step w op) := fun _ op held => step_owned held op
  exact Machine.play_keeps kept ops {} Owned.new

/-- The native resources that the node ever had are given back: each was taken by its own call. -/
def Released (w : World) (made : Resources) : Prop :=
  ∀ call : Call, call.has made = true →
    ∃ e ∈ w.calls, e.owner.id = made.id ∧ e.call = call ∧ e.took

/-- Every node is with a server, among the retained or let go, in one place, and has then given
back what it had; a retained node is recovered alone; and the releasing calls are lawful. -/
theorem every_node_has_one_place (ops : List Op) :
    let w := Machine.play World.step {} ops
    ((w.live.map (·.inner.id) ++ w.retained.map (·.id) ++ w.freed.map (·.id)).Nodup ∧
      ∀ made ∈ w.made,
        made.id ∈ w.live.map (·.inner.id) ++ w.retained.map (·.id) ++ w.freed.map (·.id) ∧
        (made.id ∈ w.freed.map (·.id) → Released w made)) ∧
    (∀ node ∈ w.freed, node.holds = false) ∧
    (∀ id,
      (id ∉ w.retainedOwnerIds ∧ w.recoverRetained id = (w, .error .notFound)) ∨
      ∃ value ∈ w.retained, value.id = id ∧
        w.recoverRetained id =
          ({ w with
              retained := w.retained.filter (·.id ≠ id)
              live := w.live ++ [⟨value, true⟩] }, .ok ⟨value, true⟩)) ∧
    w.calls.Pairwise Event.Once ∧
    ∀ e ∈ w.calls, e.Lawful := by
  intro w
  have owned : Owned w := run_owned ops
  have ids : w.nodes.map (·.id) =
      w.live.map (·.inner.id) ++ w.retained.map (·.id) ++ w.freed.map (·.id) := by
    simp only [World.nodes, List.map_append, List.map_map, Function.comp_def]
  have unique := owned.places.nodup_iff.mpr owned.unique
  rw [ids] at unique
  refine ⟨⟨unique, fun made mem => ⟨?_, fun gone => ?_⟩⟩, owned.empty, fun id => ?_, owned.once,
    owned.lawful⟩
  · rw [← ids]
    exact owned.places.mem_iff.mpr (List.mem_map_of_mem mem)
  · -- a node let go has nothing, so what it was made with has been taken
    obtain ⟨node, there, same⟩ := List.mem_map.mp gone
    have kept := owned.kept node (List.mem_append_right _ there)
    intro call has
    rcases kept.taken made mem same.symm call has with still | took
    · have nothing := owned.empty node there
      simp only [Resources.holds, Bool.or_eq_false_iff] at nothing
      cases call <;> simp_all [Call.has]
    · rwa [same] at took
  · unfold World.recoverRetained
    cases found : World.unlink id w.retained with
    | none =>
        left
        refine ⟨fun mem => ?_, rfl⟩
        obtain ⟨node, mem, same⟩ := List.mem_map.mp mem
        exact unlink_none found node mem same
    | some pair =>
        obtain ⟨value, rest⟩ := pair
        obtain ⟨perm, same⟩ := unlink_some found
        have retained : (w.retained.map (·.id)).Nodup :=
          (List.nodup_append.mp (List.nodup_append.mp unique).1).2.1
        rw [unlink_filter retained found]
        exact .inr ⟨value, perm.mem_iff.mpr List.mem_cons_self, same, rfl⟩

end Bscp.Virtmgr.NdrOwner
