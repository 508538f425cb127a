import Bscp.LocalRpc.Channel
import Mathlib.Algebra.Order.Group.Multiset
import Mathlib.Data.Multiset.Range
import Mathlib.Tactic.Abel

/-!
What a channel keeps in every run: the order and the numbers of the records of each
direction, what a call inside the channel's lock relies on, and an account of every
record that was made.
-/

namespace Bscp.LocalRpc

namespace Call

variable {s : State} {call : Call}

/-- What the checks of a call have found. -/
theorem check_success (passes : call.check s = .success) :
    s.closing = false ∧ s.sessionClosing = false ∧
      ∀ direction sequence, call.puts = some (direction, sequence) →
        s.association = .associated ∧ s.box direction = none ∧ sequence = s.next direction := by
  cases call with
  | trySend generation sequence =>
      simp only [check] at passes
      split at passes <;> try cases passes
      split at passes <;> try cases passes
      split at passes <;> try cases passes
      split at passes <;> try cases passes
      split at passes <;> try cases passes
      simp_all [puts]
  | tryReceive generation =>
      simp only [check] at passes
      split at passes <;> try cases passes
      simp_all [puts]
  | pop =>
      simp only [check] at passes
      split at passes <;> try cases passes
      simp_all [puts]
  | push sequence =>
      simp only [check] at passes
      split at passes <;> try cases passes
      split at passes <;> try cases passes
      split at passes <;> try cases passes
      split at passes <;> try cases passes
      simp_all [puts]

theorem takes_none {record : Direction × UInt64} (puts : call.puts = some record) :
    call.takes = none := by
  cases call with
  | trySend => rfl
  | push => rfl
  | tryReceive => cases puts
  | pop => cases puts

/-- All that the checks look at. -/
theorem check_congr {after : State} (closing : after.closing = s.closing)
    (sessionClosing : after.sessionClosing = s.sessionClosing)
    (association : after.association = s.association) (generation : after.generation = s.generation)
    (box : after.box = s.box) (next : after.next = s.next) : call.check after = call.check s := by
  cases call <;> simp only [check, closing, sessionClosing, association, generation, box, next]

end Call

/-- What a call relies on from its checks to its end: what they found, the session's flag
apart. -/
structure Inside (s : State) (thread holder : Nat) (call : Call) : Prop where
  locked : s.lock = some thread
  live : holder ∈ s.refs
  checked : call.check { s with sessionClosing := false } = .success

namespace Inside

variable {s : State} {thread holder : Nat} {call : Call}

theorem living (inside : Inside s thread holder call) : s.closing = false :=
  (Call.check_success inside.checked).1

theorem puts (inside : Inside s thread holder call) {direction : Direction} {sequence : UInt64}
    (puts : call.puts = some (direction, sequence)) :
    s.association = .associated ∧ s.box direction = none ∧ sequence = s.next direction :=
  (Call.check_success inside.checked).2.2 direction sequence puts

/-- A step that leaves alone what the checks look at. -/
theorem frame (inside : Inside s thread holder call) {after : State} (lock : after.lock = s.lock)
    (live : holder ∈ after.refs) (closing : after.closing = s.closing)
    (association : after.association = s.association) (generation : after.generation = s.generation)
    (box : after.box = s.box) (next : after.next = s.next) : Inside after thread holder call := by
  constructor
  case locked => exact lock.trans inside.locked
  case live => exact live
  case checked =>
      rw [← inside.checked]
      exact Call.check_congr closing rfl association generation box next

end Inside

structure Mail (s : State) (direction : Direction) : Prop where
  next : s.next direction = UInt64.ofNat ((s.put direction).length + 1)
  numbered : (s.put direction).map Record.sequence =
    (List.range (s.put direction).length).map fun index => UInt64.ofNat (index + 1)
  order : s.closing = false → s.put direction = s.taken direction ++ (s.box direction).toList
  lost : s.taken direction <+: s.put direction
  emptied : s.closing = true → s.box direction = none

def State.placed (s : State) : Multiset Record :=
  (s.released : Multiset Record) + s.held + s.doomed.map Prod.snd + (s.box .inbound).toList +
    (s.box .outbound).toList

structure Sound (s : State) : Prop where
  inside : ∀ thread holder call, s.pc thread = .inside call holder → Inside s thread holder call
  locked : ∀ thread, s.lock = some thread → ∃ call holder, s.pc thread = .inside call holder
  mail : ∀ direction, Mail s direction
  listed : s.registered = true → 0 ∈ s.refs
  context : 0 ∈ s.refs ∨ s.closing = true
  unlinked : ∀ thread, s.pc thread = .unlinked → s.registered = false
  swept : ∀ thread drops, s.pc thread = .swept 0 drops → s.closing = true ∧ s.registered = false
  placed : s.placed.map Record.number = Multiset.range s.created

theorem sound_start {generation : UInt64} : Sound { generation := generation } where
  inside := nofun
  locked := nofun
  mail _ := ⟨rfl, rfl, fun _ => rfl, List.prefix_rfl, nofun⟩
  listed _ := List.mem_singleton.2 rfl
  context := .inl (List.mem_singleton.2 rfl)
  unlinked := nofun
  swept := nofun
  placed := rfl

section Steps

variable {s : State} {thread : Nat}

/-- Another thread's place, after one that has left or stays outside the lock. -/
theorem of_inside {pc : Pc} (outside : ∀ call holder, pc ≠ .inside call holder) {other holder : Nat}
    {call : Call} (here : Function.update s.pc thread pc other = .inside call holder) :
    other ≠ thread ∧ s.pc other = .inside call holder := by
  by_cases same : other = thread
  · rw [same, Function.update_self] at here
    exact absurd here (outside call holder)
  · rw [Function.update_of_ne same] at here
    exact ⟨same, here⟩

theorem Sound.alone (sound : Sound s) {one other h k : Nat} {c d : Call}
    (first : s.pc one = .inside c h) (second : s.pc other = .inside d k) : other = one := by
  have held := (sound.inside one h c first).locked.symm.trans (sound.inside other k d second).locked
  exact (Option.some.inj held).symm

/-- Nobody is inside while the lock is free. -/
theorem Sound.vacant (sound : Sound s) (free : s.lock = none) (other holder : Nat) (call : Call) :
    s.pc other ≠ .inside call holder := by
  intro here
  have locked := (sound.inside other holder call here).locked
  rw [free] at locked
  cases locked

/-- A thread that is outside, and goes on outside, with what the calls rely on left alone. -/
theorem Sound.aside (sound : Sound s) {pc : Pc} (before : ∀ call holder, s.pc thread ≠ .inside call holder)
    (outside : ∀ call holder, pc ≠ .inside call holder)
    (unlinked : pc = .unlinked → s.registered = false)
    (swept : ∀ drops, pc = .swept 0 drops → s.closing = true ∧ s.registered = false) :
    Sound (s.setPc thread pc) := by
  constructor
  case inside =>
      intro other holder call here
      obtain ⟨_, there⟩ := of_inside outside here
      have inside := sound.inside other holder call there
      exact inside.frame rfl inside.live rfl rfl rfl rfl rfl
  case locked =>
      intro other held
      obtain ⟨call, holder, here⟩ := sound.locked other held
      refine ⟨call, holder, ?_⟩
      have different : other ≠ thread := by
        rintro rfl
        exact before call holder here
      exact (Function.update_of_ne different _ _).trans here
  case mail =>
      intro direction
      obtain ⟨next, numbered, order, lost, emptied⟩ := sound.mail direction
      exact ⟨next, numbered, order, lost, emptied⟩
  case listed => exact sound.listed
  case context => exact sound.context
  case unlinked =>
      intro other here
      change Function.update s.pc thread pc other = .unlinked at here
      by_cases same : other = thread
      · rw [same, Function.update_self] at here
        exact unlinked here
      · rw [Function.update_of_ne same] at here
        exact sound.unlinked other here
  case swept =>
      intro other drops here
      change Function.update s.pc thread pc other = .swept 0 drops at here
      by_cases same : other = thread
      · rw [same, Function.update_self] at here
        exact swept drops here
      · rw [Function.update_of_ne same] at here
        exact sound.swept other drops here
  case placed => exact sound.placed

/-- Emptying the mailboxes moves their records and loses none. -/
theorem placed_emptied : State.placed { s with
    doomed := s.emptied thread ++ s.doomed
    box := fun _ => none } = s.placed := by
  have moved : (s.emptied thread).map Prod.snd =
      (s.box .inbound).toList ++ (s.box .outbound).toList := by
    unfold State.emptied
    rw [List.map_map]
    exact List.map_id _
  unfold State.placed
  simp only [List.map_append, moved, Option.toList_none, ← Multiset.coe_add, Multiset.coe_nil,
    add_zero]
  abel

theorem Sound.sweep (sound : Sound s) (free : s.lock = none) : Sound (s.sweep thread) where
  inside other holder call here := absurd here (sound.vacant free other holder call)
  locked other held := by
    rw [show s.lock = some other from held] at free
    cases free
  mail direction :=
    { next := (sound.mail direction).next
      numbered := (sound.mail direction).numbered
      order := nofun
      lost := (sound.mail direction).lost
      emptied := fun _ => rfl }
  listed := sound.listed
  context := .inr rfl
  unlinked := sound.unlinked
  swept other drops here := ⟨rfl, (sound.swept other drops here).2⟩
  placed := by
    have moved : (s.sweep thread).placed = s.placed := placed_emptied
    rw [moved]
    exact sound.placed

/-- A call that ends frees the lock. -/
theorem Sound.left (sound : Sound s) {holder : Nat} {call : Call} (here : s.pc thread = .inside call holder)
    {after : State} (pc : after.pc = Function.update s.pc thread .idle) (lock : after.lock = none)
    (refs : after.refs = s.refs) (registered : after.registered = s.registered)
    (closing : after.closing = s.closing) (mail : ∀ direction, Mail after direction)
    (placed : after.placed.map Record.number = Multiset.range after.created) : Sound after := by
  constructor
  case inside =>
      intro other k c there
      rw [pc] at there
      obtain ⟨different, before⟩ := of_inside (by nofun) there
      exact absurd (sound.alone here before) different
  case locked => rw [lock]; nofun
  case mail => exact mail
  case listed => rw [refs, registered]; exact sound.listed
  case context => rw [refs, closing]; exact sound.context
  case unlinked =>
      intro other there
      rw [pc] at there
      by_cases same : other = thread
      · rw [same, Function.update_self] at there
        cases there
      · rw [Function.update_of_ne same] at there
        rw [registered]
        exact sound.unlinked other there
  case swept =>
      intro other drops there
      rw [pc] at there
      by_cases same : other = thread
      · rw [same, Function.update_self] at there
        cases there
      · rw [Function.update_of_ne same] at there
        rw [closing, registered]
        exact sound.swept other drops there
  case placed => exact placed

/-- The record that a put has made is the next in its direction. -/
theorem Mail.put {direction : Direction} (mail : Mail s direction) (living : s.closing = false)
    (empty : s.box direction = none) {record : Record} (sequence : record.sequence = s.next direction)
    {after : State} (next : after.next direction = s.next direction + 1)
    (put : after.put direction = s.put direction ++ [record])
    (box : after.box direction = some record) (taken : after.taken direction = s.taken direction)
    (closing : after.closing = s.closing) : Mail after direction := by
  have whole : s.put direction = s.taken direction := by
    have order := mail.order living
    rw [empty, Option.toList_none, List.append_nil] at order
    exact order
  constructor
  case next =>
      rw [next, put, mail.next, List.length_append, List.length_singleton]
      exact (UInt64.ofNat_add _ 1).symm
  case numbered =>
      rw [put, List.map_append, mail.numbered, List.length_append, List.length_singleton,
        List.range_succ, List.map_append, List.map_singleton, List.map_singleton, sequence, mail.next]
  case order =>
      intro _
      rw [put, taken, box, whole]
      rfl
  case lost =>
      rw [put, taken, whole]
      exact List.prefix_append _ _
  case emptied => rw [closing, living]; nofun

/-- What is taken is the first that was not. -/
theorem Mail.take {direction : Direction} (mail : Mail s direction) (living : s.closing = false)
    {record : Record} (found : s.box direction = some record) {after : State}
    (next : after.next direction = s.next direction) (put : after.put direction = s.put direction)
    (box : after.box direction = none) (taken : after.taken direction = s.taken direction ++ [record])
    (closing : after.closing = s.closing) : Mail after direction := by
  have order := mail.order living
  rw [found, Option.toList_some] at order
  constructor
  case next => rw [next, put]; exact mail.next
  case numbered => rw [put]; exact mail.numbered
  case order =>
      intro _
      rw [put, taken, box, order, Option.toList_none, List.append_nil]
  case lost =>
      rw [put, taken]
      exact order ▸ List.prefix_rfl
  case emptied => rw [closing, living]; nofun

/-- A direction that a step leaves alone. -/
theorem Mail.frame {direction : Direction} (mail : Mail s direction) {after : State}
    (next : after.next direction = s.next direction) (put : after.put direction = s.put direction)
    (box : after.box direction = s.box direction) (taken : after.taken direction = s.taken direction)
    (closing : after.closing = s.closing) : Mail after direction := by
  constructor
  case next => rw [next, put]; exact mail.next
  case numbered => rw [put]; exact mail.numbered
  case order => rw [closing, put, taken, box]; exact mail.order
  case lost => rw [put, taken]; exact mail.lost
  case emptied => rw [closing, box]; exact mail.emptied

theorem placed_put {direction : Direction} {record : Record} (empty : s.box direction = none)
    {after : State} (released : after.released = s.released) (held : after.held = s.held)
    (doomed : after.doomed = s.doomed) (box : after.box = Function.update s.box direction (some record)) :
    after.placed = record ::ₘ s.placed := by
  have one : ((some record).toList : Multiset Record) = {record} := rfl
  unfold State.placed
  rw [released, held, doomed, box, ← Multiset.singleton_add]
  cases direction with
  | inbound =>
      rw [Function.update_self, Function.update_of_ne (by nofun), empty, one, Option.toList_none,
        Multiset.coe_nil]
      abel
  | outbound =>
      rw [Function.update_self, Function.update_of_ne (by nofun), empty, one, Option.toList_none,
        Multiset.coe_nil]
      abel

theorem placed_take {direction : Direction} {record : Record} (found : s.box direction = some record)
    {after : State} (released : after.released = s.released) (held : after.held = record :: s.held)
    (doomed : after.doomed = s.doomed) (box : after.box = Function.update s.box direction none) :
    after.placed = s.placed := by
  have one : ((some record).toList : Multiset Record) = {record} := rfl
  unfold State.placed
  rw [released, held, doomed, box, ← Multiset.cons_coe, ← Multiset.singleton_add]
  cases direction with
  | inbound =>
      rw [Function.update_self, Function.update_of_ne (by nofun), found, one, Option.toList_none,
        Multiset.coe_nil]
      abel
  | outbound =>
      rw [Function.update_self, Function.update_of_ne (by nofun), found, one, Option.toList_none,
        Multiset.coe_nil]
      abel

theorem placed_break {record : Record} {after : State} (released : after.released = record :: s.released)
    (held : after.held = s.held) (doomed : after.doomed = s.doomed) (box : after.box = s.box) :
    after.placed = record ::ₘ s.placed := by
  unfold State.placed
  rw [released, held, doomed, box, ← Multiset.cons_coe, ← Multiset.singleton_add,
    ← Multiset.singleton_add]
  abel

theorem range_made {records : Multiset Record} {created : Nat} {sequence : UInt64}
    (placed : records.map Record.number = Multiset.range created) :
    ((⟨created, sequence⟩ : Record) ::ₘ records).map Record.number = Multiset.range (created + 1) := by
  rw [Multiset.map_cons, placed, Multiset.range_succ]

theorem Sound.putIn (sound : Sound s) {holder : Nat} {call : Call} {direction : Direction}
    {sequence : UInt64} (here : s.pc thread = .inside call holder)
    (puts : call.puts = some (direction, sequence)) :
    Sound { s.setPc thread .idle with
      lock := none
      created := s.created + 1
      box := Function.update s.box direction (some ⟨s.created, sequence⟩)
      next := Function.update s.next direction (s.next direction + 1)
      put := Function.update s.put direction (s.put direction ++ [⟨s.created, sequence⟩]) } := by
  have inside := sound.inside thread holder call here
  obtain ⟨_, empty, same⟩ := inside.puts puts
  refine sound.left here rfl rfl rfl rfl rfl ?_ ?_
  · intro other
    by_cases mine : other = direction
    · subst mine
      exact (sound.mail other).put inside.living empty same (Function.update_self ..)
        (Function.update_self ..) (Function.update_self ..) rfl rfl
    · exact (sound.mail other).frame (Function.update_of_ne mine ..) (Function.update_of_ne mine ..)
        (Function.update_of_ne mine ..) rfl rfl
  · refine (congrArg (Multiset.map Record.number) ?_).trans (@range_made s.placed s.created sequence sound.placed)
    exact placed_put empty rfl rfl rfl rfl

theorem Sound.takeOut (sound : Sound s) {holder : Nat} {call : Call} {direction : Direction}
    {record : Record} (here : s.pc thread = .inside call holder) (found : s.box direction = some record) :
    Sound { s.setPc thread .idle with
      lock := none
      box := Function.update s.box direction none
      held := record :: s.held
      taken := Function.update s.taken direction (s.taken direction ++ [record]) } := by
  have living := (sound.inside thread holder call here).living
  refine sound.left here rfl rfl rfl rfl rfl ?_ ?_
  · intro other
    by_cases mine : other = direction
    · subst mine
      exact (sound.mail other).take living found rfl rfl (Function.update_self ..)
        (Function.update_self ..) rfl
    · exact (sound.mail other).frame rfl rfl (Function.update_of_ne mine ..)
        (Function.update_of_ne mine ..) rfl
  · refine (congrArg (Multiset.map Record.number) ?_).trans sound.placed
    exact placed_take found rfl rfl rfl rfl

/-- A step that touches neither the calls nor the mailboxes. -/
theorem Sound.frame (sound : Sound s) {after : State} (pc : after.pc = s.pc) (lock : after.lock = s.lock)
    (closing : after.closing = s.closing) (association : s.lock ≠ none → after.association = s.association)
    (generation : after.generation = s.generation)
    (box : after.box = s.box) (next : after.next = s.next) (put : after.put = s.put)
    (taken : after.taken = s.taken) (refs : ∀ holder ∈ s.refs, holder ∈ after.refs)
    (registered : after.registered = s.registered)
    (placed : after.placed.map Record.number = Multiset.range after.created) : Sound after := by
  constructor
  case inside =>
      rw [pc]
      intro other holder call here
      have inside := sound.inside other holder call here
      have same := association (by rw [inside.locked]; nofun)
      exact inside.frame lock (refs holder inside.live) closing same generation box next
  case locked => rw [pc, lock]; exact sound.locked
  case mail =>
      exact fun direction => (sound.mail direction).frame (by rw [next]) (by rw [put]) (by rw [box])
        (by rw [taken]) closing
  case listed => rw [registered]; exact fun listed => refs 0 (sound.listed listed)
  case context => rw [closing]; exact sound.context.imp (refs 0) id
  case unlinked => rw [pc, registered]; exact sound.unlinked
  case swept => rw [pc, closing, registered]; exact sound.swept
  case placed => exact placed

theorem Sound.enter (sound : Sound s) {holder : Nat} {call : Call} (live : holder ∈ s.refs)
    (free : s.lock = none) (passes : call.check s = .success) :
    Sound { s.setPc thread (.inside call holder) with lock := some thread } := by
  obtain ⟨_, session, _⟩ := Call.check_success passes
  constructor
  case inside =>
      intro other k c here
      change Function.update s.pc thread (.inside call holder) other = .inside c k at here
      by_cases same : other = thread
      · rw [same, Function.update_self] at here
        obtain ⟨rfl, rfl⟩ := Pc.inside.inj here
        rw [same]
        refine ⟨rfl, live, ?_⟩
        rw [← passes]
        exact Call.check_congr rfl session.symm rfl rfl rfl rfl
      · rw [Function.update_of_ne same] at here
        exact absurd here (sound.vacant free other k c)
  case locked =>
      intro other held
      cases held
      exact ⟨call, holder, Function.update_self ..⟩
  case mail => exact fun direction => (sound.mail direction).frame rfl rfl rfl rfl rfl
  case listed => exact sound.listed
  case context => exact sound.context
  case unlinked =>
      intro other here
      change Function.update s.pc thread (.inside call holder) other = .unlinked at here
      by_cases same : other = thread
      · rw [same, Function.update_self] at here
        cases here
      · rw [Function.update_of_ne same] at here
        exact sound.unlinked other here
  case swept =>
      intro other drops here
      change Function.update s.pc thread (.inside call holder) other = .swept 0 drops at here
      by_cases same : other = thread
      · rw [same, Function.update_self] at here
        cases here
      · rw [Function.update_of_ne same] at here
        exact sound.swept other drops here
  case placed => exact sound.placed

theorem placed_release {record : Record} (listed : record ∈ s.held) :
    State.placed { s with held := s.held.erase record, released := record :: s.released } = s.placed := by
  have moved : record ::ₘ ((s.held.erase record : List Record) : Multiset Record) = s.held := by
    rw [← Multiset.coe_erase]
    exact Multiset.cons_erase listed
  unfold State.placed
  rw [← moved, ← Multiset.cons_coe, ← Multiset.singleton_add, ← Multiset.singleton_add]
  abel

theorem placed_releaseDoomed {record : Record} (listed : (thread, record) ∈ s.doomed) :
    State.placed { s with
      doomed := s.doomed.erase (thread, record)
      released := record :: s.released } = s.placed := by
  have moved : (s.doomed.map Prod.snd).Perm (record :: (s.doomed.erase (thread, record)).map Prod.snd) :=
    (List.perm_cons_erase listed).map Prod.snd
  unfold State.placed
  rw [Multiset.coe_eq_coe.2 moved, ← Multiset.cons_coe, ← Multiset.cons_coe, ← Multiset.singleton_add,
    ← Multiset.singleton_add]
  abel

/-- A reference that goes is nobody's. -/
theorem Sound.drop (sound : Sound s) {holder : Nat} (here : s.pc thread = .swept holder true)
    (unused : ∀ other, other ≠ thread → ¬s.Uses other holder) :
    (∀ other k call, s.pc other = .inside call k → k ∈ s.refs.erase holder) ∧
      (s.registered = true → 0 ∈ s.refs.erase holder) ∧
      (0 ∈ s.refs.erase holder ∨ s.closing = true) := by
  refine ⟨?_, ?_, ?_⟩
  · intro other k call inside
    have different : other ≠ thread := by
      rintro rfl
      rw [here] at inside
      cases inside
    have apart : k ≠ holder := by
      rintro rfl
      exact unused other different (.inl ⟨call, inside⟩)
    exact (List.mem_erase_of_ne apart).2 (sound.inside other k call inside).live
  · intro listed
    have apart : (0 : Nat) ≠ holder := by
      rintro rfl
      rw [(sound.swept thread true here).2] at listed
      cases listed
    exact (List.mem_erase_of_ne apart).2 (sound.listed listed)
  · by_cases context : holder = 0
    · subst context
      exact .inr (sound.swept thread true here).1
    · exact sound.context.imp (List.mem_erase_of_ne (Ne.symm context)).2 id

/-- The thread leaves its reference behind, and the mailboxes as they are. -/
theorem Sound.dropped (sound : Sound s) {holder : Nat} (here : s.pc thread = .swept holder true)
    (unused : ∀ other, other ≠ thread → ¬s.Uses other holder) {pc : Pc} (place : pc = .idle ∨ pc = .freeing) :
    Sound { s.setPc thread pc with refs := s.refs.erase holder } := by
  obtain ⟨live, listed, context⟩ := sound.drop here unused
  have outside : Sound (s.setPc thread pc) := by
    apply sound.aside
    · intro call k inside
      rw [here] at inside
      cases inside
    · obtain rfl | rfl := place <;> nofun
    · obtain rfl | rfl := place <;> nofun
    · obtain rfl | rfl := place <;> nofun
  constructor
  case inside =>
      intro other k call inside
      have before : s.pc other = .inside call k :=
        (of_inside (by obtain rfl | rfl := place <;> nofun) inside).2
      exact (outside.inside other k call inside).frame rfl (live other k call before) rfl rfl rfl rfl rfl
  case locked => exact outside.locked
  case mail => exact fun direction => (outside.mail direction).frame rfl rfl rfl rfl rfl
  case listed => exact listed
  case context => exact context
  case unlinked => exact outside.unlinked
  case swept => exact outside.swept
  case placed => exact outside.placed

/-- The last reference finds the mailboxes empty: without the context handle the channel
is closing. -/
theorem Sound.droppedLast (sound : Sound s) {holder : Nat} (here : s.pc thread = .swept holder true)
    (unused : ∀ other, other ≠ thread → ¬s.Uses other holder) (last : s.refs.erase holder = []) :
    Sound { s.setPc thread .freeing with
      refs := []
      doomed := s.emptied thread ++ s.doomed
      box := fun _ => none } := by
  obtain ⟨_, _, context⟩ := sound.drop here unused
  rw [last] at context
  have closing : s.closing = true := context.resolve_left List.not_mem_nil
  have empty : s.box = fun _ => none := funext fun direction => (sound.mail direction).emptied closing
  have none : s.emptied thread = [] := by
    unfold State.emptied
    rw [empty]
    rfl
  have dropped := sound.dropped here unused (.inr rfl)
  rw [last] at dropped
  rw [none, List.nil_append, ← empty]
  exact dropped

theorem Sound.unlisted (sound : Sound s) : Sound { s with registered := false } where
  inside other holder call here :=
    have inside := sound.inside other holder call here
    inside.frame rfl inside.live rfl rfl rfl rfl rfl
  locked := sound.locked
  mail direction := (sound.mail direction).frame rfl rfl rfl rfl rfl
  listed := nofun
  context := sound.context
  unlinked _ _ := rfl
  swept other drops here := ⟨(sound.swept other drops here).1, rfl⟩
  placed := sound.placed

theorem Sound.flagged (sound : Sound s) : Sound { s with sessionClosing := true } where
  inside other holder call here :=
    have inside := sound.inside other holder call here
    inside.frame rfl inside.live rfl rfl rfl rfl rfl
  locked := sound.locked
  mail direction := (sound.mail direction).frame rfl rfl rfl rfl rfl
  listed := sound.listed
  context := sound.context
  unlinked := sound.unlinked
  swept := sound.swept
  placed := sound.placed

/-- Every step keeps it. -/
theorem Sound.step (sound : Sound s) {after : State} (step : Step s after) : Sound after := by
  cases step with
  | enter thread holder call here live free passes => exact sound.enter live free passes
  | makeFails here puts =>
      refine sound.left here rfl rfl rfl rfl rfl ?_ sound.placed
      exact fun direction => (sound.mail direction).frame rfl rfl rfl rfl rfl
  | makeBreaks here puts =>
      rename_i sequence
      refine sound.left here rfl rfl rfl rfl rfl ?_ ?_
      · exact fun direction => (sound.mail direction).frame rfl rfl rfl rfl rfl
      · refine (congrArg (Multiset.map Record.number) ?_).trans
          (@range_made s.placed s.created sequence sound.placed)
        exact placed_break rfl rfl rfl rfl
  | putIn here puts => exact sound.putIn here puts
  | takeOut here takes found => exact sound.takeOut here found
  | releaseHeld held =>
      exact sound.frame rfl rfl rfl (fun _ => rfl) rfl rfl rfl rfl rfl (fun _ => id) rfl
        ((congrArg (Multiset.map Record.number) (placed_release held)).trans sound.placed)
  | associate free fresh living =>
      exact sound.frame rfl rfl rfl (absurd free) rfl rfl rfl rfl rfl (fun _ => id) rfl sound.placed
  | associated free begun living =>
      exact sound.frame rfl rfl rfl (absurd free) rfl rfl rfl rfl rfl (fun _ => id) rfl sound.placed
  | refused free begun =>
      exact sound.frame rfl rfl rfl (absurd free) rfl rfl rfl rfl rfl (fun _ => id) rfl sound.placed
  | borrow holder listed fresh =>
      exact sound.frame rfl rfl rfl (fun _ => rfl) rfl rfl rfl rfl rfl
        (fun _ => List.mem_cons_of_mem holder) rfl sound.placed
  | giveBack thread holder here live other =>
      apply sound.aside
      · rw [here]; nofun
      · nofun
      · nofun
      · intro drops same
        exact absurd (Pc.swept.inj same).1 other
  | unlink thread here listed free =>
      have aside : Sound { s with registered := false } := sound.unlisted
      apply aside.aside
      · intro call holder
        exact fun inside => nomatch here.symm.trans inside
      · nofun
      · exact fun _ => rfl
      · nofun
  | rundown here free =>
      apply (sound.sweep free).aside
      · intro call holder
        exact fun inside => nomatch here.symm.trans inside
      · nofun
      · nofun
      · exact fun _ _ => ⟨rfl, sound.unlinked _ here⟩
  | shutdown thread holder drops here live other free =>
      apply (sound.sweep free).aside
      · intro call holder
        exact fun inside => nomatch here.symm.trans inside
      · nofun
      · nofun
      · intro _ same
        exact absurd (Pc.swept.inj same).1 other
  | flag thread here =>
      have flagged : Sound { s with sessionClosing := true } := sound.flagged
      apply flagged.aside
      · intro call holder
        exact fun inside => nomatch here.symm.trans inside
      · nofun
      · nofun
      · nofun
  | sweepSession here listed free =>
      apply (sound.sweep free).aside
      · intro call holder
        exact fun inside => nomatch here.symm.trans inside
      · nofun
      · nofun
      · nofun
  | skipSession here unlisted =>
      apply sound.aside
      · rw [here]; nofun
      · nofun
      · nofun
      · nofun
  | releaseDoomed doomed =>
      exact sound.frame rfl rfl rfl (fun _ => rfl) rfl rfl rfl rfl rfl (fun _ => id) rfl
        ((congrArg (Multiset.map Record.number) (placed_releaseDoomed doomed)).trans sound.placed)
  | finish here done =>
      apply sound.aside
      · intro call holder inside
        rw [inside] at here
        obtain same | same | ⟨_, same⟩ := here <;> cases same
      · nofun
      · nofun
      · nofun
  | drop here done live unused more => exact sound.dropped here unused (.inl rfl)
  | dropLast here done live unused last => exact sound.droppedLast here unused last

theorem reachable_sound {generation : UInt64} {s : State} (reached : Reachable generation s) : Sound s :=
  Machine.reach_keeps sound_start (fun _ _ sound step => sound.step step) reached

end Steps

end Bscp.LocalRpc
