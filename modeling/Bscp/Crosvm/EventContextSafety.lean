import Bscp.Crosvm.EventContext

/-!
When the kqueue agrees with the map once no operation is in progress, and when an operation that
fails has changed nothing.
-/

namespace Bscp.Crosvm.EventContext

open WriteBehind

/-! ### Orderly steps -/

/-- A failure after which nothing needs to be taken back: the first change of an add, or of an
operation that keeps the entry, with no other operation on the descriptor around. -/
structure Call.Harmless (call : Call) (change : Change) (errno : Errno) : Prop where
  first : call.made = false
  alone : call.alone = true
  kept : call.undoes = true ∨ call.found = call.left
  told : ∀ filter, change = .delete filter → errno ≠ ENOENT

/-- A change of a filter comes after the ones of the operations that have changed the map before,
failures are harmless, and no operation changes an entry that an add has still to take out. -/
def System.Orderly (system : System) : Action → Prop
  | .enter operation => match operation.enter (system.context.state operation.fd) with
    | .done _ => True
    | .changed .. => ∀ call ∈ system.running, call.fd = operation.fd → call.undoing = none
  | .advance index failure => ∀ call change rest, system.running[index]? = some call →
      call.undoing = none → call.todo = change :: rest →
        match failure with
        | none => ∀ earlier ∈ system.running.take index, earlier.fd = call.fd →
            change.filter ∉ earlier.todo.map Change.filter
        | some errno => call.Harmless change errno

inductive Moved (system : System) : Option Call → System → Option (Except Errno Unit) → Prop
  | nothing : Moved system none system none
  | undone {front back : List Call} {call : Call} {errno : Errno}
      (split : system.running = front ++ call :: back) (undoing : call.undoing = some errno) :
      Moved system (some call)
        ⟨{ system.context with state := Function.update system.context.state call.fd none },
          front ++ back⟩ (some (.error errno))
  | finished {front back : List Call} {call : Call}
      (split : system.running = front ++ call :: back) (undoing : call.undoing = none)
      (todo : call.todo = []) :
      Moved system (some call) ⟨system.context, front ++ back⟩ (some (.ok ()))
  | changed {front back : List Call} {call : Call} {change : Change} {rest : List Change}
      (split : system.running = front ++ call :: back) (undoing : call.undoing = none)
      (todo : call.todo = change :: rest)
      (first : ∀ earlier ∈ front, earlier.fd = call.fd →
        change.filter ∉ earlier.todo.map Change.filter) :
      Moved system (some call)
        ⟨{ system.context with
            queue := Function.update system.context.queue (call.fd, change.filter) change.value },
          front ++ { call with todo := rest, made := true } :: back⟩ none
  | failed {front back : List Call} {call : Call} {errno : Errno}
      (split : system.running = front ++ call :: back) (undoing : call.undoing = none)
      (first : call.made = false) (alone : call.alone = true) (undoes : call.undoes = true) :
      Moved system (some call)
        ⟨system.context, front ++ { call with todo := [], undoing := some errno } :: back⟩ none
  | refused {front back : List Call} {call : Call} {errno : Errno}
      (split : system.running = front ++ call :: back) (undoing : call.undoing = none)
      (first : call.made = false) (alone : call.alone = true) (kept : call.found = call.left) :
      Moved system (some call) ⟨system.context, front ++ back⟩ (some (.error errno))

theorem applyChange_none (queue : Queue) (fd : RawDescriptor) (change : Change) :
    applyChange queue fd change none =
      .ok (Function.update queue (fd, change.filter) change.value) := by
  cases change with
  | add filter token => simp [applyChange, kevent, Change.value]
  | delete filter =>
      by_cases absent : queue (fd, filter) = none
      · have same : Function.update queue (fd, filter) none = queue := by
          rw [← absent, Function.update_eq_self]
        simp [applyChange, kevent, Change.value, Change.filter, absent, same]
      · simp [applyChange, kevent, Change.value, Change.filter, absent]

theorem applyChange_some {queue : Queue} {fd : RawDescriptor} {change : Change} {errno : Errno}
    (told : ∀ filter, change = .delete filter → errno ≠ ENOENT) :
    applyChange queue fd change (some errno) = .error errno := by
  cases change with
  | add filter token => rfl
  | delete filter => simp [applyChange, kevent, told filter rfl]

section Step

variable {system : System} {index : Nat} {failure : Option Errno} {call next : Call}
  {context : Context} {result : Except Errno Unit}

theorem step_running (found : system.running[index]? = some call)
    (advanced : call.advance system.context failure = (context, .running next)) :
    system.step (.advance index failure) =
      (⟨context, system.running.take index ++ next :: system.running.drop (index + 1)⟩, none) := by
  have inside := (List.getElem?_eq_some_iff.mp found).1
  simp only [System.step, found, advanced]
  rw [List.set_eq_take_append_cons_drop, if_pos inside]

theorem step_returned (found : system.running[index]? = some call)
    (advanced : call.advance system.context failure = (context, .returned result)) :
    system.step (.advance index failure) =
      (⟨context, system.running.take index ++ system.running.drop (index + 1)⟩, some result) := by
  simp only [System.step, found, advanced]
  rw [List.eraseIdx_eq_take_drop_succ]

theorem advance_changed {change : Change} {rest : List Change} (undoing : call.undoing = none)
    (todo : call.todo = change :: rest) :
    call.advance context none =
      ({ context with
          queue := Function.update context.queue (call.fd, change.filter) change.value },
        .running { call with todo := rest, made := true }) := by
  simp [Call.advance, undoing, todo, applyChange_none]

theorem advance_failed {change : Change} {rest : List Change} {errno : Errno}
    (undoing : call.undoing = none) (todo : call.todo = change :: rest)
    (told : ∀ filter, change = .delete filter → errno ≠ ENOENT) :
    call.advance context (some errno) =
      if call.undoes then (context, .running { call with todo := [], undoing := some errno })
      else (context, .returned (.error errno)) := by
  simp [Call.advance, undoing, todo, applyChange_some told]

theorem moved_of_orderly (orderly : system.Orderly (.advance index failure)) :
    Moved system system.running[index]? (system.step (.advance index failure)).1
      (system.step (.advance index failure)).2 := by
  cases found : system.running[index]? with
  | none =>
      simp only [System.step, found]
      exact .nothing
  | some call =>
      obtain ⟨inside, same⟩ := List.getElem?_eq_some_iff.mp found
      have split : system.running =
          system.running.take index ++ call :: system.running.drop (index + 1) := by
        rw [← same, ← List.drop_eq_getElem_cons inside, List.take_append_drop]
      cases undoing : call.undoing with
      | some errno =>
          rw [step_returned found (by rw [Call.advance, undoing])]
          exact .undone split undoing
      | none =>
          cases todo : call.todo with
          | nil =>
              rw [step_returned found (by simp only [Call.advance, undoing, todo]; rfl)]
              exact .finished split undoing todo
          | cons change rest =>
              have allowed := orderly call change rest found undoing todo
              cases failure with
              | none =>
                  rw [step_running found (advance_changed undoing todo)]
                  exact .changed split undoing todo allowed
              | some errno =>
                  have failed := @advance_failed _ system.context _ _ _ undoing todo allowed.told
                  by_cases undoes : call.undoes = true
                  · rw [if_pos undoes] at failed
                    rw [step_running found failed]
                    exact .failed split undoing allowed.first allowed.alone undoes
                  · rw [if_neg undoes] at failed
                    rw [step_returned found failed]
                    exact .refused split undoing allowed.first allowed.alone
                      (allowed.kept.resolve_left undoes)

end Step

/-! ### What holds between the steps -/

def writes (fd : RawDescriptor) (todo : List Change) : List (Key × Option Token) :=
  todo.map fun change => ((fd, change.filter), change.value)

def pending (running : List Call) : List (Key × Option Token) :=
  running.flatMap fun call => writes call.fd call.todo

def promised (system : System) (fd : RawDescriptor) : Option FdState :=
  if ∃ call ∈ system.running, call.fd = fd ∧ call.undoing.isSome = true then none
  else system.context.state fd

structure Call.Sound (context : Context) (call : Call) : Prop where
  left : call.alone = true → context.state call.fd = call.left
  registered : call.alone = true → ∀ filter, call.registered filter = described call.found filter
  whole : call.alone = true → call.made = false →
    ∀ filter, context.queue (call.fd, filter) = call.registered filter
  undoes : call.undoes = true → call.found = none
  undoing : call.undoing.isSome = true →
    call.todo = [] ∧ call.alone = true ∧ call.made = false ∧ call.undoes = true

structure Sound (system : System) : Prop where
  mirrored : ∀ fd filter, settle (system.context.queue (fd, filter)) (fd, filter)
    (pending system.running) = described (promised system fd) filter
  calls : ∀ call ∈ system.running, call.Sound system.context
  alone : ∀ call ∈ system.running, call.alone = true →
    system.running.filter (·.fd = call.fd) = [call]

section Entering

variable {fd : RawDescriptor} {filter : Filter} {value : Option Token}

theorem settle_removeFilters (eventType : EventType) :
    settle value (fd, filter) (writes fd (removeFilters eventType)) =
      if filter ∈ filters eventType then none else value := by
  cases eventType <;> cases filter <;>
    simp [writes, removeFilters, filters, settle, Change.filter, Change.value]

theorem settle_applyKevents (eventType : EventType) (token : Token) :
    settle value (fd, filter) (writes fd (applyKevents eventType token)) =
      if filter ∈ filters eventType then some token else value := by
  cases eventType <;> cases filter <;>
    simp [writes, applyKevents, filters, settle, Change.filter, Change.value]

theorem settle_removed (old : FdState) :
    settle (described (some old) filter) (fd, filter) (writes fd (removeFilters old.eventType)) =
      none := by
  rw [settle_removeFilters]
  split
  · rfl
  · rename_i other
    simp [described, other]

/-- The changes of an operation take the filters from the entry it has found to its own. -/
theorem settle_enter {operation : Operation} {old entry : Option FdState} {todo : List Change}
    {undoes : Bool} (entered : operation.enter old = .changed entry todo undoes) :
    settle (described old filter) (fd, filter) (writes fd todo) = described entry filter ∧
      (undoes = true → old = none) := by
  cases operation with
  | addForEvent _ eventType token =>
      cases old with
      | none =>
          cases entered
          exact ⟨by rw [settle_applyKevents]; rfl, fun _ => rfl⟩
      | some old => cases entered
  | modify _ eventType token =>
      cases old with
      | none => cases entered
      | some old =>
          cases entered
          refine ⟨?_, fun undoes => by cases undoes⟩
          rw [writes, List.map_append, settle_append]
          exact (congrArg (settle · _ _) (settle_removed old)).trans
            (by rw [← writes, settle_applyKevents]; rfl)
  | delete =>
      cases old with
      | none => cases entered
      | some old =>
          cases entered
          exact ⟨settle_removed old, fun undoes => by cases undoes⟩

end Entering

section Lists

variable {running front back : List Call} {call next : Call} {fd : RawDescriptor}

theorem pending_append : pending (front ++ back) = pending front ++ pending back :=
  List.flatMap_append

theorem pending_cons : pending (call :: back) = writes call.fd call.todo ++ pending back := rfl

theorem pending_overlapped : pending (running.map (Call.overlapped fd)) = pending running := by
  rw [pending, List.flatMap_map]
  congr 1
  funext call
  unfold Call.overlapped
  split <;> rfl

theorem mem_writes {todo : List Change} {write : Key × Option Token}
    (given : write ∈ writes fd todo) : write.1.1 = fd := by
  obtain ⟨change, -, rfl⟩ := List.mem_map.mp given
  rfl

/-- Writes of descriptors that have no call are not pending. -/
theorem pending_other {filter : Filter} (other : ∀ call ∈ running, call.fd = fd → call.todo = []) :
    ∀ write ∈ pending running, write.1 ≠ (fd, filter) := by
  intro write given same
  obtain ⟨call, among, given⟩ := List.mem_flatMap.mp given
  have own : call.fd = fd := by rw [← mem_writes given, same]
  rw [other call among own] at given
  cases given

/-- A call that is the only one on its descriptor. -/
theorem only_of_filter (one : (front ++ call :: back).filter (·.fd = call.fd) = [next]) :
    next = call ∧ ∀ other ∈ front ++ back, other.fd ≠ call.fd := by
  rw [List.filter_append, List.filter_cons_of_pos (by simp)] at one
  have many := congrArg List.length one
  simp only [List.length_append, List.length_cons, List.length_nil] at many
  have no_front : front.filter (·.fd = call.fd) = [] := List.length_eq_zero_iff.mp (by omega)
  have no_back : back.filter (·.fd = call.fd) = [] := List.length_eq_zero_iff.mp (by omega)
  rw [no_front, no_back] at one
  refine ⟨(List.cons.inj one).1.symm, fun other among same => ?_⟩
  rcases List.mem_append.mp among with among | among
  · exact absurd (decide_eq_true same) (List.filter_eq_nil_iff.mp no_front other among)
  · exact absurd (decide_eq_true same) (List.filter_eq_nil_iff.mp no_back other among)

/-- The writes of a call matter to its own descriptor only. -/
theorem settle_without {filter : Filter} {value : Option Token} (other : call.fd ≠ fd) :
    settle value (fd, filter) (pending (front ++ call :: back)) =
      settle value (fd, filter) (pending (front ++ back)) := by
  have away : ∀ write ∈ writes call.fd call.todo, write.1 ≠ (fd, filter) := by
    intro write given same
    exact other (by rw [← mem_writes given, same])
  rw [pending_append, pending_cons, pending_append, settle_append, settle_append, settle_append,
    settle_of_other away]

variable {context changed : Context}

theorem promised_congr (same : changed.state fd = context.state fd) :
    promised ⟨changed, running⟩ fd = promised ⟨context, running⟩ fd := by
  simp only [promised, same]

theorem promised_split : promised ⟨context, front ++ call :: back⟩ fd =
    if call.fd = fd ∧ call.undoing.isSome = true then none
    else promised ⟨context, front ++ back⟩ fd := by
  by_cases own : call.fd = fd ∧ call.undoing.isSome = true
  · rw [if_pos own, promised, if_pos ⟨call, by simp, own⟩]
  · rw [if_neg own, promised, promised]
    congr 1
    simp only [List.mem_append, List.mem_cons, eq_iff_iff]
    constructor
    · rintro ⟨other, front | rfl | back, undoing⟩
      · exact ⟨other, .inl front, undoing⟩
      · exact absurd undoing own
      · exact ⟨other, .inr back, undoing⟩
    · rintro ⟨other, front | back, undoing⟩
      · exact ⟨other, .inl front, undoing⟩
      · exact ⟨other, .inr (.inr back), undoing⟩

theorem promised_other (other : ∀ call ∈ running, call.fd ≠ fd) :
    promised ⟨context, running⟩ fd = context.state fd := by
  rw [promised, if_neg]
  rintro ⟨call, among, own, -⟩
  exact other call among own

theorem Call.Sound.congr (sound : call.Sound context)
    (same : call.alone = true → changed.state call.fd = context.state call.fd ∧
      ∀ filter, changed.queue (call.fd, filter) = context.queue (call.fd, filter)) :
    call.Sound changed where
  left alone := by rw [(same alone).1, sound.left alone]
  registered := sound.registered
  whole alone first filter := by rw [(same alone).2, sound.whole alone first]
  undoes := sound.undoes
  undoing := sound.undoing

theorem mem_split {other : Call} :
    other ∈ front ++ call :: back ↔ other = call ∨ other ∈ front ++ back := by
  simp only [List.mem_append, List.mem_cons]
  exact or_left_comm

/-- An operation that has its descriptor for itself is on another one than the rest. -/
theorem away_of_alone {other : Call}
    (alone : ∀ other ∈ front ++ call :: back, other.alone = true →
      (front ++ call :: back).filter (·.fd = other.fd) = [other])
    (among : other ∈ front ++ back) (own : other.alone = true) : other.fd ≠ call.fd := by
  intro same
  have one := alone other (mem_split.mpr (.inr among)) own
  rw [same] at one
  exact (only_of_filter one).2 other among same

theorem alone_erase
    (alone : ∀ other ∈ front ++ call :: back, other.alone = true →
      (front ++ call :: back).filter (·.fd = other.fd) = [other]) :
    ∀ other ∈ front ++ back, other.alone = true →
      (front ++ back).filter (·.fd = other.fd) = [other] := by
  intro other among own
  have fewer : (front ++ back).Sublist (front ++ call :: back) :=
    (List.Sublist.refl front).append (List.sublist_cons_self call back)
  have one := fewer.filter (·.fd = other.fd)
  rw [alone other (fewer.subset among) own] at one
  have itself : other ∈ (front ++ back).filter (·.fd = other.fd) :=
    List.mem_filter.mpr ⟨among, decide_eq_true rfl⟩
  rcases List.sublist_singleton.mp one with none | same
  · rw [none] at itself
    cases itself
  · exact same

theorem alone_replace (same_fd : next.fd = call.fd) (same_alone : next.alone = call.alone)
    (alone : ∀ other ∈ front ++ call :: back, other.alone = true →
      (front ++ call :: back).filter (·.fd = other.fd) = [other]) :
    ∀ other ∈ front ++ next :: back, other.alone = true →
      (front ++ next :: back).filter (·.fd = other.fd) = [other] := by
  intro other among own
  rcases mem_split.mp among with rfl | among
  · obtain ⟨-, away⟩ := only_of_filter (alone call (by simp) (same_alone ▸ own))
    have none_of {part : List Call} (inside : ∀ third ∈ part, third.fd ≠ call.fd) :
        part.filter (·.fd = other.fd) = [] := by
      refine List.filter_eq_nil_iff.mpr fun third among same => ?_
      exact inside third among ((of_decide_eq_true same).trans same_fd)
    rw [List.filter_append, List.filter_cons_of_pos (by simp),
      none_of fun third among => away third (List.mem_append_left _ among),
      none_of fun third among => away third (List.mem_append_right _ among)]
    rfl
  · have away := away_of_alone alone among own
    have one := alone other (mem_split.mpr (.inr among)) own
    rw [List.filter_append, List.filter_cons_of_neg (by simpa using Ne.symm away)] at one
    rw [List.filter_append, List.filter_cons_of_neg (by simpa [same_fd] using Ne.symm away), one]

end Lists

/-! ### Each step keeps it -/

section Steps

variable {system : System} {front back : List Call} {call : Call}

theorem sound_start : Sound System.start where
  mirrored fd filter := rfl
  calls := by simp [System.start]
  alone := by simp [System.start]

theorem promised_enter {fd other : RawDescriptor} {entry : Option FdState} {todo : List Change}
    {undoes : Bool} (free : ∀ call ∈ system.running, call.fd = fd → call.undoing = none) :
    promised (system.enter fd entry todo undoes) other =
      if other = fd then entry else promised system other := by
  have same : (∃ call ∈ (system.enter fd entry todo undoes).running,
        call.fd = other ∧ call.undoing.isSome = true) ↔
      ∃ call ∈ system.running, call.fd = other ∧ call.undoing.isSome = true := by
    simp only [System.enter, List.mem_append, List.mem_map, List.mem_singleton]
    constructor
    · rintro ⟨call, ⟨before, among, rfl⟩ | rfl, own, undoing⟩
      · exact ⟨before, among, by rw [← own, Call.overlapped]; split <;> rfl,
          by rw [← undoing, Call.overlapped]; split <;> rfl⟩
      · cases undoing
    · rintro ⟨call, among, own, undoing⟩
      exact ⟨call.overlapped fd, .inl ⟨call, among, rfl⟩,
        by rw [← own, Call.overlapped]; split <;> rfl,
        by rw [← undoing, Call.overlapped]; split <;> rfl⟩
  simp only [promised, same]
  by_cases own : other = fd
  · subst own
    have none_left : ¬∃ call ∈ system.running,
        call.fd = other ∧ call.undoing.isSome = true := by
      rintro ⟨call, among, own, undoing⟩
      rw [free call among own] at undoing
      cases undoing
    rw [if_neg none_left, if_pos rfl]
    exact Function.update_self ..
  · rw [if_neg own]
    congr 1
    exact Function.update_of_ne own ..

theorem queue_of_free (sound : Sound system) {fd : RawDescriptor}
    (free : ∀ call ∈ system.running, call.fd ≠ fd) (filter : Filter) :
    system.context.queue (fd, filter) = described (system.context.state fd) filter := by
  have mirrored := sound.mirrored fd filter
  rw [settle_of_other (pending_other fun call among own => absurd own (free call among)),
    promised_other free] at mirrored
  exact mirrored

theorem sound_enter (sound : Sound system) {operation : Operation} {entry : Option FdState}
    {todo : List Change} {undoes : Bool}
    (entered : operation.enter (system.context.state operation.fd) = .changed entry todo undoes)
    (free : ∀ call ∈ system.running, call.fd = operation.fd → call.undoing = none) :
    Sound (system.enter operation.fd entry todo undoes) := by
  refine ⟨fun fd filter => ?_, fun call among => ?_, fun call among own => ?_⟩
  · rw [promised_enter free]
    simp only [System.enter]
    rw [pending_append, pending_overlapped, settle_append, sound.mirrored]
    have last : pending [(⟨operation.fd, todo, undoes, none, false,
        system.running.all (·.fd ≠ operation.fd), system.context.state operation.fd, entry,
        fun filter => system.context.queue (operation.fd, filter)⟩ : Call)] =
          writes operation.fd todo := by
      simp [pending]
    rw [last]
    by_cases own : fd = operation.fd
    · subst own
      have current : promised system operation.fd = system.context.state operation.fd := by
        rw [promised, if_neg]
        rintro ⟨call, among, own, undoing⟩
        rw [free call among own] at undoing
        cases undoing
      rw [if_pos rfl, current]
      exact (settle_enter entered).1
    · rw [if_neg own, settle_of_other]
      intro write given same
      exact own (by rw [← mem_writes given, same])
  · rcases List.mem_append.mp among with before | new
    · obtain ⟨call, given, rfl⟩ := List.mem_map.mp before
      have held := sound.calls call given
      unfold Call.overlapped
      split
      · rename_i own
        refine ⟨fun alone => ?_, fun alone => ?_, fun alone => ?_, held.undoes, fun undoing => ?_⟩
        · cases alone
        · cases alone
        · cases alone
        · rw [free call given own] at undoing
          cases undoing
      · rename_i other
        exact held.congr fun _ => ⟨Function.update_of_ne other .., fun _ => rfl⟩
    · cases List.mem_singleton.mp new
      have free_of (alone : system.running.all (·.fd ≠ operation.fd) = true) :
          ∀ call ∈ system.running, call.fd ≠ operation.fd := by simpa using alone
      refine ⟨fun _ => Function.update_self .., fun alone => queue_of_free sound (free_of alone),
        fun _ _ _ => rfl, (@settle_enter operation.fd .read _ _ _ _ _ entered).2, fun undoing => ?_⟩
      cases undoing
  · have same_fd (other : Call) : (other.overlapped operation.fd).fd = other.fd := by
      unfold Call.overlapped
      split <;> rfl
    have kept (fd : RawDescriptor) :
        (system.running.map (Call.overlapped operation.fd)).filter (·.fd = fd) =
          (system.running.filter (·.fd = fd)).map (Call.overlapped operation.fd) := by
      rw [List.filter_map]
      congr 2
      funext other
      rw [Function.comp_apply, same_fd]
    simp only [System.enter] at among ⊢
    rw [List.filter_append, kept]
    rcases List.mem_append.mp among with before | new
    · obtain ⟨call, given, rfl⟩ := List.mem_map.mp before
      have other : call.fd ≠ operation.fd := by
        intro same
        rw [Call.overlapped, if_pos same] at own
        cases own
      have unchanged : call.overlapped operation.fd = call := if_neg other
      rw [unchanged] at own ⊢
      rw [sound.alone call given own, List.filter_cons_of_neg (by simpa using Ne.symm other)]
      simp [unchanged]
    · cases List.mem_singleton.mp new
      have free_of : ∀ call ∈ system.running, call.fd ≠ operation.fd := by simpa using own
      have nothing : system.running.filter (·.fd = operation.fd) = [] :=
        List.filter_eq_nil_iff.mpr fun other given same =>
          free_of other given (of_decide_eq_true same)
      simp [nothing]

/-- A call that has nothing left to do goes. -/
theorem sound_erase {context changed : Context}
    (sound : Sound ⟨context, front ++ call :: back⟩)
    (state : ∀ other ∈ front ++ back, changed.state other.fd = context.state other.fd)
    (queue : changed.queue = context.queue)
    (mirrored : ∀ fd filter, settle (context.queue (fd, filter)) (fd, filter)
      (pending (front ++ back)) = described (promised ⟨changed, front ++ back⟩ fd) filter) :
    Sound ⟨changed, front ++ back⟩ := by
  refine ⟨fun fd filter => ?_, fun other among => ?_, alone_erase sound.alone⟩
  · rw [queue]
    exact mirrored fd filter
  · have before := sound.calls other (mem_split.mpr (.inr among))
    exact before.congr fun _ => ⟨state other among, fun _ => by rw [queue]⟩

/-- What an operation finds again that has its descriptor for itself and has changed nothing. -/
theorem queue_of_first (sound : Sound system) (among : call ∈ system.running)
    (alone : call.alone = true) (first : call.made = false) (filter : Filter) :
    system.context.queue (call.fd, filter) = described call.found filter := by
  have held := sound.calls call among
  rw [held.whole alone first, held.registered alone]

theorem sound_moved (sound : Sound system) {moving : Option Call} {after : System}
    {result : Option (Except Errno Unit)} (moved : Moved system moving after result) :
    Sound after := by
  obtain ⟨context, running⟩ := system
  cases moved with
  | nothing => exact sound
  | @undone front back call errno split undoing =>
      simp only at split
      subst split
      have isSome : call.undoing.isSome = true := by rw [undoing]; rfl
      obtain ⟨no_todo, alone, -, -⟩ := (sound.calls call (by simp)).undoing isSome
      obtain ⟨-, away⟩ := only_of_filter (sound.alone call (by simp) alone)
      refine sound_erase sound (fun other among => Function.update_of_ne (away other among) ..) rfl
        fun fd filter => ?_
      have mirrored := sound.mirrored fd filter
      simp only at mirrored
      rw [pending_append, pending_cons, no_todo, writes, List.map_nil, List.nil_append,
        ← pending_append, promised_split] at mirrored
      rw [mirrored]
      by_cases own : call.fd = fd
      · subst own
        rw [if_pos ⟨rfl, isSome⟩, promised_other away]
        show _ = described (Function.update context.state call.fd none call.fd) filter
        rw [Function.update_self]
      · rw [if_neg (fun both => own both.1)]
        exact congrArg (described · filter)
          (promised_congr (Function.update_of_ne (Ne.symm own) ..)).symm
  | @finished front back call split undoing todo =>
      simp only at split
      subst split
      refine sound_erase sound (fun _ _ => rfl) rfl fun fd filter => ?_
      have mirrored := sound.mirrored fd filter
      simp only at mirrored
      rw [pending_append, pending_cons, todo, writes, List.map_nil, List.nil_append,
        ← pending_append, promised_split, if_neg (by simp [undoing])] at mirrored
      exact mirrored
  | @changed front back call change rest split undoing todo first =>
      simp only at split
      subst split
      refine ⟨fun fd filter => ?_, fun other among => ?_,
        @alone_replace front back call _ rfl rfl sound.alone⟩
      · have mirrored := sound.mirrored fd filter
        simp only at mirrored
        rw [promised_split, if_neg (by simp [undoing]), pending_append, pending_cons, todo] at mirrored
        have promises : promised ⟨{ context with
              queue := Function.update context.queue (call.fd, change.filter) change.value },
            front ++ { call with todo := rest, made := true } :: back⟩ fd =
              promised ⟨context, front ++ back⟩ fd := by
          rw [promised_split, if_neg (by simp [undoing])]
          exact promised_congr rfl
        refine Eq.trans ?_ (mirrored.trans (congrArg (described · filter) promises.symm))
        simp only
        rw [pending_append, pending_cons]
        refine settle_write ((call.fd, change.filter), change.value) fun write given same => ?_
        obtain ⟨earlier, among, given⟩ := List.mem_flatMap.mp given
        have own : earlier.fd = call.fd := by rw [← mem_writes given, same]
        obtain ⟨other, present, rfl⟩ := List.mem_map.mp given
        exact first earlier among own
          (List.mem_map.mpr ⟨other, present, congrArg Prod.snd same⟩)
      · rcases mem_split.mp among with rfl | among
        · have held := sound.calls call (by simp)
          refine ⟨held.left, held.registered, fun _ made => ?_, held.undoes, fun failed => ?_⟩
          · cases made
          · simp [undoing] at failed
        · refine (sound.calls other (mem_split.mpr (.inr among))).congr fun alone => ⟨rfl, fun _ => ?_⟩
          have away := away_of_alone sound.alone among alone
          exact Function.update_of_ne (fun same => away (congrArg Prod.fst same)) ..
  | @failed front back call errno split undoing first alone undoes =>
      simp only at split
      subst split
      have held := sound.calls call (by simp)
      obtain ⟨-, away⟩ := only_of_filter (sound.alone call (by simp) alone)
      refine ⟨fun fd filter => ?_, fun other among => ?_,
        @alone_replace front back call _ rfl rfl sound.alone⟩
      · simp only
        rw [promised_split]
        by_cases own : call.fd = fd
        · subst own
          rw [if_pos ⟨rfl, rfl⟩, settle_of_other (pending_other fun other among same => ?_)]
          · have whole := queue_of_first sound (by simp) alone first filter
            rw [held.undoes undoes] at whole
            exact whole
          · rcases mem_split.mp among with rfl | among
            · rfl
            · exact absurd same (away other among)
        · have mirrored := sound.mirrored fd filter
          simp only at mirrored
          rw [promised_split, if_neg fun both => own both.1, settle_without own] at mirrored
          rw [if_neg fun both => own both.1]
          have failed_fd : { call with todo := [], undoing := some errno }.fd ≠ fd := own
          rw [settle_without failed_fd]
          exact mirrored
      · rcases mem_split.mp among with rfl | among
        · exact ⟨held.left, held.registered, held.whole, held.undoes,
            fun _ => ⟨rfl, alone, first, undoes⟩⟩
        · exact sound.calls other (mem_split.mpr (.inr among))
  | @refused front back call errno split undoing first alone kept =>
      simp only at split
      subst split
      have held := sound.calls call (by simp)
      obtain ⟨-, away⟩ := only_of_filter (sound.alone call (by simp) alone)
      refine sound_erase sound (fun _ _ => rfl) rfl fun fd filter => ?_
      by_cases own : call.fd = fd
      · subst own
        rw [settle_of_other (pending_other fun other among same => absurd same (away other among)),
          promised_other away, held.left alone, ← kept]
        exact queue_of_first sound (by simp) alone first filter
      · have mirrored := sound.mirrored fd filter
        simp only at mirrored
        rw [promised_split, if_neg fun both => own both.1, settle_without own] at mirrored
        exact mirrored

/-- An operation that fails leaves its descriptor as it has found it. -/
theorem restored_of_moved (sound : Sound system) {after : System} {errno : Errno}
    (moved : Moved system (some call) after (some (.error errno))) :
    after.context.state call.fd = call.found ∧
      ∀ filter, after.context.queue (call.fd, filter) = call.registered filter := by
  cases moved with
  | undone split undoing =>
      have held := sound.calls call (by simp [split])
      obtain ⟨-, alone, first, undoes⟩ := held.undoing (by rw [undoing]; rfl)
      rw [held.undoes undoes]
      exact ⟨Function.update_self .., held.whole alone first⟩
  | refused split undoing first alone kept =>
      have held := sound.calls call (by simp [split])
      exact ⟨(held.left alone).trans kept.symm, held.whole alone first⟩

end Steps

/-! ### Runs -/

inductive Reached : System → Prop
  | start : Reached .start
  | step {system : System} {action : Action} (reached : Reached system)
      (orderly : system.Orderly action) : Reached (system.step action).1

section Runs

variable {system : System} {action : Action}

theorem sound_of_reach (reached : Reached system) : Sound system := by
  induction reached with
  | start => exact sound_start
  | @step system action _ orderly sound =>
      cases action with
      | advance index failure => exact sound_moved sound (moved_of_orderly orderly)
      | enter operation =>
          simp only [System.step]
          simp only [System.Orderly] at orderly
          split
          · exact sound
          · rename_i entered
            rw [entered] at orderly
            exact sound_enter sound entered orderly

def System.descriptor (system : System) : Action → Option RawDescriptor
  | .enter operation => some operation.fd
  | .advance index _ => system.running[index]?.map Call.fd

def Context.Same (fd : RawDescriptor) (before after : Context) : Prop :=
  after.state fd = before.state fd ∧
    ∀ filter, after.queue (fd, filter) = before.queue (fd, filter)

theorem applyChange_other {queue changed : Queue} {own fd : RawDescriptor} {change : Change}
    {failure : Option Errno} (applied : applyChange queue own change failure = .ok changed)
    (other : fd ≠ own) (filter : Filter) : changed (fd, filter) = queue (fd, filter) := by
  have away : (fd, filter) ≠ (own, change.filter) := fun same => other (congrArg Prod.fst same)
  unfold applyChange at applied
  split at applied
  · rename_i made
    cases applied
    unfold kevent at made
    split at made
    · cases made
    · split at made
      · cases made
      · cases made
        exact Function.update_of_ne away ..
  · split at applied
    · cases applied
      rfl
    · cases applied
  · cases applied

theorem advance_other {call : Call} {fd : RawDescriptor} (other : fd ≠ call.fd)
    (context : Context) (failure : Option Errno) :
    context.Same fd (call.advance context failure).1 := by
  unfold Call.advance
  split
  · exact ⟨Function.update_of_ne other .., fun _ => rfl⟩
  · split
    · exact ⟨rfl, fun _ => rfl⟩
    · split
      · rename_i applied
        exact ⟨rfl, applyChange_other applied other⟩
      · split <;> exact ⟨rfl, fun _ => rfl⟩

/-- No step changes anything about the other descriptors. -/
theorem step_other {fd : RawDescriptor} (other : system.descriptor action ≠ some fd) :
    system.context.Same fd (system.step action).1.context := by
  cases action with
  | enter operation =>
      have away : fd ≠ operation.fd := fun same => other (congrArg some same.symm)
      simp only [System.step]
      split
      · exact ⟨rfl, fun _ => rfl⟩
      · exact ⟨Function.update_of_ne away .., fun _ => rfl⟩
  | advance index failure =>
      cases found : system.running[index]? with
      | none =>
          simp only [System.step, found]
          exact ⟨rfl, fun _ => rfl⟩
      | some call =>
          have away : fd ≠ call.fd := fun same => other (by simp [System.descriptor, found, same])
          have kept := advance_other away system.context failure
          rcases advanced : call.advance system.context failure with ⟨context, next | result⟩
          · rw [step_running found advanced]
            rwa [advanced] at kept
          · rw [step_returned found advanced]
            rwa [advanced] at kept

def System.Restored (system : System) : Action → Prop
  | .enter operation => (system.step (.enter operation)).1 = system
  | .advance index failure => ∀ call, system.running[index]? = some call →
      (system.step (.advance index failure)).1.context.state call.fd = call.found ∧
        ∀ filter, (system.step (.advance index failure)).1.context.queue (call.fd, filter) =
          call.registered filter

/-- In a run of orderly steps, the kqueue agrees with the map whenever no operation is in progress,
and an operation that fails has changed nothing. -/
theorem context_agrees (reached : Reached system) :
    (system.running = [] → system.context.Agrees) ∧
    (∀ action errno, system.Orderly action → (system.step action).2 = some (.error errno) →
      system.Restored action) ∧
    ∀ action fd, system.descriptor action ≠ some fd →
      system.context.Same fd (system.step action).1.context := by
  have sound := sound_of_reach reached
  refine ⟨fun idle fd filter => ?_, fun action errno orderly failed => ?_,
    fun _ _ other => step_other other⟩
  · exact queue_of_free sound (by simp [idle]) filter
  · cases action with
    | enter operation =>
        simp only [System.Restored, System.step] at failed ⊢
        split at failed
        · rfl
        · cases failed
    | advance index failure =>
        intro call found
        have moved := moved_of_orderly orderly
        rw [found, failed] at moved
        exact restored_of_moved sound moved

end Runs

/-! ### Failures and overlaps -/

def ENOMEM : Errno := 12

/-- An add of both filters whose first change fails. -/
theorem context_agrees_refused :
    (run .start [.enter (.addForEvent 3 .readWrite 7), .advance 0 (some ENOMEM),
      .advance 0 none]).context.Agrees ∧
    (run .start [.enter (.addForEvent 3 .readWrite 7),
      .advance 0 (some ENOMEM)]).Restored (.advance 0 none) := by
  have entered : Reached (run .start [.enter (.addForEvent 3 .readWrite 7)]) :=
    .step .start (by simp [System.Orderly, Operation.enter, System.start])
  have failed : Reached (run .start [.enter (.addForEvent 3 .readWrite 7),
      .advance 0 (some ENOMEM)]) := by
    refine .step entered fun call change rest found _ _ => ?_
    cases found
    exact ⟨rfl, rfl, .inl rfl, fun _ _ => by decide⟩
  have last : (run .start [.enter (.addForEvent 3 .readWrite 7),
      .advance 0 (some ENOMEM)]).Orderly (.advance 0 none) := by
    intro call change rest found undoing
    cases found
    cases undoing
  exact ⟨(context_agrees (.step failed last)).1 rfl,
    (context_agrees failed).2.1 _ ENOMEM last rfl⟩

/-- The second change of an add fails, or a delete comes between an add and its change: then a
filter stays that no entry describes. -/
theorem left_registered :
    (∃ actions, (run .start actions).running = [] ∧ ¬(run .start actions).context.Agrees ∧
      actions = [.enter (.addForEvent 3 .readWrite 7), .advance 0 none, .advance 0 (some ENOMEM),
        .advance 0 none]) ∧
    ∃ actions, (run .start actions).running = [] ∧ ¬(run .start actions).context.Agrees ∧
      actions = [.enter (.addForEvent 3 .read 7), .enter (.delete 3), .advance 1 none,
        .advance 1 none, .advance 0 none, .advance 0 none] := by
  refine ⟨⟨_, rfl, fun agrees => ?_, rfl⟩, ⟨_, rfl, fun agrees => ?_, rfl⟩⟩ <;>
    exact absurd (agrees 3 .read) (by decide)

end Bscp.Crosvm.EventContext
