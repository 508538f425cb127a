import Bscp.LocalRpc.ChannelSafety

/-!
What a channel does with its records: what each step may do with a mailbox, a put that
fails, what is left to happen once the channel or its session is closing, and the release
of every record.
-/

namespace Bscp.LocalRpc

section Steps

variable {s : State} {thread : Nat}

/-- What a step may do with the mailbox of a direction. What is put in or taken out is so by
the call that holds the channel's lock, which it then gives up. -/
inductive Served (s after : State) (direction : Direction) : Prop
  | untouched (put : after.put direction = s.put direction)
      (next : after.next direction = s.next direction)
      (taken : after.taken direction = s.taken direction)
      (box : after.box direction = s.box direction ∨
        (after.closing = true ∧ after.box direction = none))
  | puts (thread : Nat) (record : Record) (locked : s.lock = some thread) (left : after.lock = none)
      (associated : s.association = .associated) (living : s.closing = false)
      (empty : s.box direction = none) (sequence : record.sequence = s.next direction)
      (box : after.box direction = some record)
      (next : after.next direction = s.next direction + 1)
      (put : after.put direction = s.put direction ++ [record])
      (taken : after.taken direction = s.taken direction)
  | takes (thread : Nat) (record : Record) (locked : s.lock = some thread) (left : after.lock = none)
      (living : s.closing = false) (found : s.box direction = some record)
      (box : after.box direction = none) (next : after.next direction = s.next direction)
      (put : after.put direction = s.put direction)
      (taken : after.taken direction = s.taken direction ++ [record])

theorem Sound.served (sound : Sound s) {after : State} (step : Step s after) (direction : Direction) :
    Served s after direction := by
  cases step with
  | putIn here puts =>
      rename_i thread holder call mine sequence
      have inside := sound.inside thread holder call here
      obtain ⟨associated, empty, same⟩ := inside.puts puts
      by_cases hit : direction = mine
      · subst hit
        exact .puts thread ⟨s.created, sequence⟩ inside.locked rfl associated inside.living empty same
          (Function.update_self ..) (Function.update_self ..) (Function.update_self ..) rfl
      · exact .untouched (Function.update_of_ne hit ..) (Function.update_of_ne hit ..) rfl
          (.inl (Function.update_of_ne hit ..))
  | takeOut here takes found =>
      rename_i thread holder call mine record
      have inside := sound.inside thread holder call here
      by_cases hit : direction = mine
      · subst hit
        exact .takes thread record inside.locked rfl inside.living found (Function.update_self ..) rfl rfl
          (Function.update_self ..)
      · exact .untouched rfl rfl (Function.update_of_ne hit ..) (.inl (Function.update_of_ne hit ..))
  | rundown here free => exact .untouched rfl rfl rfl (.inr ⟨rfl, rfl⟩)
  | shutdown thread holder drops here live other free => exact .untouched rfl rfl rfl (.inr ⟨rfl, rfl⟩)
  | sweepSession here listed free => exact .untouched rfl rfl rfl (.inr ⟨rfl, rfl⟩)
  | dropLast here done live unused last =>
      have context := (sound.drop here unused).2.2
      rw [last] at context
      have closing : s.closing = true := context.resolve_left List.not_mem_nil
      exact .untouched rfl rfl rfl (.inr ⟨closing, rfl⟩)
  | _ => exact .untouched rfl rfl rfl (.inl rfl)

/-- A call stays inside while others move. -/
theorem stays {mover holder : Nat} {pc : Pc} {call : Call} (here : s.pc thread = .inside call holder)
    (before : s.pc mover ≠ .inside call holder) :
    Function.update s.pc mover pc thread = .inside call holder := by
  have apart : thread ≠ mover := by
    rintro rfl
    exact before here
  rw [Function.update_of_ne apart, here]

/-- How a call that puts a record in comes to its end. -/
theorem Sound.ends (sound : Sound s) {after : State} (step : Step s after) {holder : Nat} {call : Call}
    {direction : Direction} {sequence : UInt64} (here : s.pc thread = .inside call holder)
    (puts : call.puts = some (direction, sequence)) (left : after.pc thread = .idle) :
    after.put direction = s.put direction ++ [⟨s.created, sequence⟩] ∨
      (after.put = s.put ∧ after.box = s.box ∧ after.next = s.next ∧ after.closing = s.closing ∧
        after.sessionClosing = s.sessionClosing ∧ after.association = s.association ∧
        after.generation = s.generation) := by
  -- A step of another thread leaves this one inside.
  have apart {mover : Nat} {pc : Pc} (before : s.pc mover ≠ .inside call holder)
      (there : Function.update s.pc mover pc thread = .idle) : False :=
    nomatch (stays here before).symm.trans there
  cases step with
  | enter other k c place live free passes =>
      exact absurd here (sound.vacant free thread holder call)
  | makeFails place _ => exact .inr ⟨rfl, rfl, rfl, rfl, rfl, rfl, rfl⟩
  | makeBreaks place _ => exact .inr ⟨rfl, rfl, rfl, rfl, rfl, rfl, rfl⟩
  | putIn place other =>
      rename_i mover k c mine number
      obtain rfl := sound.alone here place
      obtain ⟨rfl, rfl⟩ := Pc.inside.inj (here.symm.trans place)
      obtain ⟨rfl, rfl⟩ := Prod.mk.inj (Option.some.inj (puts.symm.trans other))
      exact .inl (Function.update_self ..)
  | takeOut place takes found =>
      rename_i mover k c mine record
      obtain rfl := sound.alone here place
      obtain ⟨rfl, rfl⟩ := Pc.inside.inj (here.symm.trans place)
      exact nomatch (Call.takes_none puts).symm.trans takes
  | releaseHeld held => exact nomatch here.symm.trans left
  | associate free fresh living => exact nomatch here.symm.trans left
  | associated free begun living => exact nomatch here.symm.trans left
  | refused free begun => exact nomatch here.symm.trans left
  | borrow other listed fresh => exact nomatch here.symm.trans left
  | releaseDoomed doomed => exact nomatch here.symm.trans left
  | giveBack mover k place live other => exact (apart (by rw [place]; nofun) left).elim
  | unlink mover place listed free => exact (apart (by rw [place]; nofun) left).elim
  | rundown place free => exact (apart (by rw [place]; nofun) left).elim
  | shutdown mover k drops place live other free => exact (apart (by rw [place]; nofun) left).elim
  | flag mover place => exact (apart (by rw [place]; nofun) left).elim
  | sweepSession place listed free => exact (apart (by rw [place]; nofun) left).elim
  | skipSession place unlisted => exact (apart (by rw [place]; nofun) left).elim
  | finish place done =>
      refine (apart ?_ left).elim
      intro same
      rw [same] at place
      obtain found | found | ⟨_, found⟩ := place <;> cases found
  | drop place done live unused more => exact (apart (by rw [place]; nofun) left).elim
  | dropLast place done live unused last => exact (apart (by rw [place]; nofun) left).elim

/-- A put that fails leaves the channel as its checks found it, so that it may be tried again. -/
theorem Sound.retry (sound : Sound s) {after : State} (step : Step s after) {holder : Nat} {call : Call}
    {direction : Direction} {sequence : UInt64} (here : s.pc thread = .inside call holder)
    (puts : call.puts = some (direction, sequence)) (left : after.pc thread = .idle)
    (failed : after.put direction = s.put direction) :
    after.box = s.box ∧ after.next = s.next ∧
      (s.sessionClosing = false → call.check after = .success) := by
  obtain done | ⟨_, box, next, closing, flag, association, generation⟩ := sound.ends step here puts left
  · have longer := congrArg List.length (done.symm.trans failed)
    rw [List.length_append, List.length_singleton] at longer
    omega
  · refine ⟨box, next, ?_⟩
    intro unflagged
    rw [← (sound.inside thread holder call here).checked]
    exact Call.check_congr closing (flag.trans unflagged) association generation box next

def Shut (s : State) : Prop := s.closing = true ∨ (s.sessionClosing = true ∧ s.lock = none)

/-- The flags stay, and no call begins once one is set. -/
theorem Step.flags {after : State} (step : Step s after) :
    (s.closing = true → after.closing = true) ∧ (s.sessionClosing = true → after.sessionClosing = true) ∧
      (s.closing = true ∨ s.sessionClosing = true → after.lock = none ∨ after.lock = s.lock) := by
  cases step with
  | enter thread holder call here live free passes =>
      obtain ⟨living, open', _⟩ := Call.check_success passes
      refine ⟨id, id, ?_⟩
      rintro (closing | closing)
      · exact nomatch living.symm.trans closing
      · exact nomatch open'.symm.trans closing
  | makeFails here puts => exact ⟨id, id, fun _ => .inl rfl⟩
  | makeBreaks here puts => exact ⟨id, id, fun _ => .inl rfl⟩
  | putIn here puts => exact ⟨id, id, fun _ => .inl rfl⟩
  | takeOut here takes found => exact ⟨id, id, fun _ => .inl rfl⟩
  | rundown here free => exact ⟨fun _ => rfl, id, fun _ => .inr rfl⟩
  | shutdown thread holder drops here live other free => exact ⟨fun _ => rfl, id, fun _ => .inr rfl⟩
  | sweepSession here listed free => exact ⟨fun _ => rfl, id, fun _ => .inr rfl⟩
  | flag thread here => exact ⟨id, fun _ => rfl, fun _ => .inr rfl⟩
  | _ => exact ⟨id, id, fun _ => .inr rfl⟩

theorem Sound.shut (sound : Sound s) {after : State} (step : Step s after) (shut : Shut s) :
    Shut after ∧ after.put = s.put ∧ after.taken = s.taken := by
  obtain ⟨closing, session, lock⟩ := step.flags
  have unlocked : s.closing = false → s.lock = none := by
    intro living
    obtain closed | ⟨_, free⟩ := shut
    · exact nomatch living.symm.trans closed
    · exact free
  have same (direction : Direction) :
      after.put direction = s.put direction ∧ after.taken direction = s.taken direction := by
    cases sound.served step direction with
    | untouched put next taken box => exact ⟨put, taken⟩
    | puts thread record locked left associated living =>
        exact nomatch (unlocked living).symm.trans locked
    | takes thread record locked left living => exact nomatch (unlocked living).symm.trans locked
  refine ⟨?_, funext fun direction => (same direction).1, funext fun direction => (same direction).2⟩
  obtain closed | ⟨flagged, free⟩ := shut
  · exact .inl (closing closed)
  · refine .inr ⟨session flagged, ?_⟩
    rw [free] at lock
    exact (lock (.inr flagged)).elim id id

theorem Sound.shut_for_good (sound : Sound s) (shut : Shut s) {later : State}
    (run : Machine.Reach Step s later) :
    (Sound later ∧ Shut later) ∧ later.put = s.put ∧ later.taken = s.taken := by
  induction run with
  | refl => exact ⟨⟨sound, shut⟩, rfl, rfl⟩
  | tail _ step held =>
      obtain ⟨⟨kept, closed⟩, put, taken⟩ := held
      obtain ⟨still, more, out⟩ := kept.shut step closed
      exact ⟨⟨kept.step step, still⟩, more.trans put, out.trans taken⟩

/-- No call begins once the session is closing. -/
theorem lock_not_taken (flagged : s.sessionClosing = true) {later : State}
    (run : Machine.Reach Step s later) :
    later.sessionClosing = true ∧ (later.lock = none ∨ later.lock = s.lock) := by
  induction run with
  | refl => exact ⟨flagged, .inr rfl⟩
  | tail _ step held =>
      obtain ⟨still, lock⟩ := held
      obtain ⟨_, session, given⟩ := step.flags
      refine ⟨session still, ?_⟩
      obtain free | same := given (.inr still)
      · exact .inl free
      · rw [same]
        exact lock

/-- The last reference has gone, and so have those who hold a record: each record was
released once. -/
theorem Sound.all_released (sound : Sound s) (gone : s.refs = []) (held : s.held = [])
    (doomed : s.doomed = []) : (s.released.map Record.number).Perm (List.range s.created) := by
  have closing : s.closing = true := by
    have context := sound.context
    rw [gone] at context
    exact context.resolve_left List.not_mem_nil
  have placed := sound.placed
  unfold State.placed at placed
  rw [held, doomed, (sound.mail .inbound).emptied closing, (sound.mail .outbound).emptied closing]
    at placed
  simp only [List.map_nil, Option.toList_none, Multiset.coe_nil, add_zero, Multiset.map_coe] at placed
  exact Multiset.coe_eq_coe.1 placed

end Steps

/-- In every state that a run reaches. -/
theorem mailboxes_ordered_and_records_released {generation : UInt64} {s : State}
    (reached : Reachable generation s) :
    (∀ direction, Mail s direction) ∧
      (∀ after, Step s after →
        (∀ direction, Served s after direction) ∧
          ∀ thread holder call direction sequence, s.pc thread = .inside call holder →
            call.puts = some (direction, sequence) → after.pc thread = .idle →
            after.put direction = s.put direction →
              after.box = s.box ∧ after.next = s.next ∧
                (s.sessionClosing = false → call.check after = .success)) ∧
      (Shut s → ∀ later, Machine.Reach Step s later → later.put = s.put ∧ later.taken = s.taken) ∧
      (s.sessionClosing = true → ∀ later, Machine.Reach Step s later →
        later.lock = none ∨ later.lock = s.lock) ∧
      s.placed.map Record.number = Multiset.range s.created ∧
      (s.refs = [] → s.held = [] → s.doomed = [] →
        (s.released.map Record.number).Perm (List.range s.created)) := by
  have sound := reachable_sound reached
  refine ⟨sound.mail, ?_, ?_, ?_, sound.placed, sound.all_released⟩
  · intro after step
    refine ⟨sound.served step, ?_⟩
    intro thread holder call direction sequence here puts left failed
    exact sound.retry step here puts left failed
  · intro shut later run
    exact (sound.shut_for_good shut run).2
  · intro flagged later run
    exact (lock_not_taken flagged run).2

/-- A call is inside, and its session begins to close. -/
theorem inside_while_flagged : ∃ s, Reachable 7 s ∧ s.pc 1 = .inside (.trySend 7 1) 0 ∧
    s.sessionClosing = true ∧ s.put .inbound = [] := by
  have associating := Relation.ReflTransGen.tail .refl (@Step.associate { generation := 7 } rfl rfl ⟨rfl, rfl⟩)
  have associated := associating.tail (.associated rfl rfl ⟨rfl, rfl⟩)
  have entered := associated.tail
    (.enter 1 0 (.trySend 7 1) rfl (List.mem_singleton.2 rfl) rfl (by decide))
  have flagged := entered.tail (.flag 2 rfl)
  exact ⟨_, flagged, rfl, rfl, rfl⟩

/-- Two records are put, the first of them is taken and released, and the session begins to
close. -/
theorem record_taken_then_flagged : ∃ s, Reachable 7 s ∧ s.sessionClosing = true ∧
    s.put .inbound = [⟨0, 1⟩, ⟨1, 2⟩] ∧ s.taken .inbound = [⟨0, 1⟩] ∧ s.released = [⟨0, 1⟩] ∧
    (∀ direction, Mail s direction) ∧ s.placed.map Record.number = Multiset.range 2 ∧
    ∀ later, Machine.Reach Step s later → later.lock = none ∨ later.lock = s.lock := by
  have associating := Relation.ReflTransGen.tail .refl (@Step.associate { generation := 7 } rfl rfl ⟨rfl, rfl⟩)
  have associated := associating.tail (.associated rfl rfl ⟨rfl, rfl⟩)
  have entered := associated.tail
    (.enter 1 0 (.trySend 7 1) rfl (List.mem_singleton.2 rfl) rfl (by decide))
  have first := entered.tail (@Step.putIn _ 1 0 _ .inbound 1 rfl rfl)
  have popping := first.tail (.enter 2 0 .pop rfl (List.mem_singleton.2 rfl) rfl (by decide))
  have taken := popping.tail (@Step.takeOut _ 2 0 _ .inbound ⟨0, 1⟩ rfl rfl rfl)
  have released := taken.tail (@Step.releaseHeld _ ⟨0, 1⟩ (List.mem_singleton.2 rfl))
  have again := released.tail
    (.enter 1 0 (.trySend 7 2) rfl (List.mem_singleton.2 rfl) rfl (by decide))
  have second := again.tail (@Step.putIn _ 1 0 _ .inbound 2 rfl rfl)
  have flagged := second.tail (.flag 2 rfl)
  obtain ⟨mail, _, _, lock, placed, _⟩ := mailboxes_ordered_and_records_released flagged
  exact ⟨_, flagged, rfl, rfl, rfl, rfl, mail, placed, lock rfl⟩

/-- The session's flag is set without the channel's lock: the call that holds it goes on. -/
theorem put_while_session_closing : ¬∀ generation s after, Reachable generation s → Step s after →
    s.closing = true ∨ s.sessionClosing = true → after.put = s.put ∧ after.taken = s.taken := by
  intro claim
  obtain ⟨s, reached, here, flagged, empty⟩ := inside_while_flagged
  have longer : Function.update s.put .inbound (s.put .inbound ++ [⟨s.created, 1⟩]) = s.put :=
    (claim 7 s _ reached (.putIn here rfl) (.inr flagged)).1
  have same := congrFun longer .inbound
  rw [Function.update_self, empty] at same
  cases same

end Bscp.LocalRpc
