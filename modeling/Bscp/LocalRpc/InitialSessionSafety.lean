import Bscp.Machine
import Bscp.LocalRpc.InitialSession
import Mathlib.Data.List.Perm.Basic
import Mathlib.Data.List.Nodup

/-!
What the shutdown of an initial session keeps. Once a stop is requested nobody registers a thread
and nobody but the call that has the join gate changes the state, the threads or the closing list;
so what that call has found under the mutex still holds when it takes the mutex again.
-/

namespace Bscp.LocalRpc.InitialSession

open Bscp.Machine

variable {w next : World} {event : Event} {events more : List Event} {thread call other : Nat}

/-! Small facts about the operations. -/

namespace World

@[simp, grind =] theorem goes_place {place : Place} :
    (w.goes thread place).place other = if other = thread then place else w.place other := by
  unfold goes
  exact Function.update_apply ..

@[simp, grind =] theorem turns_call {place : CallPlace} : (w.turns call place).call other =
    if other = call then { w.call call with place := place } else w.call other := by
  unfold turns
  exact Function.update_apply ..

end World

def CallPlace.gated : CallPlace → Bool
  | .entering gated | .returning gated .. => gated
  | .waiting | .joining _ | .closing _ | .releasing | .finalising | .dying => true
  | .fresh | .gating | .done => false

/-! Who changes what, once a stop is requested. -/

structure Frame (w next : World) : Prop where
  stop : next.stop = true
  state : next.state = w.state
  threads : next.threads = w.threads
  joinable : next.joinable = w.joinable
  closing : next.closing = w.closing
  setup : next.setupActive = true → w.setupActive = true
  unused : ∀ thread, ¬w.free thread → ¬w.ownsOutgoing thread → ¬next.ownsOutgoing thread
  finalize : next.finalizeAttempted = w.finalizeAttempted
  gate : next.gate = w.gate

theorem requestStop_frame (broken : Bool) (late : 3 ≤ w.state) :
    Frame w (w.requestStop broken) where
  stop := rfl
  state := by simp [World.requestStop, Nat.not_lt.mpr late]
  threads := rfl
  joinable := rfl
  closing := rfl
  setup := id
  unused := fun _ _ => id
  finalize := rfl
  gate := rfl

theorem Frame.refl (stopped : w.stop = true) : Frame w w :=
  ⟨stopped, rfl, rfl, rfl, rfl, id, fun _ _ => id, rfl, rfl⟩

theorem Frame.trans {middle : World} (first : Frame w middle) (second : Frame middle next)
    (same : middle.call = w.call) : Frame w next where
  stop := second.stop
  state := second.state.trans first.state
  threads := second.threads.trans first.threads
  joinable := second.joinable.trans first.joinable
  closing := second.closing.trans first.closing
  setup := fun active => first.setup (second.setup active)
  unused := by
    intro thread busy unused
    have still : ¬middle.free thread := by
      unfold World.free at *
      rw [same]
      exact busy
    exact second.unused thread still (first.unused thread busy unused)
  finalize := second.finalize.trans first.finalize
  gate := second.gate.trans first.gate

theorem Frame.goes {middle : World} {place : Place} (frame : Frame w middle) :
    Frame w (middle.goes thread place) :=
  ⟨frame.stop, frame.state, frame.threads, frame.joinable, frame.closing, frame.setup,
    frame.unused, frame.finalize, frame.gate⟩

theorem Frame.turns {middle : World} {place : CallPlace} (frame : Frame w middle) :
    Frame w (middle.turns call place) :=
  ⟨frame.stop, frame.state, frame.threads, frame.joinable, frame.closing, frame.setup,
    frame.unused, frame.finalize, frame.gate⟩

/-- A new owner of an outgoing connection is doing nothing else. -/
theorem not_ownsOutgoing_update {user connection : Nat} {outgoing : List Nat}
    (free : w.free user) (members : ∀ c ∈ outgoing, c ∈ w.outgoing ∨ c = connection)
    (busy : ¬w.free thread) (unused : ¬w.ownsOutgoing thread) :
    ¬∃ c ∈ outgoing, Function.update w.exclusive connection (some user) c = some thread := by
  rintro ⟨c, member, owner⟩
  by_cases same : c = connection
  · subst same
    rw [Function.update_self, Option.some.injEq] at owner
    exact busy (owner ▸ free)
  · rw [Function.update_of_ne same] at owner
    exact unused ⟨c, (members c member).resolve_right same, owner⟩

theorem Acts.frame (step : Acts w event next) (stopped : w.stop = true) (late : 3 ≤ w.state) :
    Frame w next ∧ next.call = w.call := by
  have same := Frame.refl stopped
  cases step with
  | requests broken => exact ⟨requestStop_frame broken late, rfl⟩
  | setupBegins first going => simp [stopped] at going
  | @setupFails status active failed broken =>
      have ends : Frame w { w.fails status with setupActive := false } :=
        { same with setup := nofun }
      exact ⟨ends.trans (requestStop_frame broken late) rfl, rfl⟩
  | setupStopped => exact ⟨{ same with setup := nofun }, rfl⟩
  | setupEnds active going => simp [stopped] at going
  | addsOutgoing active free =>
      refine ⟨{ same with unused := ?_ }, rfl⟩
      intro thread busy unused
      exact not_ownsOutgoing_update free (by simp) busy unused
  | uses free member available =>
      refine ⟨{ same with unused := ?_ }, rfl⟩
      intro thread busy unused
      exact not_ownsOutgoing_update free (fun _ => .inl) busy unused
  | unuses connection =>
      refine ⟨{ same with unused := ?_ }, rfl⟩
      rintro thread busy unused ⟨c, member, owner⟩
      by_cases same : c = connection
      · simp [same] at owner
      · exact unused ⟨c, member, by simpa [same] using owner⟩
  | waits => exact ⟨{ same with }, rfl⟩
  | registers going => simp [stopped] at going

theorem Runs.frame (step : Runs thread w event next) (stopped : w.stop = true)
    (late : 3 ≤ w.state) (old : ∀ connection ∈ w.outgoing, connection < w.nextConnection) :
    Frame w next ∧ next.call = w.call := by
  have same := Frame.refl stopped
  cases step with
  | assigns =>
      refine ⟨{ same with unused := ?_ }, rfl⟩
      rintro user busy unused ⟨c, member, owner⟩
      have away : c ≠ w.nextConnection := Nat.ne_of_lt (old c member)
      exact unused ⟨c, member, by simpa [away, World.goes] using owner⟩
  | startFails _ _ broken => exact ⟨(requestStop_frame broken late).goes, rfl⟩
  | stops _ broken => exact ⟨(requestStop_frame broken late).goes, rfl⟩
  | removes => exact ⟨{ same with }, rfl⟩
  | records => exact ⟨{ same with }, rfl⟩
  | finishes => exact ⟨{ same with }, rfl⟩
  | _ => exact ⟨same.goes, rfl⟩

/-- A call without the join gate only requests the stop. -/
theorem Calls.frame (step : Calls call w event next) (stopped : w.stop = true)
    (late : 3 ≤ w.state) (held : ∃ owner, w.gate = some owner)
    (outside : (w.call call).place.gated = false) :
    Frame w next ∧ ∀ other, other ≠ call → next.call other = w.call other := by
  have same := Frame.refl stopped
  obtain ⟨owner, gate⟩ := held
  cases step with
  | refuses => exact ⟨same.turns, fun other away => by simp [away]⟩
  | begins => exact ⟨{ same with }, fun other away => Function.update_of_ne away ..⟩
  | missesGate => exact ⟨same.turns, fun other away => by simp [away]⟩
  | ownerless => exact ⟨same.turns, fun other away => by simp [World.leaves, away]⟩
  | blocked _ _ broken =>
      refine ⟨(requestStop_frame broken late).turns, fun other away => ?_⟩
      simp [World.leaves, World.requestStop, away]
  | returns here =>
      rw [here] at outside
      have open_ : _ = false := outside
      subst open_
      exact ⟨{ same with }, fun other away => by simp [away]⟩
  | takesGate _ open_ => simp [gate] at open_
  | _ => simp_all [CallPlace.gated]

/-! The invariant. -/

def Joined (thread : Nat) (events : List Event) : Prop := ∃ call, .joins call thread true ∈ events

structure Threads (events : List Event) (w : World) : Prop where
  known : ∀ thread, .registers thread ∈ events → thread ∈ w.threads ∨ Joined thread events
  joined : ∀ thread ∈ w.threads, w.joinable thread = false → Joined thread events
  ended : ∀ thread, Joined thread events → w.place thread = .done
  placed : ∀ thread, w.place thread ≠ .absent → .registers thread ∈ events

def World.connections (w : World) : List Nat := w.incoming ++ w.outgoing ++ w.retired ++ w.closing

structure Books (events : List Event) (w : World) : Prop where
  once : w.connections.Nodup
  old : ∀ connection ∈ w.connections, connection < w.nextConnection
  made : ∀ connection, .makes connection ∈ events → connection < w.nextConnection
  whole : ∀ connection, .makes connection ∈ events →
    connection ∈ w.connections ∨ .closes connection .ok ∈ events

def Phase (events : List Event) (w : World) (call : Call) : Prop :=
  match call.place with
  | .waiting => w.stop = true ∧ w.state ≠ 5 ∧ call.thread ∉ w.threads ∧
      ¬w.ownsOutgoing call.thread
  | .joining rest => w.stop = true ∧ w.state = 3 ∧ call.thread ∉ w.threads ∧
      ¬w.ownsOutgoing call.thread ∧ w.setupActive = false ∧
      ∀ thread ∈ w.threads, thread ∈ rest ∨ w.joinable thread = false
  | .closing rest => w.stop = true ∧ w.state = 4 ∧ ∃ done, w.closing = done ++ rest ∧
      ∀ connection ∈ done, .closes connection .ok ∈ events
  | .releasing => w.stop = true ∧ w.state = 4 ∧ w.closing = []
  | .finalising | .dying => w.stop = true ∧ w.state = 4 ∧ w.closing = [] ∧
      .rootCloses 0 ∈ events
  | .fresh | .gating | .entering _ | .returning .. | .done => True

structure Late (events : List Event) (w : World) : Prop where
  setup : w.setupActive = false
  incoming : w.incoming = []
  outgoing : w.outgoing = []
  retired : w.retired = []
  joined : ∀ thread, .registers thread ∈ events → Joined thread events

structure Sound (events : List Event) (w : World) : Prop where
  threads : Threads events w
  books : Books events w
  going : w.stop = false → w.state ≤ 2
  stopping : w.stop = true → 3 ≤ w.state ∧ w.state ≤ 5
  stopped : .stops ∈ events → w.stop = true
  late : 4 ≤ w.state → Late events w
  gate : ∀ call, w.gate = some call ↔ (w.call call).place.gated = true
  phase : ∀ call, Phase events w (w.call call)
  obituaries : events.count .obituaries = if w.finalizeAttempted then 1 else 0

/-! The phase of a call under the steps of others. -/

/-- A call that is waiting or joining does nothing else. -/
theorem not_free {place : CallPlace} (here : w.call call = ⟨thread, place⟩)
    (busy : place ≠ .fresh ∧ place ≠ .dying ∧ place ≠ .done) : ¬w.free thread := by
  intro free
  have away := free call (by rw [here])
  rw [here] at away
  rcases away with fresh | dying | done
  · exact busy.1 fresh
  · exact busy.2.1 dying
  · exact busy.2.2 done

theorem Phase.framed (phase : Phase events w (w.call call))
    (frame : w.stop = true → Frame w next) (longer : events ⊆ more) :
    Phase more next (w.call call) := by
  cases here : w.call call with
  | mk thread place =>
      rw [here] at phase
      cases place with
      | waiting =>
          obtain ⟨stopped, live, external, unused⟩ := phase
          have kept := frame stopped
          refine ⟨kept.stop, kept.state ▸ live, kept.threads ▸ external, ?_⟩
          exact kept.unused thread (not_free here (by simp)) unused
      | joining rest =>
          obtain ⟨stopped, state, external, unused, setup, joined⟩ := phase
          have kept := frame stopped
          refine ⟨kept.stop, kept.state.trans state, kept.threads ▸ external, ?_, ?_, ?_⟩
          · exact kept.unused thread (not_free here (by simp)) unused
          · by_contra active
            have before := kept.setup (by simpa using active)
            simp [setup] at before
          · intro thread member
            rw [kept.threads] at member
            rw [kept.joinable]
            exact joined thread member
      | closing rest =>
          obtain ⟨stopped, state, done, all, closed⟩ := phase
          have kept := frame stopped
          exact ⟨kept.stop, kept.state.trans state, done, kept.closing.trans all,
            fun connection member => longer (closed connection member)⟩
      | releasing =>
          obtain ⟨stopped, state, empty⟩ := phase
          have kept := frame stopped
          exact ⟨kept.stop, kept.state.trans state, kept.closing.trans empty⟩
      | finalising =>
          obtain ⟨stopped, state, empty, root⟩ := phase
          have kept := frame stopped
          exact ⟨kept.stop, kept.state.trans state, kept.closing.trans empty, longer root⟩
      | dying =>
          obtain ⟨stopped, state, empty, root⟩ := phase
          have kept := frame stopped
          exact ⟨kept.stop, kept.state.trans state, kept.closing.trans empty, longer root⟩
      | _ => trivial

/-! The books. -/

theorem Books.same (books : Books events w) (lists : next.connections.Perm w.connections)
    (counter : next.nextConnection = w.nextConnection)
    (quiet : ∀ connection, event ≠ .makes connection) : Books (events ++ [event]) next where
  once := lists.nodup_iff.mpr books.once
  old := by
    intro connection member
    rw [counter]
    exact books.old connection (lists.subset member)
  made := by
    intro connection made
    rw [counter]
    exact books.made connection (by simpa [(quiet connection).symm] using made)
  whole := by
    intro connection made
    have before := books.whole connection (by simpa [(quiet connection).symm] using made)
    exact before.imp (lists.symm.subset ·) (List.mem_append_left _)

/-- A connection is made. -/
theorem Books.makes (books : Books events w)
    (lists : next.connections.Perm (w.nextConnection :: w.connections))
    (counter : next.nextConnection = w.nextConnection + 1) :
    Books (events ++ [Event.makes w.nextConnection]) next where
  once := by
    rw [lists.nodup_iff, List.nodup_cons]
    exact ⟨fun member => Nat.lt_irrefl _ (books.old _ member), books.once⟩
  old := by
    intro connection member
    rw [counter]
    rcases List.mem_cons.mp (lists.subset member) with rfl | before
    · exact Nat.lt_succ_self _
    · exact Nat.lt_succ_of_lt (books.old connection before)
  made := by
    intro connection made
    rw [counter]
    rcases List.mem_append.mp made with before | now
    · exact Nat.lt_succ_of_lt (books.made connection before)
    · cases List.mem_singleton.mp now
      exact Nat.lt_succ_self _
  whole := by
    intro connection made
    rcases List.mem_append.mp made with before | now
    · rcases books.whole connection before with member | closed
      · exact .inl (lists.symm.subset (List.mem_cons_of_mem _ member))
      · exact .inr (List.mem_append_left _ closed)
    · cases List.mem_singleton.mp now
      exact .inl (lists.symm.subset List.mem_cons_self)

/-- All that was on the closing list has been closed. -/
theorem Books.clears (books : Books events w)
    (closed : ∀ connection ∈ w.closing, Event.closes connection .ok ∈ events) :
    Books (events ++ [Event.silent]) { w with closing := [] } where
  once := by
    have once := books.once
    unfold World.connections at *
    simpa using once.of_append_left
  old := by
    intro connection member
    refine books.old connection ?_
    unfold World.connections at *
    simpa using List.mem_append_left w.closing member
  made := by
    intro connection made
    exact books.made connection (by simpa using made)
  whole := by
    intro connection made
    rcases books.whole connection (by simpa using made) with member | before
    · unfold World.connections at *
      rcases List.mem_append.mp member with early | closing
      · exact .inl (by simpa using early)
      · exact .inr (List.mem_append_left _ (closed connection closing))
    · exact .inr (List.mem_append_left _ before)

theorem Acts.books (step : Acts w event next) (books : Books events w) :
    Books (events ++ [event]) next := by
  cases step with
  | addsOutgoing =>
      refine books.makes ?_ rfl
      unfold World.connections
      simp only [List.append_assoc, List.singleton_append]
      exact (List.perm_middle.append_left _).trans List.perm_middle
  | _ => exact books.same (.refl _) rfl (by simp)

theorem Runs.books (step : Runs thread w event next) (books : Books events w) :
    Books (events ++ [event]) next := by
  cases step with
  | assigns =>
      refine books.makes ?_ rfl
      unfold World.connections World.goes
      simp only [List.append_assoc, List.singleton_append]
      exact List.perm_middle
  | @removes connection failure here member thrown =>
      refine books.same ?_ rfl (by simp)
      unfold World.connections World.goes
      -- the connection moves from the incoming list to the retired one
      have moved := List.perm_cons_erase member
      rw [List.perm_iff_count]
      intro one
      have counts := moved.count_eq one
      simp only [List.count_append, List.count_cons, List.count_nil] at counts ⊢
      omega
  | _ => exact books.same (.refl _) rfl (by simp)

theorem World.collect_connections (w : World) : w.collect.connections.Perm w.connections := by
  rw [List.perm_iff_count]
  intro one
  simp only [World.connections, World.collect, List.count_append, List.count_nil]
  omega

theorem Calls.books (step : Calls call w event next) (books : Books events w)
    (phase : Phase events w (w.call call)) : Books (events ++ [event]) next := by
  cases step with
  | collects => exact books.same w.collect_connections rfl (by simp)
  | collectFails => exact books.same w.collect_connections rfl (by simp)
  | clears here =>
      unfold Phase at phase
      rw [here] at phase
      obtain ⟨_, _, done, all, closed⟩ := phase
      have cleared := books.clears (by simpa [all] using closed)
      exact ⟨cleared.once, cleared.old, cleared.made, cleared.whole⟩
  | _ => exact books.same (.refl _) rfl (by simp)

/-! The threads. -/

theorem Joined.mono (joined : Joined thread events) (longer : events ⊆ more) :
    Joined thread more := by
  obtain ⟨call, member⟩ := joined
  exact ⟨call, longer member⟩

def Event.Plain (event : Event) : Prop :=
  (∀ thread, event ≠ .registers thread) ∧ ∀ call thread, event ≠ .joins call thread true

theorem Event.Plain.joined (plain : event.Plain) (joined : Joined thread (events ++ [event])) :
    Joined thread events := by
  obtain ⟨call, member⟩ := joined
  exact ⟨call, by simpa [(plain.2 call thread).symm] using member⟩

namespace Threads

/-- Neither the map nor a registered thread changes its mind. -/
theorem plain (threads : Threads events w) (plain : event.Plain)
    (map : next.threads = w.threads) (joinable : next.joinable = w.joinable)
    (ended : ∀ thread, w.place thread = .done → next.place thread = .done)
    (placed : ∀ thread, next.place thread ≠ .absent → w.place thread ≠ .absent) :
    Threads (events ++ [event]) next where
  known := by
    intro thread registered
    rw [map]
    have before := threads.known thread (by simpa [(plain.1 thread).symm] using registered)
    exact before.imp_right (·.mono (List.subset_append_left ..))
  joined := by
    rw [map, joinable]
    exact fun thread member left =>
      (threads.joined thread member left).mono (List.subset_append_left ..)
  ended := fun thread joined => ended thread (threads.ended thread (plain.joined joined))
  placed := fun thread here =>
    List.mem_append_left _ (threads.placed thread (placed thread here))

theorem acts (threads : Threads events w) (step : Acts w event next) :
    Threads (events ++ [event]) next := by
  cases step with
  | @registers thread going new unused =>
      have plain : ∀ {other}, Joined other (events ++ [.registers thread]) → Joined other events :=
        fun {other} ⟨call, member⟩ => ⟨call, by simpa using member⟩
      constructor
      case known =>
          intro other registered
          rcases List.mem_append.mp registered with before | now
          · exact (threads.known other before).imp (List.mem_append_left _)
              (·.mono (List.subset_append_left ..))
          · cases List.mem_singleton.mp now
            exact .inl (by simp [World.goes])
      case joined =>
          intro other member left
          have away : other ≠ thread := by
            rintro rfl
            simp [World.goes] at left
          have before : other ∈ w.threads := by simpa [World.goes, away] using member
          have free : w.joinable other = false := by simpa [World.goes, away] using left
          exact (threads.joined other before free).mono (List.subset_append_left ..)
      case ended =>
          intro other joined
          have done := threads.ended other (plain joined)
          have away : other ≠ thread := by
            rintro rfl
            simp [new] at done
          simpa [away] using done
      case placed =>
          intro other present
          by_cases same : other = thread
          · simp [same]
          · have before : w.place other ≠ .absent := by simpa [same] using present
            exact List.mem_append_left _ (threads.placed other before)
  | _ => exact threads.plain (by simp [Event.Plain]) rfl rfl (fun _ => id) (fun _ => id)

/-- A thread that has not ended takes its steps. -/
theorem goes (threads : Threads events w) {changed : World} {before after : Place}
    (plain : event.Plain) (map : changed.threads = w.threads)
    (joinable : changed.joinable = w.joinable) (places : changed.place = w.place)
    (here : w.place thread = before) (live : before ≠ .done ∧ before ≠ .absent) :
    Threads (events ++ [event]) (changed.goes thread after) := by
  refine threads.plain plain map joinable ?_ ?_
  · intro other ended
    have away : other ≠ thread := by
      rintro rfl
      exact live.1 (here.symm.trans ended)
    simpa [away, places] using ended
  · intro other present
    by_cases same : other = thread
    · subst same
      rw [here]
      exact live.2
    · simpa [same, places] using present

theorem runs (threads : Threads events w) (step : Runs thread w event next) :
    Threads (events ++ [event]) next := by
  cases step with
  | assigns here | assignRefused here | assignThrows here | initialises here | starts here
  | startFails here | observes here | observesFailure here | commandFails here | stops here
  | removesNothing here | removes here | removeFails here | records here | finishes here =>
      exact threads.goes (by simp [Event.Plain]) rfl rfl rfl here (by simp)

theorem joins (threads : Threads events w) {place : CallPlace} (ended : w.place thread = .done) :
    Threads (events ++ [Event.joins call thread true])
      ({ w with joinable := Function.update w.joinable thread false }.turns call place) := by
  have now : Joined thread (events ++ [.joins call thread true]) := ⟨call, by simp⟩
  constructor
  case known =>
      intro other registered
      have before := threads.known other (by simpa using registered)
      exact before.imp_right (·.mono (List.subset_append_left ..))
  case joined =>
      intro other member left
      by_cases same : other = thread
      · exact same ▸ now
      · have free : w.joinable other = false := by simpa [World.turns, same] using left
        exact (threads.joined other member free).mono (List.subset_append_left ..)
  case ended =>
      intro other joined
      by_cases same : other = thread
      · exact same ▸ ended
      · obtain ⟨who, member⟩ := joined
        exact threads.ended other ⟨who, by simpa [same] using member⟩
  case placed => exact fun other present => List.mem_append_left _ (threads.placed other present)

/-- Every thread of the map is joined. -/
theorem collects (threads : Threads events w) (joined : ∀ thread ∈ w.threads,
      w.joinable thread = false) :
    ∀ thread, .registers thread ∈ events → Joined thread events := by
  intro thread registered
  rcases threads.known thread registered with member | before
  · exact threads.joined thread member (joined thread member)
  · exact before

theorem collected (threads : Threads events w) (joined : ∀ thread ∈ w.threads,
      w.joinable thread = false) (map : next.threads = [])
    (places : next.place = w.place) : Threads (events ++ [Event.silent]) next where
  known := by
    intro thread registered
    have before := threads.collects joined thread (by simpa using registered)
    exact .inr (before.mono (List.subset_append_left ..))
  joined := by simp [map]
  ended := by
    rintro thread ⟨call, member⟩
    rw [places]
    exact threads.ended thread ⟨call, by simpa using member⟩
  placed := by
    intro thread present
    rw [places] at present
    exact List.mem_append_left _ (threads.placed thread present)

theorem calls (threads : Threads events w) (step : Calls call w event next)
    (phase : Phase events w (w.call call)) : Threads (events ++ [event]) next := by
  cases step with
  | joins here joinable ended => exact threads.joins ended
  | collects here | collectFails here =>
      unfold Phase at phase
      rw [here] at phase
      obtain ⟨_, _, _, _, _, joined⟩ := phase
      exact threads.collected (fun thread member => (joined thread member).resolve_left
        List.not_mem_nil) rfl rfl
  | _ => exact threads.plain (by simp [Event.Plain]) rfl rfl (fun _ => id) (fun _ => id)

end Threads

/-! The steps outside the calls. -/

structure Mild (w : World) (event : Event) (next : World) : Prop where
  call : next.call = w.call
  gate : next.gate = w.gate
  finalize : next.finalizeAttempted = w.finalizeAttempted
  quiet : event ≠ .obituaries
  stop : event = .stops → next.stop = true
  going : next.stop = false → w.stop = false ∧ (w.state ≤ 2 → next.state ≤ 2)
  stopping : next.stop = true → w.stop = false → w.state ≤ 2 → next.state = 3

theorem requestStop_mild (broken : Bool) : Mild w .stops (w.requestStop broken) where
  call := rfl
  gate := rfl
  finalize := rfl
  quiet := by simp
  stop := fun _ => rfl
  going := by simp [World.requestStop]
  stopping := by
    intro _ _ early
    simp [World.requestStop, Nat.lt_succ_of_le early]

/-- A step that does not touch the stop. -/
theorem mild_of_same (call : next.call = w.call) (gate : next.gate = w.gate)
    (finalize : next.finalizeAttempted = w.finalizeAttempted)
    (quiet : event ≠ .obituaries ∧ event ≠ .stops) (stop : next.stop = w.stop)
    (state : w.state ≤ 2 → next.state ≤ 2) : Mild w event next where
  call := call
  gate := gate
  finalize := finalize
  quiet := quiet.1
  stop := fun stops => absurd stops quiet.2
  going := fun going => ⟨stop ▸ going, state⟩
  stopping := by
    intro now before
    simp [stop, before] at now

theorem Acts.mild (step : Acts w event next) : Mild w event next := by
  cases step with
  | requests broken => exact requestStop_mild broken
  | @setupFails status active failed broken =>
      have asked := @requestStop_mild { w.fails status with setupActive := false } broken
      exact ⟨asked.call, asked.gate, asked.finalize, by simp, by simp, asked.going,
        asked.stopping⟩
  | setupBegins => exact mild_of_same rfl rfl rfl (by simp) rfl (by simp)
  | setupEnds => exact mild_of_same rfl rfl rfl (by simp) rfl (by simp)
  | _ => exact mild_of_same rfl rfl rfl (by simp) rfl id

theorem Runs.mild (step : Runs thread w event next) : Mild w event next := by
  cases step with
  | startFails _ _ broken | stops _ broken =>
      have asked := @requestStop_mild w broken
      exact ⟨asked.call, asked.gate, asked.finalize, by simp, asked.stop, asked.going,
        asked.stopping⟩
  | _ => exact mild_of_same rfl rfl rfl (by simp) rfl id

/-- A thread that takes a step has not ended. -/
theorem Runs.live (step : Runs thread w event next) :
    w.place thread ≠ .done ∧ w.place thread ≠ .absent := by
  cases step <;> simp_all

/-- Late, the setup is over and nothing is made any more. -/
theorem Acts.late (step : Acts w event next) (stopped : w.stop = true) (late : Late events w) :
    Late (events ++ [event]) next := by
  have longer : events ⊆ events ++ [event] := List.subset_append_left ..
  have setup := late.setup
  cases step with
  | registers going => simp [stopped] at going
  | setupBegins _ going => simp [stopped] at going
  | setupEnds active => simp [setup] at active
  | setupFails active => simp [setup] at active
  | setupStopped active => simp [setup] at active
  | addsOutgoing active => simp [setup] at active
  | requests | uses | unuses | waits =>
      exact ⟨setup, late.incoming, late.outgoing, late.retired, fun thread registered =>
        (late.joined thread (by simpa using registered)).mono longer⟩

namespace Sound

theorem mild (sound : Sound events w) (mild : Mild w event next)
    (frame : w.stop = true → 3 ≤ w.state → Frame w next)
    (threads : Threads (events ++ [event]) next) (books : Books (events ++ [event]) next)
    (late : w.stop = true → Late events w → Late (events ++ [event]) next) :
    Sound (events ++ [event]) next := by
  have kept : w.stop = true → Frame w next :=
    fun stopped => frame stopped (sound.stopping stopped).1
  constructor
  case threads => exact threads
  case books => exact books
  case going =>
      intro going
      obtain ⟨before, early⟩ := mild.going going
      exact early (sound.going before)
  case stopping =>
      intro now
      cases before : w.stop with
      | true =>
          rw [(kept before).state]
          exact sound.stopping before
      | false =>
          rw [mild.stopping now before (sound.going before)]
          decide
  case stopped =>
      intro asked
      rcases List.mem_append.mp asked with before | now
      · exact (kept (sound.stopped before)).stop
      · exact mild.stop (List.mem_singleton.mp now).symm
  case late =>
      intro reached
      cases before : w.stop with
      | true =>
          rw [(kept before).state] at reached
          exact late before (sound.late reached)
      | false =>
          -- a first request leads to state 3 only
          cases now : next.stop with
          | true =>
              have state := mild.stopping now before (sound.going before)
              omega
          | false =>
              have early := (mild.going now).2 (sound.going before)
              omega
  case gate =>
      rw [mild.gate, mild.call]
      exact sound.gate
  case phase =>
      intro call
      rw [mild.call]
      exact (sound.phase call).framed kept (List.subset_append_left ..)
  case obituaries =>
      rw [mild.finalize, List.count_append, sound.obituaries]
      simp [mild.quiet]

theorem acts (sound : Sound events w) (step : Acts w event next) :
    Sound (events ++ [event]) next :=
  sound.mild step.mild (fun stopped late => (step.frame stopped late).1)
    (sound.threads.acts step) (step.books sound.books) step.late

theorem runs (sound : Sound events w) (step : Runs thread w event next) :
    Sound (events ++ [event]) next := by
  have old : ∀ connection ∈ w.outgoing, connection < w.nextConnection :=
    fun connection member => sound.books.old connection (by simp [World.connections, member])
  refine sound.mild step.mild (fun stopped late => (step.frame stopped late old).1)
    (sound.threads.runs step) (step.books sound.books) ?_
  -- late, every thread has ended
  intro _ late
  have joined := late.joined thread (sound.threads.placed thread step.live.2)
  exact absurd (sound.threads.ended thread joined) step.live.1

end Sound

/-! The steps of the calls. -/

theorem Phase.of_ungated {one : Call} (outside : one.place.gated = false) : Phase events w one := by
  obtain ⟨thread, place⟩ := one
  cases place with
  | waiting | joining | closing | releasing | finalising | dying =>
      simp [CallPlace.gated] at outside
  | _ => trivial

theorem Calls.away (step : Calls call w event next) (other : Nat) (away : other ≠ call) :
    next.call other = w.call other := by
  cases step with
  | begins => exact Function.update_of_ne away ..
  | _ => simp [World.leaves, World.requestStop, World.collect, World.fails, away]

/-- A call takes the join gate when it is free and gives back its own. -/
theorem Calls.gate (step : Calls call w event next) :
    next.gate = w.gate ∧ (next.call call).place.gated = (w.call call).place.gated ∨
    next.gate = some call ∧ w.gate = none ∧ (next.call call).place.gated = true ∨
    next.gate = none ∧ (w.call call).place.gated = true ∧
      (next.call call).place.gated = false := by
  cases step with
  | refuses here => exact .inl ⟨rfl, by simp [here, CallPlace.gated]⟩
  | begins here => exact .inl ⟨rfl, by simp [here, CallPlace.gated]⟩
  | takesGate here open_ => exact .inr (.inl ⟨rfl, open_, by simp [CallPlace.gated]⟩)
  | @returns gated _ _ _ here =>
      cases gated with
      | false => exact .inl ⟨rfl, by simp [here, CallPlace.gated]⟩
      | true => exact .inr (.inr ⟨rfl, by simp [here, CallPlace.gated], by simp [CallPlace.gated]⟩)
  | missesGate here | ownerless here | blocked here | past here | enters here | timesOut here
  | reserveFails here | proceeds here | resumes here | joins here | joinFails here
  | joinSkips here | collects here | collectFails here | closes here | closeFails here
  | closeRefuses here | clears here | rootCloses here | rootFails here | attempted here
  | obituaries here | obituariesThrow here | completes here =>
      exact .inl ⟨rfl, by simp [World.leaves, here, CallPlace.gated]⟩

/-- What the call itself knows after its step. -/
theorem Calls.phase (step : Calls call w event next) (sound : Sound events w) :
    Phase (events ++ [event]) next (next.call call) := by
  have phase := sound.phase call
  unfold Phase at phase
  cases step with
  | enters here some broken external unused live =>
      simp only [World.turns_call, if_pos]
      refine ⟨rfl, ?_, external, unused⟩
      simp only [World.turns, World.requestStop]
      split <;> omega
  | proceeds here ready early =>
      rw [here] at phase
      obtain ⟨stopped, _, external, unused⟩ := phase
      have state := sound.stopping stopped
      simp only [World.turns_call, if_pos]
      refine ⟨stopped, by simp only [World.turns]; omega, external, unused, ?_, fun _ => .inl⟩
      by_contra active
      exact ready (.inl (by simpa [World.turns] using active))
  | resumes here ready late =>
      rw [here] at phase
      obtain ⟨stopped, live, _⟩ := phase
      have state := sound.stopping stopped
      simp only [World.turns_call, if_pos]
      exact ⟨stopped, by simp only [World.turns]; omega, [], rfl, by simp⟩
  | @joins thread rest here joinable ended =>
      rw [here] at phase
      obtain ⟨stopped, state, external, unused, setup, joined⟩ := phase
      simp only [World.turns_call, if_pos]
      refine ⟨stopped, state, external, unused, setup, fun other member => ?_⟩
      by_cases same : other = thread
      · exact .inr (by simp [World.turns, same])
      · rcases joined other member with left | free
        · exact .inl (by simpa [same] using left)
        · exact .inr (by simpa [World.turns, same] using free)
  | @joinSkips thread rest here skipped =>
      rw [here] at phase
      obtain ⟨stopped, state, external, unused, setup, joined⟩ := phase
      simp only [World.turns_call, if_pos]
      refine ⟨stopped, state, external, unused, setup, fun other member => ?_⟩
      by_cases same : other = thread
      · exact .inr (by simpa [World.turns, same] using skipped)
      · exact (joined other member).imp_left (by simp [same])
  | collects here empty =>
      rw [here] at phase
      simp only [World.turns_call, if_pos]
      exact ⟨phase.1, rfl, [], rfl, by simp⟩
  | @closes connection rest here =>
      rw [here] at phase
      obtain ⟨stopped, state, done, all, closed⟩ := phase
      simp only [World.turns_call, if_pos]
      refine ⟨stopped, state, done ++ [connection], by simp [World.turns, all], ?_⟩
      intro one member
      rcases List.mem_append.mp member with before | now
      · exact List.mem_append_left _ (closed one before)
      · cases List.mem_singleton.mp now
        simp
  | clears here =>
      rw [here] at phase
      simp only [World.turns_call, if_pos]
      exact ⟨phase.1, phase.2.1, rfl⟩
  | rootCloses here =>
      rw [here] at phase
      simp only [World.turns_call, if_pos]
      exact ⟨phase.1, phase.2.1, phase.2.2, by simp⟩
  | obituaries here =>
      rw [here] at phase
      simp only [World.turns_call, if_pos]
      exact ⟨phase.1, phase.2.1, phase.2.2.1, by simp [phase.2.2.2]⟩
  | begins => simp [Phase]
  | _ => simp [Phase, World.leaves]

/-- How a call changes the stop and the state. -/
theorem Calls.state (step : Calls call w event next) (phase : Phase events w (w.call call)) :
    event ≠ .stops ∧ next.stop = w.stop ∧ next.state = w.state ∨
    next.stop = true ∧ next.state = (if w.state < 3 then 3 else w.state) ∨
    event ≠ .stops ∧ next.stop = true ∧ w.stop = true ∧ w.state = 3 ∧ next.state = 4 ∨
    event ≠ .stops ∧ next.stop = true ∧ w.stop = true ∧ w.state = 4 ∧ next.state = 5 := by
  unfold Phase at phase
  cases step with
  | blocked | past | enters => exact .inr (.inl ⟨rfl, rfl⟩)
  | collects here =>
      rw [here] at phase
      exact .inr (.inr (.inl ⟨by simp, phase.1, phase.1, phase.2.1, rfl⟩))
  | completes here =>
      rw [here] at phase
      exact .inr (.inr (.inr ⟨by simp, phase.1, phase.1, phase.2.1, rfl⟩))
  | _ => exact .inl ⟨by simp, rfl, rfl⟩

theorem Late.same (late : Late events w) (plain : event.Plain)
    (setup : next.setupActive = w.setupActive) (incoming : next.incoming = w.incoming)
    (outgoing : next.outgoing = w.outgoing) (retired : next.retired = w.retired) :
    Late (events ++ [event]) next where
  setup := setup.trans late.setup
  incoming := incoming.trans late.incoming
  outgoing := outgoing.trans late.outgoing
  retired := retired.trans late.retired
  joined := fun thread registered =>
    (late.joined thread (by simpa [(plain.1 thread).symm] using registered)).mono
      (List.subset_append_left ..)

theorem Calls.late (step : Calls call w event next) (sound : Sound events w)
    (reached : 4 ≤ next.state) : Late (events ++ [event]) next := by
  have phase := sound.phase call
  unfold Phase at phase
  cases step with
  | collects here empty =>
      rw [here] at phase
      obtain ⟨_, _, _, _, setup, joined⟩ := phase
      refine ⟨setup, empty, rfl, rfl, fun thread registered => ?_⟩
      have all := sound.threads.collects fun thread member =>
        (joined thread member).resolve_left List.not_mem_nil
      exact (all thread (by simpa using registered)).mono (List.subset_append_left ..)
  | collectFails here left =>
      rw [here] at phase
      have state : w.state = 3 := phase.2.1
      simp [World.leaves, World.turns, World.collect, state] at reached
  | joins here =>
      rw [here] at phase
      have state : w.state = 3 := phase.2.1
      simp [World.turns, state] at reached
  | completes here =>
      rw [here] at phase
      have late := sound.late (Nat.le_of_eq phase.2.1.symm)
      exact late.same (by simp [Event.Plain]) rfl rfl rfl rfl
  | blocked _ _ broken | past _ _ broken | enters _ _ broken =>
      have before : 4 ≤ w.state := by
        simp only [World.leaves, World.turns, World.requestStop] at reached
        split at reached <;> omega
      exact (sound.late before).same (by simp [Event.Plain]) rfl rfl rfl rfl
  | _ => exact (sound.late reached).same (by simp [Event.Plain]) rfl rfl rfl rfl

theorem Calls.obituaries_count (step : Calls call w event next)
    (count : events.count .obituaries = if w.finalizeAttempted then 1 else 0) :
    (events ++ [event]).count .obituaries = if next.finalizeAttempted then 1 else 0 := by
  rw [List.count_append, count]
  cases step with
  | obituaries here first => simp [World.turns, first]
  | _ => exact Nat.add_zero _

namespace Sound

theorem calls (sound : Sound events w) (step : Calls call w event next) :
    Sound (events ++ [event]) next := by
  have phase := sound.phase call
  have state := step.state phase
  constructor
  case threads => exact sound.threads.calls step phase
  case books => exact step.books sound.books phase
  case going =>
      intro going
      rcases state with ⟨_, stop, state⟩ | ⟨stop, _⟩ | ⟨_, stop, _⟩ | ⟨_, stop, _⟩
      · rw [state]
        exact sound.going (stop ▸ going)
      all_goals simp [stop] at going
  case stopping =>
      intro now
      rcases state with ⟨_, stop, state⟩ | ⟨_, state⟩ | ⟨_, _, _, _, state⟩ | ⟨_, _, _, _, state⟩
      · rw [state]
        exact sound.stopping (stop ▸ now)
      · have upper : w.state ≤ 5 := by
          cases before : w.stop with
          | true => exact (sound.stopping before).2
          | false => exact Nat.le_trans (sound.going before) (by decide)
        rw [state]
        split <;> omega
      all_goals simp [state]
  case stopped =>
      intro asked
      rcases state with ⟨quiet, stop, _⟩ | ⟨stop, _⟩ | ⟨_, stop, _⟩ | ⟨_, stop, _⟩
      · rw [stop]
        exact sound.stopped (by simpa [quiet.symm] using asked)
      all_goals exact stop
  case late => exact step.late sound
  case gate =>
      intro other
      have before := sound.gate other
      have actor := sound.gate call
      by_cases same : other = call
      · subst same
        rcases step.gate with ⟨gate, gated⟩ | ⟨gate, _, gated⟩ | ⟨gate, _, gated⟩
        · rw [gate, gated]
          exact before
        all_goals simp [gate, gated]
      · rw [step.away other same]
        rcases step.gate with ⟨gate, _⟩ | ⟨gate, free, _⟩ | ⟨gate, held, _⟩
        · rw [gate]
          exact before
        · simpa [gate, free, Ne.symm same] using before
        · simpa [gate, actor.mpr held, Ne.symm same] using before
  case phase =>
      intro other
      by_cases same : other = call
      · exact same ▸ step.phase sound
      · rw [step.away other same]
        cases gated : (w.call other).place.gated with
        | false => exact .of_ungated gated
        | true =>
            -- then this call does not have the gate
            have held := (sound.gate other).mpr gated
            have outside : (w.call call).place.gated = false := by
              by_contra inside
              have mine := (sound.gate call).mpr (by simpa using inside)
              rw [held, Option.some.injEq] at mine
              exact same mine
            refine (sound.phase other).framed (fun stopped => ?_) (List.subset_append_left ..)
            exact (step.frame stopped (sound.stopping stopped).1 ⟨other, held⟩ outside).1
  case obituaries => exact step.obituaries_count sound.obituaries

theorem step (sound : Sound events w) (step : Step w event next) :
    Sound (events ++ [event]) next := by
  cases step with
  | acts step => exact sound.acts step
  | runs thread step => exact sound.runs step
  | calls call step => exact sound.calls step

end Sound

theorem sound_initial (owner : Bool) (maxIncomingThreads : Nat) :
    Sound [] (initial owner maxIncomingThreads) where
  threads := ⟨by simp, by simp [initial], by simp [Joined], by simp [initial]⟩
  books := ⟨by simp [initial, World.connections], by simp [initial, World.connections], by simp,
    by simp⟩
  going := by simp [initial]
  stopping := by simp [initial]
  stopped := by simp
  late := by simp [initial]
  gate := by simp [initial, CallPlace.gated]
  phase := by simp [initial, Phase]
  obituaries := by simp [initial]

theorem run_sound {owner : Bool} {maxIncomingThreads : Nat}
    (run : Trace Step (initial owner maxIncomingThreads) events w) : Sound events w :=
  run.keeps (sound_initial owner maxIncomingThreads) fun _ _ _ _ sound step => sound.step step

/-! Whole runs. -/

structure Orderly (events : List Event) (w : World) : Prop where
  /-- Nobody registers a thread after a stop was requested. -/
  registers : ∀ thread next, Step w (.registers thread) next → w.stop = false ∧ .stops ∉ events
  /-- Once a stop was requested the state does not decrease. -/
  state : w.stop = true → ∀ event next, Step w event next → next.stop = true ∧ w.state ≤ next.state
  /-- State 4 is entered when every registered thread is joined. -/
  joined : ∀ event next, Step w event next → w.state ≠ 4 → next.state = 4 →
    next.incoming = [] ∧ ∀ thread, .registers thread ∈ events → Joined thread events
  /-- State 5 is entered when every channel and the root are closed. -/
  closed : ∀ event next, Step w event next → w.state ≠ 5 → next.state = 5 →
    (∀ connection, .makes connection ∈ events → .closes connection .ok ∈ events) ∧
      .rootCloses 0 ∈ events
  /-- Until it is closed a connection is in one list. -/
  place : ∀ connection, .makes connection ∈ events →
    (w.incoming ++ w.outgoing ++ w.retired ++ w.closing).count connection = 1 ∨
      .closes connection .ok ∈ events
  obituaries : events.count .obituaries ≤ 1
  /-- A thread of the session, or one that uses it, joins nobody. -/
  external : ∀ call thread ok next, Step w (.joins call thread ok) next →
    (w.call call).thread ∉ w.threads ∧ ¬w.ownsOutgoing (w.call call).thread

namespace Sound

/-- A step that changes the state of a session that is being stopped is one of the call's. -/
theorem state_step (sound : Sound events w) (stopped : w.stop = true) (step : Step w event next) :
    next.stop = true ∧ (next.state = w.state ∨ ∃ call, Calls call w event next) := by
  have late := (sound.stopping stopped).1
  cases step with
  | acts step =>
      have frame := (step.frame stopped late).1
      exact ⟨frame.stop, .inl frame.state⟩
  | runs thread step =>
      have old : ∀ connection ∈ w.outgoing, connection < w.nextConnection :=
        fun connection member => sound.books.old connection (by simp [World.connections, member])
      have frame := (step.frame stopped late old).1
      exact ⟨frame.stop, .inl frame.state⟩
  | calls call step =>
      refine ⟨?_, .inr ⟨call, step⟩⟩
      rcases step.state (sound.phase call) with ⟨_, stop, _⟩ | ⟨stop, _⟩ | ⟨_, stop, _⟩ | ⟨_, stop, _⟩
      · exact stop.trans stopped
      all_goals exact stop

theorem monotone (sound : Sound events w) (stopped : w.stop = true) (step : Step w event next) :
    next.stop = true ∧ w.state ≤ next.state := by
  obtain ⟨stop, same | ⟨call, step⟩⟩ := sound.state_step stopped step
  · exact ⟨stop, Nat.le_of_eq same.symm⟩
  · refine ⟨stop, ?_⟩
    have state := step.state (sound.phase call)
    have late := (sound.stopping stopped).1
    grind -ring -linarith

/-- Before a stop the state stays below 4. -/
theorem early (sound : Sound events w) (going : w.stop = false) (step : Step w event next) :
    next.state ≤ 3 := by
  have after := sound.step step
  have state := sound.going going
  cases step with
  | acts step =>
      cases now : next.stop with
      | true => exact Nat.le_of_eq (step.mild.stopping now going state)
      | false => exact Nat.le_succ_of_le (after.going now)
  | runs thread step =>
      cases now : next.stop with
      | true => exact Nat.le_of_eq (step.mild.stopping now going state)
      | false => exact Nat.le_succ_of_le (after.going now)
  | calls call step =>
      have change := step.state (sound.phase call)
      grind -ring -linarith

end Sound

theorem requestStop_state {broken : Bool} {state : Nat}
    (reached : (w.requestStop broken).state = state) (late : 4 ≤ state) : w.state = state := by
  simp only [World.requestStop] at reached
  split at reached <;> omega

/-- The one way into state 4. -/
theorem Calls.enters_four (step : Calls call w event next) (before : w.state ≠ 4)
    (reached : next.state = 4) : event = .silent := by
  cases step with
  | collects => rfl
  | completes => cases reached
  | blocked _ _ broken | past _ _ broken | enters _ _ broken =>
      exact absurd (@requestStop_state w broken _ reached (by decide)) before
  | _ => exact absurd reached before

/-- The one way into state 5. -/
theorem Calls.enters_five (step : Calls call w event next) (before : w.state ≠ 5)
    (reached : next.state = 5) : (w.call call).place = .dying := by
  cases step with
  | completes here => exact here
  | collects => cases reached
  | blocked _ _ broken | past _ _ broken | enters _ _ broken =>
      exact absurd (@requestStop_state w broken _ reached (by decide)) before
  | _ => exact absurd reached before

namespace Sound

theorem joined (sound : Sound events w) (step : Step w event next) (before : w.state ≠ 4)
    (reached : next.state = 4) :
    next.incoming = [] ∧ ∀ thread, .registers thread ∈ events → Joined thread events := by
  have late := (sound.step step).late (Nat.le_of_eq reached.symm)
  refine ⟨late.incoming, fun thread registered => ?_⟩
  cases stopped : w.stop with
  | false =>
      have early := sound.early stopped step
      omega
  | true =>
      obtain ⟨_, same | ⟨call, own⟩⟩ := sound.state_step stopped step
      · exact absurd (same.symm.trans reached) before
      · obtain rfl := own.enters_four before reached
        obtain ⟨who, member⟩ := late.joined thread (List.mem_append_left _ registered)
        exact ⟨who, by simpa using member⟩

theorem closed (sound : Sound events w) (step : Step w event next) (before : w.state ≠ 5)
    (reached : next.state = 5) :
    (∀ connection, .makes connection ∈ events → .closes connection .ok ∈ events) ∧
      .rootCloses 0 ∈ events := by
  cases stopped : w.stop with
  | false =>
      have early := sound.early stopped step
      omega
  | true =>
      obtain ⟨_, same | ⟨call, own⟩⟩ := sound.state_step stopped step
      · exact absurd (same.symm.trans reached) before
      · have phase := sound.phase call
        rw [Phase, own.enters_five before reached] at phase
        obtain ⟨_, state, empty, root⟩ := phase
        have late := sound.late (Nat.le_of_eq state.symm)
        refine ⟨fun connection made => ?_, root⟩
        refine (sound.books.whole connection made).resolve_left ?_
        simp [World.connections, late.incoming, late.outgoing, late.retired, empty]

end Sound

theorem shutdown_orderly {owner : Bool} {maxIncomingThreads : Nat}
    (run : Trace Step (initial owner maxIncomingThreads) events w) : Orderly events w := by
  have sound := run_sound run
  constructor
  case registers =>
      intro thread next step
      have going : w.stop = false := by
        cases step with
        | acts step => cases step with
          | registers going => exact going
        | runs _ step => cases step
        | calls _ step => cases step
      refine ⟨going, fun asked => ?_⟩
      simp [sound.stopped asked] at going
  case state => exact fun stopped event next step => sound.monotone stopped step
  case joined => exact fun event next step => sound.joined step
  case closed => exact fun event next step => sound.closed step
  case place =>
      intro connection made
      refine (sound.books.whole connection made).imp_left fun member => ?_
      exact List.count_eq_one_of_mem sound.books.once member
  case obituaries =>
      rw [sound.obituaries]
      split <;> decide
  case external =>
      intro call thread ok next step
      have joining : ∃ rest, (w.call call).place = .joining rest := by
        cases step with
        | acts step => cases step
        | runs _ step => cases step
        | calls _ step => cases step with
          | joins here => exact ⟨_, here⟩
          | joinFails here => exact ⟨_, here⟩
      obtain ⟨rest, here⟩ := joining
      have phase := sound.phase call
      rw [Phase, here] at phase
      exact ⟨phase.2.2.1, phase.2.2.2.1⟩

/-- An outgoing connection and an incoming thread, and the call that shuts the session down. -/
theorem shutdown_orderly_one : ∃ events w, w.state = 5 ∧ .registers 1 ∈ events ∧
    .makes 1 ∈ events ∧ Orderly events w := by
  have begun : Trace Step (initial true 1) _ _ :=
    Trace.nil.snoc (.acts (.setupBegins rfl rfl))
  have added := begun.snoc (.acts (@Acts.addsOutgoing _ 8 rfl (by simp [World.free, initial])))
  have known := added.snoc (.acts (.unuses _ 0))
  have registered := known.snoc (.acts (@Acts.registers _ 1 rfl rfl (by simp [initial])))
  have assigned := registered.snoc (.runs 1 (.assigns rfl (by decide) (by decide)))
  have read := assigned.snoc (.runs 1 (.initialises rfl .ok))
  have started := read.snoc (.runs 1 (.starts rfl))
  have observed := started.snoc (.runs 1 (.observes rfl))
  have ended := observed.snoc (.acts (.setupEnds rfl rfl))
  have called := ended.snoc (.calls 0 (@Calls.begins _ _ 9 rfl (by
    simp [World.free, World.goes, initial])))
  have gated := called.snoc (.calls 0 (.takesGate rfl rfl))
  have asked := gated.snoc (.calls 0 (.enters rfl rfl false (by decide) (by
    simp [World.ownsOutgoing, World.goes, World.turns, initial]) (by decide)))
  have failed := asked.snoc (.runs 1 (@Runs.commandFails _ _ _ .deadObject rfl (by decide)))
  have stopped := failed.snoc (.runs 1 (.stops rfl false))
  have removed := stopped.snoc (.runs 1 (.removes rfl (by decide) none))
  have recorded := removed.snoc (.runs 1 (.records rfl))
  have finished := recorded.snoc (.runs 1 (.finishes rfl))
  have proceeds := finished.snoc (.calls 0 (.proceeds rfl (by
    rintro (active | few | waiting | ⟨connection, member, owner⟩)
    · cases active
    · exact absurd few (by decide)
    · exact absurd waiting (by decide)
    · obtain rfl := List.mem_singleton.mp member
      cases owner) (by decide)))
  have joined := proceeds.snoc (.calls 0 (@Calls.joins _ _ 1 [] rfl rfl rfl))
  have collected := joined.snoc (.calls 0 (.collects rfl rfl))
  have closed := collected.snoc (.calls 0 (@Calls.closes _ _ 1 [0] rfl))
  have both := closed.snoc (.calls 0 (@Calls.closes _ _ 0 [] rfl))
  have cleared := both.snoc (.calls 0 (.clears rfl))
  have root := cleared.snoc (.calls 0 (.rootCloses rfl))
  have dying := root.snoc (.calls 0 (.obituaries rfl rfl))
  have completed := dying.snoc (.calls 0 (.completes rfl))
  exact ⟨_, _, rfl, by simp, by decide, shutdown_orderly completed⟩

end Bscp.LocalRpc.InitialSession
