import Bscp.Virtmgr.NdrServer

/-!
What every run of the managed server keeps, and what the driver may conclude from it. The
invariant is read off the position of the loop thread: each position fixes the thread object,
the trigger and the states that the server may be in.
-/

namespace Bscp.Virtmgr.NdrServer

open Machine

/-! ### The stop request -/

/-- What a stop request does; only the loop status depends on the events. -/
theorem requestStop_eq (s : Native) (events : Native.Events) :
    ∃ status, s.requestStop events =
        { s with
          stopRequested := true
          state := if s.state.number < 4 then .stopping else s.state
          trigger := s.trigger.map (· || events.server)
          loopStatus := status } ∧
      (s.loopStatus ≠ 0 → status = s.loopStatus) := by
  unfold Native.requestStop Native.latch
  dsimp only
  split
  · exact ⟨_, rfl, fun found => by simp [found]⟩
  · exact ⟨_, rfl, fun _ => rfl⟩

/-! ### The invariant -/

/-- What the position of the loop thread decides: its object, its running flag, whether there may
be a trigger, the threads started, and the states of the server. -/
structure Thread where
  joinThread : Bool
  running : Bool
  triggered : Bool
  started : Nat
  states : List Phase

def thread : Loop → Thread
  | .unborn => ⟨false, false, false, 0, [.new, .loopExited, .joined]⟩
  | .begun => ⟨true, false, false, 1, [.starting, .stopping]⟩
  | .running => ⟨true, true, true, 1, [.ready, .stopping]⟩
  | .accepting => ⟨true, true, true, 1, [.ready, .stopping]⟩
  | .ended _ => ⟨true, true, true, 1, [.starting, .ready, .stopping]⟩
  | .exited => ⟨true, false, true, 1, [.loopExited, .joined]⟩

structure Standing (s : Native) : Prop where
  state : s.state ∈ (thread s.loop).states
  started : s.started = (thread s.loop).started
  running : s.joinThreadRunning = (thread s.loop).running
  unjoined : s.state ≠ .joined → s.joinThread = (thread s.loop).joinThread
  untriggered : (thread s.loop).triggered = false → s.trigger = none
  quietBefore : (thread s.loop).triggered = false → s.connecting = 0 ∧ s.sessions = 0
  joined : s.state = .joined →
    s.joinThread = false ∧ s.trigger = none ∧ s.connecting = 0 ∧ s.sessions = 0
  unmanaged : s.managed = false → s.state = .new
  asked : s.state = .stopping → s.stopRequested = true
  stopped : s.stopRequested = true → 3 ≤ s.state.number
  clean : s.state.number < 3 → s.loopStatus = 0

/-- The gate is held by whoever is inside a call, and the state waits for that caller. -/
structure Sound (s : Native) : Prop extends Standing s where
  held : ∀ thread, s.pc thread ≠ .idle → s.gate = some thread
  waiting : ∀ thread, s.pc thread = .waiting → s.state = .stopping ∨ s.state = .loopExited
  joining : ∀ thread, s.pc thread = .joining → s.quiet = true

theorem Sound.new : Sound {} where
  state := by decide
  started := rfl
  running := rfl
  unjoined := fun _ => rfl
  untriggered := fun _ => rfl
  quietBefore := fun _ => ⟨rfl, rfl⟩
  joined := nofun
  unmanaged := fun _ => rfl
  asked := nofun
  stopped := nofun
  clean := fun _ => rfl
  held := fun _ busy => absurd rfl busy
  waiting := fun _ => nofun
  joining := fun _ => nofun

structure Onward (s next : Native) : Prop where
  later : s.state.number ≤ next.state.number
  enters_ready : next.state = .ready → s.state = .ready ∨ s.stopRequested = false
  enters_joined : next.state = .joined → s.state = .joined ∨
    (next.joinThread = false ∧ next.joinThreadRunning = false ∧
      (next.loop = .unborn ∨ next.loop = .exited) ∧ next.connecting = 0 ∧ next.sessions = 0)
  first_status : s.loopStatus ≠ 0 → next.loopStatus = s.loopStatus
  failed_join : s.joinFailed = true → next.joinFailed = true

theorem Onward.same {s next : Native} (state : next.state = s.state)
    (status : next.loopStatus = s.loopStatus) (failed : next.joinFailed = s.joinFailed) :
    Onward s next where
  later := Nat.le_of_eq (congrArg Phase.number state.symm)
  enters_ready := fun ready => .inl (state.symm.trans ready)
  enters_joined := fun joined => .inl (state.symm.trans joined)
  first_status := fun _ => status
  failed_join := failed.trans

section Standing

variable {s : Native}

theorem Standing.leave (standing : Standing s) (caller : Nat) : Standing (s.leave caller) :=
  ⟨standing.state, standing.started, standing.running, standing.unjoined, standing.untriggered,
    standing.quietBefore, standing.joined, standing.unmanaged, standing.asked, standing.stopped,
    standing.clean⟩

theorem Standing.enter (standing : Standing s) (caller : Nat) (pc : Pc) :
    Standing (s.enter caller pc) :=
  ⟨standing.state, standing.started, standing.running, standing.unjoined, standing.untriggered,
    standing.quietBefore, standing.joined, standing.unmanaged, standing.asked, standing.stopped,
    standing.clean⟩

/-- What the position of the loop allows when the server has been started and not joined. -/
theorem Standing.stopping_allowed (standing : Standing s) (started : s.state ≠ .new)
    (before : s.state.number < 4) : .stopping ∈ (thread s.loop).states := by
  have state := standing.state
  cases loop : s.loop <;> simp_all [thread, Phase.number]
  all_goals rcases state with new | new <;> simp_all

theorem Standing.requestStop (standing : Standing s) (started : s.state ≠ .new)
    (open_ : s.state ≠ .joined) (events : Native.Events) :
    Standing (Native.requestStop { s with managed := true } events) := by
  obtain ⟨status, eq, -⟩ := requestStop_eq { s with managed := true } events
  rw [eq]
  -- either the stop is what brings the state forward, or the loop has already exited
  have later : let now := if s.state.number < 4 then .stopping else s.state
      now ≠ .joined ∧ 3 ≤ now.number ∧ now ∈ (thread s.loop).states := by
    dsimp only
    split
    · rename_i before
      exact ⟨nofun, by decide, standing.stopping_allowed started before⟩
    · rename_i after
      exact ⟨open_, by omega, standing.state⟩
  exact {
    state := later.2.2
    started := standing.started
    running := standing.running
    unjoined := fun _ => standing.unjoined open_
    untriggered := fun early => by rw [standing.untriggered early]; rfl
    quietBefore := standing.quietBefore
    joined := fun joined => absurd joined later.1
    unmanaged := nofun
    asked := fun _ => rfl
    stopped := fun _ => later.2.1
    clean := fun early => absurd later.2.1 (Nat.not_le.mpr early) }

structure Live (s : Native) : Prop where
  state : s.state = .starting ∨ s.state = .ready ∨ s.state = .stopping
  started : s.started = 1
  unjoined : s.joinThread = true
  managed : s.managed = true
  stopped : s.stopRequested = true ↔ s.state = .stopping
  clean : s.state ≠ .stopping → s.loopStatus = 0

theorem Standing.live (standing : Standing s) (born : s.loop ≠ .unborn) (going : s.loop ≠ .exited) :
    Live s := by
  obtain ⟨state, started, -, unjoined, -, -, -, unmanaged, asked, stopped, clean⟩ := standing
  have state : s.state = .starting ∨ s.state = .ready ∨ s.state = .stopping := by
    cases loop : s.loop <;> grind -ring -linarith [thread]
  constructor
  case state => exact state
  case started => cases loop : s.loop <;> simp_all [thread]
  case unjoined => cases loop : s.loop <;> grind -ring -linarith [thread]
  case managed => grind -ring -linarith
  case stopped => grind -ring -linarith [Phase.number]
  case clean => grind -ring -linarith [Phase.number]

theorem Standing.unborn (standing : Standing s) (new : s.state = .new) : s.loop = .unborn := by
  have state := standing.state
  rw [new] at state
  cases loop : s.loop <;> simp_all [thread]

theorem Standing.joined_allowed (standing : Standing s) (exited : s.state = .loopExited) :
    .joined ∈ (thread s.loop).states := by
  have state := standing.state
  rw [exited] at state
  cases loop : s.loop <;> simp_all [thread]

end Standing

/-! ### Who holds the gate -/

section Gate

variable {s next : Native} {caller : Nat}

theorem Sound.others (sound : Sound s) (here : s.pc caller ≠ .idle) :
    ∀ other, other ≠ caller → s.pc other = .idle := by
  intro other different
  by_contra busy
  have same := (sound.held other busy).symm.trans (sound.held caller here)
  exact different (Option.some.inj same)

theorem Sound.nobody (sound : Sound s) (free : s.gate = none) (other : Nat) :
    s.pc other = .idle := by
  by_contra busy
  exact absurd (free.symm.trans (sound.held other busy)) nofun

theorem Sound.left (standing : Standing (s.leave caller))
    (others : ∀ other, other ≠ caller → s.pc other = .idle) : Sound (s.leave caller) := by
  have idle : ∀ other, (s.leave caller).pc other = .idle := by
    intro other
    by_cases same : other = caller
    · rw [same]; exact Function.update_self ..
    · exact (Function.update_of_ne same ..).trans (others other same)
  exact {
    toStanding := standing
    held := fun other busy => absurd (idle other) busy
    waiting := fun other here => absurd ((idle other).symm.trans here) nofun
    joining := fun other here => absurd ((idle other).symm.trans here) nofun }

theorem Sound.entered {pc : Pc} (standing : Standing (s.enter caller pc))
    (others : ∀ other, other ≠ caller → s.pc other = .idle)
    (waiting : pc = .waiting → s.state = .stopping ∨ s.state = .loopExited)
    (joining : pc = .joining → s.quiet = true) : Sound (s.enter caller pc) := by
  have now : ∀ other, (s.enter caller pc).pc other ≠ .idle →
      other = caller ∧ (s.enter caller pc).pc other = pc := by
    intro other busy
    by_cases same : other = caller
    · rw [same]; exact ⟨rfl, Function.update_self ..⟩
    · exact absurd ((Function.update_of_ne same ..).trans (others other same)) busy
  exact {
    toStanding := standing
    held := fun other busy => congrArg some (now other busy).1.symm
    waiting := fun other here =>
      waiting ((now other (by rw [here]; nofun)).2.symm.trans here)
    joining := fun other here =>
      joining ((now other (by rw [here]; nofun)).2.symm.trans here) }

/-- A step of the threads of the server leaves the callers where they are. -/
theorem Sound.background (sound : Sound s) (standing : Standing next)
    (callers : next.pc = s.pc ∧ next.gate = s.gate)
    (waits : s.state = .stopping ∨ s.state = .loopExited →
      next.state = .stopping ∨ next.state = .loopExited)
    (joins : s.quiet = true → next.quiet = true) : Sound next where
  toStanding := standing
  held := fun other busy => callers.2.trans (sound.held other (by rwa [callers.1] at busy))
  waiting := fun other here => waits (sound.waiting other (by rwa [callers.1] at here))
  joining := fun other here => joins (sound.joining other (by rwa [callers.1] at here))

end Gate

/-- In a quiet server the loop thread is at rest. -/
theorem Standing.quiet_loop {s : Native} (standing : Standing s) (quiet : s.quiet = true) :
    s.loop = .unborn ∨ s.loop = .exited := by
  have state := standing.state
  cases loop : s.loop <;> simp_all [thread, Native.quiet]

/-! ### The loop thread -/

structure Looped (s next : Native) : Prop where
  standing : Standing next
  onward : Onward s next
  callers : next.pc = s.pc ∧ next.gate = s.gate
  busy : s.quiet = false ∧ next.state ≠ .joined

section Loop

variable {s : Native}

theorem Standing.loopBegin (standing : Standing s) (here : s.loop = .begun)
    (beginning : Native.Beginning) (events : Native.Events) :
    Looped s (s.loopBegin beginning events) := by
  obtain ⟨known, started, unjoined, managed, stopped, clean⟩ :=
    standing.live (by rw [here]; nofun) (by rw [here]; nofun)
  have state := standing.state
  simp only [here, thread, List.mem_cons, List.not_mem_nil, or_false] at state
  cases beginning with
  | throws result =>
      unfold Native.loopBegin
      constructor <;> constructor <;> grind -ring -linarith [thread, Phase.number, Native.quiet]
  | noTrigger =>
      obtain ⟨status, eq, first⟩ := requestStop_eq { s with joinThreadRunning := true } events
      simp only [Native.loopBegin, eq]
      constructor <;> constructor <;> grind -ring -linarith [thread, Phase.number, Native.quiet]
  | dead =>
      obtain ⟨status, eq, first⟩ :=
        requestStop_eq { s with joinThreadRunning := true, trigger := some false } events
      simp only [Native.loopBegin, eq]
      constructor <;> constructor <;> grind -ring -linarith [thread, Phase.number, Native.quiet]
  | well =>
      obtain ⟨status, eq, first⟩ :=
        requestStop_eq { s with joinThreadRunning := true, trigger := some false } events
      simp only [Native.loopBegin, eq]
      split
      · constructor <;> constructor <;> grind -ring -linarith [thread, Phase.number, Native.quiet]
      · constructor <;> constructor <;> grind -ring -linarith [thread, Phase.number, Native.quiet]

theorem Standing.loopCheck (standing : Standing s) (here : s.loop = .running) :
    Looped s s.loopCheck := by
  obtain ⟨known, started, unjoined, managed, stopped, clean⟩ :=
    standing.live (by rw [here]; nofun) (by rw [here]; nofun)
  have state := standing.state
  have running := standing.running
  simp only [here, thread, List.mem_cons, List.not_mem_nil, or_false] at state running
  unfold Native.loopCheck
  split
  · constructor <;> constructor <;> grind -ring -linarith [thread, Phase.number, Native.quiet]
  · split
    · constructor <;> constructor <;> grind -ring -linarith [thread, Phase.number, Native.quiet]
    · constructor <;> constructor <;> grind -ring -linarith [thread, Phase.number, Native.quiet]

theorem Standing.loopAccept (standing : Standing s) (here : s.loop = .accepting)
    (accepting : Native.Accepting) : Looped s (s.loopAccept accepting) := by
  obtain ⟨known, started, unjoined, managed, stopped, clean⟩ :=
    standing.live (by rw [here]; nofun) (by rw [here]; nofun)
  have state := standing.state
  have running := standing.running
  simp only [here, thread, List.mem_cons, List.not_mem_nil, or_false] at state running
  unfold Native.loopAccept
  cases accepting with
  | nothing => constructor <;> constructor <;> grind -ring -linarith [thread, Phase.number, Native.quiet]
  | connection =>
      dsimp only
      split
      · constructor <;> constructor <;> grind -ring -linarith [thread, Phase.number, Native.quiet]
      · constructor <;> constructor <;> grind -ring -linarith [thread, Phase.number, Native.quiet]
  | fails result => constructor <;> constructor <;> grind -ring -linarith [thread, Phase.number, Native.quiet]

theorem Standing.loopEnd (standing : Standing s) {result : Int} (here : s.loop = .ended result)
    (events : Native.Events) : Looped s (s.loopEnd result events) := by
  obtain ⟨known, started, unjoined, managed, stopped, clean⟩ :=
    standing.live (by rw [here]; nofun) (by rw [here]; nofun)
  obtain ⟨status, eq, first⟩ := requestStop_eq (s.latch result) events
  unfold Native.loopEnd
  rw [eq]
  constructor <;> constructor <;> grind -ring -linarith [thread, Phase.number, Native.quiet, Native.latch]

end Loop

/-! ### One step -/

section Step

variable {timedOut : Int} {s next : Native} {event : Option (Nat × Observation)}

theorem Looped.sound (looped : Looped s next) (sound : Sound s) : Sound next := by
  apply sound.background looped.standing looped.callers
  · have later := looped.onward.later
    have open_ := looped.busy.2
    rintro (stopping | exited)
    all_goals cases now : next.state <;> simp_all [Phase.number]
  · intro quiet
    exact absurd (quiet.symm.trans looped.busy.1) nofun

theorem Sound.step (sound : Sound s) (step : Step timedOut s event next) :
    Sound next ∧ Onward s next := by
  have standing := sound.toStanding
  obtain ⟨state, started, running, unjoined, untriggered, quietBefore, joined, unmanaged, asked,
    stopped, clean⟩ := sound.toStanding
  cases step with
  | startBlocked => exact ⟨sound, .same rfl rfl rfl⟩
  | waitReady => exact ⟨sound, .same rfl rfl rfl⟩
  | joinBlocked => exact ⟨sound, .same rfl rfl rfl⟩
  | startEnter caller here free =>
      have others := fun other (_ : other ≠ caller) => sound.nobody free other
      exact ⟨.entered (standing.enter _ _) others nofun nofun, .same rfl rfl rfl⟩
  | joinEnter caller here free =>
      have others := fun other (_ : other ≠ caller) => sound.nobody free other
      exact ⟨.entered (standing.enter _ _) others nofun nofun, .same rfl rfl rfl⟩
  | joinGoes here done =>
      have others := sound.others (by rw [here]; nofun)
      exact ⟨.entered (standing.enter _ _) others nofun (fun _ => done), .same rfl rfl rfl⟩
  | startRefused here =>
      exact ⟨.left (standing.leave _) (sound.others (by rw [here]; nofun)), .same rfl rfl rfl⟩
  | joinRefused here =>
      exact ⟨.left (standing.leave _) (sound.others (by rw [here]; nofun)), .same rfl rfl rfl⟩
  | joinTimeout here =>
      exact ⟨.left (standing.leave _) (sound.others (by rw [here]; nofun)), .same rfl rfl rfl⟩
  | startFails here startable status code =>
      have unborn := standing.unborn (by grind -ring -linarith [Native.startable])
      constructor
      · apply Sound.left
        · apply Standing.leave
          constructor <;> grind -ring -linarith [thread, Phase.number, Native.latch, Native.startable]
        · exact sound.others (by rw [here]; nofun)
      · constructor <;> grind -ring -linarith [Phase.number, Native.latch, Native.startable, Native.leave]
  | startOk here startable =>
      have unborn := standing.unborn (by grind -ring -linarith [Native.startable])
      constructor
      · apply Sound.left
        · apply Standing.leave
          constructor <;> grind -ring -linarith [thread, Phase.number, Native.startable]
        · exact sound.others (by rw [here]; nofun)
      · constructor <;> grind -ring -linarith [Phase.number, Native.startable, Native.leave]
  | joinAlready here joined =>
      constructor
      · apply Sound.left
        · apply Standing.leave
          constructor <;> grind -ring -linarith
        · exact sound.others (by rw [here]; nofun)
      · exact .same rfl rfl rfl
  | joinNew here new alone =>
      have unborn := standing.unborn new
      constructor
      · apply Sound.left
        · apply Standing.leave
          constructor <;> grind -ring -linarith [thread, Phase.number]
        · exact sound.others (by rw [here]; nofun)
      · constructor <;> grind -ring -linarith [thread, Phase.number, Native.leave]
  | @joinWait caller here events going alone =>
      have waits := (standing.requestStop going.2 going.1 events).enter caller .waiting
      obtain ⟨status, eq, first⟩ := requestStop_eq { s with managed := true } events
      have late : s.state.number < 4 ∨ s.state = .loopExited := by
        cases now : s.state <;> simp_all [Phase.number]
      constructor
      · apply Sound.entered waits
        · rw [eq]
          exact sound.others (by rw [here]; nofun)
        · rw [eq]
          grind -ring -linarith [Phase.number]
        · nofun
      · rw [eq]
        constructor <;> grind -ring -linarith [Phase.number, Native.enter]
  | joinFails here unjoined =>
      have quiet := sound.joining _ here
      constructor
      · apply Sound.left
        · apply Standing.leave
          constructor <;> grind -ring -linarith [thread, Phase.number, Native.latch, Native.quiet]
        · exact sound.others (by rw [here]; nofun)
      · constructor <;> grind -ring -linarith [Native.latch, Native.leave]
  | joinOk here ended =>
      have quiet := sound.joining _ here
      have rest := standing.quiet_loop quiet
      have allowed := standing.joined_allowed (by grind -ring -linarith [Native.quiet])
      constructor
      · apply Sound.left
        · apply Standing.leave
          constructor <;> grind -ring -linarith [Phase.number, Native.quiet]
        · exact sound.others (by rw [here]; nofun)
      · constructor <;> grind -ring -linarith [Phase.number, Native.quiet, Native.leave]
  | loopBegin here beginning events failed =>
      have looped := standing.loopBegin here beginning events
      exact ⟨looped.sound sound, looped.onward⟩
  | loopCheck here =>
      have looped := standing.loopCheck here
      exact ⟨looped.sound sound, looped.onward⟩
  | loopAccept here accepting failed =>
      have looped := standing.loopAccept here accepting
      exact ⟨looped.sound sound, looped.onward⟩
  | loopEnd here events =>
      have looped := standing.loopEnd here events
      exact ⟨looped.sound sound, looped.onward⟩
  | connectEnds =>
      constructor
      · apply sound.background
        · constructor <;> grind -ring -linarith
        · exact ⟨rfl, rfl⟩
        · exact id
        · grind -ring -linarith [Native.quiet]
      · exact .same rfl rfl rfl
  | connectSession =>
      constructor
      · apply sound.background
        · constructor <;> grind -ring -linarith
        · exact ⟨rfl, rfl⟩
        · exact id
        · grind -ring -linarith [Native.quiet]
      · exact .same rfl rfl rfl
  | sessionEnds =>
      constructor
      · apply sound.background
        · constructor <;> grind -ring -linarith
        · exact ⟨rfl, rfl⟩
        · exact id
        · grind -ring -linarith [Native.quiet]
      · exact .same rfl rfl rfl

theorem Step.returned_idle {caller : Nat} {value : Observation}
    (step : Step timedOut s (some (caller, value)) next) : next.pc caller = .idle := by
  cases step with
  | startBlocked _ here => exact here
  | waitReady _ here => exact here
  | joinBlocked _ here => exact here
  | _ => exact Function.update_self ..

/-- What a join comes to: the server is joined, or it is still going, or the join failed. -/
theorem Sound.join_returns {caller : Nat} {value : Observation} (sound : Sound s)
    (step : Step timedOut s (some (caller, value)) next) (inside : s.pc caller ≠ .idle)
    (join : s.pc caller ≠ .starting) :
    (value.joined = true ∧ next.state = .joined) ∨
    (s.pc caller = .waiting ∧ s.quiet = false ∧ value.operation = timedOut ∧
      (value.state = 3 ∨ value.state = 4)) ∨
    (value.operation = unknownError ∧ next.joinFailed = true) := by
  cases step with
  | startBlocked _ here => exact absurd here inside
  | waitReady _ here => exact absurd here inside
  | joinBlocked _ here => exact absurd here inside
  | startRefused here => exact absurd here join
  | startFails here => exact absurd here join
  | startOk here => exact absurd here join
  | joinRefused here refused =>
      -- a server that no call has managed has never been started
      have new := sound.unmanaged refused.1
      have unborn := sound.toStanding.unborn new
      have unjoined := sound.unjoined
      have running := sound.running
      have untriggered := sound.untriggered
      grind -ring -linarith [thread]
  | joinAlready here joined =>
      left
      exact ⟨by simp [Observation.joined, Native.snapshot, joined, Phase.number], joined⟩
  | joinNew => exact .inl ⟨rfl, rfl⟩
  | joinOk => exact .inl ⟨rfl, rfl⟩
  | joinTimeout here busy =>
      refine .inr (.inl ⟨here, busy, rfl, ?_⟩)
      rcases sound.waiting _ here with stopping | exited
      · exact .inl (congrArg Phase.number stopping)
      · exact .inr (congrArg Phase.number exited)
  | joinFails => exact .inr (.inr ⟨rfl, rfl⟩)

end Step

/-! ### The driver -/

structure Seen (timedOut : Int) (value : Observation) : Prop where
  last : value.state ≤ 5
  ready : value.state = 2 → value.ready = true
  pending : value.state < 2 → value.operation = timedOut

theorem Sound.seen {s : Native} (sound : Sound s) (timedOut : Int) : Seen timedOut (s.ready timedOut) := by
  have clean := sound.clean
  unfold Native.ready
  cases now : s.state
  all_goals constructor <;> simp_all [Native.snapshot, Phase.number, Observation.ready]

theorem ready_state (s : Native) (timedOut : Int) : (s.ready timedOut).state = s.state.number := by
  unfold Native.ready
  split <;> rfl

structure Driven (timedOut : Int) (j : Joint) : Prop where
  sound : Sound j.native
  inside : j.native.pc 0 ≠ .idle → j.driver = .joins
  unstarted : j.native.pc 0 ≠ .starting
  seen : ∀ value, j.driver = .observed value → Seen timedOut value
  returned : ∀ value, j.driver = .returned value → j.native.state = .joined

theorem Driven.new (timedOut : Int) : Driven timedOut {} :=
  ⟨Sound.new, fun busy => absurd rfl busy, nofun, nofun, nofun⟩

theorem Onward.joined_stays {s next : Native} (onward : Onward s next) (joined : s.state = .joined) :
    next.state = .joined := by
  have later := onward.later
  cases now : next.state <;> simp_all [Phase.number]

section Driver

variable {timedOut : Int} {j next : Joint}

/-- Every step of the driver or of the server, as a step of the server. -/
theorem Joint.Step.native_step (step : Joint.Step timedOut j next) :
    next.native = j.native ∨ ∃ event, NdrServer.Step timedOut j.native event next.native := by
  cases step with
  | native step => exact .inr ⟨_, step⟩
  | calls _ step => exact .inr ⟨_, step⟩
  | joined _ step => exact .inr ⟨_, step⟩
  | again _ step => exact .inr ⟨_, step⟩
  | gaveUp _ step => exact .inr ⟨_, step⟩
  | _ => exact .inl rfl

theorem Joint.Step.onward (sound : Sound j.native) (step : Joint.Step timedOut j next) :
    Sound next.native ∧ Onward j.native next.native := by
  rcases step.native_step with same | ⟨event, native⟩
  · rw [same]
    exact ⟨sound, .same rfl rfl rfl⟩
  · exact sound.step native

/-- What the driver's call of the join comes to, the gate apart. -/
theorem Driven.join_returns {after : Native} {value : Observation} (driven : Driven timedOut j)
    (step : NdrServer.Step timedOut j.native (some (0, value)) after)
    (join : j.native.pc 0 ≠ .idle ∨ j.native.gate ≠ none ∧ value = j.native.snapshot wouldBlock) :
    (value.joined = true ∧ after.state = .joined) ∨
    (j.native.pc 0 = .waiting ∧ j.native.quiet = false ∧ value.operation = timedOut ∧
      (value.state = 3 ∨ value.state = 4)) ∨
    (value.operation = unknownError ∧ after.joinFailed = true) ∨
    (j.native.pc 0 = .idle ∧ j.native.gate ≠ none ∧ value.operation = wouldBlock) := by
  by_cases idle : j.native.pc 0 = .idle
  · rcases join with busy | ⟨held, eq⟩
    · exact absurd idle busy
    · exact .inr (.inr (.inr ⟨idle, held, congrArg Observation.operation eq⟩))
  · rcases driven.sound.join_returns step idle driven.unstarted with joined | pending | failed
    · exact .inl joined
    · exact .inr (.inl pending)
    · exact .inr (.inr (.inl failed))

theorem Driven.step (driven : Driven timedOut j) (step : Joint.Step timedOut j next) :
    Driven timedOut next := by
  obtain ⟨sound, onward⟩ := step.onward driven.sound
  have ⟨_, inside, unstarted, seen, returned⟩ := driven
  -- outside of its join the driver is in no call that holds the gate
  have outside : ∀ place, j.driver = place → place ≠ .joins → ∀ driver : Driver,
      j.native.pc 0 ≠ .idle → driver = .joins :=
    fun place here other _ busy => absurd (here.symm.trans (inside busy)) other
  cases step with
  | native step others same =>
      exact ⟨sound, fun busy => inside (by rwa [same] at busy), by rwa [same], seen,
        fun value here => onward.joined_stays (returned value here)⟩
  | shutdown => exact ⟨sound, inside, unstarted, seen, returned⟩
  | looks here => exact ⟨sound, outside _ here nofun _, unstarted, nofun, nofun⟩
  | observes here idle =>
      have now := driven.sound.seen timedOut
      exact ⟨sound, outside _ here nofun _, unstarted, fun _ same => Driver.observed.inj same ▸ now, nofun⟩
  | unpublishable here => exact ⟨sound, outside _ here nofun _, unstarted, nofun, nofun⟩
  | stops here => exact ⟨sound, outside _ here nofun _, unstarted, nofun, nofun⟩
  | goesOn here => exact ⟨sound, outside _ here nofun _, unstarted, nofun, nofun⟩
  | gives here => exact ⟨sound, outside _ here nofun _, unstarted, nofun, nofun⟩
  | joins here => exact ⟨sound, fun _ => rfl, unstarted, nofun, nofun⟩
  | calls here step mine =>
      exact ⟨sound, fun _ => here, mine.2, by rw [here]; nofun, by rw [here]; nofun⟩
  | joined here step join done =>
      have idle := step.returned_idle
      refine ⟨sound, fun busy => absurd idle busy, by rw [idle]; nofun, nofun, fun _ _ => ?_⟩
      have outcome := driven.join_returns step join
      simp only [Observation.joined, Bool.and_eq_true, decide_eq_true_eq] at done
      grind -ring -linarith [unknownError, wouldBlock]
  | again here step =>
      have idle := step.returned_idle
      exact ⟨sound, fun busy => absurd idle busy, by rw [idle]; nofun, nofun, nofun⟩
  | gaveUp here step =>
      have idle := step.returned_idle
      exact ⟨sound, fun busy => absurd idle busy, by rw [idle]; nofun, nofun, nofun⟩

/-- What the driver's calls have to meet: no stop intent is recorded while it holds a Ready
observation, it does not ask for the join while another caller holds the gate, and where a
timeout is not reported as -110, none of its calls times out. -/
structure Met (timedOut : Int) (j next : Joint) : Prop where
  unasked : ∀ value, j.driver = .observed value → value.ready = true → j.stop = false
  free : j.driver = .joins → j.native.pc 0 = .idle → j.native.gate ≠ none → next.driver = .joins
  prompt : timedOut ≠ -110 →
    (j.driver = .observes → j.native.state = .new ∨ j.native.state = .starting →
      next.driver = .observes) ∧
    (j.driver = .joins → j.native.pc 0 = .waiting → j.native.quiet = false →
      next.driver = .joins)

structure Told (timedOut : Int) (j : Joint) : Prop where
  driven : Driven timedOut j
  prompt : ∀ value, j.driver = .observed value → timedOut = -110 ∨ 2 ≤ value.state
  failed : ∀ value, j.driver = .failed value →
    value.operation = unknownError ∧ j.native.joinFailed = true

theorem Told.step (told : Told timedOut j) (step : Joint.Step timedOut j next)
    (met : Met timedOut j next) : Told timedOut next := by
  have driven := told.driven.step step
  have onward := (step.onward told.driven.sound).2
  cases step with
  | native step others same =>
      exact ⟨driven, told.prompt, fun value here =>
        ⟨(told.failed value here).1, onward.failed_join (told.failed value here).2⟩⟩
  | shutdown => exact ⟨driven, told.prompt, told.failed⟩
  | looks here => exact ⟨driven, nofun, nofun⟩
  | observes here idle =>
      refine ⟨driven, fun value same => ?_, nofun⟩
      obtain rfl := Driver.observed.inj same
      rw [ready_state]
      by_cases reported : timedOut = -110
      · exact .inl reported
      · -- a call that finds the start under way would have ended in a timeout
        have settled : ¬(j.native.state = .new ∨ j.native.state = .starting) :=
          fun early => nomatch (met.prompt reported).1 here early
        cases now : j.native.state <;> simp_all [Phase.number]
  | unpublishable here stopped ready =>
      exact absurd (met.unasked _ here ready) (by rw [stopped]; nofun)
  | stops here => exact ⟨driven, nofun, nofun⟩
  | goesOn here => exact ⟨driven, nofun, nofun⟩
  | gives here publishable under ill =>
      have seen := told.driven.seen _ here
      have prompt := told.prompt _ here
      obtain ⟨last, ready, pending⟩ := seen
      simp only [Observation.startPending, Bool.and_eq_false_iff, decide_eq_false_iff_not] at ill
      grind -ring -linarith
  | joins here => exact ⟨driven, nofun, nofun⟩
  | calls here step mine => exact ⟨driven, by rw [here]; nofun, by rw [here]; nofun⟩
  | joined => exact ⟨driven, nofun, nofun⟩
  | again => exact ⟨driven, nofun, nofun⟩
  | gaveUp here step join undone past =>
      refine ⟨driven, nofun, fun value same => ?_⟩
      obtain rfl := Driver.failed.inj same
      rcases told.driven.join_returns step join with joined | pending | failed | blocked
      · exact absurd (undone.symm.trans joined.1) nofun
      · obtain ⟨waiting, busy, operation, state⟩ := pending
        by_cases reported : timedOut = -110
        · simp only [Observation.joinPending, Bool.and_eq_false_iff] at past
          grind -ring -linarith
        · exact nomatch (met.prompt reported).2 here waiting busy
      · exact failed
      · exact nomatch met.free here blocked.1 blocked.2.1

/-- In every run the server keeps its order, starts one loop thread at most and keeps its first
loop status, and the driver returns from a joined server only. In a run that meets the condition
the driver fails only on a join that failed. -/
theorem driver_fails_only_on_failed_join :
    (∀ j, Reach (Joint.Step timedOut) {} j →
      j.native.started ≤ 1 ∧
      (∀ next, Joint.Step timedOut j next → Onward j.native next.native) ∧
      (∀ value, j.driver = .returned value → j.native.state = .joined)) ∧
    (∀ j, Reach (Under (Joint.Step timedOut) (Met timedOut)) {} j →
      ∀ value, j.driver = .failed value →
        value.operation = unknownError ∧ j.native.joinFailed = true) := by
  constructor
  · intro j reach
    have driven : Driven timedOut j :=
      reach_keeps (Driven.new timedOut) (fun _ _ held step => held.step step) reach
    have started := driven.sound.started
    refine ⟨?_, fun next step => (step.onward driven.sound).2, driven.returned⟩
    rw [started]
    cases j.native.loop <;> simp [thread]
  · intro j reach
    have told : Told timedOut j :=
      reach_keeps ⟨Driven.new timedOut, nofun, nofun⟩
        (fun _ _ held step => held.step step.1 step.2) reach
    exact told.failed

end Driver

/-! A stop intent that comes in between the observation of Ready and the driver's own look at it. -/

def startedServer : Native :=
  Native.leave { Native.enter {} 1 .starting with
    managed := true
    state := .starting
    joinThread := true
    loop := .begun
    started := 1 } 1

theorem startedServer_reached (timedOut : Int) :
    Reach (Joint.Step timedOut) {} { native := startedServer } := by
  have entered : Joint.Step timedOut {} { native := Native.enter {} 1 .starting } :=
    .native (.startEnter 1 rfl rfl) nofun rfl
  have began : Joint.Step timedOut { native := Native.enter {} 1 .starting }
      { native := startedServer } :=
    .native (@Step.startOk timedOut (Native.enter {} 1 .starting) 1 rfl rfl) nofun rfl
  exact (Relation.ReflTransGen.single entered).tail began

theorem driver_fails_without_failure :
    (∃ j value, Reach (Joint.Step (-110)) {} j ∧ j.driver = .failed value ∧ value.ready = true ∧
      j.native.state = .ready ∧ j.native.loopStatus = 0 ∧ j.native.joinFailed = false) ∧
    (∃ j value, Reach (Joint.Step windowsTimedOut) {} j ∧ j.driver = .failed value ∧
      j.native.state = .starting ∧ j.native.loopStatus = 0 ∧ j.native.joinFailed = false) := by
  constructor
  · let ready := startedServer.loopBegin .well ⟨true, true⟩
    have run : Reach (Joint.Step (-110)) {} ⟨ready, true, .failed (ready.ready (-110))⟩ := by
      apply Relation.ReflTransGen.tail _ (.unpublishable
        (j := ⟨ready, true, .observed (ready.ready (-110))⟩) rfl rfl rfl)
      apply Relation.ReflTransGen.tail _ (.shutdown ⟨ready, false, .observed (ready.ready (-110))⟩)
      apply Relation.ReflTransGen.tail _ (.observes (j := ⟨ready, false, .observes⟩) rfl rfl)
      apply Relation.ReflTransGen.tail _ (.looks (j := ⟨ready, false, .top⟩) rfl rfl)
      exact (startedServer_reached _).tail (.native (.loopBegin rfl .well ⟨true, true⟩ nofun) nofun rfl)
    exact ⟨_, _, run, rfl, rfl, rfl, rfl, rfl⟩
  · have run : Reach (Joint.Step windowsTimedOut) {}
        ⟨startedServer, false, .failed (startedServer.ready windowsTimedOut)⟩ := by
      apply Relation.ReflTransGen.tail _ (.gives
        (j := ⟨startedServer, false, .observed (startedServer.ready windowsTimedOut)⟩)
        rfl nofun (by decide) (by decide))
      apply Relation.ReflTransGen.tail _ (.observes (j := ⟨startedServer, false, .observes⟩) rfl rfl)
      apply Relation.ReflTransGen.tail _ (.looks (j := ⟨startedServer, false, .top⟩) rfl rfl)
      exact startedServer_reached _
    exact ⟨_, _, run, rfl, rfl, rfl, rfl⟩

theorem Met.top {timedOut : Int} {j next : Joint} (here : j.driver = .top) : Met timedOut j next := by
  constructor <;> simp [here]

theorem Met.joins {timedOut : Int} {j next : Joint} (here : j.driver = .joins)
    (still : next.driver = .joins) : Met timedOut j next := by
  constructor <;> simp [here, still]

theorem failed_join_reported : ∃ j value,
    Reach (Under (Joint.Step windowsTimedOut) (Met windowsTimedOut)) {} j ∧
      j.driver = .failed value ∧ value.operation = unknownError ∧ j.native.joinFailed = true := by
  let events : Native.Events := ⟨true, true⟩
  let entered := startedServer.enter 0 .stopping
  let waiting := (Native.requestStop { entered with managed := true } events).enter 0 .waiting
  let begun := waiting.loopBegin .well events
  let exited := begun.loopCheck.loopEnd 0 events
  let joining := exited.enter 0 .joining
  let past := Native.leave { joining.latch unknownError with joinFailed := true } 0
  let value := (joining.latch unknownError).snapshot unknownError
  have run : Reach (Under (Joint.Step windowsTimedOut) (Met windowsTimedOut)) {}
      ⟨past, true, .failed value⟩ := by
    -- the start, by another caller
    have started : Reach (Under (Joint.Step windowsTimedOut) (Met windowsTimedOut)) {}
        { native := startedServer } := by
      apply Relation.ReflTransGen.tail (.single ⟨.native (.startEnter 1 rfl rfl) nofun rfl, .top rfl⟩)
      exact ⟨.native (@Step.startOk _ (Native.enter {} 1 .starting) 1 rfl rfl) nofun rfl, .top rfl⟩
    -- the driver is told to stop, and waits for the loop
    have waits : Reach (Under (Joint.Step windowsTimedOut) (Met windowsTimedOut)) {}
        ⟨waiting, true, .joins⟩ := by
      apply Relation.ReflTransGen.tail (b := ⟨entered, true, .joins⟩)
      · apply Relation.ReflTransGen.tail (b := ⟨startedServer, true, .joins⟩)
        · apply (started.tail ⟨.shutdown _, .top rfl⟩).tail
          exact ⟨.joins rfl rfl, .top rfl⟩
        · exact ⟨.calls rfl (.joinEnter 0 rfl rfl) ⟨nofun, nofun⟩, .joins rfl rfl⟩
      · exact ⟨.calls rfl (@Step.joinWait _ entered 0 rfl events ⟨nofun, nofun⟩ (.inl rfl)) ⟨nofun, nofun⟩, .joins rfl rfl⟩
    -- the loop comes to its end
    have exits : Reach (Under (Joint.Step windowsTimedOut) (Met windowsTimedOut)) {}
        ⟨exited, true, .joins⟩ := by
      apply Relation.ReflTransGen.tail (b := ⟨begun.loopCheck, true, .joins⟩)
      · apply Relation.ReflTransGen.tail (b := ⟨begun, true, .joins⟩)
        · exact waits.tail ⟨.native (.loopBegin rfl .well events nofun) nofun rfl, .joins rfl rfl⟩
        · exact ⟨.native (.loopCheck rfl) nofun rfl, .joins rfl rfl⟩
      · exact ⟨.native (.loopEnd rfl events) nofun rfl, .joins rfl rfl⟩
    -- the join fails
    apply Relation.ReflTransGen.tail (b := ⟨joining, true, .joins⟩)
    · exact exits.tail ⟨.calls rfl (@Step.joinGoes _ exited 0 rfl rfl) ⟨nofun, nofun⟩, .joins rfl rfl⟩
    · constructor
      · exact .gaveUp rfl (@Step.joinFails _ joining 0 rfl rfl) (.inl nofun) rfl rfl
      · exact ⟨nofun, nofun, fun _ => ⟨nofun, nofun⟩⟩
  exact ⟨_, value, run, rfl, driver_fails_only_on_failed_join.2 _ run value rfl⟩

end Bscp.Virtmgr.NdrServer
