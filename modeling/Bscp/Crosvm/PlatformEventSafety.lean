import Bscp.Machine
import Bscp.Crosvm.PlatformEvent

/-!
What the readers and the writers of an event may rely on. The queue shrinks in a `recv` only, so
what a signal has left readable stays readable until somebody receives; and a wait that has found
the queue readable cannot come back empty-handed unless somebody else has received meanwhile.
-/

namespace Bscp.Crosvm.PlatformEvent

open Bscp.Machine

variable {w next : World} {event : Event} {events : List Event} {thread : Nat}

/-! Facts about what happened, read from the events. -/

def Received (events : List Event) : Prop := ∃ reader, .receives reader ∈ events

def Event.isReceive : Event → Bool
  | .receives _ => true
  | _ => false

def Event.isSend : Event → Bool
  | .sends _ => true
  | _ => false

def Event.isSignaled : Event → Bool
  | .waitReturns _ .signaled => true
  | _ => false

def Event.isRecv (thread : Nat) : Event → Bool
  | .receives who | .misses who => who == thread
  | _ => false

theorem received_snoc :
    Received (events ++ [event]) ↔ Received events ∨ event.isReceive = true := by
  cases event <;> simp [Received, Event.isReceive]

/-! What one step does to the queue. -/

theorem Step.queue (step : Step w event next) :
    next.queue =
      (w.queue + if event.isSend then 1 else 0) - if event.isReceive then 1 else 0 := by
  cases step <;> simp [Event.isSend, Event.isReceive]

theorem Step.ready_of_receive (step : Step w event next) (receive : event.isReceive = true) :
    0 < w.queue := by
  cases step <;> simp_all [Event.isReceive]

/-- Without a `recv` the queue does not shrink. -/
theorem Step.queue_le (step : Step w event next) (quiet : event.isReceive = false) :
    w.queue ≤ next.queue := by
  rw [step.queue, quiet]
  simp

theorem Step.now_le (step : Step w event next) : w.now ≤ next.now := by
  cases step <;> simp_all

/-! No wakeup is lost. -/

def Kept (thread : Nat) (events : List Event) (w : World) : Prop :=
  Received events ∨
    (w.place thread = .signaled none ∨ .signalReturns thread none ∈ events → 0 < w.queue)

theorem Kept.step (kept : Kept thread events w) (step : Step w event next) :
    Kept thread (events ++ [event]) next := by
  rcases kept with received | promised
  · exact .inl (received_snoc.mpr (.inl received))
  by_cases receive : event.isReceive = true
  · exact .inl (received_snoc.mpr (.inr receive))
  have grows : w.queue ≤ next.queue := step.queue_le (by simpa using receive)
  right
  intro said
  -- a step that makes the promise has seen a datagram, or was made by one
  have earlier : 0 < next.queue ∨ (w.place thread = .signaled none ∨
      .signalReturns thread none ∈ events) := by
    cases step <;> grind -ring -linarith
  rcases earlier with ready | before
  · exact ready
  · exact Nat.lt_of_lt_of_le (promised before) grows

/-! A wait that reports a signal. -/

def Seen (thread : Nat) (events : List Event) (w : World) : Prop :=
  Received events ∨
    0 < w.queue ∧ w.place thread ≠ .waited .signaled ∧
      ∀ call, w.place thread ≠ .draining call 0 ∧ w.place thread ≠ .drained call none

theorem Seen.step (seen : Seen thread events w) (step : Step w event next) :
    Seen thread (events ++ [event]) next := by
  rcases seen with received | ⟨ready, away, drains⟩
  · exact .inl (received_snoc.mpr (.inl received))
  by_cases receive : event.isReceive = true
  · exact .inl (received_snoc.mpr (.inr receive))
  have grows : w.queue ≤ next.queue := step.queue_le (by simpa using receive)
  refine .inr ⟨Nat.lt_of_lt_of_le ready grows, ?_, fun call => ?_⟩
  · cases step <;> grind -ring -linarith
  · cases step <;> grind -ring -linarith [Event.isReceive]

/-! One call of a wait, from its beginning. -/

def deadlineOf (began : Nat) (timeout : Option Nat) : Option Nat := timeout.map (began + ·)

/-- What the place of a thread says about the wait it is in, and whether it has found the queue
readable. -/
def Place.InWait (deadline : Option Nat) (now : Nat) (found : Prop) : Place → Prop
  | .waiting last | .polling last _ | .checking last => last = deadline
  | .waited .timedOut => ∃ last, deadline = some last ∧ last ≤ now
  | .waited .signaled => False
  | .measuring .wait | .draining .wait _ | .drained .wait none => found
  | _ => True

def InWait (deadline : Option Nat) (thread : Nat) (events : List Event) (w : World) : Prop :=
  (w.place thread).InWait deadline w.now (.readable thread ∈ events)

/-- The clock goes on, and what was found stays found. -/
theorem Place.InWait.mono {place : Place} {deadline : Option Nat} {now later : Nat}
    {found known : Prop} (held : place.InWait deadline now found) (passes : now ≤ later)
    (keeps : found → known) : place.InWait deadline later known := by
  unfold Place.InWait at *
  split at held
  case h_4 =>
      obtain ⟨last, isDeadline, reached⟩ := held
      exact ⟨last, isDeadline, Nat.le_trans reached passes⟩
  all_goals first | exact held | exact keeps held

theorem InWait.step {deadline : Option Nat} (held : InWait deadline thread events w)
    (step : Step w event next) (same : ∀ timeout, event ≠ .waitBegins thread timeout) :
    InWait deadline thread (events ++ [event]) next := by
  unfold InWait at *
  by_cases stays : next.place thread = w.place thread
  · rw [stays]
    exact held.mono step.now_le (List.mem_append_left _)
  · cases step with
    | @measures _ _ call => cases call <;> grind -ring -linarith [Place.InWait]
    | @measureFails _ _ call => cases call <;> grind -ring -linarith [Place.InWait]
    | @receives _ _ call => cases call <;> grind -ring -linarith [Place.InWait]
    | @missesEmpty _ _ call => cases call <;> grind -ring -linarith [Place.InWait]
    | @missesFails _ _ _ call => cases call <;> grind -ring -linarith [Place.InWait]
    | @exhausts _ call => cases call <;> grind -ring -linarith [Place.InWait]
    | _ => grind -ring -linarith [Place.InWait]

/-- What a wait has done when it returns. -/
theorem InWait.returns {deadline : Option Nat} {outcome : Outcome}
    (held : InWait deadline thread events w)
    (step : Step w (.waitReturns thread outcome) next) :
    (outcome = .signaled → .readable thread ∈ events) ∧
      (outcome = .timedOut → ∃ last, deadline = some last ∧ last ≤ next.now) := by
  unfold InWait Place.InWait at held
  cases step with
  | waitReturns here =>
      rw [here] at held
      cases outcome <;> simp_all
  | @waitDrained _ error here =>
      rw [here] at held
      cases error <;> simp_all [Outcome.ofDrain]

/-! One drain, from its `ioctl`. -/

def Place.remaining : Place → Nat
  | .draining _ remaining => remaining
  | _ => 0

theorem Step.remaining (step : Step w event next)
    (same : ∀ count, event ≠ .measures thread count) :
    (if event.isRecv thread then 1 else 0) + (next.place thread).remaining ≤
      (w.place thread).remaining := by
  cases step <;> grind -ring -linarith [Event.isRecv, Place.remaining]

/-! Every datagram received has been sent. -/

def sends (events : List Event) : Nat := events.countP Event.isSend

def receives (events : List Event) : Nat := events.countP Event.isReceive

def signaledWaits (events : List Event) : Nat := events.countP Event.isSignaled

def recvs (thread : Nat) (events : List Event) : Nat := events.countP (Event.isRecv thread)

theorem sends_balance {capacity now horizon : Nat}
    (trace : Trace Step (initial capacity now horizon) events w) :
    receives events + w.queue = sends events := by
  induction trace with
  | nil => rfl
  | snoc _ step balance =>
      have change := step.queue
      have ready := step.ready_of_receive
      simp only [receives, sends, List.countP_append, List.countP_singleton] at *
      grind -ring -linarith

/-! Runs with one reader at a time. -/

def Place.Waiting : Place → Prop
  | .waiting _ | .polling .. | .checking _ | .waited _ => True
  | .measuring call | .draining call _ | .drained call _ => call = .wait
  | _ => False

def Place.Reading : Place → Prop
  | .idle | .signaling | .coalescing _ | .signaled _ => False
  | _ => True

theorem Place.Waiting.reading {place : Place} (waiting : place.Waiting) : place.Reading := by
  cases place <;> simp_all [Place.Waiting, Place.Reading]

/-- No two threads are in a wait or a reset at once. -/
def Exclusive (w : World) : Prop :=
  ∀ first second, (w.place first).Reading → (w.place second).Reading → first = second

def AloneStep (w : World) (event : Event) (next : World) : Prop :=
  Step w event next ∧ Exclusive next

/-- Only a call of a wait leads into one. -/
theorem Step.waiting_before (step : Step w event next)
    (same : ∀ timeout, event ≠ .waitBegins thread timeout)
    (waiting : (next.place thread).Waiting) : (w.place thread).Waiting := by
  cases step <;> grind -ring -linarith [Place.Waiting]

theorem Step.reading_after_receive {reader : Nat} (step : Step w (.receives reader) next) :
    (next.place reader).Reading := by
  cases step
  simp [Place.Reading]

def Own (thread : Nat) (events : List Event) (w : World) : Prop :=
  (w.place thread).Waiting → ∀ reader, .receives reader ∈ events → reader = thread

theorem Own.step (own : Own thread events w) (alone : AloneStep w event next)
    (same : ∀ timeout, event ≠ .waitBegins thread timeout) :
    Own thread (events ++ [event]) next := by
  obtain ⟨step, exclusive⟩ := alone
  intro waiting reader receive
  rcases List.mem_append.mp receive with before | now
  · exact own (step.waiting_before same waiting) reader before
  · obtain rfl := List.mem_singleton.mp now
    exact exclusive reader thread step.reading_after_receive waiting.reading

/-- Who receives, or returns from a wait, was reading and moves on. -/
theorem Step.reader (step : Step w event next)
    (reads : event.isReceive = true ∨ event.isSignaled = true) :
    ∃ reader, (w.place reader).Reading ∧ next.place reader ≠ w.place reader := by
  cases step with
  | @receives reader _ _ here _ => exact ⟨reader, by simp [here, Place.Reading]⟩
  | @waitReturns reader _ here => exact ⟨reader, by simp [here, Place.Reading]⟩
  | @waitDrained reader _ here => exact ⟨reader, by simp [here, Place.Reading]⟩
  | _ => simp [Event.isReceive, Event.isSignaled] at reads

/-- While a thread reads and stays where it is, nobody else receives or returns from a wait. -/
theorem Step.quiet_while_reading (step : Step w event next) (exclusive : Exclusive w)
    (reading : (w.place thread).Reading) (stays : next.place thread = w.place thread) :
    event.isReceive = false ∧ event.isSignaled = false := by
  by_contra loud
  have reads : event.isReceive = true ∨ event.isSignaled = true := by
    cases receive : event.isReceive <;> cases signaled : event.isSignaled <;> simp_all
  obtain ⟨reader, here, moves⟩ := step.reader reads
  obtain rfl := exclusive reader thread here reading
  exact moves stays

/-- How many datagrams are ahead of the waits that have returned. -/
def Ahead (signaled received : Nat) (queue : Nat) : Place → Prop
  | .measuring .wait => 0 < queue
  | .draining .wait remaining => (0 < queue ∧ 0 < remaining) ∨ signaled < received
  | .drained .wait none => signaled < received
  | .waited .signaled => False
  | _ => True

structure Paid (events : List Event) (w : World) : Prop where
  exclusive : Exclusive w
  enough : signaledWaits events ≤ receives events
  ahead : ∀ thread, Ahead (signaledWaits events) (receives events) w.queue (w.place thread)

namespace Paid

theorem enough_step (paid : Paid events w) (step : Step w event next) :
    signaledWaits (events ++ [event]) ≤ receives (events ++ [event]) := by
  have enough := paid.enough
  have ahead := paid.ahead
  simp only [signaledWaits, receives, List.countP_append, List.countP_singleton] at *
  by_cases signaled : event.isSignaled = true
  · -- the thread that returns has a datagram to its name
    cases step with
    | @waitReturns reader outcome here =>
        have owed := ahead reader
        cases outcome <;> simp_all [Event.isSignaled, Ahead]
    | @waitDrained reader error here =>
        have owed := ahead reader
        cases error <;> simp_all [Event.isSignaled, Outcome.ofDrain, Ahead]
        omega
    | _ => simp [Event.isSignaled] at signaled
  · simp only [signaled]
    grind -ring -linarith

/-- A thread that a step leaves where it was. -/
theorem ahead_of_stays (paid : Paid events w) (step : Step w event next)
    (stays : next.place thread = w.place thread) :
    Ahead (signaledWaits (events ++ [event])) (receives (events ++ [event])) next.queue
      (next.place thread) := by
  have ahead := paid.ahead thread
  rw [stays]
  by_cases reading : (w.place thread).Reading
  · obtain ⟨noReceive, noSignaled⟩ := step.quiet_while_reading paid.exclusive reading stays
    have grows := step.queue_le noReceive
    simp only [signaledWaits, receives, List.countP_append, List.countP_singleton, noReceive,
      noSignaled] at *
    unfold Ahead at *
    grind -ring -linarith
  · unfold Ahead
    cases place : w.place thread <;> simp_all [Place.Reading]

/-- The thread that takes the step. -/
theorem ahead_of_moves (paid : Paid events w) (step : Step w event next)
    (moves : next.place thread ≠ w.place thread) :
    Ahead (signaledWaits (events ++ [event])) (receives (events ++ [event])) next.queue
      (next.place thread) := by
  have enough := paid.enough
  have ahead := paid.ahead thread
  simp only [signaledWaits, receives, List.countP_append, List.countP_singleton] at *
  cases step with
  | @measures _ _ call => cases call <;> grind -ring -linarith [Ahead, Event.isSignaled, Event.isReceive]
  | @receives _ _ call => cases call <;> grind -ring -linarith [Ahead, Event.isSignaled, Event.isReceive]
  | _ => grind -ring -linarith [Ahead, Event.isSignaled, Event.isReceive]

theorem step (paid : Paid events w) (alone : AloneStep w event next) :
    Paid (events ++ [event]) next := by
  constructor
  case exclusive => exact alone.2
  case enough => exact paid.enough_step alone.1
  case ahead =>
      intro thread
      by_cases stays : next.place thread = w.place thread
      · exact paid.ahead_of_stays alone.1 stays
      · exact paid.ahead_of_moves alone.1 stays

end Paid

/-! Whole runs. -/

section Runs

variable {capacity now horizon : Nat} {first middle later : List Event}

/-- After a signal that returned without an error, the event is readable until a `recv` that
comes after the signal has begun. -/
theorem signal_kept (trace : Trace Step (initial capacity now horizon)
      (first ++ .signalBegins thread :: later) w)
    (done : .signalReturns thread none ∈ later) : 0 < w.queue ∨ Received later := by
  obtain ⟨before, begun, _, begins, ran⟩ := trace.at_event
  have kept : Kept thread later w := by
    refine ran.keeps ?_ fun _ _ _ _ kept step => kept.step step
    cases begins
    exact .inr (by simp)
  rcases kept with received | promised
  · exact .inr received
  · exact .inl (promised (.inr done))

theorem wait_seen (trace : Trace Step (initial capacity now horizon)
      (first ++ Event.readable thread ::
        (later ++ [Event.waitReturns thread .signaled])) w) :
    Received later := by
  obtain ⟨_, looked, _, looks, ran⟩ := trace.at_event
  obtain ⟨last, before, returns⟩ := ran.last
  have seen : Seen thread later last := by
    refine before.keeps ?_ fun _ _ _ _ seen step => seen.step step
    cases looks
    exact .inr (by simpa)
  rcases seen with received | ⟨_, away, drains⟩
  · exact received
  · generalize report : Outcome.signaled = outcome at returns
    cases returns with
    | waitReturns here => exact absurd (report ▸ here) away
    | @waitDrained _ error here =>
        cases error with
        | none => exact absurd here (drains .wait).2
        | some => simp [Outcome.ofDrain] at report

theorem in_wait {begun : World} {timeout : Option Nat}
    (call : Trace Step begun (.waitBegins thread timeout :: middle) w)
    (one : ∀ again, .waitBegins thread again ∉ middle) :
    InWait (deadlineOf begun.now timeout) thread middle w := by
  obtain ⟨entered, begins, ran⟩ := call.uncons
  have others : ∀ event ∈ middle, ∀ again, event ≠ .waitBegins thread again := by
    rintro event member again rfl
    exact one again member
  refine ran.keeps_among ?_ ?_ others
  · cases begins <;> simp [InWait, Place.InWait, deadlineOf]
  · intro _ _ _ _ other held step
    exact held.step step other

/-- One call of a wait, from its beginning to its return. -/
theorem wait_returns {begun : World} {timeout : Option Nat} {outcome : Outcome}
    (before : Trace Step (initial capacity now horizon) first begun)
    (call : Trace Step begun
      (Event.waitBegins thread timeout :: middle ++ [Event.waitReturns thread outcome]) w)
    (one : ∀ again, Event.waitBegins thread again ∉ middle) :
    (outcome = .signaled →
      ∃ early late : List Event, middle = early ++ Event.readable thread :: late ∧ Received late) ∧
    (outcome = .timedOut →
      ∃ duration, timeout = some duration ∧ begun.now + duration ≤ w.now) := by
  obtain ⟨last, called, returns⟩ := call.last
  obtain ⟨found, late⟩ := (in_wait called one).returns returns
  constructor
  · rintro rfl
    obtain ⟨early, rest, rfl⟩ := List.append_of_mem (found rfl)
    have whole : Trace Step (initial capacity now horizon)
        ((first ++ Event.waitBegins thread timeout :: early) ++
          Event.readable thread :: (rest ++ [Event.waitReturns thread .signaled])) w := by
      simpa using before.append call
    exact ⟨early, rest, rfl, wait_seen whole⟩
  · intro ended
    obtain ⟨instant, isDeadline, reached⟩ := late ended
    cases timeout with
    | none => simp [deadlineOf] at isDeadline
    | some duration =>
        simp only [deadlineOf, Option.map_some, Option.some.injEq] at isDeadline
        exact ⟨duration, rfl, isDeadline ▸ reached⟩

def Bounded (thread count : Nat) (events : List Event) (w : World) : Prop :=
  recvs thread events + (w.place thread).remaining ≤ count

/-- One drain calls `recv` no more often than its `ioctl` has said. -/
theorem recvs_bounded {count : Nat} (trace : Trace Step (initial capacity now horizon)
      (first ++ .measures thread count :: later) w)
    (one : ∀ again, .measures thread again ∉ later) :
    Bounded thread count later w ∧ count < 2 ^ 32 := by
  obtain ⟨_, begun, _, measured, ran⟩ := trace.at_event
  have others : ∀ event ∈ later, ∀ again, event ≠ .measures thread again := by
    rintro event member again rfl
    exact one again member
  constructor
  · refine ran.keeps_among ?_ ?_ others
    · cases measured
      simp [Bounded, recvs, Place.remaining]
    · intro events state event next other held step
      have less := step.remaining other
      simp only [Bounded, recvs, List.countP_append, List.countP_singleton] at *
      omega
  · cases measured
    assumption

/-- With one reader at a time, every wait that reports a signal has received a datagram. -/
theorem wait_receives {begun : World} {timeout : Option Nat}
    (before : Trace AloneStep (initial capacity now horizon) first begun)
    (call : Trace AloneStep begun
      (Event.waitBegins thread timeout :: middle ++ [Event.waitReturns thread .signaled]) w)
    (one : ∀ again, .waitBegins thread again ∉ middle) : .receives thread ∈ middle := by
  have forget := fun state event next (step : AloneStep state event next) => step.1
  obtain ⟨early, late, rfl, reader, received⟩ :=
    (wait_returns (before.imp forget) (call.imp forget) one).1 rfl
  obtain ⟨last, called, returns, _⟩ := call.last
  obtain ⟨entered, _, ran⟩ := called.uncons
  have others : ∀ event ∈ early ++ .readable thread :: late,
      ∀ again, event ≠ .waitBegins thread again := by
    rintro event member again rfl
    exact one again member
  have own : Own thread (early ++ .readable thread :: late) last := by
    refine ran.keeps_among ?_ ?_ others
    · simp [Own]
    · intro _ _ _ _ other held step
      exact held.step step other
  have waiting : (last.place thread).Waiting := by
    generalize Outcome.signaled = outcome at returns
    cases returns <;> simp_all [Place.Waiting]
  have member : .receives reader ∈ early ++ .readable thread :: late := by simp [received]
  obtain rfl := own waiting reader member
  exact member

/-- With one reader at a time, no signal is reported twice. -/
theorem signaled_le_sends (trace : Trace AloneStep (initial capacity now horizon) events w) :
    signaledWaits events ≤ sends events := by
  have paid : Paid events w := by
    refine trace.keeps ?_ fun _ _ _ _ paid alone => paid.step alone
    constructor
    case exclusive => simp [Exclusive, initial, Place.Reading]
    case enough => exact Nat.le_refl _
    case ahead => simp [initial, Ahead]
  have balance := sends_balance (trace.imp fun _ _ _ step => step.1)
  have enough := paid.enough
  omega

/-- What every run of an event keeps, and what it keeps in addition while there is one reader at
a time. -/
theorem platform_event_signals (capacity now horizon : Nat) :
    (∀ (first later : List Event) (thread : Nat) (w : World),
      Trace Step (initial capacity now horizon) (first ++ Event.signalBegins thread :: later) w →
      .signalReturns thread none ∈ later → 0 < w.queue ∨ Received later) ∧
    (∀ (first middle : List Event) (thread : Nat) (timeout : Option Nat) (outcome : Outcome)
        (begun w : World),
      Trace Step (initial capacity now horizon) first begun →
      Trace Step begun
        (Event.waitBegins thread timeout :: middle ++ [Event.waitReturns thread outcome]) w →
      (∀ again, .waitBegins thread again ∉ middle) →
      (outcome = .signaled →
        ∃ early late, middle = early ++ Event.readable thread :: late ∧ Received late) ∧
      (outcome = .timedOut →
        ∃ duration, timeout = some duration ∧ begun.now + duration ≤ w.now)) ∧
    (∀ (first later : List Event) (thread count : Nat) (w : World),
      Trace Step (initial capacity now horizon) (first ++ Event.measures thread count :: later) w →
      (∀ again, .measures thread again ∉ later) →
      recvs thread later ≤ count ∧ count < 2 ^ 32) ∧
    (∀ (first middle : List Event) (thread : Nat) (timeout : Option Nat) (begun w : World),
      Trace AloneStep (initial capacity now horizon) first begun →
      Trace AloneStep begun
        (Event.waitBegins thread timeout :: middle ++ [Event.waitReturns thread .signaled]) w →
      (∀ again, .waitBegins thread again ∉ middle) → .receives thread ∈ middle) ∧
    ∀ (events : List Event) (w : World), Trace AloneStep (initial capacity now horizon) events w →
      signaledWaits events ≤ sends events := by
  refine ⟨?_, ?_, ?_, ?_, ?_⟩
  · intro first later thread w trace done
    exact signal_kept trace done
  · intro first middle thread timeout outcome begun w before call one
    exact wait_returns before call one
  · intro first later thread count w trace one
    obtain ⟨bounded, fits⟩ := recvs_bounded trace one
    exact ⟨Nat.le_of_add_right_le bounded, fits⟩
  · intro first middle thread timeout begun w before call one
    exact wait_receives before call one
  · intro events w trace
    exact signaled_le_sends trace

end Runs

def Only (reader : Nat) (w : World) : Prop :=
  ∀ thread, thread ≠ reader → ¬(w.place thread).Reading

theorem Only.goes {reader : Nat} {place : Place} (only : Only reader w)
    (fine : thread = reader ∨ ¬place.Reading) : Only reader (w.goes thread place) := by
  intro other away
  rw [World.goes_place]
  split
  case isTrue same => exact fine.resolve_left (same ▸ away)
  case isFalse => exact only other away

theorem Only.exclusive {reader : Nat} (only : Only reader w) : Exclusive w := by
  intro first second here there
  have one := not_imp_not.mp (only first) here
  have two := not_imp_not.mp (only second) there
  exact one.trans two.symm

structure Solo (reader : Nat) (start : World) (events : List Event) (w : World) : Prop where
  run : Trace AloneStep start events w
  only : Only reader w

theorem Solo.snoc {reader : Nat} {start other : World} {place : Place}
    (solo : Solo reader start events w) (step : Step w event (other.goes thread place))
    (same : other.place = w.place) (fine : thread = reader ∨ ¬place.Reading) :
    Solo reader start (events ++ [event]) (other.goes thread place) := by
  have still : Only reader other := by
    rw [Only, same]
    exact solo.only
  exact ⟨solo.run.snoc ⟨step, (still.goes fine).exclusive⟩, still.goes fine⟩

/-- A signal and then a wait, with nobody else there. -/
theorem platform_event_signals_one : ∃ (begun : World) (middle : List Event) (w : World),
    Trace AloneStep (initial 8 0 1000) [.signalBegins 0, .sends 0, .signalReturns 0 none] begun ∧
    Trace AloneStep begun
      (Event.waitBegins 1 none :: middle ++ [Event.waitReturns 1 .signaled]) w ∧
    .receives 1 ∈ middle := by
  have start : Solo 1 (initial 8 0 1000) [] (initial 8 0 1000) := ⟨.nil, fun _ _ => id⟩
  have begun := start.snoc (@Step.signalBegins _ 0 rfl) rfl (.inr id)
  have sent := begun.snoc (@Step.sends _ 0 rfl (by decide)) rfl (.inr id)
  have signaled := sent.snoc (@Step.signalReturns _ 0 _ rfl) rfl (.inr id)
  have waits : Solo 1 _ [] _ := ⟨.nil, signaled.only⟩
  have entered := waits.snoc (@Step.waitBegins _ 1 rfl) rfl (.inl rfl)
  have polls := entered.snoc (@Step.polls _ 1 _ rfl) rfl (.inl rfl)
  have sees := polls.snoc (@Step.readable _ 1 _ _ rfl (by decide)) rfl (.inl rfl)
  have measured := sees.snoc (@Step.measures _ 1 1 _ rfl (by decide) (by decide)) rfl (.inl rfl)
  have received := measured.snoc (@Step.receives _ 1 _ _ rfl (by decide)) rfl (.inl rfl)
  have drained := received.snoc (@Step.exhausts _ 1 _ rfl) rfl (.inl rfl)
  have returned := drained.snoc (@Step.waitDrained _ 1 _ rfl) rfl (.inl rfl)
  have consumes := (platform_event_signals 8 0 1000).2.2.2.1
  exact ⟨_, [.silent, .readable 1, .measures 1 1, .receives 1, .silent], _, signaled.run,
    returned.run, consumes _ _ _ _ _ _ signaled.run returned.run (by simp)⟩

/-! Two waits for one signal. -/

def twoWaits : List Event :=
  [.signalBegins 0, .sends 0, .signalReturns 0 none, .waitBegins 1 none, .waitBegins 2 none,
   .silent, .silent, .readable 1, .readable 2, .measures 1 1, .receives 1, .silent,
   .waitReturns 1 .signaled, .measures 2 0, .silent, .waitReturns 2 .signaled]

theorem two_waits_report_one_signal :
    ∃ w, Trace Step (initial 8 0 1000) twoWaits w ∧ sends twoWaits = 1 ∧
      signaledWaits twoWaits = 2 ∧ .receives 2 ∉ twoWaits := by
  have begun : Trace Step (initial 8 0 1000) _ _ := Trace.nil.snoc (@Step.signalBegins _ 0 rfl)
  have sent := begun.snoc (@Step.sends _ 0 rfl (by decide))
  have signaled := sent.snoc (@Step.signalReturns _ 0 _ rfl)
  have first := signaled.snoc (@Step.waitBegins _ 1 rfl)
  have second := first.snoc (@Step.waitBegins _ 2 rfl)
  have firstPolls := second.snoc (@Step.polls _ 1 _ rfl)
  have secondPolls := firstPolls.snoc (@Step.polls _ 2 _ rfl)
  -- both see the datagram before either receives it
  have firstSees := secondPolls.snoc (@Step.readable _ 1 _ _ rfl (by decide))
  have secondSees := firstSees.snoc (@Step.readable _ 2 _ _ rfl (by decide))
  have measured := secondSees.snoc (@Step.measures _ 1 1 _ rfl (by decide) (by decide))
  have received := measured.snoc (@Step.receives _ 1 _ _ rfl (by decide))
  have drained := received.snoc (@Step.exhausts _ 1 _ rfl)
  have returned := drained.snoc (@Step.waitDrained _ 1 _ rfl)
  have empty := returned.snoc (@Step.measures _ 2 0 _ rfl (by decide) (by decide))
  have ended := empty.snoc (@Step.exhausts _ 2 _ rfl)
  have reported := ended.snoc (@Step.waitDrained _ 2 _ rfl)
  exact ⟨_, reported, by decide, by decide, by decide⟩

end Bscp.Crosvm.PlatformEvent
