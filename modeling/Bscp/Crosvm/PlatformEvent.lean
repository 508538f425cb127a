import Mathlib.Data.List.Basic
import Mathlib.Logic.Function.Basic
import Mathlib.Algebra.Ring.Nat
import Mathlib.Algebra.Ring.Int.Defs

/-!
The event of macOS (`base/src/sys/macos/event.rs`): one datagram socket connected to itself, and
any number of threads that signal it, wait for it and reset it. Every system call is one step, and
between two of them a thread is at one of the places below. The datagrams are all one byte long, so
the queue is their number. Whether a call is interrupted, fails, or returns early is not for the
event to decide: such a step is possible whenever the call is made.
-/

namespace Bscp.Crosvm.PlatformEvent

/-! Darwin's `errno` values. -/

def eintr : Nat := 4

def eio : Nat := 5

def ebadf : Nat := 9

def einval : Nat := 22

def eagain : Nat := 35

def enobufs : Nat := 55

inductive Call where
  | wait
  | reset
  deriving DecidableEq, Repr

inductive Outcome where
  | signaled
  | timedOut
  | failed (errno : Nat)
  deriving DecidableEq, Repr

/-- What `wait_deadline` makes of the result of `drain`. -/
def Outcome.ofDrain : Option Nat → Outcome
  | none => .signaled
  | some errno => .failed errno

inductive Place where
  /-- In no call on the event. -/
  | idle
  /-- At the head of the loop of `signal`. -/
  | signaling
  /-- `send` found the queue full. -/
  | coalescing (errno : Nat)
  /-- `signal` is about to return. -/
  | signaled (error : Option Nat)
  /-- At the head of the loop of `wait_deadline`. -/
  | waiting (deadline : Option Nat)
  | polling (deadline : Option Nat) (timeout : Int)
  /-- `poll` has returned nothing; the clock is read next. -/
  | checking (deadline : Option Nat)
  /-- `wait_deadline` is about to return, without having drained. -/
  | waited (outcome : Outcome)
  /-- In `drain`, before its `ioctl`. -/
  | measuring (call : Call)
  | draining (call : Call) (remaining : Nat)
  | drained (call : Call) (error : Option Nat)
  deriving DecidableEq, Repr

/-- The timeout of `poll`: what is left until the deadline, in whole milliseconds. -/
def pollTimeout (deadline : Option Nat) (now : Nat) : Int :=
  match deadline with
  | none => -1
  | some last => min ((last - now + 999999) / 1000000) (2 ^ 31 - 1)

structure World where
  queue : Nat := 0
  capacity : Nat
  now : Nat := 0
  /-- The last instant there is; `checked_add` returns nothing beyond it. -/
  horizon : Nat
  place : Nat → Place := fun _ => .idle

namespace World

def goes (w : World) (thread : Nat) (place : Place) : World :=
  { w with place := Function.update w.place thread place }

def setQueue (w : World) (queue : Nat) : World := { w with queue := queue }

section Goes

variable (w : World) (thread : Nat) (place : Place)

@[simp, grind =] theorem goes_place (other : Nat) :
    (w.goes thread place).place other = if other = thread then place else w.place other := by
  unfold goes
  exact Function.update_apply ..

@[simp, grind =] theorem goes_queue : (w.goes thread place).queue = w.queue := rfl

@[simp, grind =] theorem goes_now : (w.goes thread place).now = w.now := rfl

@[simp, grind =] theorem setQueue_place (queue : Nat) : (w.setQueue queue).place = w.place := rfl

@[simp, grind =] theorem setQueue_queue (queue : Nat) : (w.setQueue queue).queue = queue := rfl

@[simp, grind =] theorem setQueue_now (queue : Nat) : (w.setQueue queue).now = w.now := rfl

end Goes

end World

inductive Event where
  | silent
  | signalBegins (thread : Nat)
  | sends (thread : Nat)
  | signalReturns (thread : Nat) (error : Option Nat)
  /-- `wait`, or `wait_timeout` with its duration. -/
  | waitBegins (thread : Nat) (timeout : Option Nat)
  /-- The `poll` of a wait returns with `POLLIN`. -/
  | readable (thread : Nat)
  | waitReturns (thread : Nat) (outcome : Outcome)
  | resetBegins (thread : Nat)
  | resetReturns (thread : Nat) (error : Option Nat)
  /-- `FIONREAD` in `drain`. -/
  | measures (thread : Nat) (count : Nat)
  /-- A `recv` that returns a datagram. -/
  | receives (thread : Nat)
  /-- A `recv` that returns none. -/
  | misses (thread : Nat)
  deriving DecidableEq, Repr

inductive Step : World → Event → World → Prop
  | passes {w : World} {now : Nat} (later : w.now ≤ now) : Step w .silent { w with now := now }
  -- `signal`
  | signalBegins {w : World} {thread : Nat} (here : w.place thread = .idle) :
      Step w (.signalBegins thread) (w.goes thread .signaling)
  | sends {w : World} {thread : Nat} (here : w.place thread = .signaling)
      (room : w.queue < w.capacity) :
      Step w (.sends thread) ((w.setQueue (w.queue + 1)).goes thread (.signaled none))
  | sendInterrupted {w : World} {thread : Nat} (here : w.place thread = .signaling) :
      Step w .silent (w.goes thread .signaling)
  | sendFull {w : World} {thread errno : Nat} (here : w.place thread = .signaling)
      (full : errno = eagain ∨ errno = enobufs) :
      Step w .silent (w.goes thread (.coalescing errno))
  | sendFails {w : World} {thread errno : Nat} (here : w.place thread = .signaling)
      (other : errno ≠ eintr ∧ errno ≠ eagain ∧ errno ≠ enobufs) :
      Step w .silent (w.goes thread (.signaled (some errno)))
  | coalesces {w : World} {thread errno : Nat} (here : w.place thread = .coalescing errno)
      (ready : 0 < w.queue) : Step w .silent (w.goes thread (.signaled none))
  -- nothing is readable, or this `poll` fails too
  | refuses {w : World} {thread errno : Nat} (here : w.place thread = .coalescing errno) :
      Step w .silent (w.goes thread (.signaled (some errno)))
  | signalReturns {w : World} {thread : Nat} {error : Option Nat}
      (here : w.place thread = .signaled error) :
      Step w (.signalReturns thread error) (w.goes thread .idle)
  -- `wait` and `wait_timeout`
  | waitBegins {w : World} {thread : Nat} (here : w.place thread = .idle) :
      Step w (.waitBegins thread none) (w.goes thread (.waiting none))
  | waitTimeoutBegins {w : World} {thread timeout : Nat} (here : w.place thread = .idle)
      (fits : w.now + timeout ≤ w.horizon) :
      Step w (.waitBegins thread (some timeout))
        (w.goes thread (.waiting (some (w.now + timeout))))
  | waitTimeoutFails {w : World} {thread timeout : Nat} (here : w.place thread = .idle)
      (beyond : w.horizon < w.now + timeout) :
      Step w (.waitBegins thread (some timeout)) (w.goes thread (.waited (.failed einval)))
  | polls {w : World} {thread : Nat} {deadline : Option Nat}
      (here : w.place thread = .waiting deadline) :
      Step w .silent (w.goes thread (.polling deadline (pollTimeout deadline w.now)))
  | readable {w : World} {thread : Nat} {deadline : Option Nat} {timeout : Int}
      (here : w.place thread = .polling deadline timeout) (ready : 0 < w.queue) :
      Step w (.readable thread) (w.goes thread (.measuring .wait))
  -- a negative timeout never expires; that another one has not expired early is not assumed
  | expires {w : World} {thread : Nat} {deadline : Option Nat} {timeout : Int}
      (here : w.place thread = .polling deadline timeout) (bounded : 0 ≤ timeout) :
      Step w .silent (w.goes thread (.checking deadline))
  | interrupted {w : World} {thread : Nat} {deadline : Option Nat} {timeout : Int}
      (here : w.place thread = .polling deadline timeout) :
      Step w .silent (w.goes thread (.checking deadline))
  -- also when `poll` returns other events than `POLLIN`, with `ebadf` or `eio`
  | pollFails {w : World} {thread errno : Nat} {deadline : Option Nat} {timeout : Int}
      (here : w.place thread = .polling deadline timeout) (other : errno ≠ eintr) :
      Step w .silent (w.goes thread (.waited (.failed errno)))
  | timesOut {w : World} {thread last : Nat} (here : w.place thread = .checking (some last))
      (ended : last ≤ w.now) : Step w .silent (w.goes thread (.waited .timedOut))
  | retries {w : World} {thread : Nat} {deadline : Option Nat}
      (here : w.place thread = .checking deadline)
      (left : ∀ last, deadline = some last → w.now < last) :
      Step w .silent (w.goes thread (.waiting deadline))
  | waitReturns {w : World} {thread : Nat} {outcome : Outcome}
      (here : w.place thread = .waited outcome) :
      Step w (.waitReturns thread outcome) (w.goes thread .idle)
  | waitDrained {w : World} {thread : Nat} {error : Option Nat}
      (here : w.place thread = .drained .wait error) :
      Step w (.waitReturns thread (.ofDrain error)) (w.goes thread .idle)
  -- `reset`
  | resetBegins {w : World} {thread : Nat} (here : w.place thread = .idle) :
      Step w (.resetBegins thread) (w.goes thread (.measuring .reset))
  | resetReturns {w : World} {thread : Nat} {error : Option Nat}
      (here : w.place thread = .drained .reset error) :
      Step w (.resetReturns thread error) (w.goes thread .idle)
  -- `drain`; `FIONREAD` also counts the overhead of the records
  | measures {w : World} {thread count : Nat} {call : Call}
      (here : w.place thread = .measuring call) (enough : w.queue ≤ count)
      (fits : count < 2 ^ 32) :
      Step w (.measures thread count) (w.goes thread (.draining call count))
  | measureFails {w : World} {thread errno : Nat} {call : Call}
      (here : w.place thread = .measuring call) :
      Step w .silent (w.goes thread (.drained call (some errno)))
  | receives {w : World} {thread remaining : Nat} {call : Call}
      (here : w.place thread = .draining call (remaining + 1)) (ready : 0 < w.queue) :
      Step w (.receives thread)
        ((w.setQueue (w.queue - 1)).goes thread (.draining call remaining))
  | missesEmpty {w : World} {thread remaining : Nat} {call : Call}
      (here : w.place thread = .draining call (remaining + 1)) (empty : w.queue = 0) :
      Step w (.misses thread) (w.goes thread (.drained call none))
  -- a datagram of no bytes, which no writer sends, would be `eio`
  | missesFails {w : World} {thread remaining errno : Nat} {call : Call}
      (here : w.place thread = .draining call (remaining + 1)) (other : errno ≠ eagain) :
      Step w (.misses thread) (w.goes thread (.drained call (some errno)))
  | exhausts {w : World} {thread : Nat} {call : Call}
      (here : w.place thread = .draining call 0) :
      Step w .silent (w.goes thread (.drained call none))

def initial (capacity now horizon : Nat) : World :=
  { capacity := capacity, now := now, horizon := horizon }

end Bscp.Crosvm.PlatformEvent
