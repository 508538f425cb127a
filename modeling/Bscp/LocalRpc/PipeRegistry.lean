import Mathlib.Data.List.Nodup
import Mathlib.Logic.Function.Basic

/-!
The registry of overlapped pipes (`WindowsOverlappedPipeFd.cpp`). An owner is allocated for each
registration; its deleter runs when the last reference to it goes, and takes the lock of the map
only for the slot. What is done under the lock is one step, as is each native call; any number
of threads take their steps in any order, and other code of the process opens and closes CRT
files of its own.
-/

namespace Bscp.LocalRpc.PipeRegistry

/-! The codes that the functions return. -/

def eio : Int := 5

def ebadf : Int := 9

def enomem : Int := 12

def eacces : Int := 13

def errorCode (e : Nat) : Int :=
  if e = 8 then -enomem else if e = 5 then -eacces else if e = 6 then -ebadf else -eio

inductive Phase where
  | unborn
  /-- In `registerOverlappedPipe`, with a reserved slot. -/
  | opened
  /-- In `registerOverlappedPipe`, with its own handle. -/
  | built
  | shared
  /-- The deleter has begun. -/
  | releasing
  /-- In the deleter, past the native close. -/
  | closed
  | retained
  | deleted
  deriving DecidableEq, Repr

structure Owner where
  handle : Option Nat := none
  slot : Int := -1
  registered : Bool := false
  error : Nat := 0
  phase : Phase := .unborn
  deriving DecidableEq, Repr

/-- A number of the CRT. -/
inductive Slot where
  | free
  | file
  | pipe (owner : Nat)
  deriving DecidableEq, Repr

/-- A map entry: no entry, one with `active` empty, one with an active owner. -/
abbrev Entry := Option (Option Nat)

structure World where
  next : Nat := 0
  owner : Nat → Owner := fun _ => {}
  /-- `pipes`. -/
  pipes : Int → Entry := fun _ => none
  crt : Int → Slot := fun _ => .free
  /-- The leases of callers, those of the functions' locals among them. -/
  leases : List Nat := []
  /-- The calls of `closeOverlappedPipe` that have taken an owner, before and after the reset. -/
  closing : List (Int × Nat) := []
  waiting : List (Int × Nat) := []
  /-- The owners for whose handle `CloseHandle` was called. -/
  closes : List Nat := []

namespace World

def setOwner (w : World) (o : Nat) (value : Owner) : World :=
  { w with owner := Function.update w.owner o value }

section SetOwner

variable (w : World) (o : Nat) (value : Owner)

@[simp, grind =] theorem setOwner_owner (other : Nat) :
    (w.setOwner o value).owner other = if other = o then value else w.owner other := by
  unfold setOwner
  exact Function.update_apply ..

@[simp, grind =] theorem setOwner_pipes : (w.setOwner o value).pipes = w.pipes := rfl

@[simp, grind =] theorem setOwner_crt : (w.setOwner o value).crt = w.crt := rfl

@[simp, grind =] theorem setOwner_next : (w.setOwner o value).next = w.next := rfl

@[simp, grind =] theorem setOwner_leases : (w.setOwner o value).leases = w.leases := rfl

@[simp, grind =] theorem setOwner_closing : (w.setOwner o value).closing = w.closing := rfl

@[simp, grind =] theorem setOwner_closes : (w.setOwner o value).closes = w.closes := rfl

end SetOwner

def held (w : World) (o : Nat) : Bool :=
  o ∈ w.leases || w.closing.any (·.2 = o) || w.pipes (w.owner o).slot = some (some o)

/-- `closeOverlappedPipe` moves the active owner out of the entry. -/
def take (w : World) (fd : Int) (o : Nat) : World :=
  { w with
    pipes := Function.update w.pipes fd (some none)
    closing := (fd, o) :: w.closing }

/-- A reference has gone; with the last one the deleter begins. -/
def letGo (w : World) (o : Nat) : World :=
  if w.held o then w else w.setOwner o { w.owner o with phase := .releasing }

end World

inductive Event where
  /-- `registerOverlappedPipe` and `duplicateOverlappedPipe`: the result, and `*out`. -/
  | registered (result : Int) (out : Int)
  /-- `acquireOverlappedPipe`: the owner that the lease is for. -/
  | acquired (fd : Int) (lease : Option Nat)
  | isSlot (fd : Int) (answer : Bool)
  /-- `closeOverlappedPipe` that takes no owner: nothing if it returned false, else `*result`. -/
  | closed (fd : Int) (result : Option Int)
  /-- `closeOverlappedPipe` that took the owner: `*result`. -/
  | taken (fd : Int) (result : Int)
  deriving DecidableEq, Repr

open World

inductive Step : World → Option Event → World → Prop
  -- other code of the process
  | fileOpens {w : World} (fd : Int) (free : w.crt fd = .free) :
      Step w none { w with crt := Function.update w.crt fd .file }
  | fileCloses {w : World} (fd : Int) (file : w.crt fd = .file) :
      Step w none { w with crt := Function.update w.crt fd .free }
  -- `registerOverlappedPipe`: refused at once, or for want of a number
  | refused (w : World) (result : Int) (failed : result < 0) :
      Step w (some (.registered result (-1))) w
  | reserves {w : World} (fd : Int) (valid : 0 ≤ fd) (free : w.crt fd = .free) :
      Step w none
        { w.setOwner w.next { slot := fd, phase := .opened } with
          next := w.next + 1
          crt := Function.update w.crt fd (.pipe w.next) }
  | duplicates {w : World} {o : Nat} (here : (w.owner o).phase = .opened) (handle : Nat) :
      Step w none (w.setOwner o { w.owner o with handle := some handle, phase := .built })
  -- the duplicate fails, is none of an overlapped pipe, or memory is short
  | gives {w : World} {o : Nat}
      (here : (w.owner o).phase = .opened ∨ (w.owner o).phase = .built) (result : Int)
      (failed : result < 0) :
      Step w (some (.registered result (-1)))
        (w.setOwner o { w.owner o with phase := .releasing })
  -- `emplace` finds an entry
  | collides {w : World} {o : Nat} (here : (w.owner o).phase = .built)
      (taken : w.pipes (w.owner o).slot ≠ none) :
      Step w (some (.registered (-eio) (-1)))
        (w.setOwner o { w.owner o with phase := .releasing })
  | publishes {w : World} {o : Nat} (here : (w.owner o).phase = .built)
      (free : w.pipes (w.owner o).slot = none) :
      Step w (some (.registered 0 (w.owner o).slot))
        { w.setOwner o { w.owner o with registered := true, phase := .shared } with
          pipes := Function.update w.pipes (w.owner o).slot (some (some o))
          leases := o :: w.leases }
  | acquires {w : World} {fd : Int} {o : Nat} (there : w.pipes fd = some (some o)) :
      Step w (some (.acquired fd (some o))) { w with leases := o :: w.leases }
  | acquiresNothing {w : World} (fd : Int) (absent : ∀ o, w.pipes fd ≠ some (some o)) :
      Step w (some (.acquired fd none)) w
  | looks (w : World) (fd : Int) : Step w (some (.isSlot fd (w.pipes fd).isSome)) w
  | copies {w : World} {o : Nat} (lease : o ∈ w.leases) :
      Step w none { w with leases := o :: w.leases }
  | drops {w : World} {o : Nat} (lease : o ∈ w.leases) :
      Step w none (letGo { w with leases := w.leases.erase o } o)
  -- `closeOverlappedPipe`
  | closeMissing {w : World} (fd : Int) (absent : w.pipes fd = none) :
      Step w (some (.closed fd none)) w
  | closeRetired {w : World} (fd : Int) (retired : w.pipes fd = some none) :
      Step w (some (.closed fd (some (-ebadf)))) w
  | closeTakes {w : World} {fd : Int} {o : Nat} (there : w.pipes fd = some (some o)) :
      Step w none (w.take fd o)
  | closeResets {w : World} {fd : Int} {o : Nat} (taken : (fd, o) ∈ w.closing) :
      Step w none
        (letGo { w with
          closing := w.closing.erase (fd, o)
          waiting := (fd, o) :: w.waiting } o)
  | closeReturns {w : World} {fd : Int} {o : Nat} (reset : (fd, o) ∈ w.waiting)
      (still : (w.owner o).phase ≠ .releasing ∧ (w.owner o).phase ≠ .closed) :
      Step w
        (some (.taken fd (if (w.owner o).error ≠ 0 then errorCode (w.owner o).error else 0)))
        { w with waiting := w.waiting.erase (fd, o) }
  -- the deleter: the native close, and then the slot
  | closesNothing {w : World} {o : Nat} (here : (w.owner o).phase = .releasing)
      (null : (w.owner o).handle = none) :
      Step w none (w.setOwner o { w.owner o with phase := .closed })
  | closesHandle {w : World} {o : Nat} (here : (w.owner o).phase = .releasing)
      (handle : (w.owner o).handle ≠ none) :
      Step w none
        { w.setOwner o { w.owner o with handle := none, phase := .closed } with
          closes := o :: w.closes }
  | closeHandleFails {w : World} {o : Nat} (here : (w.owner o).phase = .releasing)
      (handle : (w.owner o).handle ≠ none) (e : Nat) :
      Step w none
        { w.setOwner o { w.owner o with error := e, phase := .retained } with
          closes := o :: w.closes }
  | closesSlot {w : World} {o : Nat} (here : (w.owner o).phase = .closed) :
      Step w none
        { w.setOwner o { w.owner o with phase := .deleted } with
          crt := Function.update w.crt (w.owner o).slot .free
          pipes :=
            if (w.owner o).registered then Function.update w.pipes (w.owner o).slot none
            else w.pipes }
  | closeSlotFails {w : World} {o : Nat} (here : (w.owner o).phase = .closed) :
      Step w none (w.setOwner o { w.owner o with error := 6, phase := .retained })

end Bscp.LocalRpc.PipeRegistry
