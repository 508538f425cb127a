import Mathlib.Data.List.Basic
import Mathlib.Logic.Function.Basic

/-!
Launching processes with explicitly inherited handles (`libs/desktop_host/src/windows_process.rs`).
Every launch owns duplicates of its own and shows them to the system as inheritable only behind
`SPAWN_GATE`. The table below is the table of the open handles of the process; any number of
launches take their steps in any order, and every system call and the callback may fail. What a
path, a file or the environment is does not matter to the handles: each such check is a step that
passes or fails.
-/

namespace Bscp.Virtmgr.WindowsProcess

inductive Failure where
  /-- `io::Error::last_os_error`. -/
  | os
  | invalidInput
  | notLocalDisk
  | reparseAncestor
  | notRegularFile
  | identityChanged
  | newInheritable
  | alreadyInheritable
  | poisoned
  /-- What the callback returned. -/
  | callback
  deriving DecidableEq, Repr

def Failure.text : Failure → Option String
  | .notLocalDisk => some "absolute local disk path required"
  | .reparseAncestor => some "executable ancestor is not a non-reparse directory"
  | .notRegularFile => some "executable is not a regular non-reparse file"
  | .identityChanged => some "executable identity changed"
  | .newInheritable => some "new duplicate is inheritable"
  | .alreadyInheritable => some "prepared duplicate already inheritable"
  | .poisoned => some "spawn gate poisoned"
  | .os | .invalidInput | .callback => none

inductive Check where
  | absolute
  | ancestors
  | image
  | metadata
  | regular
  | identity
  deriving DecidableEq, Repr

namespace Check

def next : Check → Option Check
  | .absolute => some .ancestors
  | .ancestors => some .image
  | .image => some .metadata
  | .metadata => some .regular
  | .regular => some .identity
  | .identity => none

def failures : Check → List Failure
  | .absolute => [.invalidInput]
  | .ancestors => [.notLocalDisk, .invalidInput, .os, .reparseAncestor]
  | .image => [.os]
  | .metadata => [.os]
  | .regular => [.notRegularFile]
  | .identity => [.os, .identityChanged]

end Check

inductive Build where
  | application
  | command
  | environment
  | attributes
  deriving DecidableEq, Repr

namespace Build

def next : Build → Option Build
  | .application => some .command
  | .command => some .environment
  | .environment => some .attributes
  | .attributes => none

def failures : Build → List Failure
  | .application => [.invalidInput]
  | .command => [.invalidInput]
  | .environment => [.os, .invalidInput]
  | .attributes => [.os]

end Build

structure Standard where
  input : Nat
  output : Nat
  error : Nat
  deriving DecidableEq, Repr

def Standard.list (standard : Standard) : List Nat :=
  [standard.input, standard.output, standard.error]

/-- `Result<Child>`, or nothing at all for a set that its owner drops. -/
inductive Result where
  | discarded
  | failed (failure : Failure)
  | child (process : Nat) (creation : Except Int Nat)

inductive Mode where
  | prepared
  | spawn (rest : List Nat) (standard : Standard)
  deriving DecidableEq, Repr

/-- Where a launch is; `copies` are the values of its duplicates, and those from `start` on are
the standard handles. -/
inductive Place where
  | fresh
  /-- The caller has the `PreparedHandles`. -/
  | collecting (copies : List Nat)
  /-- At the head of the loop of `spawn`. -/
  | looping (rest : List Nat) (standard : Standard) (copies : List Nat)
  /-- In `push_duplicate`, before `GetHandleInformation`. -/
  | pushed (mode : Mode) (copies : List Nat) (original copy : Nat)
  /-- `push_duplicate` drops its copy. -/
  | refusing (mode : Mode) (copies : List Nat) (copy : Nat) (failure : Failure)
  | checking (stage : Check) (standard : Standard) (copies : List Nat)
  | calling (standard : Standard) (copies : List Nat)
  | adding (rest : List Nat) (start : Nat) (copies : List Nat)
  | building (stage : Build) (start : Nat) (copies : List Nat)
  | gating (start : Nat) (copies : List Nat)
  /-- Before `GetHandleInformation` of the next handle, with the gate from here on. -/
  | marking (todo : List Nat) (start : Nat) (copies : List Nat)
  | setting (copy : Nat) (todo : List Nat) (start : Nat) (copies : List Nat)
  | creating (start : Nat) (copies : List Nat)
  /-- `CreateProcessW` has succeeded. -/
  | adopting (copies : List Nat) (process thread : Nat)
  | querying (copies : List Nat) (process : Nat)
  /-- `drop(copies)` with the gate, and without it. -/
  | cleaning (copies : List Nat) (result : Result)
  | unlocking (result : Result)
  | dropping (copies : List Nat) (result : Result)
  | returning (result : Result)
  | gone

namespace Mode

def resume (copies : List Nat) : Mode → Place
  | .prepared => .collecting copies
  | .spawn rest standard => .looping rest standard copies

def fail (copies : List Nat) (failure : Failure) : Mode → Place
  | .prepared => .collecting copies
  | .spawn .. => .dropping copies (.failed failure)

end Mode

def Check.pass (stage : Check) (standard : Standard) (copies : List Nat) : Place :=
  match stage.next with
  | some stage => .checking stage standard copies
  | none => .calling standard copies

def Build.pass (stage : Build) (start : Nat) (copies : List Nat) : Place :=
  match stage.next with
  | some stage => .building stage start copies
  | none => .gating start copies

inductive Owner where
  /-- The callers', and everything else in the process. -/
  | outside
  | duplicate (launch : Nat)
  | process (launch : Nat)
  | thread (launch : Nat)
  deriving DecidableEq, Repr

structure Entry where
  owner : Owner
  inheritable : Bool := false
  deriving DecidableEq, Repr

structure World where
  table : Nat → Option Entry := fun _ => none
  gate : Option Nat := none
  poisoned : Bool := false
  place : Nat → Place := fun _ => .fresh

namespace World

def goes (w : World) (launch : Nat) (place : Place) : World :=
  { w with place := Function.update w.place launch place }

def put (w : World) (value : Nat) (entry : Option Entry) : World :=
  { w with table := Function.update w.table value entry }

def setGate (w : World) (gate : Option Nat) : World := { w with gate := gate }

/-- What `GetHandleInformation` returns for the flag. -/
def inherits (w : World) (value : Nat) : Bool := (w.table value).any (·.inheritable)

/-- `CloseHandle`, whose result nobody looks at. -/
def close (w : World) (value : Nat) (ok : Bool) : World := if ok then w.put value none else w

/-- `CreateProcessW` opens two handles. -/
def create (w : World) (launch process thread : Nat) : World :=
  (w.put process (some { owner := .process launch })).put thread
    (some { owner := .thread launch })

def hand (w : World) : Result → World
  | .child process _ => w.put process (some { owner := .outside })
  | .discarded | .failed _ => w

end World

/-- The steps of a launch that leave the table and the gate alone. -/
inductive Moves (inherits : Nat → Bool) : Place → Place → Prop
  | starts : Moves inherits .fresh (.collecting [])
  | spawns (rest : List Nat) (standard : Standard) :
      Moves inherits .fresh (.looping rest standard [])
  | pushFails (copies : List Nat) : Moves inherits (.collecting copies) (.collecting copies)
  | loopFails (original : Nat) (rest : List Nat) (standard : Standard) (copies : List Nat) :
      Moves inherits (.looping (original :: rest) standard copies) (.dropping copies (.failed .os))
  | refusesUnknown (mode : Mode) (copies : List Nat) (original copy : Nat) :
      Moves inherits (.pushed mode copies original copy) (.refusing mode copies copy .os)
  | refusesInheritable (mode : Mode) (copies : List Nat) (original copy : Nat)
      (flag : inherits copy = true) :
      Moves inherits (.pushed mode copies original copy)
        (.refusing mode copies copy .newInheritable)
  | discards (copies : List Nat) :
      Moves inherits (.collecting copies) (.dropping copies .discarded)
  | checks (stage : Check) (standard : Standard) (copies : List Nat) :
      Moves inherits (.checking stage standard copies) (stage.pass standard copies)
  | checkFails {stage : Check} {failure : Failure} (standard : Standard) (copies : List Nat)
      (possible : failure ∈ stage.failures) :
      Moves inherits (.checking stage standard copies) (.dropping copies (.failed failure))
  | addFails (original : Nat) (rest : List Nat) (start : Nat) (copies : List Nat) :
      Moves inherits (.adding (original :: rest) start copies) (.dropping copies (.failed .os))
  | added (start : Nat) (copies : List Nat) :
      Moves inherits (.adding [] start copies) (.building .application start copies)
  | builds (stage : Build) (start : Nat) (copies : List Nat) :
      Moves inherits (.building stage start copies) (stage.pass start copies)
  | buildFails {stage : Build} {failure : Failure} (start : Nat) (copies : List Nat)
      (possible : failure ∈ stage.failures) :
      Moves inherits (.building stage start copies) (.dropping copies (.failed failure))
  | infoFails (copy : Nat) (todo : List Nat) (start : Nat) (copies : List Nat) :
      Moves inherits (.marking (copy :: todo) start copies) (.cleaning copies (.failed .os))
  | already {copy : Nat} (todo : List Nat) (start : Nat) (copies : List Nat)
      (flag : inherits copy = true) :
      Moves inherits (.marking (copy :: todo) start copies)
        (.cleaning copies (.failed .alreadyInheritable))
  | plain {copy : Nat} (todo : List Nat) (start : Nat) (copies : List Nat)
      (flag : inherits copy = false) :
      Moves inherits (.marking (copy :: todo) start copies) (.setting copy todo start copies)
  | setFails (copy : Nat) (todo : List Nat) (start : Nat) (copies : List Nat) :
      Moves inherits (.setting copy todo start copies) (.cleaning copies (.failed .os))
  | marked (start : Nat) (copies : List Nat) :
      Moves inherits (.marking [] start copies) (.creating start copies)
  | createFails (start : Nat) (copies : List Nat) :
      Moves inherits (.creating start copies) (.cleaning copies (.failed .os))
  -- the identity query fails into the child, not into the result
  | queries (copies : List Nat) (process : Nat) (creation : Except Int Nat) :
      Moves inherits (.querying copies process) (.cleaning copies (.child process creation))
  | cleaned (result : Result) : Moves inherits (.cleaning [] result) (.unlocking result)
  | dropped (result : Result) : Moves inherits (.dropping [] result) (.returning result)

inductive Event where
  | silent
  /-- Something else in the process. -/
  | outside
  | pushes (launch original copy : Nat)
  /-- `spawn_prepared` is entered. -/
  | begins (launch : Nat) (standard : Standard)
  /-- The callback is called. -/
  | sees (launch : Nat) (values : List Nat)
  | adds (launch original copy : Nat)
  | locks (launch : Nat)
  /-- `CreateProcessW` succeeds; its child inherits the handles of the list. -/
  | creates (launch : Nat) (handles standard : List Nat) (process : Nat)
  | closes (launch value : Nat) (ok : Bool)
  | unlocks (launch : Nat)
  | returns (launch : Nat) (result : Result)

inductive Step : World → Event → World → Prop
  | outside {w : World} (table : Nat → Option Entry)
      (own : ∀ value, table value = w.table value ∨
        (∀ entry ∈ w.table value, entry.owner = .outside) ∧
          ∀ entry ∈ table value, entry.owner = .outside) :
      Step w .outside { w with table := table }
  | moves {w : World} {launch : Nat} {place : Place}
      (own : Moves w.inherits (w.place launch) place) : Step w .silent (w.goes launch place)
  -- `DuplicateHandle` returns a value of its own, which is not inheritable
  | duplicates {w : World} {launch original copy : Nat} {copies : List Nat}
      (here : w.place launch = .collecting copies) (live : (w.table original).isSome)
      (new : w.table copy = none) :
      Step w .silent ((w.put copy (some { owner := .duplicate launch })).goes launch
        (.pushed .prepared copies original copy))
  | duplicatesNext {w : World} {launch original copy : Nat} {rest copies : List Nat}
      {standard : Standard} (here : w.place launch = .looping (original :: rest) standard copies)
      (live : (w.table original).isSome) (new : w.table copy = none) :
      Step w .silent ((w.put copy (some { owner := .duplicate launch })).goes launch
        (.pushed (.spawn rest standard) copies original copy))
  | pushes {w : World} {launch original copy : Nat} {mode : Mode} {copies : List Nat}
      (here : w.place launch = .pushed mode copies original copy)
      (flag : w.inherits copy = false) :
      Step w (.pushes launch original copy) (w.goes launch (mode.resume (copies ++ [copy])))
  | refuses {w : World} {launch copy : Nat} {mode : Mode} {copies : List Nat} {failure : Failure}
      (here : w.place launch = .refusing mode copies copy failure) (ok : Bool) :
      Step w (.closes launch copy ok) ((w.close copy ok).goes launch (mode.fail copies failure))
  | begins {w : World} {launch : Nat} {copies : List Nat}
      (here : w.place launch = .collecting copies) (standard : Standard) :
      Step w (.begins launch standard) (w.goes launch (.checking .absolute standard copies))
  | beginsSpawn {w : World} {launch : Nat} {standard : Standard} {copies : List Nat}
      (here : w.place launch = .looping [] standard copies) :
      Step w (.begins launch standard) (w.goes launch (.checking .absolute standard copies))
  | sees {w : World} {launch : Nat} {standard : Standard} {copies : List Nat}
      (here : w.place launch = .calling standard copies) :
      Step w (.sees launch copies)
        (w.goes launch (.adding standard.list copies.length copies))
  | seesFails {w : World} {launch : Nat} {standard : Standard} {copies : List Nat}
      (here : w.place launch = .calling standard copies) :
      Step w (.sees launch copies) (w.goes launch (.dropping copies (.failed .callback)))
  | adds {w : World} {launch original copy start : Nat} {rest copies : List Nat}
      (here : w.place launch = .adding (original :: rest) start copies)
      (live : (w.table original).isSome) (new : w.table copy = none) :
      Step w (.adds launch original copy)
        ((w.put copy (some { owner := .duplicate launch })).goes launch
          (.adding rest start (copies ++ [copy])))
  | locks {w : World} {launch start : Nat} {copies : List Nat}
      (here : w.place launch = .gating start copies) (free : w.gate = none)
      (clean : w.poisoned = false) :
      Step w (.locks launch)
        ((w.setGate (some launch)).goes launch (.marking copies start copies))
  -- the error holds the gate, and is dropped with it at once
  | poisoned {w : World} {launch start : Nat} {copies : List Nat}
      (here : w.place launch = .gating start copies) (free : w.gate = none)
      (poison : w.poisoned = true) :
      Step w .silent (w.goes launch (.dropping copies (.failed .poisoned)))
  | sets {w : World} {launch copy start : Nat} {todo copies : List Nat}
      (here : w.place launch = .setting copy todo start copies) :
      Step w .silent
        ((w.put copy ((w.table copy).map fun entry => { entry with inheritable := true })).goes
          launch (.marking todo start copies))
  | creates {w : World} {launch process thread start : Nat} {copies : List Nat}
      (here : w.place launch = .creating start copies)
      (new : w.table process = none ∧ w.table thread = none ∧ process ≠ thread) :
      Step w (.creates launch copies (copies.drop start) process)
        ((w.create launch process thread).goes launch (.adopting copies process thread))
  | dropsThread {w : World} {launch process thread : Nat} {copies : List Nat}
      (here : w.place launch = .adopting copies process thread) (ok : Bool) :
      Step w .silent ((w.close thread ok).goes launch (.querying copies process))
  | cleans {w : World} {launch copy : Nat} {copies : List Nat} {result : Result}
      (here : w.place launch = .cleaning (copy :: copies) result) (ok : Bool) :
      Step w (.closes launch copy ok) ((w.close copy ok).goes launch (.cleaning copies result))
  | drops {w : World} {launch copy : Nat} {copies : List Nat} {result : Result}
      (here : w.place launch = .dropping (copy :: copies) result) (ok : Bool) :
      Step w (.closes launch copy ok) ((w.close copy ok).goes launch (.dropping copies result))
  | unlocks {w : World} {launch : Nat} {result : Result}
      (here : w.place launch = .unlocking result) :
      Step w (.unlocks launch) ((w.setGate none).goes launch (.returning result))
  | returns {w : World} {launch : Nat} {result : Result}
      (here : w.place launch = .returning result) :
      Step w (.returns launch result) ((w.hand result).goes launch .gone)

def initial (handles : Nat → Option Bool) : World where
  table := fun value => (handles value).map fun inheritable => ⟨.outside, inheritable⟩

end Bscp.Virtmgr.WindowsProcess
