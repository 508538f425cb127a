import Mathlib.Data.List.Chain
import Mathlib.Algebra.Ring.Nat
import Bscp.WindowsPath
import Bscp.Virtmgr.WindowsProcess

/-!
What a launch hands to the system (`wide`, `quote`, `ordinal`, `lock_ancestors` and
`spawn_prepared` in `libs/desktop_host/src/windows_process.rs`): its command line and its
environment block, and the checks on the way. Strings are lists of the UTF-16 units that
`encode_wide` gives.
-/

namespace Bscp.Virtmgr.WindowsCommand

open Argv
open WindowsPath (Component components isAbsolute)
open WindowsProcess (Failure)

def EQUALS : Unit16 := 0x3d

/-- Nothing for `InvalidInput`, here and below. -/
def wide (text : Wide) : Option Wide := if NUL ∈ text then none else some (text ++ [NUL])

/-! ### The command line -/

/-- One unit of the loop of `quote`, on what is out and the backslashes that are not. -/
def quoteStep (state : Wide × Nat) (unit : Unit16) : Wide × Nat :=
  if unit = BACKSLASH then (state.1, state.2 + 1)
  else if unit = QUOTE then
    (state.1 ++ List.replicate (state.2 * 2 + 1) BACKSLASH ++ [unit], 0)
  else (state.1 ++ List.replicate state.2 BACKSLASH ++ [unit], 0)

def quote (argument : Wide) : Option Wide :=
  if NUL ∈ argument then none
  else
    let (out, slashes) := argument.foldl quoteStep ([QUOTE], 0)
    some (out ++ List.replicate (slashes * 2) BACKSLASH ++ [QUOTE])

def appendArguments : Wide → List Wide → Option Wide
  | command, [] => some command
  | command, argument :: rest => do
      let quoted ← quote argument
      appendArguments (command ++ [SPACE] ++ quoted) rest

def commandLine (executable : Wide) (arguments : List Wide) : Option Wide := do
  let command ← quote executable
  let command ← appendArguments command arguments
  return command ++ [NUL]

/-! ### The environment block -/

abbrev Environment := List (Wide × Wide)

def I32_MAX : Nat := 2 ^ 31 - 1

section Environment

-- `CompareStringOrdinal`, which is told to ignore case
variable (compareStringOrdinal : Wide → Wide → Ordering)

def ordinal (one two : Wide) : Option Ordering :=
  if one.length ≤ I32_MAX ∧ two.length ≤ I32_MAX then some (compareStringOrdinal one two) else none

/-- What `sort_by` is given. A comparison that fails is taken for equality. -/
def comparison (one two : Wide × Wide) : Ordering :=
  (ordinal compareStringOrdinal one.1 two.1).getD .eq

/-- `sort_error` has been set: of two entries or more, each is compared with another one. -/
def sortFails (environment : Environment) : Bool :=
  2 ≤ environment.length && environment.any fun entry => I32_MAX < entry.1.length

def sortBy (environment : Environment) : Environment :=
  environment.mergeSort fun one two => comparison compareStringOrdinal one two ≠ .gt

def entriesBlock : Wide → Option Wide → Environment → Option Wide
  | block, _, [] => some block
  | block, previous, (key, value) :: rest => do
      if key = [] ∨ EQUALS ∈ key then none
      if let some prior := previous then
        if (← ordinal compareStringOrdinal prior key) = .eq then none
      let entry ← wide (key ++ [EQUALS] ++ value)
      entriesBlock (block ++ entry) (some key) rest

def environmentBlock (environment : Environment) : Option Wide := do
  if sortFails environment then none
  let block ← entriesBlock compareStringOrdinal [] none (sortBy compareStringOrdinal environment)
  let block := block ++ [NUL]
  return if block.length = 1 then block ++ [NUL] else block

structure Launch where
  application : Wide
  command : Wide
  block : Wide

/-- The strings of `spawn_prepared`; nothing if it refuses one of them. -/
def spawnStrings (executable : Wide) (arguments : List Wide) (environment : Environment) :
    Option Launch := do
  let application ← wide executable
  let command ← commandLine executable arguments
  let block ← environmentBlock compareStringOrdinal environment
  return ⟨application, command, block⟩

end Environment

/-! ### The launch -/

structure Metadata where
  isDir : Bool
  isFile : Bool
  reparse : Bool
  deriving DecidableEq, Repr

abbrev FileId := Nat × Nat × Nat

/-- What a launch is told before its process is created, or why it fails. -/
structure Native where
  /-- `open` and `metadata` of a directory, by its components. -/
  directory : List Component → Except Failure Metadata
  image : Except Failure Metadata
  imageId : Except Failure FileId
  expectedId : Except Failure FileId
  /-- What the callback returns. -/
  arguments : Except Failure (List Wide)
  /-- The duplicates of the standard handles. -/
  standard : Except Failure Unit
  attributes : Except Failure Unit
  /-- `SPAWN_GATE` is not poisoned. -/
  gate : Except Failure Unit
  /-- No handle is inheritable, and all are made so. -/
  inheritance : Except Failure Unit

def ensure (ok : Bool) (failure : Failure) : Except Failure Unit :=
  if ok then .ok () else .error failure

/-- `Path::parent`, of a path whose components stand from the last to the first. -/
def parent : List Component → Option (List Component)
  | .normal _ :: rest | .curDir :: rest | .parentDir :: rest => some rest
  | _ => none

def ancestors : List Component → List (List Component)
  | [] => [[]]
  | last :: rest =>
      (last :: rest).reverse :: if (parent (last :: rest)).isSome then ancestors rest else []

def isNormal : Component → Bool
  | .normal _ => true
  | _ => false

def lockAncestor (native : Native) (path : List Component) : Except Failure Unit := do
  let metadata ← native.directory path
  ensure (metadata.isDir && !metadata.reparse) .reparseAncestor

def lockAncestors (native : Native) (executable : Wide) : Except Failure Unit :=
  match components executable with
  | .pre _ (.disk _) :: .rootDir :: rest => do
      ensure (rest.all isNormal) .invalidInput
      match parent (components executable).reverse with
      | none => .error .invalidInput
      | some path => (ancestors path).reverse.forM (lockAncestor native)
  | .pre _ (.disk _) :: _ => .error .invalidInput
  | _ => .error .notLocalDisk

/-- What `spawn_prepared` hands to `CreateProcessW`, or why it returns before. -/
def spawnPrepared (compareStringOrdinal : Wide → Wide → Ordering) (native : Native)
    (executable : Wide) (environment : Environment) : Except Failure Launch := do
  ensure (isAbsolute executable) .invalidInput
  lockAncestors native executable
  let metadata ← native.image
  ensure (metadata.isFile && !metadata.reparse) .notRegularFile
  ensure ((← native.imageId) = (← native.expectedId)) .identityChanged
  let arguments ← native.arguments
  native.standard
  let launch ← (spawnStrings compareStringOrdinal executable arguments environment).elim
    (.error .invalidInput) .ok
  native.attributes
  native.gate
  native.inheritance
  return launch

/-! ### What is asked for -/

def blockStrings : Wide → Wide → List Wide
  | _, [] => []
  | text, unit :: rest =>
      if unit = NUL then
        if text = [] then [] else text :: blockStrings [] rest
      else blockStrings (text ++ [unit]) rest

def splitEntry (entry : Wide) : Wide × Wide :=
  (entry.takeWhile (· ≠ EQUALS), (entry.dropWhile (· ≠ EQUALS)).drop 1)

def decodeBlock (block : Wide) : Environment := (blockStrings [] block).map splitEntry

/-- A file can be opened by this name: no quote is in it, and no separator ends it. -/
def FileName (name : Wide) : Prop := QUOTE ∉ name ∧ ∀ front, name ≠ front ++ [BACKSLASH]

structure Faithful (order : Wide → Wide → Ordering) (executable : Wide) (arguments : List Wide)
    (environment : Environment) (launch : Launch) : Prop where
  application : launch.application = executable ++ [NUL]
  /-- By the rules for arguments alone. -/
  argv : Argv.arguments (launch.command.takeWhile (· ≠ NUL)) = executable :: arguments
  /-- With the rules for the program name, of which a file can be opened. -/
  program : FileName executable →
    Argv.argv (launch.command.takeWhile (· ≠ NUL)) = executable :: arguments
  terminated : ∃ front, launch.block = front ++ [NUL, NUL]
  sorted : (decodeBlock launch.block).Pairwise fun one two => order one.1 two.1 ≠ .gt
  pairs : (decodeBlock launch.block).Perm environment

/-- The executable is a file on a local disk, and the directories above it are such. -/
structure Placed (native : Native) (executable : Wide) : Prop where
  /-- Below the root of a drive, and not the root. -/
  path : ∃ raw letter names, names ≠ [] ∧
    components executable = .pre raw (.disk letter) :: .rootDir :: names.map .normal
  /-- A path is above the executable when its components go on. -/
  above : ∀ front last, components executable = front ++ [last] →
    ∀ directory, directory <+: front → 2 ≤ directory.length →
      ∃ metadata, native.directory directory = .ok metadata ∧ metadata.isDir = true ∧
        metadata.reparse = false
  image : ∃ metadata, native.image = .ok metadata ∧ metadata.isFile = true ∧
    metadata.reparse = false
  /-- It is the file that is expected. -/
  identity : ∃ id, native.imageId = .ok id ∧ native.expectedId = .ok id

structure Passes (native : Native) (executable : Wide) : Prop where
  placed : Placed native executable
  arguments : ∃ arguments, native.arguments = .ok arguments
  standard : native.standard = .ok ()
  attributes : native.attributes = .ok ()
  gate : native.gate = .ok ()
  inheritance : native.inheritance = .ok ()

inductive Refused (order : Wide → Wide → Ordering) (executable : Wide) (arguments : List Wide)
    (environment : Environment) : Prop
  | executable (nul : NUL ∈ executable)
  | argument {argument : Wide} (given : argument ∈ arguments) (nul : NUL ∈ argument)
  | key {entry : Wide × Wide} (given : entry ∈ environment)
      (bad : entry.1 = [] ∨ EQUALS ∈ entry.1)
  | entry {entry : Wide × Wide} (given : entry ∈ environment)
      (nul : NUL ∈ entry.1 ∨ NUL ∈ entry.2)
  | twice (some : ¬environment.Pairwise fun one two => order one.1 two.1 ≠ .eq)

end Bscp.Virtmgr.WindowsCommand
