import Mathlib.Data.List.Lex
import Mathlib.Data.List.Sort
import Mathlib.Data.Prod.Lex

/-!
The factory APEX files of a desktop product (`virtmgr/src/desktop_apex.rs`). A directory gives its
entries in any order, and each of them may fail to be read. Names are the encoded bytes of the
platform's strings, and a path is its components.
-/

namespace Bscp.Virtmgr.DesktopApex

abbrev Bytes := List UInt8

inductive Component where
  | drive (text : Bytes)
  | rootDir
  | curDir
  | parentDir
  | normal (name : Bytes)
  deriving DecidableEq

abbrev Path := List Component

namespace Path

def root : Path := [.rootDir]

def join (path : Path) (name : Bytes) : Path := path ++ [.normal name]

def parent (path : Path) : Option Path :=
  match path.getLast? with
  | none | some (.drive _) | some .rootDir => none
  | some .curDir | some .parentDir | some (.normal _) => some path.dropLast

def fileName (path : Path) : Option Bytes :=
  match path.getLast? with
  | some (.normal name) => some name
  | _ => none

end Path

def order (text : Bytes) : List Nat := text.map UInt8.toNat

/-- Components are compared by their kinds first, in the order above. -/
def Component.key : Component → Nat ×ₗ List Nat
  | .drive text => toLex (0, order text)
  | .rootDir => toLex (1, [])
  | .curDir => toLex (2, [])
  | .parentDir => toLex (3, [])
  | .normal name => toLex (4, order name)

def DOT : UInt8 := 0x2e
def APEX : Bytes := [0x61, 0x70, 0x65, 0x78]
def CAPEX : Bytes := 0x63 :: APEX

def lastDot (name : Bytes) : Option (Bytes × Bytes) :=
  match name.reverse.dropWhile (· != DOT) with
  | [] => none
  | _ :: before => some (before.reverse, (name.reverse.takeWhile (· != DOT)).reverse)

def rsplitFileAtDot (name : Bytes) : Option Bytes × Option Bytes :=
  if name = [DOT, DOT] then (some name, none)
  else
    match lastDot name with
    | none => (none, some name)
    | some (before, after) => if before = [] then (some name, none) else (some before, some after)

def fileStem (name : Bytes) : Option Bytes := (rsplitFileAtDot name).1.or (rsplitFileAtDot name).2

def extension (name : Bytes) : Option Bytes := (rsplitFileAtDot name).1.bind fun _ =>
  (rsplitFileAtDot name).2

inductive Failure where
  /-- What a call of the system answered. -/
  | call (error : Nat)
  | reading (root : Path)
  | notRegular (source : Path)
  | duplicate (name : Bytes)
  | bail (text : String)
  deriving DecidableEq

/-- A `DirEntry`, with what the calls on it answer. -/
structure DirEntry where
  fileName : Bytes
  isFile : Except Failure Bool
  modified : Except Failure Nat

inductive Reading where
  | missing
  | failed
  | entries (list : List (Except Failure DirEntry))

structure Root where
  path : Path
  logical : Path
  reading : Reading

structure Candidate where
  name : Bytes
  source : Path
  logical : Path
  seconds : Nat
  compressed : Bool
  deriving DecidableEq

def isArtifact (name : Bytes) : Bool := extension name = some APEX || extension name = some CAPEX

/-- `to_str`. -/
def isUnicode (text : Bytes) : Bool := ByteArray.validateUTF8 ⟨text.toArray⟩

/-- An ASCII letter or digit, or one of `._-`. -/
def nameByte (byte : UInt8) : Bool :=
  (0x30 ≤ byte && byte ≤ 0x39) || (0x41 ≤ byte && byte ≤ 0x5a) || (0x61 ≤ byte && byte ≤ 0x7a) ||
    byte == DOT || byte == 0x5f || byte == 0x2d

def moduleName (name : Bytes) : Except Failure Bytes :=
  match fileStem name with
  | none => .error (.bail "Invalid APEX filename")
  | some stem =>
      if !isUnicode stem then .error (.bail "Invalid APEX filename")
      else if stem = [] || !stem.all nameByte then .error (.bail "Invalid APEX module name")
      else .ok stem

structure Found where
  seen : List Bytes
  entries : List Candidate

def Root.candidate (root : Root) (file name : Bytes) (seconds : Nat) : Candidate :=
  ⟨name, root.path.join file, root.logical.join file, seconds, extension file = some CAPEX⟩

def visit (root : Root) (found : Found) (entry : Except Failure DirEntry) :
    Except Failure Found := do
  let entry ← entry
  if !isArtifact entry.fileName then return found
  if !(← entry.isFile) then throw (.notRegular (root.path.join entry.fileName))
  let name ← moduleName entry.fileName
  if found.seen.contains name then throw (.duplicate name)
  let seconds ← entry.modified
  return ⟨name :: found.seen, found.entries ++ [root.candidate entry.fileName name seconds]⟩

def readRoot (found : Found) (root : Root) : Except Failure Found :=
  match root.reading with
  | .missing => .ok found
  | .failed => .error (.reading root.path)
  | .entries list => list.foldlM (visit root) found

def Candidate.key (candidate : Candidate) : List Nat ×ₗ List (Nat ×ₗ List Nat) :=
  toLex (order candidate.name, candidate.logical.map Component.key)

def Candidate.Before (one two : Candidate) : Prop := one.key ≤ two.key

instance : DecidableRel Candidate.Before := fun one two =>
  inferInstanceAs (Decidable (one.key ≤ two.key))

def discoverFactory (roots : List Root) : Except Failure (List Candidate) := do
  let found ← roots.foldlM readRoot ⟨[], []⟩
  if found.entries = [] then throw (.bail "Desktop product contains no factory APEX files")
  return found.entries.insertionSort Candidate.Before

/-- `system`, `system_ext`, `product`, `vendor` and `odm`. -/
def PARTITIONS : List Bytes :=
  [[0x73, 0x79, 0x73, 0x74, 0x65, 0x6d],
    [0x73, 0x79, 0x73, 0x74, 0x65, 0x6d, 0x5f, 0x65, 0x78, 0x74],
    [0x70, 0x72, 0x6f, 0x64, 0x75, 0x63, 0x74], [0x76, 0x65, 0x6e, 0x64, 0x6f, 0x72],
    [0x6f, 0x64, 0x6d]]

def logicalPartition (logical : Path) : Except Failure Bytes :=
  match logical.parent.bind Path.parent with
  | none => .error (.bail "Invalid logical APEX partition")
  | some parent =>
      match parent.fileName with
      | none => .error (.bail "Invalid partition name")
      | some partition =>
          if !isUnicode partition then .error (.bail "Invalid partition name")
          else if parent.parent ≠ some Path.root || !PARTITIONS.contains partition then
            .error (.bail "Unsupported logical APEX partition")
          else .ok partition

def factoryPartition (roots : List Root) (name : Bytes) : Except Failure Bytes := do
  let entries ← discoverFactory roots
  match entries.find? fun entry => entry.name == name with
  | none => throw (.bail "APEX module not found")
  | some entry => logicalPartition entry.logical

structure FactoryApex where
  name : Bytes
  path : Path
  sourceTimeSeconds : Nat
  logicalPath : Path
  partition : Bytes

/-- What the calls for a compressed entry answer: opening it as an archive, finding `original_apex`
in it, creating the output, and copying. -/
structure Native where
  archive : Except Failure Unit
  member : Bool
  output : Except Failure Unit
  copied : Except Failure Unit

/-- `factory-apexes`. -/
def CACHE : Bytes :=
  [0x66, 0x61, 0x63, 0x74, 0x6f, 0x72, 0x79, 0x2d, 0x61, 0x70, 0x65, 0x78, 0x65, 0x73]

def outputPath (cache : Path) (name : Bytes) : Path := cache.join (name ++ DOT :: APEX)

def Candidate.path (cache : Path) (entry : Candidate) : Path :=
  if entry.compressed then outputPath cache entry.name else entry.source

/-- The outputs that were created, and how extracting an entry ended. -/
def extract (cache : Path) (native : Native) (entry : Candidate) :
    List Path × Except Failure Unit :=
  if !entry.compressed then ([], .ok ())
  else
    match native.archive with
    | .error error => ([], .error error)
    | .ok _ =>
        if !native.member then ([], .error (.bail "CAPEX missing original_apex"))
        else match native.output with
          | .error error => ([], .error error)
          | .ok _ => ([outputPath cache entry.name], native.copied)

def scanEntries (cache : Path) (native : Candidate → Native) :
    List Candidate → List Path × Except Failure (List FactoryApex)
  | [] => ([], .ok [])
  | entry :: rest =>
      match extract cache (native entry) entry with
      | (created, .error error) => (created, .error error)
      | (created, .ok _) =>
          match logicalPartition entry.logical with
          | .error error => (created, .error error)
          | .ok partition =>
              let later := scanEntries cache native rest
              (created ++ later.1, later.2.map fun rows =>
                ⟨entry.name, entry.path cache, entry.seconds, entry.logical, partition⟩ :: rows)

/-- What is created and the result. The directory for the outputs comes first, if `directory` says
that it can be created. -/
def scanFactory (roots : List Root) (temporary : Path) (directory : Bool)
    (native : Candidate → Native) : List Path × Except Failure (List FactoryApex) :=
  match discoverFactory roots with
  | .error error => ([], .error error)
  | .ok entries =>
      let cache := temporary.join CACHE
      if entries.any Candidate.compressed && !directory then
        ([], .error (.bail "Creating exclusive factory APEX output"))
      else
        let scanned := scanEntries cache native entries
        ((if entries.any Candidate.compressed then [cache] else []) ++ scanned.1, scanned.2)

end Bscp.Virtmgr.DesktopApex
