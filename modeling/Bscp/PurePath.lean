import Bscp.Python
import Mathlib.Data.List.Basic

/-!
`pathlib.PureWindowsPath`: a text is parsed into a drive, a root and names. Names are compared
without regard to case.
-/

namespace Bscp

structure PurePath where
  drive : Text := []
  root : Text := []
  names : List Text := []
  deriving DecidableEq, Repr

namespace PurePath

def SEP : Char := '\\'

def backslashed (char : Char) : Char := if char = '/' then SEP else char

def upperAscii (char : Char) : Char :=
  if 'a' ≤ char ∧ char ≤ 'z' then Char.ofNat (char.toNat - 32) else char

def UNC : Text := [SEP, SEP, '?', SEP, 'U', 'N', 'C', SEP]

/-- `ntpath.splitroot` of a text without slashes. -/
def splitroot (text : Text) : Text × Text × Text :=
  match text with
  | first :: second :: _ =>
      if first = SEP then
        if second = SEP then
          let start := if (text.take 8).map upperAscii = UNC then 8 else 2
          let server := (text.drop start).takeWhile (· ≠ SEP)
          let behind := (text.drop start).dropWhile (· ≠ SEP)
          let share := behind.tail.takeWhile (· ≠ SEP)
          let finish := start + server.length + 1 + share.length
          if behind = [] ∨ text.length ≤ finish then (text, [], [])
          else (text.take finish, [SEP], text.drop (finish + 1))
        else ([], [SEP], text.tail)
      else if second = ':' then
        if text[2]? = some SEP then (text.take 2, [SEP], text.drop 3)
        else (text.take 2, [], text.drop 2)
      else ([], [], text)
  | [first] => if first = SEP then ([], [SEP], []) else ([], [], text)
  | [] => ([], [], [])

/-- The root that a share has, even if it is not written. -/
def shareRoot (drive root : Text) : Text :=
  let parts := drive.splitOn SEP
  let device (part : Text) : Bool := part ∈ [[], ['?'], ['.'], ['?', '.']]
  if root = [] ∧ drive.head? = some SEP ∧ drive.getLast? ≠ some SEP ∧
      (parts.length = 4 ∧ parts[2]?.all (!device ·) ∨ parts.length = 6) then [SEP] else root

def parse (text : Text) : PurePath :=
  let (drive, root, rest) := splitroot (text.map backslashed)
  { drive := drive
    root := shareRoot drive root
    names := (rest.splitOn SEP).filter fun name => name ≠ [] ∧ name ≠ ['.'] }

def below (path : PurePath) (names : List Text) : PurePath :=
  { path with names := path.names ++ names }

def isAbsolute (path : PurePath) : Bool := path.drive ≠ [] ∧ path.root ≠ []

section Compare

-- `str.lower`
variable (lower : Text → Text)

def join (path other : PurePath) : PurePath :=
  if other.root ≠ [] then
    { other with drive := if other.drive ≠ [] ∨ path.drive = [] then other.drive else path.drive }
  else if other.drive ≠ [] ∧ other.drive ≠ path.drive then
    if lower other.drive ≠ lower path.drive then other
    else { path with drive := other.drive, names := path.names ++ other.names }
  else path.below other.names

def anchor (path : PurePath) : Text := path.drive ++ path.root

def same (path other : PurePath) : Bool :=
  lower path.anchor = lower other.anchor ∧ path.names.map lower = other.names.map lower

def isRelativeTo (path other : PurePath) : Bool :=
  decide (lower path.anchor = lower other.anchor) &&
    (other.names.map lower).isPrefixOf (path.names.map lower)

end Compare

end PurePath

end Bscp
