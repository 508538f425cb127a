import Bscp.FreshTree
import Bscp.PurePath
import Bscp.Regex

/-!
The Guest files that a Windows instance starts with: what `validate_layout`
(`windows_initial.py`) accepts, and where `windows_layout` (`runtime.py`) copies them.
-/

namespace Bscp.WindowsLayout

open PurePath

def APPROVED_ROOT : PurePath :=
  parse "E:/bscp/out/aosp17-windows-formal-v1461/runtime-private-v1550".toList

def STATE_ROOT : PurePath := APPROVED_ROOT.below ["run-gpu-v1774".toList]

def SOURCES : PurePath := APPROVED_ROOT.below ["assets".toList, "guest".toList]

/-! ### Components -/

/-- A letter of a pattern and a letter of a text, for `re.I`. -/
def ignoreCase (pattern char : Char) : Bool :=
  upperAscii char = pattern || (pattern = 'I' && (char = 'ı' || char = 'İ'))

def word (text : String) : Regex Char :=
  text.toList.foldr (fun char rest => .seq (.one (ignoreCase char)) rest) .empty

def digit : Regex Char := .one fun char => ('1' ≤ char ∧ char ≤ '9') ∨ char ∈ ['¹', '²', '³']

/-- `(CON|PRN|AUX|NUL|CONIN\$|CONOUT\$|COM[1-9¹²³]|LPT[1-9¹²³])(?:\..*)?` -/
def reserved : Regex Char :=
  .seq
    (.alt (word "CON") (.alt (word "PRN") (.alt (word "AUX") (.alt (word "NUL")
      (.alt (word "CONIN$") (.alt (word "CONOUT$")
        (.alt (.seq (word "COM") digit) (.seq (word "LPT") digit))))))))
    (.alt .empty (.seq (.one (· = '.')) (.star (.one (· ≠ '\n')))))

def badComponent (value : Text) : Bool :=
  decide (value ∈ [[], ['.', '.'], ['.']]) ||
    (decide (value.getLast? = some ' ') || decide (value.getLast? = some '.')) ||
    value.any (fun char => decide (char.toNat < 32) || decide (char ∈ "<>:\"|?*".toList)) ||
    reserved.accepts value

/-! ### The list -/

/-- A row with the four members, which may be of any type. -/
structure Row where
  source : Reply Text
  relative : Reply Text
  bytes : Reply Int
  sha256 : Reply Text
  deriving DecidableEq, Repr

/-- Nothing for a row with other members. -/
structure Profile where
  layout : Option (Reply (List (Option Row)))
  instanceRoot : Text

def raise {α : Type} (kind : Exc) (text : String) : Except Fault α := .error ⟨kind, text⟩

def hexDigest (text : Text) : Bool :=
  text.length = 64 && text.all fun char => char.isDigit || ('a' ≤ char ∧ char ≤ 'f')

/-- `pathlib.PurePosixPath(rel).parts`, of a path that is not absolute. -/
def posixParts (rel : Text) : List Text :=
  (rel.splitOn '/').filter fun name => name ≠ [] ∧ name ≠ ['.']

section Validate

-- `str.casefold` of a letter, and `str.lower`
variable (fold : Char → Text) (lower : Text → Text)

def casefold (text : Text) : Text := text.flatMap fold

/-- One round of the loop of `validate_layout`, which returns the destinations seen so far. -/
def validateRow (seen : List Text) (row : Option Row) : Except Fault (List Text) :=
  match row with
  | none => raise .valueError "invalid layout entry fields"
  | some row =>
      match row.relative with
      | .other => raise .valueError "layout requires slash-only relative path"
      | .value rel =>
          if rel = [] ∨ '\\' ∈ rel ∨ ':' ∈ rel then
            raise .valueError "layout requires slash-only relative path"
          else if rel.head? = some '/' then
            raise .valueError "layout destination escape or alias"
          else match posixParts rel with
          | [] => raise .other "tuple index out of range"
          | first :: _ =>
              if first ∉ ["apex".toList, "system".toList] ∨ (rel.splitOn '/').any badComponent then
                raise .valueError "layout destination escape or alias"
              else if casefold fold rel ∈ seen then
                raise .valueError "duplicate case-insensitive layout destination"
              else match row.source with
              | .other => raise .typeError "argument should be a str or an os.PathLike object"
              | .value text =>
                  let source := parse text
                  if !source.isAbsolute || !source.isRelativeTo lower SOURCES ||
                      source.names.any badComponent then
                    raise .valueError "layout source outside private Guest assets"
                  else match row.bytes, row.sha256 with
                  | .value bytes, .value digest =>
                      if bytes < 0 || !hexDigest digest then
                        raise .valueError "invalid layout size/hash"
                      else .ok (casefold fold rel :: seen)
                  | _, _ => raise .valueError "invalid layout size/hash"

def validateRows : List Text → List (Option Row) → Except Fault Unit
  | _, [] => .ok ()
  | seen, row :: rest => do
      let seen ← validateRow fold lower seen row
      validateRows seen rest

def validateLayout (p : Profile) : Except Fault Unit :=
  match p.layout with
  | some (.value (row :: rest)) =>
      if !(parse p.instanceRoot).same lower (STATE_ROOT.below ["instances".toList]) then
        raise .valueError "SDK37 Initial instance root differs from approved private root"
      else validateRows fold lower [] (row :: rest)
  | _ => raise .valueError "complete Guest layout required"

end Validate

/-! ### Copying -/

structure Entry where
  source : Text
  relative : Text
  deriving DecidableEq, Repr

def Row.entry (row : Row) : Option Entry :=
  match row.source, row.relative with
  | .value source, .value relative => some { source := source, relative := relative }
  | _, _ => none

def Profile.entries (p : Profile) : List Entry :=
  match p.layout with
  | some (.value rows) => rows.filterMap fun row => row.bind Row.entry
  | _ => []

section Copy

variable (lower : Text → Text) (tree : PurePath)

def destination (rel : Text) : PurePath := tree.join lower (parse rel)

def inTree (rel : Text) : List Text := (destination lower tree rel).names.drop tree.names.length

/-- The loop of `windows_layout` in a fresh instance root, on a file system that `identify`s names;
the sources are as they are listed. -/
def copyLayout {ι : Type} [DecidableEq ι] (identify : Text → ι) (entries : List Entry) :
    Option (FreshTree ι) :=
  ({} : FreshTree ι).createAll
    (entries.map fun entry => (inTree lower tree entry.relative).map identify)

end Copy

end Bscp.WindowsLayout
