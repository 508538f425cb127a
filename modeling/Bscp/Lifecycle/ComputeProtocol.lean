import Bscp.Python
import Mathlib.Data.List.Basic
import Mathlib.Algebra.Ring.Nat
import Mathlib.Algebra.Ring.Int.Defs

/-!
`compute_protocol`: the grammar of a VADD command and the check of its response.
Texts are lists of characters; a regular expression of the source is a predicate
on such lists, written in the order of the expression.
-/

namespace Bscp.ComputeProtocol

/-- `[0-9]`, which is ASCII only. -/
def isDigit (char : Char) : Bool := decide ('0' ≤ char ∧ char ≤ '9')

def number (digits : Text) : Nat := digits.foldl (fun value char => value * 10 + (char.toNat - 48)) 0

/-- `[1-9][0-9]{0,limit}` -/
def isPositive (limit : Nat) : Text → Bool
  | [] => false
  | first :: rest => first ≠ '0' && isDigit first && rest.all isDigit && decide (rest.length ≤ limit)

def isUint (text : Text) : Bool := decide (text = ['0']) || isPositive 9 text

def word : Nat := 0xffffffff

def invalid {α : Type} (text : String) : Except Fault α := .error ⟨.valueError, text⟩

/-- The expression has no blank inside a number, so it is read token by token. -/
def parse (command : Text) : Except Fault (Nat × List Nat × List Nat) :=
  match command.splitOn ' ' with
  | name :: count :: tokens =>
      if name = "VADD".toList ∧ count ∈ [['1'], ['2'], ['3'], ['4']] ∧
          2 ≤ tokens.length ∧ tokens.length ≤ 8 ∧ tokens.all isUint then
        let n := number count
        let values := tokens.map number
        if values.length ≠ 2 * n ∨ values.any (decide <| word < ·) then
          invalid "invalid VADD length or uint32"
        else .ok (n, values.take n, values.drop n)
      else invalid "invalid VADD grammar"
  | _ => invalid "invalid VADD grammar"

inductive TaskOutcome where
  | success
  | failed
  deriving DecidableEq, Repr

structure Task where
  outcome : TaskOutcome
  referenceChecked : Bool
  expected : List Nat := []
  actual : List Nat := []
  device : Text := []
  deriving DecidableEq, Repr

def shaderSha256 : Text :=
  "dda872e96a97f60e7ba6d1553fffbe89c41c5a4b7b2d0557e7a833df8d6aabbf".toList

/-- One newline, and it is the last character. -/
def singleLine (text : Text) : Bool := decide (text.getLast? = some '\n' ∧ text.count '\n' = 1)

def isRefusal (response : Text) : Bool :=
  let prepare := "VADD ERR PREPARE reason=".toList
  let api := "VADD ERR PREPARE reason=VULKAN_API vk_result=".toList
  decide (response = "VADD ERR GPU_DISABLED\n".toList) ||
  decide (response = "VADD ERR INPUT\n".toList) ||
  ["NO_HARDWARE_DEVICE", "NO_HARDWARE_COMPUTE_QUEUE", "NO_COHERENT_MEMORY"].any (fun reason =>
    decide (response = prepare ++ reason.toList ++ " vk_result=NONE\n".toList)) ||
  (api.isPrefixOf response && (
    let code := (response.drop api.length).dropLast
    let digits := if code.head? = some '-' then code.tail else code
    response.getLast? = some '\n' && isPositive digits.length digits))

def fields : List String :=
  ["n", "values", "device", "vendor", "deviceid", "type", "queue", "memory", "flags", "dispatch",
    "fence", "shader"]

/-- `part.partition('=')` with the check of the key. -/
def field (key : String) (part : Text) : Except Fault Text :=
  if (key.toList ++ ['=']).isPrefixOf part then .ok (part.drop (key.length + 1))
  else invalid "unknown: response key/order"

def numeric (text : Text) : Except Fault Nat :=
  if isUint text ∧ number text ≤ word then .ok (number text)
  else invalid "unknown: numeric metadata"

def vector (count : Nat) (text : Text) : Except Fault (List Nat) :=
  if (text.splitOn ',').all isUint then
    let values := (text.splitOn ',').map number
    if values.length ≠ count ∨ values.any (decide <| word < ·) then invalid "unknown: vector size"
    else .ok values
  else invalid "unknown: vector metadata"

def hexDigit (char : Char) : Option Nat :=
  if isDigit char then some (char.toNat - 48)
  else if 'a' ≤ char ∧ char ≤ 'f' then some (char.toNat - 87)
  else none

/-- `bytes.fromhex` of an even number of lower-case digits. -/
def fromHex : Text → Option (List UInt8)
  | [] => some []
  | high :: low :: rest => do
      let first ← hexDigit high
      let second ← hexDigit low
      let bytes ← fromHex rest
      some (UInt8.ofNat (16 * first + second) :: bytes)
  | [_] => none

def deviceName (text : Text) : Except Fault Text :=
  match fromHex text with
  | some bytes =>
      if 1 ≤ bytes.length ∧ bytes.length ≤ 255 then
        match String.fromUTF8? ⟨bytes.toArray⟩ with
        | some name => .ok name.toList
        | none => .error ⟨.unicodeDecodeError, "utf-8"⟩
      else invalid "unknown: device name"
  | none => invalid "unknown: device name"

/-- The checks of an `OK` line, in the order of the source. -/
def validateFields (n : Nat) (a b : List Nat) (shader : Text) (parts : List Text) :
    Except Fault Task := do
  let values ← (fields.zip parts).mapM fun pair => field pair.1 pair.2
  match values with
  | [count, sums, device, vendor, deviceid, type, queue, memory, flags, dispatch, fence, built] =>
      let count ← numeric count
      let _ ← numeric vendor
      let _ ← numeric deviceid
      let type ← numeric type
      let _ ← numeric queue
      let dispatched ← numeric dispatch
      let fenced ← numeric fence
      let actual ← vector n sums
      let memory ← vector 3 memory
      let flags ← vector 3 flags
      let device ← deviceName device
      if '\x00' ∈ device ∨ count ≠ n ∨ type ∉ [1, 2] ∨ dispatched ≠ 1 ∨ fenced ≠ 0 ∨
          built ≠ shader then
        invalid "unknown: GPU execution identity"
      else if flags.any (fun flag => flag &&& 6 ≠ 6) ∨ memory.any (32 ≤ ·) then
        invalid "unknown: coherent memory identity"
      else
        let expected := List.zipWith (fun x y => (x + y) % 2 ^ 32) a b
        .ok { outcome := if expected = actual then .success else .failed
              referenceChecked := true, expected := expected, actual := actual, device := device }
  | _ => invalid "unknown: response shape"

def validateResponse (command response : Text) : Except Fault Task := do
  let (n, a, b) ← parse command
  if 2048 < response.length ∨ ¬ singleLine response then
    invalid "unknown: incomplete VADD response"
  else if isRefusal response then
    .ok { outcome := .failed, referenceChecked := false }
  else if "VADD UNKNOWN ".toList.isPrefixOf response then
    invalid "unknown: Guest retained submission"
  else
    match response.dropLast.splitOn ' ' with
    | first :: second :: parts =>
        if first = "VADD".toList ∧ second = "OK".toList ∧ parts.length = fields.length then
          validateFields n a b shaderSha256 parts
        else invalid "unknown: response shape"
    | _ => invalid "unknown: response shape"

end Bscp.ComputeProtocol
