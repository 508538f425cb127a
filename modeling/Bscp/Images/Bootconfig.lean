import Bscp.DictUpdate
import Bscp.Lines
import Bscp.Struct

/-!
`patch_initrd_bootconfig.py`: lines of keys and values are merged into the trailer of an initrd. The
trailer is the text, its size, the sum of its bytes and a magic.
-/

namespace Bscp.Images.Bootconfig

open Struct (le ofLe slice pack)
open Lines (splitlines unlines Unbroken)

def BOOTCONFIG_MAGIC : Bytes := "#BOOTCONFIG\n".toList.map fun char => UInt8.ofNat char.toNat

/-- A code point of a `str`. A lone surrogate is what an argument has for a byte that is no UTF-8. -/
inductive Point where
  | char (char : Char)
  | surrogate (low : Fin 2048)
  deriving DecidableEq

abbrev Str := List Point

def ofText (text : Text) : Str := text.map Point.char

def encode : Str → Except Fault Bytes
  | [] => .ok []
  | .char char :: rest => (encode rest).map (String.utf8EncodeChar char ++ ·)
  | .surrogate _ :: _ => .error ⟨.valueError, "surrogates not allowed"⟩

def decode (data : Bytes) : Option Text :=
  (ByteArray.utf8Decode? ⟨data.toArray⟩).map Array.toList

def checksum (data : Bytes) : Nat := (data.map UInt8.toNat).sum % 2 ^ 32

def parseBootconfigTrailer (data : Bytes) : Except Fault (Option (Bytes × Bytes)) :=
  if !BOOTCONFIG_MAGIC.isSuffixOf data then .ok none
  else
    let body := data.take (data.length - BOOTCONFIG_MAGIC.length)
    if body.length < 8 then .error ⟨.valueError, "bootconfig trailer too short"⟩
    else
      let size := ofLe (slice body (body.length - 8) (body.length - 4))
      let sum := ofLe (slice body (body.length - 4) body.length)
      if body.length - 8 < size then .error ⟨.valueError, s!"invalid bootconfig size {size}"⟩
      else
        let bootconfigBytes := slice body (body.length - 8 - size) (body.length - 8)
        if checksum bootconfigBytes ≠ sum then
          .error ⟨.valueError, "bootconfig checksum mismatch"⟩
        else .ok (some (body.take (body.length - 8 - size), bootconfigBytes))

def keyOf (line : Text) : Text := line.takeWhile (· ≠ '=')

structure Merge where
  orderedKeys : List Str := []
  merged : Dict Str Str := []

/-- A key is noted at its first line, and has the last one. -/
def Merge.note (merge : Merge) (key line : Str) : Merge where
  orderedKeys := if key ∈ merge.merged.keys then merge.orderedKeys else merge.orderedKeys ++ [key]
  merged := merge.merged.put key line

def mergeLine (merge : Merge) (rawLine : Text) : Merge :=
  let line := strip rawLine
  if line = [] then merge else merge.note (ofText (keyOf line)) (ofText line)

def updateLine (key value : Str) : Str := key ++ .char '=' :: value

def mergeUpdate (merge : Merge) (update : Str × Str) : Merge :=
  merge.note update.1 (updateLine update.1 update.2)

def joined (lines : List Str) : Str := List.intercalate [.char '\n'] lines ++ [.char '\n']

def mergeBootconfig (existing : Bytes) (updates : Dict Str Str) : Except Fault Bytes :=
  match decode existing with
  | none => .error ⟨.unicodeDecodeError, "utf-8"⟩
  | some text =>
      let merge := (splitlines text).foldl mergeLine {}
      let merge := updates.foldl mergeUpdate merge
      if merge.orderedKeys.isEmpty then .ok []
      else
        let lines := merge.orderedKeys.map fun key => (merge.merged.find key).getD []
        encode (joined lines)

def writeBootconfigTrailer (front bootconfigBytes : Bytes) : Except Fault Bytes := do
  let size ← pack [(4, bootconfigBytes.length)]
  let sum ← pack [(4, checksum bootconfigBytes)]
  return front ++ bootconfigBytes ++ size ++ sum ++ BOOTCONFIG_MAGIC

def patchInitrd (data : Bytes) (updates : Dict Str Str) : Except Fault Bytes := do
  let parsed ← parseBootconfigTrailer data
  let (front, bootconfigBytes) := parsed.getD (data, [])
  let merged ← mergeBootconfig bootconfigBytes updates
  writeBootconfigTrailer front merged

/-! ### What a bootconfig tells -/

def content (text : Text) : List Text := ((splitlines text).map strip).filter (· ≠ [])

def keyText (line : Text) : Text := strip (keyOf line)

def valueText (line : Text) : Option Text :=
  if '=' ∈ line then some (strip ((line.dropWhile (· ≠ '=')).drop 1)) else none

def define (line : Text) : Text × Option Text := (keyText line, valueText line)

def definitions (text : Text) : List (Text × Option Text) := (content text).map define

def parts (data : Bytes) : Except Fault (Bytes × Bytes) :=
  (parseBootconfigTrailer data).map fun parsed => parsed.getD (data, [])

/-! ### Texts as bytes -/

def utf8 (text : Text) : Bytes := text.flatMap String.utf8EncodeChar

theorem encode_ofText (text : Text) : encode (ofText text) = .ok (utf8 text) := by
  induction text with
  | nil => rfl
  | cons char rest next =>
      rw [ofText, List.map_cons, encode, ← ofText, next]
      rfl

/-- What has been encoded was a text. -/
theorem encode_inv {str : Str} {data : Bytes} (encoded : encode str = .ok data) :
    ∃ text, str = ofText text := by
  induction str generalizing data with
  | nil => exact ⟨[], rfl⟩
  | cons point rest next =>
      cases point with
      | surrogate low => cases encoded
      | char char =>
          rw [encode] at encoded
          cases later : encode rest with
          | error fault =>
              rw [later] at encoded
              cases encoded
          | ok bytes =>
              obtain ⟨text, rfl⟩ := next later
              exact ⟨char :: text, rfl⟩

theorem ofText_injective : Function.Injective ofText :=
  List.map_injective_iff.mpr fun _ _ same => Point.char.inj same

theorem decode_utf8 (text : Text) : decode (utf8 text) = some text := by
  have whole : (⟨(utf8 text).toArray⟩ : ByteArray) = text.utf8Encode := by
    rw [List.utf8Encode]
    exact ByteArray.ext (List.data_toByteArray).symm
  rw [decode, whole, List.utf8Decode?_utf8Encode]
  rfl

theorem utf8_injective {first second : Text} (same : utf8 first = utf8 second) :
    first = second := by
  have read := decode_utf8 first
  rw [same, decode_utf8] at read
  exact (Option.some.inj read).symm

/-! ### The trailer -/

theorem checksum_lt (data : Bytes) : checksum data < 256 ^ 4 := Nat.mod_lt _ (by decide)

theorem write_ok {bootconfigBytes : Bytes} (small : bootconfigBytes.length < 2 ^ 32)
    (front : Bytes) : writeBootconfigTrailer front bootconfigBytes =
      .ok (front ++ bootconfigBytes ++ le 4 bootconfigBytes.length ++
        le 4 (checksum bootconfigBytes) ++ BOOTCONFIG_MAGIC) := by
  have size : pack [(4, bootconfigBytes.length)] = .ok (le 4 bootconfigBytes.length) := by
    rw [Struct.pack_ok (by simpa using small)]
    simp [Struct.fields]
  have sum : pack [(4, checksum bootconfigBytes)] = .ok (le 4 (checksum bootconfigBytes)) := by
    rw [Struct.pack_ok (by simpa using checksum_lt bootconfigBytes)]
    simp [Struct.fields]
  simp only [writeBootconfigTrailer, size, sum, bind, Except.bind]
  rfl

theorem write_inv {front bootconfigBytes data : Bytes}
    (written : writeBootconfigTrailer front bootconfigBytes = .ok data) :
    bootconfigBytes.length < 2 ^ 32 := by
  obtain ⟨size, packed, _⟩ := Struct.bind_inv written
  exact (Struct.pack_inv packed).2 _ List.mem_cons_self

/-- What was written is found again. -/
theorem parse_write {front bootconfigBytes data : Bytes}
    (written : writeBootconfigTrailer front bootconfigBytes = .ok data) :
    parseBootconfigTrailer data = .ok (some (front, bootconfigBytes)) := by
  have small := write_inv written
  rw [write_ok small, Except.ok.injEq] at written
  subst written
  let size := le 4 bootconfigBytes.length
  let sum := le 4 (checksum bootconfigBytes)
  let body := front ++ bootconfigBytes ++ size ++ sum
  have size_length : size.length = 4 := Struct.le_length _ _
  have sum_length : sum.length = 4 := Struct.le_length _ _
  have total : body.length = front.length + bootconfigBytes.length + 8 := by
    simp only [body, List.length_append, size_length, sum_length]
  have long : ¬body.length < 8 := by omega
  have magic : BOOTCONFIG_MAGIC.isSuffixOf (body ++ BOOTCONFIG_MAGIC) = true :=
    List.isSuffixOf_iff_suffix.mpr (List.suffix_append _ _)
  have cut : (body ++ BOOTCONFIG_MAGIC).take
      ((body ++ BOOTCONFIG_MAGIC).length - BOOTCONFIG_MAGIC.length) = body := by
    rw [List.length_append, Nat.add_sub_cancel, List.take_left]
  have of_size : slice body (body.length - 8) (body.length - 4) = size := by
    have both : (front ++ bootconfigBytes).length = front.length + bootconfigBytes.length :=
      List.length_append
    have place : body.length - 8 = (front ++ bootconfigBytes).length := by omega
    have stop : body.length - 4 = (front ++ bootconfigBytes).length + size.length := by omega
    rw [place]
    exact Struct.slice_middle (front ++ bootconfigBytes) size sum stop
  have of_sum : slice body (body.length - 4) body.length = sum := by
    have place : body.length - 4 = (front ++ bootconfigBytes ++ size).length := by
      simp only [List.length_append, size_length, total]
      omega
    have whole : body = front ++ bootconfigBytes ++ size ++ sum ++ [] := (List.append_nil _).symm
    rw [place]
    conv => lhs; arg 1; rw [whole]
    exact Struct.slice_middle (front ++ bootconfigBytes ++ size) sum []
      (by simp only [body, List.length_append])
  have number : ofLe size = bootconfigBytes.length := Struct.ofLe_le small
  have summed : ofLe sum = checksum bootconfigBytes := Struct.ofLe_le (checksum_lt _)
  have place : body.length - 8 - bootconfigBytes.length = front.length := by omega
  have of_text : slice body front.length (body.length - 8) = bootconfigBytes := by
    have whole : body = front ++ bootconfigBytes ++ (size ++ sum) := List.append_assoc _ _ _
    have stop : body.length - 8 = front.length + bootconfigBytes.length := by omega
    rw [stop]
    conv => lhs; arg 1; rw [whole]
    exact Struct.slice_middle front bootconfigBytes (size ++ sum) rfl
  have of_front : body.take front.length = front := by
    simp only [body, List.append_assoc, List.take_left]
  have fits : ¬body.length - 8 < bootconfigBytes.length := by omega
  change parseBootconfigTrailer (body ++ BOOTCONFIG_MAGIC) = _
  simp only [parseBootconfigTrailer, magic, Bool.not_true, Bool.false_eq_true, if_false, cut, long,
    of_size, of_sum, number, summed, fits, place, of_text, of_front, ne_eq, not_true_eq_false]

end Bscp.Images.Bootconfig
