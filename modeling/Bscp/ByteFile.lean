import Bscp.Struct

/-!
A file that is written from its beginning to its end. A write beyond the end leaves zeros in
between, and cutting a file to a size fills it up with zeros where it was shorter.
-/

namespace Bscp

structure ByteFile where
  data : Bytes := []
  position : Nat := 0
  deriving DecidableEq, Repr

def zeros (count : Nat) : Bytes := List.replicate count 0

@[simp] theorem zeros_length (count : Nat) : (zeros count).length = count := List.length_replicate

theorem zeros_append (first second : Nat) : zeros first ++ zeros second = zeros (first + second) :=
  List.replicate_append_replicate

@[simp] theorem zeros_zero : zeros 0 = [] := rfl

namespace ByteFile

/-- `write`. Nothing happens where there is nothing to write. -/
def write (file : ByteFile) (chunk : Bytes) : ByteFile :=
  if chunk.isEmpty then file
  else
    { data := (file.data ++ zeros (file.position - file.data.length)).take file.position ++ chunk ++
        file.data.drop (file.position + chunk.length)
      position := file.position + chunk.length }

def seek (file : ByteFile) (position : Nat) : ByteFile := { file with position := position }

def skip (file : ByteFile) (count : Nat) : ByteFile := file.seek (file.position + count)

def truncate (file : ByteFile) (size : Nat) : ByteFile :=
  { file with data := file.data.take size ++ zeros (size - file.data.length) }

def AtEnd (file : ByteFile) : Prop := file.data.length ≤ file.position

def laid (file : ByteFile) : Bytes := file.data ++ zeros (file.position - file.data.length)

variable {file : ByteFile}

theorem laid_length (atEnd : file.AtEnd) : file.laid.length = file.position := by
  unfold AtEnd at atEnd
  rw [laid, List.length_append, zeros_length]
  omega

theorem write_data {chunk : Bytes} (atEnd : file.AtEnd) (some_bytes : chunk ≠ []) :
    (file.write chunk).data = file.laid ++ chunk := by
  have cut : file.laid.take file.position = file.laid :=
    List.take_of_length_le (Nat.le_of_eq (laid_length atEnd))
  have none : file.data.drop (file.position + chunk.length) = [] :=
    List.drop_eq_nil_of_le (Nat.le_trans atEnd (Nat.le_add_right _ _))
  have nonempty : chunk.isEmpty = false := by simpa using some_bytes
  rw [write, nonempty]
  simp only [Bool.false_eq_true, if_false, none, List.append_nil]
  exact congrArg (· ++ chunk) cut

@[simp] theorem write_position (file : ByteFile) (chunk : Bytes) :
    (file.write chunk).position = file.position + chunk.length := by
  cases chunk with
  | nil => rfl
  | cons byte rest => rfl

theorem write_atEnd (atEnd : file.AtEnd) (chunk : Bytes) : (file.write chunk).AtEnd := by
  by_cases empty : chunk = []
  · rw [empty]
    exact atEnd
  · unfold AtEnd
    apply Nat.le_of_eq
    rw [write_data atEnd empty, write_position, List.length_append, laid_length atEnd]

theorem write_laid (atEnd : file.AtEnd) (chunk : Bytes) :
    (file.write chunk).laid = file.laid ++ chunk := by
  by_cases empty : chunk = []
  · rw [empty, List.append_nil]
    rfl
  · have whole := write_data atEnd empty
    have full : (file.write chunk).position - (file.write chunk).data.length = 0 := by
      rw [whole, write_position, List.length_append, laid_length atEnd]
      omega
    rw [laid, full, zeros_zero, List.append_nil, whole]

theorem seek_atEnd (atEnd : file.AtEnd) {position : Nat} (onward : file.position ≤ position) :
    (file.seek position).AtEnd := Nat.le_trans atEnd onward

theorem seek_laid (atEnd : file.AtEnd) {position : Nat} (onward : file.position ≤ position) :
    (file.seek position).laid = file.laid ++ zeros (position - file.position) := by
  unfold AtEnd at atEnd
  have gap : position - file.data.length =
      file.position - file.data.length + (position - file.position) := by
    omega
  rw [laid, laid, List.append_assoc, zeros_append, ← gap]
  rfl

def Stands (file : ByteFile) (bytes : Bytes) : Prop := file.AtEnd ∧ file.laid = bytes

namespace Stands

variable {bytes : Bytes}

theorem start : Stands {} [] := ⟨Nat.le_refl _, rfl⟩

theorem position (stands : file.Stands bytes) : file.position = bytes.length := by
  rw [← stands.2, laid_length stands.1]

theorem write (stands : file.Stands bytes) (chunk : Bytes) :
    (file.write chunk).Stands (bytes ++ chunk) :=
  ⟨write_atEnd stands.1 chunk, by rw [write_laid stands.1, stands.2]⟩

theorem seek (stands : file.Stands bytes) {place : Nat} (onward : bytes.length ≤ place) :
    (file.seek place).Stands (bytes ++ zeros (place - bytes.length)) := by
  have here := stands.position
  rw [← here] at onward ⊢
  exact ⟨seek_atEnd stands.1 onward, by rw [seek_laid stands.1 onward, stands.2]⟩

theorem skip (stands : file.Stands bytes) (count : Nat) :
    (file.skip count).Stands (bytes ++ zeros count) := by
  have there := stands.seek (Nat.le_add_right bytes.length count)
  rw [Nat.add_sub_cancel_left, ← stands.position] at there
  exact there

theorem write_data (stands : file.Stands bytes) {chunk : Bytes} (some_bytes : chunk ≠ []) :
    (file.write chunk).data = bytes ++ chunk := by
  rw [ByteFile.write_data stands.1 some_bytes, stands.2]

/-- A file that is cut has so many of the bytes, and zeros behind them. -/
theorem truncate_data (stands : file.Stands bytes) (size : Nat) :
    (file.truncate size).data = bytes.take size ++ zeros (size - bytes.length) := by
  rw [← stands.position, ← stands.2]
  unfold Stands AtEnd at stands
  simp only [truncate, laid, List.take_append, zeros, List.take_replicate, List.append_assoc,
    List.replicate_append_replicate]
  congr 2
  omega

end Stands

end ByteFile

end Bscp
