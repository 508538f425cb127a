import Mathlib.Data.List.Induction
import Mathlib.Tactic.Common

/-!
Streams of frames, each a header of a fixed size and as much data as the header says. What is
data in a stream is told by reading it item by item: the data of a stream with more to come is
a beginning of the data of the whole, wherever it was cut.
-/

namespace Bscp.Framing

/-- Where a stream stands: inside a header, inside the data, or past a header that says
nothing. -/
inductive Mode (α : Type) where
  | header (seen : List α)
  | data (remaining : Nat)
  | bad
  deriving DecidableEq, Repr

variable {α : Type} (size : Nat) (length : List α → Option Nat)

/-- A header that says 0 or nothing ends all. -/
def opened (header : List α) : Mode α :=
  match length header with
  | some (rest + 1) => .data (rest + 1)
  | _ => .bad

def inside : Nat → Mode α
  | 0 => .header []
  | remaining + 1 => .data (remaining + 1)

def feed (mode : Mode α) (item : α) : Mode α × List α :=
  match mode with
  | .header seen =>
      if (seen ++ [item]).length = size then (opened length (seen ++ [item]), [])
      else (.header (seen ++ [item]), [])
  | .data 0 => (.bad, [])
  | .data (remaining + 1) => (inside remaining, [item])
  | .bad => (.bad, [])

def run (mode : Mode α) : List α → Mode α × List α
  | [] => (mode, [])
  | item :: rest =>
      let next := feed size length mode item
      let last := run next.1 rest
      (last.1, next.2 ++ last.2)

def payload (stream : List α) : List α := (run size length (.header []) stream).2

variable {size length}

theorem run_append (mode : Mode α) (first last : List α) :
    run size length mode (first ++ last) =
      ((run size length (run size length mode first).1 last).1,
        (run size length mode first).2 ++ (run size length (run size length mode first).1 last).2) := by
  induction first generalizing mode with
  | nil => rfl
  | cons item rest ih =>
      simp only [List.cons_append, run, ih, List.append_assoc]

/-- More of a stream is more data behind the data that there was. -/
theorem payload_mono {first whole : List α} (part : first <+: whole) :
    payload size length first <+: payload size length whole := by
  obtain ⟨last, rfl⟩ := part
  unfold payload
  rw [run_append]
  exact List.prefix_append _ _

theorem run_data {remaining : Nat} (data : List α) (within : data.length ≤ remaining) :
    run size length (inside remaining) data = (inside (remaining - data.length), data) := by
  induction data generalizing remaining with
  | nil => rfl
  | cons item rest ih =>
      cases remaining with
      | zero => exact absurd within (Nat.not_succ_le_zero _)
      | succ remaining =>
          have tail := ih (Nat.le_of_succ_le_succ within)
          have one : run size length (inside (remaining + 1)) (item :: rest) =
              ((run size length (inside remaining) rest).1,
                item :: (run size length (inside remaining) rest).2) := rfl
          rw [one, tail, List.length_cons, Nat.add_sub_add_right]

theorem run_header {seen more : List α} (within : (seen ++ more).length < size) :
    run size length (.header seen) more = (.header (seen ++ more), []) := by
  induction more generalizing seen with
  | nil => rw [List.append_nil]; rfl
  | cons item rest ih =>
      have shape : seen ++ item :: rest = (seen ++ [item]) ++ rest := by simp
      rw [shape] at within ⊢
      have short : (seen ++ [item]).length ≠ size := by
        rw [List.length_append] at within
        omega
      simp only [run, feed, if_neg short, ih within, List.append_nil]

/-- A whole header. -/
theorem run_opened {header : List α} (whole : header.length = size) (some_size : 0 < size) :
    run size length (.header []) header = (opened length header, []) := by
  cases List.eq_nil_or_concat header with
  | inl empty =>
      rw [empty] at whole
      exact absurd whole.symm (Nat.pos_iff_ne_zero.1 some_size)
  | inr split =>
      obtain ⟨front, item, rfl⟩ := split
      rw [List.concat_eq_append] at whole ⊢
      have short : (([] : List α) ++ front).length < size := by
        rw [List.length_append, List.length_singleton] at whole
        rw [List.nil_append]
        omega
      rw [run_append, run_header short]
      simp only [run, feed, List.nil_append, if_pos whole]

/-- The rest of a header. -/
theorem run_header_rest {seen more : List α} (whole : (seen ++ more).length = size)
    (short : seen.length < size) :
    run size length (.header seen) more = (opened length (seen ++ more), []) := by
  have all : run size length (.header []) (seen ++ more) = (opened length (seen ++ more), []) :=
    run_opened whole (Nat.zero_lt_of_lt short)
  rw [run_append, run_header (by simpa using short), List.nil_append] at all
  exact all

theorem run_bad (stream : List α) : run size length .bad stream = (.bad, []) := by
  induction stream with
  | nil => rfl
  | cons item rest ih => simp only [run, feed, ih, List.append_nil]

/-- A frame, from one boundary to the next. -/
theorem run_frame {header data : List α} (whole : header.length = size) (some_size : 0 < size)
    (told : length header = some data.length) (some_data : data ≠ []) :
    run size length (.header []) (header ++ data) = (.header [], data) := by
  have opens : opened length header = inside data.length := by
    unfold opened
    rw [told]
    cases data with
    | nil => exact absurd rfl some_data
    | cons item rest => rfl
  rw [run_append, run_opened whole some_size, opens, run_data data (Nat.le_refl _), Nat.sub_self]
  rfl

/-- The beginning of a frame has only data of that frame. -/
theorem run_part {header data part : List α} (whole : header.length = size)
    (some_size : 0 < size) (told : length header = some data.length) (some_data : data ≠ [])
    (begins : part <+: header ++ data) :
    (run size length (.header []) part).2 <+: data := by
  have all : (run size length (.header []) (header ++ data)).2 = data := by
    rw [run_frame whole some_size told some_data]
  have within : payload size length part <+: payload size length (header ++ data) :=
    payload_mono begins
  unfold payload at within
  rwa [all] at within

/-- Any number of frames. -/
theorem run_frames {frame : List α → List α} {datas : List (List α)}
    (each : ∀ data ∈ datas, run size length (.header []) (frame data) = (.header [], data)) :
    run size length (.header []) (datas.map frame).flatten = (.header [], datas.flatten) := by
  induction datas with
  | nil => rfl
  | cons data rest ih =>
      have first := each data List.mem_cons_self
      have others := ih fun data inside => each data (List.mem_cons_of_mem _ inside)
      rw [List.map_cons, List.flatten_cons, List.flatten_cons, run_append, first, others]

/-- At a boundary and before another one, more of the stream begins with a header. -/
theorem run_boundary {stream data : List α} (some_size : 0 < size)
    (whole : run size length (.header []) stream = (.header [], data)) (more : stream ≠ []) :
    size ≤ stream.length ∧ ∃ rest, length (stream.take size) = some (rest + 1) := by
  by_cases short : stream.length < size
  · have partly : run size length (.header []) stream = (.header ([] ++ stream), []) :=
      run_header (by simpa using short)
    rw [List.nil_append, whole] at partly
    exact absurd (Mode.header.inj (congrArg Prod.fst partly)).symm more
  · have enough : size ≤ stream.length := Nat.le_of_not_lt short
    refine ⟨enough, ?_⟩
    have header : run size length (.header []) (stream.take size) =
        (opened length (stream.take size), []) :=
      run_opened (List.length_take_of_le enough) some_size
    rw [← List.take_append_drop size stream, run_append, header] at whole
    cases told : length (stream.take size) with
    | none => simp [opened, told, run_bad] at whole
    | some count =>
        cases count with
        | zero => simp [opened, told, run_bad] at whole
        | succ rest => exact ⟨rest, rfl⟩

/-- Inside the data and before a boundary, all that is left of the data is there. -/
theorem run_inside_whole {remaining : Nat} {stream data : List α}
    (whole : run size length (inside remaining) stream = (.header [], data)) :
    remaining ≤ stream.length := by
  by_contra short
  have partly : run size length (inside remaining) stream =
      (inside (remaining - stream.length), stream) :=
    run_data stream (Nat.le_of_not_le short)
  rw [whole] at partly
  obtain ⟨left, found⟩ : ∃ left, remaining - stream.length = left + 1 :=
    Nat.exists_eq_succ_of_ne_zero (by omega)
  rw [found] at partly
  cases congrArg Prod.fst partly

def Trail (size : Nat) (length : List α → Option Nat) (stream : List α) : Mode α → Prop
  | .header seen => ∃ good, stream = good ++ seen ∧
      (run size length (.header []) good).1 = .header [] ∧ seen.length < size
  | .data remaining => 0 < remaining
  | .bad => ∃ good header rest, stream = good ++ header ++ rest ∧
      (run size length (.header []) good).1 = .header [] ∧ header.length = size ∧
      opened length header = .bad

theorem run_trail (some_size : 0 < size) (stream : List α) :
    Trail size length stream (run size length (.header []) stream).1 := by
  induction stream using List.reverseRecOn with
  | nil => exact ⟨[], rfl, rfl, some_size⟩
  | append_singleton stream item held =>
      have last : (run size length (.header []) (stream ++ [item])).1 =
          (feed size length (run size length (.header []) stream).1 item).1 := by
        rw [run_append]
        rfl
      rw [last]
      cases mode : (run size length (.header []) stream).1 with
      | header seen =>
          rw [mode] at held
          obtain ⟨good, rfl, boundary, short⟩ := held
          simp only [feed]
          split
          case isTrue whole =>
              cases opens : opened length (seen ++ [item]) with
              | header other =>
                  unfold opened at opens
                  split at opens <;> cases opens
              | data remaining =>
                  unfold opened at opens
                  split at opens
                  · cases opens
                    exact Nat.succ_pos _
                  · cases opens
              | bad => exact ⟨good, seen ++ [item], [], by simp, boundary, whole, opens⟩
          case isFalse short' =>
              refine ⟨good, by simp, boundary, ?_⟩
              rw [List.length_append, List.length_singleton] at short' ⊢
              omega
      | data remaining =>
          rw [mode] at held
          cases remaining with
          | zero => exact absurd held (Nat.lt_irrefl 0)
          | succ remaining =>
              cases remaining with
              | zero =>
                  have ended : (run size length (.header []) (stream ++ [item])).1 = .header [] := by
                    rw [last, mode]
                    rfl
                  exact ⟨stream ++ [item], by simp, ended, some_size⟩
              | succ remaining => exact Nat.succ_pos _
      | bad =>
          rw [mode] at held
          obtain ⟨good, header, rest, rfl, found⟩ := held
          exact ⟨good, header, rest ++ [item], by simp, found⟩

/-- A stream goes bad exactly at its first header that says nothing. -/
theorem run_bad_iff (some_size : 0 < size) (stream : List α) :
    (run size length (.header []) stream).1 = .bad ↔
      ∃ good header rest, stream = good ++ header ++ rest ∧
        (run size length (.header []) good).1 = .header [] ∧ header.length = size ∧
        opened length header = .bad := by
  constructor
  · intro bad
    have trail : Trail size length stream (run size length (.header []) stream).1 :=
      run_trail some_size stream
    rwa [bad] at trail
  · rintro ⟨good, header, rest, rfl, boundary, whole, bad⟩
    rw [run_append, run_append, boundary, run_opened whole some_size, bad, run_bad]

end Bscp.Framing
