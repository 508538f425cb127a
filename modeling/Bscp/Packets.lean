import Mathlib.Data.List.Induction
import Mathlib.Data.List.TakeWhile
import Mathlib.Tactic.Common

/-!
A receive buffer that holds packets. Every turn of a loop takes one whole packet off its front, and
the loop ends when no whole one is there. What comes of a stream does not depend on the reads that
brought it.
-/

namespace Bscp.Packets

/-- Packets and their bytes, and the turn of the loop that reads them: it gives what it has seen
of a packet, and the buffer behind it. -/
structure Format (α β γ : Type) where
  encode : β → List α
  seen : β → γ
  turn : List α → Option (γ × List α)
  nonempty : ∀ packet, encode packet ≠ []
  whole : ∀ packet more, turn (encode packet ++ more) = some (seen packet, more)
  split : ∀ {buffer out rest}, turn buffer = some (out, rest) →
    ∃ packet, seen packet = out ∧ encode packet ++ rest = buffer

variable {α β γ ρ ε : Type}

/-- What the reads brought. A read of nothing is the end of the stream. -/
def received (reads : List (List α)) : List α := (reads.takeWhile fun data => !data.isEmpty).flatten

/-! Packets with a header that tells their size. -/

abbrev Data (α : Type) (limit : Nat) := { data : List α // data.length < limit }

/-- A packet of a header and so many bytes, where all of it is there. -/
def taken (buffer : List α) (header size : Nat) (out : Nat → γ) : Option (γ × List α) :=
  if buffer.length < header then none
  else if buffer.length < header + size then none
  else some (out (header + size), buffer.drop (header + size))

theorem taken_some {buffer rest : List α} {header size : Nat} {out : Nat → γ} {result : γ} :
    taken buffer header size out = some (result, rest) ↔
      header + size ≤ buffer.length ∧ result = out (header + size) ∧
        rest = buffer.drop (header + size) := by
  unfold taken
  split
  · simp only [reduceCtorEq, false_iff]
    omega
  · split
    · simp only [reduceCtorEq, false_iff]
      omega
    · simp only [Option.some.injEq, Prod.mk.injEq]
      constructor
      · rintro ⟨rfl, rfl⟩
        exact ⟨by omega, rfl, rfl⟩
      · rintro ⟨_, rfl, rfl⟩
        exact ⟨rfl, rfl⟩

theorem taken_grows {buffer : List α} {header size : Nat} {out : Nat → γ}
    (enough : header + size ≤ buffer.length) : taken buffer header size out ≠ none := by
  have found : taken buffer header size out =
      some (out (header + size), buffer.drop (header + size)) :=
    taken_some.mpr ⟨enough, rfl, rfl⟩
  rw [found]
  exact Option.some_ne_none _

/-- The bytes of a packet with more behind them. -/
theorem taken_whole {head data more : List α} {header size : Nat} {out : Nat → γ}
    (first : head.length = header) (rest : data.length = size) :
    taken (head ++ (data ++ more)) header size out = some (out (header + size), more) := by
  have size : (head ++ data).length = header + size := by
    rw [List.length_append, first, rest]
  rw [← List.append_assoc]
  refine taken_some.mpr ⟨?_, rfl, ?_⟩
  · rw [List.length_append, size]
    exact Nat.le_add_right _ _
  · rw [← size, List.drop_left]

/-- The data of a packet all of whose bytes are there. -/
theorem measured {tail : List α} {size limit : Nat} (enough : size ≤ tail.length)
    (small : size < limit) :
    ∃ data : Data α limit, data.val.length = size ∧ data.val = tail.take size :=
  ⟨⟨tail.take size, by rw [List.length_take_of_le enough]; exact small⟩,
    List.length_take_of_le enough, rfl⟩

namespace Format

variable (f : Format α β γ)

def stream (packets : List β) : List α := packets.flatMap f.encode

def Grows : Prop := ∀ buffer, ∃ more, f.turn (buffer ++ more) ≠ none

def Incomplete (rest : List α) : Prop := ∃ packet, f.encode packet ≠ rest ∧ rest <+: f.encode packet

def drain : Nat → List α → Option (List γ × List α)
  | 0, _ => none
  | fuel + 1, buffer =>
      match f.turn buffer with
      | none => some ([], buffer)
      | some (out, rest) => (drain fuel rest).map fun later => (out :: later.1, later.2)

section Loop

variable (act : γ → Except ε (List ρ))

/-- The inner loop, for so many turns: what it sends, and what it leaves in the buffer. -/
def rounds : Nat → List α → Option (List ρ × Except ε (List α))
  | 0, _ => none
  | fuel + 1, buffer =>
      match f.turn buffer with
      | none => some ([], .ok buffer)
      | some (out, rest) =>
          match act out with
          | .error fault => some ([], .error fault)
          | .ok replies => (rounds fuel rest).map fun later => (replies ++ later.1, later.2)

def serve (fuel : Nat) : List α → List (List α) → Option (List ρ × Except ε (List α))
  | buffer, [] => some ([], .ok buffer)
  | buffer, data :: reads =>
      if data.isEmpty then some ([], .ok buffer)
      else
        match f.rounds act fuel (buffer ++ data) with
        | none => none
        | some (replies, .error fault) => some (replies, .error fault)
        | some (replies, .ok rest) =>
            (serve fuel rest reads).map fun later => (replies ++ later.1, later.2)

end Loop

inductive Yields : List α → List γ → List α → Prop
  | stop {buffer : List α} (short : f.turn buffer = none) : Yields buffer [] buffer
  | turn {buffer rest last : List α} {out : γ} {outs : List γ} (whole : f.turn buffer = some (out, rest))
      (more : Yields rest outs last) : Yields buffer (out :: outs) last

variable {f}

theorem turn_append {buffer rest : List α} {out : γ} (whole : f.turn buffer = some (out, rest))
    (more : List α) : f.turn (buffer ++ more) = some (out, rest ++ more) := by
  obtain ⟨packet, rfl, rfl⟩ := f.split whole
  rw [List.append_assoc, f.whole]

theorem turn_shorter {buffer rest : List α} {out : γ} (whole : f.turn buffer = some (out, rest)) :
    rest.length < buffer.length := by
  obtain ⟨packet, rfl, rfl⟩ := f.split whole
  have some_bytes := List.length_pos_iff.mpr (f.nonempty packet)
  rw [List.length_append]
  omega

/-- The loop ends at the beginning of a packet: more bytes would make one of it. -/
theorem incomplete_of_none (grows : f.Grows) {rest : List α} (short : f.turn rest = none) :
    f.Incomplete rest := by
  obtain ⟨more, grown⟩ := grows rest
  obtain ⟨result, found⟩ := Option.ne_none_iff_exists'.mp grown
  obtain ⟨packet, _, same⟩ := f.split found
  rcases List.append_eq_append_iff.mp same with ⟨onward, shape, _⟩ | ⟨behind, shape, _⟩
  · -- A whole packet at the front would have been taken off.
    rw [shape, f.whole] at short
    cases short
  · refine ⟨packet, fun all => ?_, behind, shape.symm⟩
    have taken : f.turn (f.encode packet ++ []) = some (f.seen packet, []) := f.whole packet []
    rw [List.append_nil, all, short] at taken
    cases taken

/-- A packet inside a beginning of another one would be all of that one. -/
theorem none_of_incomplete {rest : List α} (incomplete : f.Incomplete rest) : f.turn rest = none := by
  obtain ⟨packet, other, more, whole⟩ := incomplete
  cases found : f.turn rest with
  | none => rfl
  | some result =>
      have all : f.turn (f.encode packet) = some (f.seen packet, []) := by
        simpa using f.whole packet []
      have longer : f.turn (rest ++ more) = some (result.1, result.2 ++ more) :=
        turn_append found more
      rw [whole, all] at longer
      have none : result.2 ++ more = [] := (congrArg Prod.snd (Option.some.inj longer)).symm
      rw [(List.append_eq_nil_iff.mp none).2, List.append_nil] at whole
      exact absurd whole.symm other

theorem Yields.unique {buffer first second : List α} {outs others : List γ}
    (left : f.Yields buffer outs first) (right : f.Yields buffer others second) :
    outs = others ∧ first = second := by
  induction left generalizing others with
  | stop short =>
      cases right with
      | stop _ => exact ⟨rfl, rfl⟩
      | turn whole _ => cases short.symm.trans whole
  | turn whole _ next =>
      cases right with
      | stop short => cases short.symm.trans whole
      | turn again more =>
          cases whole.symm.trans again
          obtain ⟨rfl, rfl⟩ := next more
          exact ⟨rfl, rfl⟩

/-- A loop that ended goes on where it was, once more has come. -/
theorem Yields.append {first rest more last : List α} {outs later : List γ}
    (begun : f.Yields first outs rest) (goes : f.Yields (rest ++ more) later last) :
    f.Yields (first ++ more) (outs ++ later) last := by
  induction begun with
  | stop _ => exact goes
  | turn whole _ next => exact .turn (turn_append whole more) (next goes)

theorem Yields.ended {buffer last : List α} {outs : List γ} (yields : f.Yields buffer outs last) :
    f.turn last = none := by
  induction yields with
  | stop short => exact short
  | turn _ _ next => exact next

theorem yields_stream {rest : List α} (packets : List β) (short : f.turn rest = none) :
    f.Yields (f.stream packets ++ rest) (packets.map f.seen) rest := by
  induction packets with
  | nil => exact .stop short
  | cons packet packets next =>
      refine .turn ?_ next
      rw [stream, List.flatMap_cons, List.append_assoc, f.whole]
      rfl

/-- Every buffer holds some packets and the beginning of another one. -/
theorem split_stream (buffer : List α) :
    ∃ packets rest, buffer = f.stream packets ++ rest ∧ f.turn rest = none := by
  induction size : buffer.length using Nat.strongRecOn generalizing buffer with
  | ind count next =>
      cases found : f.turn buffer with
      | none => exact ⟨[], buffer, rfl, found⟩
      | some result =>
          obtain ⟨packet, _, rfl⟩ := f.split found
          have less : result.2.length < count := by
            have some_bytes := List.length_pos_iff.mpr (f.nonempty packet)
            rw [List.length_append] at size
            omega
          obtain ⟨packets, rest, same, short⟩ := next _ less result.2 rfl
          refine ⟨packet :: packets, rest, ?_, short⟩
          rw [stream, List.flatMap_cons, List.append_assoc, ← stream, ← same]

theorem split_incomplete (grows : f.Grows) (buffer : List α) :
    ∃ packets rest, buffer = f.stream packets ++ rest ∧ f.Incomplete rest := by
  obtain ⟨packets, rest, same, short⟩ := split_stream (f := f) buffer
  exact ⟨packets, rest, same, incomplete_of_none grows short⟩

theorem yields_exists (buffer : List α) : ∃ outs rest, f.Yields buffer outs rest := by
  obtain ⟨packets, rest, rfl, short⟩ := split_stream (f := f) buffer
  exact ⟨_, rest, yields_stream packets short⟩

theorem Yields.length_le {buffer rest : List α} {outs : List γ} (yields : f.Yields buffer outs rest) :
    rest.length ≤ buffer.length := by
  induction yields with
  | stop _ => exact Nat.le_refl _
  | turn whole _ next => exact Nat.le_trans next (Nat.le_of_lt (turn_shorter whole))

/-- More turns than bytes are enough for the loop to end. -/
theorem drain_yields {buffer rest : List α} {outs : List γ} {fuel : Nat}
    (yields : f.Yields buffer outs rest) (enough : buffer.length < fuel) :
    f.drain fuel buffer = some (outs, rest) := by
  induction yields generalizing fuel with
  | stop short =>
      obtain ⟨fuel, rfl⟩ := Nat.exists_eq_succ_of_ne_zero (Nat.ne_zero_of_lt enough)
      simp [drain, short]
  | turn whole _ next =>
      obtain ⟨fuel, rfl⟩ := Nat.exists_eq_succ_of_ne_zero (Nat.ne_zero_of_lt enough)
      obtain ⟨packet, rfl, rfl⟩ := f.split whole
      have some_bytes := List.length_pos_iff.mpr (f.nonempty packet)
      rw [List.length_append] at enough
      simp [drain, whole, next (show _ < fuel by omega)]

section Loop

variable {act : γ → Except ε (List ρ)} {answer : γ → List ρ} {fuel : Nat}
  (answers : ∀ packet, act (f.seen packet) = .ok (answer (f.seen packet)))
include answers

theorem rounds_yields {buffer rest : List α} {outs : List γ} (yields : f.Yields buffer outs rest)
    (enough : buffer.length < fuel) :
    f.rounds act fuel buffer = some (outs.flatMap answer, .ok rest) := by
  induction yields generalizing fuel with
  | stop short =>
      obtain ⟨fuel, rfl⟩ := Nat.exists_eq_succ_of_ne_zero (Nat.ne_zero_of_lt enough)
      simp [rounds, short]
  | turn whole _ next =>
      obtain ⟨fuel, rfl⟩ := Nat.exists_eq_succ_of_ne_zero (Nat.ne_zero_of_lt enough)
      obtain ⟨packet, rfl, rfl⟩ := f.split whole
      have some_bytes := List.length_pos_iff.mpr (f.nonempty packet)
      rw [List.length_append] at enough
      simp [rounds, whole, answers packet, next (show _ < fuel by omega)]

/-- What comes of some reads is what comes of the stream. -/
theorem serve_yields {buffer rest : List α} {reads : List (List α)} {outs : List γ}
    (ended : f.turn buffer = none) (yields : f.Yields (buffer ++ received reads) outs rest)
    (enough : (buffer ++ received reads).length < fuel) :
    f.serve act fuel buffer reads = some (outs.flatMap answer, .ok rest) := by
  induction reads generalizing buffer outs with
  | nil =>
      rw [received, List.takeWhile_nil, List.flatten_nil, List.append_nil] at yields
      obtain ⟨rfl, rfl⟩ := yields.unique (.stop ended)
      rfl
  | cons data reads next =>
      cases data with
      | nil =>
          have nothing : received ([] :: reads) = ([] : List α) := rfl
          rw [nothing, List.append_nil] at yields
          obtain ⟨rfl, rfl⟩ := yields.unique (.stop ended)
          rfl
      | cons byte data =>
          have more : received ((byte :: data) :: reads) = (byte :: data) ++ received reads := rfl
          rw [more, ← List.append_assoc] at yields enough
          obtain ⟨_, middle, begun⟩ := yields_exists (f := f) (buffer ++ byte :: data)
          obtain ⟨_, last, goes⟩ := yields_exists (f := f) (middle ++ received reads)
          obtain ⟨rfl, rfl⟩ := yields.unique (begun.append goes)
          rw [List.length_append] at enough
          have shorter := begun.length_le
          have first := rounds_yields answers begun (show _ < fuel by omega)
          have later := next begun.ended goes (by rw [List.length_append]; omega)
          simp [serve, first, later]

omit answers in
theorem turn_nil : f.turn [] = none := by
  cases found : f.turn [] with
  | none => rfl
  | some result =>
      obtain ⟨packet, _, same⟩ := f.split found
      exact absurd (List.append_eq_nil_iff.mp same).1 (f.nonempty packet)

/-- What is sent for a stream of packets, however the reads cut it. -/
theorem serve_stream {packets : List β} {rest : List α} {reads : List (List α)}
    (stream : received reads = f.stream packets ++ rest) (incomplete : f.Incomplete rest)
    (enough : (received reads).length < fuel) :
    f.serve act fuel [] reads =
      some (packets.flatMap fun packet => answer (f.seen packet), .ok rest) := by
  have yields : f.Yields ([] ++ received reads) (packets.map f.seen) rest := by
    rw [List.nil_append, stream]
    exact yields_stream packets (none_of_incomplete incomplete)
  rw [serve_yields answers turn_nil yields (by simpa using enough), List.flatMap_map]

end Loop

end Format

/-! Lines, each with a mark behind it. -/

structure Line (mark : α → Bool) where
  body : List α
  ending : α
  plain : ∀ item ∈ body, mark item = false
  ends : mark ending = true

section Lines

variable (mark : α → Bool)

def firstLine (buffer : List α) : Option (List α × List α) :=
  match buffer.dropWhile fun item => !mark item with
  | [] => none
  | _ :: rest => some (buffer.takeWhile (fun item => !mark item), rest)

variable {mark}

theorem firstLine_line {body more : List α} {ending : α} (plain : ∀ item ∈ body, mark item = false)
    (ends : mark ending = true) : firstLine mark (body ++ ending :: more) = some (body, more) := by
  have passes : ∀ item ∈ body, (!mark item) = true := fun item member => by
    rw [plain item member]
    rfl
  unfold firstLine
  rw [List.dropWhile_append_of_pos passes, List.takeWhile_append_of_pos passes,
    List.dropWhile_cons_of_neg (by simp [ends]), List.takeWhile_cons_of_neg (by simp [ends]),
    List.append_nil]

theorem firstLine_split {buffer body rest : List α} (found : firstLine mark buffer = some (body, rest)) :
    ∃ line : Line mark, line.body = body ∧ line.body ++ line.ending :: rest = buffer := by
  unfold firstLine at found
  split at found
  case h_1 => cases found
  case h_2 ending behind shape =>
      cases found
      have plain : ∀ item ∈ buffer.takeWhile (fun item => !mark item), mark item = false :=
        fun item member => by simpa using List.mem_takeWhile_imp member
      have ends : mark ending = true := by
        have head := List.head?_dropWhile_not (fun item => !mark item) buffer
        rw [shape] at head
        simpa using head
      refine ⟨⟨_, ending, plain, ends⟩, rfl, ?_⟩
      rw [← shape, List.takeWhile_append_dropWhile]

/-- No line has ended where there is no mark. -/
theorem firstLine_none {buffer : List α} :
    firstLine mark buffer = none ↔ ∀ item ∈ buffer, mark item = false := by
  have all : (buffer.dropWhile fun item => !mark item) = [] ↔
      ∀ item ∈ buffer, mark item = false := by
    rw [List.dropWhile_eq_nil_iff]
    simp
  rw [← all]
  unfold firstLine
  split
  case h_1 empty => simp [empty]
  case h_2 some => simp [some]

/-- A text and the same text in other letters have the same lines. -/
theorem firstLine_map {other : β → Bool} {change : α → β}
    (same : ∀ item, other (change item) = mark item) (buffer : List α) :
    firstLine other (buffer.map change) =
      (firstLine mark buffer).map fun found => (found.1.map change, found.2.map change) := by
  have passes : (fun item => !other item) ∘ change = fun item => !mark item := by
    funext item
    exact congrArg not (same item)
  unfold firstLine
  rw [List.dropWhile_map, List.takeWhile_map, passes]
  cases buffer.dropWhile fun item => !mark item with
  | nil => rfl
  | cons ending rest => rfl

def lined {ending : α} (_ends : mark ending = true) : Format α (Line mark) (List α) where
  encode line := line.body ++ [line.ending]
  seen := Line.body
  turn := firstLine mark
  nonempty line := by simp
  whole line more := by
    rw [List.append_assoc]
    exact firstLine_line line.plain line.ends
  split found := by
    obtain ⟨line, same, whole⟩ := firstLine_split found
    exact ⟨line, same, by rw [List.append_assoc]; exact whole⟩

/-- The lines that have ended, and what is behind them. -/
theorem splitOnP_stream {ending : α} (ends : mark ending = true) (lines : List (Line mark))
    {rest : List α} (plain : ∀ item ∈ rest, mark item = false) :
    ((lined ends).stream lines ++ rest).splitOnP mark = lines.map Line.body ++ [rest] := by
  induction lines with
  | nil => exact List.splitOnP_eq_singleton plain
  | cons line lines next =>
      have shape : (lined ends).stream (line :: lines) ++ rest =
          line.body ++ line.ending :: ((lined ends).stream lines ++ rest) := by
        simp [Format.stream, lined]
      rw [shape, List.splitOnP_append_cons_of_forall_mem line.plain line.ending line.ends, next]
      rfl

theorem splitOnP_plain {ending : α} (ends : mark ending = true) {buffer segment : List α}
    (member : segment ∈ buffer.splitOnP mark) : ∀ item ∈ segment, mark item = false := by
  obtain ⟨lines, rest, rfl, short⟩ := @Format.split_stream _ _ _ (lined ends) buffer
  have plain := firstLine_none.mp short
  rw [splitOnP_stream ends lines plain] at member
  rcases List.mem_append.mp member with inside | last
  · obtain ⟨line, _, rfl⟩ := List.mem_map.mp inside
    exact line.plain
  · rw [List.mem_singleton.mp last]
    exact plain

theorem yields_splitOnP {ending : α} (ends : mark ending = true) (buffer : List α) :
    (lined ends).Yields buffer (buffer.splitOnP mark).dropLast
      ((buffer.splitOnP mark).getLast (List.splitOnP_ne_nil _ _)) := by
  obtain ⟨lines, rest, same, short⟩ := @Format.split_stream _ _ _ (lined ends) buffer
  have whole : buffer.splitOnP mark = lines.map Line.body ++ [rest] := by
    rw [same]
    exact splitOnP_stream ends lines (firstLine_none.mp short)
  have yields : (lined ends).Yields buffer (lines.map Line.body) rest :=
    same ▸ Format.yields_stream lines short
  simpa [whole] using yields

theorem Format.Yields.mapped {other : β → Bool} {change : α → β} {ending : α} {mapped : β}
    {ends : mark ending = true} {endsMapped : other mapped = true}
    (same : ∀ item, other (change item) = mark item) {buffer rest : List α} {lines : List (List α)}
    (yields : (lined ends).Yields buffer lines rest) :
    (lined endsMapped).Yields (buffer.map change) (lines.map (List.map change))
      (rest.map change) := by
  induction yields with
  | stop short =>
      have none := (firstLine_map same _).trans (congrArg (Option.map _) short)
      exact .stop none
  | turn whole _ next =>
      have found := (firstLine_map same _).trans (congrArg (Option.map _) whole)
      exact .turn found next

end Lines

end Bscp.Packets
