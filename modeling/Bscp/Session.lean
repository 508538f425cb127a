import Bscp.Script

/-!
Scripts that question an environment. The environment answers from a tape: what
it says to a question depends on how many questions came before, so one tape
stands for one behaviour and all tapes for all of them. Every answered question
is put at the head of a history, newest first, that no script reads.
-/

namespace Bscp

structure Session (δ Ev : Type) where
  data : δ
  turn : Nat := 0
  history : List Ev := []

namespace Session

variable {δ Ev ε α : Type}

/-- A part of the environment: its answer to the question asked at each turn. -/
abbrev Tape (ε α : Type) := Nat → Except ε α

def read : Script (Session δ Ev) ε δ := fun session => (.done session.data, session)

def update (change : δ → δ) : Script (Session δ Ev) ε Unit :=
  Script.modify fun session => { session with data := change session.data }

def mark (event : Ev) : Script (Session δ Ev) ε Unit :=
  Script.modify fun session => { session with history := event :: session.history }

def sense (tape : Nat → α) : Script (Session δ Ev) ε α := fun session =>
  (.done (tape session.turn), { session with turn := session.turn + 1 })

/-- A question that may be refused and leaves no event. -/
def consult (tape : Tape ε α) : Script (Session δ Ev) ε α := fun session =>
  Script.ofExcept (tape session.turn) { session with turn := session.turn + 1 }

def query (tape : Tape ε α) (event : Except ε α → Ev) : Script (Session δ Ev) ε α :=
  fun session =>
    Script.ofExcept (tape session.turn)
      { session with turn := session.turn + 1, history := event (tape session.turn) :: session.history }

end Session

def Lawful {Ev : Type} (permitted : List Ev → Ev → Prop) : List Ev → Prop
  | [] => True
  | event :: earlier => permitted earlier event ∧ Lawful permitted earlier

section Lawful

variable {Ev : Type} {permitted : List Ev → Ev → Prop}

theorem Lawful.at {later earlier : List Ev} {event : Ev}
    (lawful : Lawful permitted (later ++ event :: earlier)) : permitted earlier event := by
  induction later with
  | nil => exact lawful.1
  | cons newest later ih => exact ih lawful.2

end Lawful

namespace Script

open Session

variable {δ Ev ε α : Type} {open_ pre : Session δ Ev → Prop} {fault : ε → Session δ Ev → Prop}

theorem Triple.reading {β : Type} {next : δ → Script (Session δ Ev) ε β}
    {post : β → Session δ Ev → Prop}
    (rest : ∀ data, Triple open_ (fun session => pre session ∧ session.data = data) (next data)
      post fault) :
    Triple open_ pre (Script.andThen read next) post fault :=
  fun session holds => rest session.data session ⟨holds, rfl⟩

theorem Triple.update {change : δ → δ} {post : Unit → Session δ Ev → Prop}
    (entails : ∀ session, pre session → post () { session with data := change session.data }) :
    Triple (ε := ε) open_ pre (update change) post fault :=
  fun session holds => entails session holds

theorem Triple.mark {event : Ev} {post : Unit → Session δ Ev → Prop}
    (entails : ∀ session, pre session → post () { session with history := event :: session.history }) :
    Triple (ε := ε) open_ pre (mark event) post fault :=
  fun session holds => entails session holds

/-- A reading of the environment may be any value and changes nothing but the turn. -/
theorem Triple.sensing {β : Type} {tape : Nat → α} {next : α → Script (Session δ Ev) ε β}
    {post : β → Session δ Ev → Prop}
    (turned : ∀ session turn, pre session → pre { session with turn := turn })
    (rest : ∀ value, Triple open_ pre (next value) post fault) :
    Triple open_ pre (Script.andThen (sense tape) next) post fault :=
  fun session holds => rest _ _ (turned session _ holds)

theorem Triple.consult {tape : Tape ε α}
    (turned : ∀ session turn, pre session → pre { session with turn := turn })
    (refused : ∀ error session, pre session → fault error session) :
    Triple open_ pre (consult tape) (fun _ => pre) fault := by
  intro session holds
  unfold Session.consult
  cases tape session.turn with
  | ok value => exact turned session _ holds
  | error error => exact refused error _ (turned session _ holds)

/-- A question may be answered in any way: both ends are to be shown for an
arbitrary answer. -/
theorem Triple.query {tape : Tape ε α} {event : Except ε α → Ev} {post : α → Session δ Ev → Prop}
    (answered : ∀ session, pre session → ∀ value,
      post value ⟨session.data, session.turn + 1, event (.ok value) :: session.history⟩)
    (refused : ∀ session, pre session → ∀ error,
      fault error ⟨session.data, session.turn + 1, event (.error error) :: session.history⟩) :
    Triple open_ pre (query tape event) post fault := by
  intro session holds
  unfold Session.query
  cases tape session.turn with
  | ok value => exact answered session holds value
  | error error => exact refused session holds error

end Script

end Bscp
