import Mathlib.Logic.Basic

/-!
Actions on a state that may fail. `Clean` says of an action that a failure leaves the
state as it was; its rules follow the shape of the action.
-/

namespace Bscp.Transaction

variable {ε σ α β : Type}

abbrev Action (ε σ α : Type) := ExceptT ε (StateM σ) α

def Action.on (action : Action ε σ α) (s : σ) : Except ε α × σ := (ExceptT.run action).run s

def refuse (bad : Prop) [Decidable bad] (error : ε) : Action ε σ Unit :=
  if bad then throw error else pure ()

def Clean (s : σ) (action : Action ε σ α) (post : α → σ → Prop) : Prop :=
  (∃ error, action.on s = (.error error, s)) ∨ ∃ value t, action.on s = (.ok value, t) ∧ post value t

section Runs

variable {s : σ}

@[simp] theorem on_pure (value : α) : (pure value : Action ε σ α).on s = (.ok value, s) := rfl

@[simp] theorem on_throw (error : ε) : (throw error : Action ε σ α).on s = (.error error, s) := rfl

@[simp] theorem on_get : (get : Action ε σ σ).on s = (.ok s, s) := rfl

@[simp] theorem on_modify (change : σ → σ) :
    (modify change : Action ε σ Unit).on s = (.ok (), change s) := rfl

theorem on_bind (first : Action ε σ α) (rest : α → Action ε σ β) : (first >>= rest).on s =
    match first.on s with
    | (.ok value, t) => (rest value).on t
    | (.error error, t) => (.error error, t) := by
  simp only [Action.on, ExceptT.run_bind, StateT.run_bind]
  rcases StateT.run (ExceptT.run first) s with ⟨result, t⟩
  cases result <;> rfl

/-- An action that ends well passes its value and its state on. -/
theorem on_bind_ok {first : Action ε σ α} {rest : α → Action ε σ β} {value : α} {t : σ}
    (ends : first.on s = (.ok value, t)) : (first >>= rest).on s = (rest value).on t := by
  rw [on_bind, ends]

theorem on_bind_error {first : Action ε σ α} {rest : α → Action ε σ β} {error : ε} {t : σ}
    (fails : first.on s = (.error error, t)) : (first >>= rest).on s = (.error error, t) := by
  rw [on_bind, fails]

theorem on_refuse_pos {bad : Prop} [Decidable bad] {error : ε} (holds : bad) :
    (refuse bad error : Action ε σ Unit).on s = (.error error, s) := by
  rw [refuse, if_pos holds]
  rfl

theorem on_refuse_neg {bad : Prop} [Decidable bad] {error : ε} (fails : ¬bad) :
    (refuse bad error : Action ε σ Unit).on s = (.ok (), s) := by
  rw [refuse, if_neg fails]
  rfl

end Runs

namespace Clean

variable {s : σ} {post : α → σ → Prop}

theorem ok {action : Action ε σ α} {value : α} {t : σ} (ends : action.on s = (.ok value, t))
    (holds : post value t) : Clean s action post :=
  .inr ⟨value, t, ends, holds⟩

theorem error {action : Action ε σ α} {error : ε} (fails : action.on s = (.error error, s)) :
    Clean s action post :=
  .inl ⟨error, fails⟩

/-- A first part that changes nothing. -/
theorem bind {first : Action ε σ β} {rest : β → Action ε σ α} {found : β → Prop}
    (reads : Clean s first fun value t => t = s ∧ found value)
    (next : ∀ value, found value → Clean s (rest value) post) : Clean s (first >>= rest) post := by
  rcases reads with ⟨error, fails⟩ | ⟨value, t, ends, same, holds⟩
  · exact .error (on_bind_error fails)
  · subst same
    rcases next value holds with ⟨error, fails⟩ | ⟨answer, u, after, reached⟩
    · exact .error ((on_bind_ok ends).trans fails)
    · exact .ok ((on_bind_ok ends).trans after) reached

theorem get {rest : σ → Action ε σ α} (next : Clean s (rest s) post) :
    Clean s (MonadState.get >>= rest) post := by
  have reads : Clean s (MonadState.get : Action ε σ σ) fun value t => t = s ∧ value = s :=
    .ok on_get ⟨rfl, rfl⟩
  exact reads.bind fun value same => same ▸ next

theorem refuse {bad : Prop} [Decidable bad] {error : ε} {rest : Unit → Action ε σ α}
    (next : ¬bad → Clean s (rest ()) post) : Clean s (Transaction.refuse bad error >>= rest) post := by
  by_cases holds : bad
  · exact .error (on_bind_error (on_refuse_pos holds))
  · have passes : Clean s (Transaction.refuse bad error : Action ε σ Unit) fun _ t => t = s ∧ ¬bad :=
      .ok (on_refuse_neg holds) ⟨rfl, holds⟩
    exact passes.bind fun _ => next

/-- An answer that is only repackaged. -/
theorem map {action : Action ε σ β} {wrap : β → α} {found : β → σ → Prop}
    (clean : Clean s action found) (holds : ∀ value t, found value t → post (wrap value) t) :
    Clean s (action >>= fun value => pure (wrap value)) post := by
  rcases clean with ⟨error, fails⟩ | ⟨value, t, ends, reached⟩
  · exact .error (on_bind_error fails)
  · exact .ok (on_bind_ok ends) (holds value t reached)

theorem imp {action : Action ε σ α} {weaker : α → σ → Prop} (clean : Clean s action post)
    (holds : ∀ value t, post value t → weaker value t) : Clean s action weaker := by
  rcases clean with ⟨error, fails⟩ | ⟨value, t, ends, reached⟩
  · exact .error fails
  · exact .ok ends (holds value t reached)

end Clean

end Bscp.Transaction
