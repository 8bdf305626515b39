import HtmlTemplate.Template.Render

/-!
# Runs of a rendering

What the steps of a rendering do to a context, and when they end with a result.
-/

namespace HtmlTemplate.Render

variable {α β : Type} {c c' : Context}

theorem bind_run (r : Render α) (f : α → Render β) (c : Context) :
    (r >>= f) c = match r c with
      | (.ok a, c') => f a c'
      | (.error e, c') => (.error e, c') := by
  change (ExceptT.bind r f) c = _
  simp only [ExceptT.bind, ExceptT.mk, bind, StateT.bind]
  rcases r c with ⟨result | result, c'⟩ <;> rfl

theorem bind_run_ok {r : Render α} {f : α → Render β} {b : β} :
    (r >>= f) c = (.ok b, c') ↔ ∃ a mid, r c = (.ok a, mid) ∧ f a mid = (.ok b, c') := by
  rw [bind_run]
  generalize r c = outcome
  obtain ⟨failure | a, mid⟩ := outcome
  · constructor
    · rintro ⟨⟩
    · rintro ⟨_, _, ⟨⟩, _⟩
  · constructor
    · intro later
      exact ⟨a, mid, rfl, later⟩
    · rintro ⟨_, _, ⟨⟩, later⟩
      exact later

theorem pure_run_ok {a b : α} : (pure a : Render α) c = (.ok b, c') ↔ a = b ∧ c = c' := by
  constructor
  · rintro ⟨⟩
    exact ⟨rfl, rfl⟩
  · rintro ⟨rfl, rfl⟩
    rfl

theorem evaluate_run_ok {e : Expr} {v : Value} :
    evaluate e c = (.ok v, c') ↔ e.eval c = .ok v ∧ c = c' := by
  constructor
  · intro runs
    obtain ⟨value, same⟩ := Prod.mk.inj runs
    exact ⟨value, same⟩
  · rintro ⟨value, rfl⟩
    rw [evaluate, value]

end HtmlTemplate.Render
