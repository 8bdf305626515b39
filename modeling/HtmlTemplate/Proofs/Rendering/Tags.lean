import HtmlTemplate.Proofs.Rendering.ReadBack
import HtmlTemplate.Proofs.Rendering.Scopes

/-!
# Tags that a rendering enters

A relation says which tags the statements of a template enter and leave in a context, and with which
attributes. A rendering that succeeds writes markup of just these tags, provided that the text which
the template itself brings along has no angle brackets.
-/

namespace HtmlTemplate

/-- The values of attributes, in the order of their declaration. -/
inductive Evaluated (c : Context) : List (Ident × Expr) → List Attribute → Prop where
  | nil : Evaluated c [] []
  | cons {name e v later written} : e.eval c = .ok v → Evaluated c later written →
      Evaluated c ((name, e) :: later) (⟨name.name, v.write⟩ :: written)

mutual

/-- A statement is run to its end in one context, enters and leaves these tags meanwhile, and leaves
the other context behind. -/
inductive Enters : Context → Statement → List Event → Context → Prop where
  | tag {c c' name attributes written body es} : Evaluated c attributes written →
      EntersAll c body es c' →
      Enters c (.tag name attributes body)
        (.enter name.name written :: es ++ [.leave name.name]) c'
  | text {c parts} : (∀ e, Part.splice e ∈ parts → ∃ v, e.eval c = .ok v) →
      Enters c (.text parts) [] c
  | body {c c' condition v body otherwise es} : condition.eval c = .ok v → v.isTruthy = true →
      EntersAll c body es c' → Enters c (.choice condition body otherwise) es c'
  | otherwise {c c' condition v body otherwise es} : condition.eval c = .ok v →
      v.isTruthy = false → EntersAll c otherwise es c' →
      Enters c (.choice condition body otherwise) es c'
  | loop {c name iterable v items body es} : iterable.eval c = .ok v → v.items? = some items →
      Passes c name.name body items es → Enters c (.loop name iterable body) es c
  | assign {c name e v} : e.eval c = .ok v →
      Enters c (.assign name e) [] (c.assign name.name (.value v))

inductive EntersAll : Context → List Statement → List Event → Context → Prop where
  | nil {c} : EntersAll c [] [] c
  | cons {c c' c'' s ss es later} : Enters c s es c' → EntersAll c' ss later c'' →
      EntersAll c (s :: ss) (es ++ later) c''

/-- Each pass of a loop starts in the same context with a frame of its own. -/
inductive Passes : Context → String → List Statement → List Value → List Event → Prop where
  | nil {c name body} : Passes c name body [] []
  | cons {c inner name body v vs es later} : EntersAll (c.push [(name, .value v)]) body es inner →
      Passes c name body vs later → Passes c name body (v :: vs) (es ++ later)

end

/-! ## One run only -/

theorem Evaluated.unique {c : Context} {attributes : List (Ident × Expr)}
    {written written' : List Attribute} (first : Evaluated c attributes written)
    (second : Evaluated c attributes written') : written = written' := by
  induction first generalizing written' with
  | nil =>
    cases second
    rfl
  | cons value _ ih =>
    cases second with
    | cons value' later =>
      rw [value] at value'
      cases value'
      rw [ih later]

mutual

theorem Enters.unique : ∀ {c s es c'}, Enters c s es c' → ∀ {es' c''}, Enters c s es' c'' →
    es = es' ∧ c' = c''
  | _, _, _, _, .tag evaluated body, _, _, .tag evaluated' body' => by
    obtain ⟨rfl, rfl⟩ := body.unique body'
    rw [evaluated.unique evaluated']
    exact ⟨rfl, rfl⟩
  | _, _, _, _, .text _, _, _, .text _ => ⟨rfl, rfl⟩
  | _, _, _, _, .body value truthy body, _, _, .body value' _ body' => body.unique body'
  | _, _, _, _, .body value truthy body, _, _, .otherwise value' falsy _ => by
    rw [value] at value'
    cases value'
    rw [truthy] at falsy
    cases falsy
  | _, _, _, _, .otherwise value falsy other, _, _,
      .otherwise value' _ other' => other.unique other'
  | _, _, _, _, .otherwise value falsy other, _, _, .body value' truthy _ => by
    rw [value] at value'
    cases value'
    rw [truthy] at falsy
    cases falsy
  | _, _, _, _, .loop value items passes, _, _, .loop value' items' passes' => by
    rw [value] at value'
    cases value'
    rw [items] at items'
    cases items'
    exact ⟨passes.unique passes', rfl⟩
  | _, _, _, _, .assign value, _, _, .assign value' => by
    rw [value] at value'
    cases value'
    exact ⟨rfl, rfl⟩

theorem EntersAll.unique : ∀ {c ss es c'}, EntersAll c ss es c' → ∀ {es' c''},
    EntersAll c ss es' c'' → es = es' ∧ c' = c''
  | _, _, _, _, .nil, _, _, .nil => ⟨rfl, rfl⟩
  | _, _, _, _, .cons first later, _, _, .cons first' later' => by
    obtain ⟨rfl, rfl⟩ := first.unique first'
    obtain ⟨rfl, rfl⟩ := later.unique later'
    exact ⟨rfl, rfl⟩

theorem Passes.unique : ∀ {c name body vs es}, Passes c name body vs es → ∀ {es'},
    Passes c name body vs es' → es = es'
  | _, _, _, _, _, .nil, _, .nil => rfl
  | _, _, _, _, _, .cons first later, _, .cons first' later' => by
    obtain ⟨rfl, _⟩ := first.unique first'
    rw [later.unique later']

end

end HtmlTemplate
