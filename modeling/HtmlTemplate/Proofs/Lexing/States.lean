import HtmlTemplate.Proofs.Lexing.Concatenation

/-!
# States of a lexer

The states that a lexer comes to on its way through a source, between two lexemes and between two
steps. What every move keeps holds in all of them.
-/

namespace HtmlTemplate.Lexer

/-- Comes to the other state by returning what is pending, and by a step whenever nothing is. -/
inductive Reaches : Lexer → Lexer → Prop where
  | refl (l : Lexer) : Reaches l l
  | give {l l' : Lexer} {t : Lexeme} {ts : List Lexeme} (before : Reaches l l')
      (owed : l'.pending = t :: ts) : Reaches l { l' with pending := ts }
  | step {l l' l'' : Lexer} (before : Reaches l l') (owes : l'.pending = [])
      (active : l'.mode ≠ .done) (step : l'.step = .ok l'') : Reaches l l''

variable {l l' l'' : Lexer}

theorem Reaches.trans (first : l.Reaches l') (later : l'.Reaches l'') : l.Reaches l'' := by
  induction later with
  | refl => exact first
  | give _ owed ih => exact .give ih owed
  | step _ owes active step ih => exact .step ih owes active step

/-- The states between two lexemes are among them. -/
theorem reaches_of_next {found : Option Lexeme} (next : l.next = .ok (found, l')) :
    l.Reaches l' := by
  fun_induction Lexer.next l with
  | case1 l t pending owed =>
    cases next
    exact .give (.refl l) owed
  | case2 l owes active l'' step ih =>
    exact (Reaches.step (.refl l) owes active step).trans (ih next)
  | case3 => cases next
  | case4 l owes =>
    cases next
    exact .refl _

theorem reaches_idle (l : Lexer) : l.Reaches l.idle := by
  generalize owed : l.pending = ts
  induction ts generalizing l with
  | nil =>
    rw [idle_eq owed]
    exact .refl l
  | cons t ts ih => exact (Reaches.give (.refl l) owed).trans (ih { l with pending := ts } rfl)

/-- What is still to be read in a state belongs to what was to be read before. -/
theorem Reaches.leads (reaches : l.Reaches l') : ∃ ts, l.Leads ts l' := by
  induction reaches with
  | refl => exact ⟨[], .refl _⟩
  | give _ owed ih =>
    obtain ⟨ts, leads⟩ := ih
    exact ⟨ts ++ [_], leads.trans (lexemes_of_pending owed)⟩
  | @step l' l'' _ owes active step ih =>
    obtain ⟨ts, leads⟩ := ih
    have same : l'.lexemes = l''.lexemes :=
      (lexemes_of_step owes active step).trans l''.lexemes_eq_after_pending.symm
    refine ⟨ts, ?_⟩
    rw [Leads, ← same]
    exact leads

/-- What moves keep, whatever is pending, holds in all states. -/
theorem Reaches.keeps {P : Lexer → Prop} (reaches : l.Reaches l') (holds : P l)
    (given : ∀ {l : Lexer} {t : Lexeme} {ts : List Lexeme}, l.pending = t :: ts → P l →
      P { l with pending := ts })
    (kept : ∀ {l l' : Lexer}, l.Moves l' → P l → P l') : P l' := by
  induction reaches with
  | refl => exact holds
  | give _ owed ih => exact given owed ih
  | step _ _ active step ih => exact kept (moves_of_step active step) ih

theorem Reaches.markers (reaches : l.Reaches l') : l'.markers = l.markers :=
  reaches.keeps (P := fun k => k.markers = l.markers) rfl (fun _ same => same)
    fun move same => move.markers.trans same

theorem Reaches.nested (reaches : l.Reaches l') (nested : l.indents.Nested) : l'.indents.Nested :=
  reaches.keeps (P := fun k => k.indents.Nested) nested (fun _ nested => nested) Moves.nested

theorem Reaches.placed {source : List Char} (reaches : l.Reaches l') (placed : l.Placed source) :
    l'.Placed source := by
  refine reaches.keeps placed (fun owed placed => ?_) Moves.placed
  have lexemes := placed.lexemes
  rw [owed] at lexemes
  exact { placed with lexemes := (List.forall_mem_cons.mp lexemes).2 }

end HtmlTemplate.Lexer
