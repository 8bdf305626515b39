import HtmlTemplate.Proofs.Rendering.Runs
import HtmlTemplate.Proofs.Trees.Relocation
import HtmlTemplate.Template.Basic

/-!
# Rendering in another place

Regions only say where a failure lies. So a tree whose regions are replaced writes the same, leaves
the same context, and fails for the same cause; and the statements of one list behind those of
another are rendered in what the first have left.
-/

namespace HtmlTemplate

variable (f : Region → Region)

/-! ## Evaluation -/

/-- An outcome without the place of a failure. -/
def unplaced {α : Type} (x : Except Failure α) : Except FailureCause α := x.mapError Failure.cause

theorem unplaced_bind {α β : Type} (x : Except Failure α) (g : α → Except Failure β) :
    unplaced (x >>= g) = unplaced x >>= fun a => unplaced (g a) := by
  cases x <;> rfl

@[simp] theorem unplaced_ok {α : Type} (a : α) : unplaced (.ok a) = .ok a := rfl

@[simp] theorem unplaced_failAt {α : Type} (region : Region) (x : Except FailureCause α) :
    unplaced (failAt region x) = x := by
  cases x <;> rfl

mutual

theorem Expr.eval_relocate (c : Context) :
    ∀ e : Expr, unplaced ((e.relocate f).eval c) = unplaced (e.eval c)
  | .literal v r => rfl
  | .var name => rfl
  | .array items r => by
    simp only [Expr.relocate, Expr.eval, unplaced_bind, evalItems_relocate c items]
  | .dict entries r => by
    simp only [Expr.relocate, Expr.eval, unplaced_bind, evalEntries_relocate c [] entries]
  | .binary op left right => by
    simp only [Expr.relocate, Expr.eval, unplaced_bind, unplaced_failAt, left.eval_relocate c,
      right.eval_relocate c]
  | .call function arguments r => by
    simp only [Expr.relocate, Ident.relocate, Expr.eval]
    split
    · rfl
    · simp only [unplaced_bind, unplaced_failAt, evalItems_relocate c arguments]

theorem evalItems_relocate (c : Context) : ∀ es : List Expr,
    unplaced (evalItems c (relocateItems f es)) = unplaced (evalItems c es)
  | [] => rfl
  | e :: es => by
    simp only [relocateItems, evalItems, unplaced_bind, e.eval_relocate c,
      evalItems_relocate c es]

theorem evalEntries_relocate (c : Context) (read : Entries Value) :
    ∀ es : List (Expr × Expr),
      unplaced (evalEntries c read (relocateEntries f es)) = unplaced (evalEntries c read es)
  | [] => rfl
  | (key, value) :: es => by
    simp only [relocateEntries, evalEntries, unplaced_bind, unplaced_failAt, key.eval_relocate c,
      value.eval_relocate c, evalEntries_relocate c _ es]

end

/-! ## Statements -/

namespace Render

variable {α β : Type}

/-- A rendering without the place of a failure. -/
def placeless (r : Render α) : ExceptT FailureCause (StateM Context) α := fun c =>
  (unplaced (r c).1, (r c).2)

theorem placeless_bind (r : Render α) (g : α → Render β) :
    placeless (r >>= g) = placeless r >>= fun a => placeless (g a) := by
  funext c
  change _ = ExceptT.bind (placeless r) (fun a => placeless (g a)) c
  simp only [placeless, ExceptT.bind, ExceptT.mk, bind, StateT.bind]
  rcases r c with ⟨failure | a, c'⟩ <;> rfl

theorem placeless_evaluate {e e' : Expr}
    (same : ∀ c, unplaced (e.eval c) = unplaced (e'.eval c)) :
    placeless (evaluate e) = placeless (evaluate e') :=
  funext fun c => Prod.ext (same c) rfl

theorem placeless_failAt (region : Region) (x : Except FailureCause α) :
    placeless (fun c => (failAt region x, c)) = fun c => (x, c) :=
  funext fun _ => Prod.ext (unplaced_failAt region x) rfl

theorem placeless_within (name : String) (v : Value) {r r' : Render α}
    (same : placeless r = placeless r') :
    placeless (within name v r) = placeless (within name v r') := by
  funext c
  have pass := Prod.mk.inj (congrFun same (c.push [(name, .value v)]))
  exact Prod.ext pass.1 (congrArg (Context.release c.depth) pass.2)

theorem placeless_forEach (name : String) {r r' : Render (List Node)}
    (same : placeless r = placeless r') (items : List Value) :
    placeless (forEach name r items) = placeless (forEach name r' items) := by
  induction items with
  | nil => rfl
  | cons v vs ih => simp only [forEach, placeless_bind, placeless_within name v same, ih]

theorem run_ok_of_placeless {r r' : Render α} {c c' : Context} {a : α}
    (same : placeless r = placeless r') (runs : r c = (.ok a, c')) : r' c = (.ok a, c') := by
  have same := congrFun same c
  simp only [placeless, runs, unplaced_ok] at same
  generalize r' c = outcome at same
  obtain ⟨failure | a', c''⟩ := outcome
  · cases (Prod.mk.inj same).1
  · cases same
    rfl

theorem run_error_of_placeless {r r' : Render α} {c c' : Context} {failure : Failure}
    (same : placeless r = placeless r') (fails : r c = (.error failure, c')) :
    ∃ failure', r' c = (.error failure', c') ∧ failure'.cause = failure.cause := by
  have same := congrFun same c
  simp only [placeless, fails] at same
  generalize r' c = outcome at same
  obtain ⟨failure' | a, c''⟩ := outcome
  · have cause := Except.error.inj (Prod.mk.inj same).1
    have context : c' = c'' := (Prod.mk.inj same).2
    exact ⟨failure', by rw [context], cause.symm⟩
  · cases (Prod.mk.inj same).1

end Render

open Render

theorem placeless_evaluate_relocate (e : Expr) :
    (evaluate (e.relocate f)).placeless = (evaluate e).placeless :=
  placeless_evaluate fun c => e.eval_relocate f c

theorem Part.render_relocate (p : Part) : (p.relocate f).render.placeless = p.render.placeless := by
  cases p with
  | text chars => rfl
  | splice e => simp only [relocate, render, placeless_bind, placeless_evaluate_relocate]

theorem renderParts_relocate (parts : List Part) :
    (renderParts (parts.map (Part.relocate f))).placeless = (renderParts parts).placeless := by
  induction parts with
  | nil => rfl
  | cons p ps ih => simp only [List.map_cons, renderParts, placeless_bind, p.render_relocate, ih]

theorem renderAttributes_relocate (attributes : List (Ident × Expr)) :
    (renderAttributes (relocateAttributes f attributes)).placeless =
      (renderAttributes attributes).placeless := by
  induction attributes with
  | nil => rfl
  | cons a later ih =>
    simp only [relocateAttributes_cons, renderAttributes, placeless_bind,
      placeless_evaluate_relocate, ih, Ident.relocate]

mutual

theorem Statement.render_relocate :
    ∀ s : Statement, (s.relocate f).render.placeless = s.render.placeless
  | .tag name attributes body => by
    simp only [Statement.relocate, Statement.render, placeless_bind, renderAttributes_relocate,
      renderBlock_relocate body, Ident.relocate]
  | .text parts => by
    simp only [Statement.relocate, Statement.render, placeless_bind, renderParts_relocate]
  | .choice condition body otherwise => by
    simp only [Statement.relocate, Statement.render, placeless_bind, placeless_evaluate_relocate]
    congr 1
    funext v
    split
    · exact renderBlock_relocate body
    · exact renderBlock_relocate otherwise
  | .loop name iterable body => by
    simp only [Statement.relocate, Statement.render, placeless_bind, placeless_evaluate_relocate,
      placeless_failAt, placeless_forEach name.name (renderBlock_relocate body), Ident.relocate]
  | .assign name value => by
    simp only [Statement.relocate, Statement.render, placeless_bind, placeless_evaluate_relocate,
      Ident.relocate]

theorem renderBlock_relocate : ∀ ss : List Statement,
    (renderBlock (relocateAll f ss)).placeless = (renderBlock ss).placeless
  | [] => rfl
  | s :: ss => by
    simp only [relocateAll, renderBlock, placeless_bind, s.render_relocate, renderBlock_relocate ss]

end

theorem renderBlock_relocate_ok {ss : List Statement} {c c' : Context} {nodes : List Node}
    (runs : renderBlock ss c = (.ok nodes, c')) :
    renderBlock (relocateAll f ss) c = (.ok nodes, c') :=
  run_ok_of_placeless (renderBlock_relocate f ss).symm runs

theorem renderBlock_relocate_error {ss : List Statement} {c c' : Context} {failure : Failure}
    (fails : renderBlock ss c = (.error failure, c')) :
    ∃ failure', renderBlock (relocateAll f ss) c = (.error failure', c') ∧
      failure'.cause = failure.cause :=
  run_error_of_placeless (renderBlock_relocate f ss).symm fails

/-- The statements of one list behind those of another. -/
theorem renderBlock_append (ss ss' : List Statement) :
    renderBlock (ss ++ ss') = do
      let first ← renderBlock ss
      let later ← renderBlock ss'
      return first ++ later := by
  induction ss with
  | nil => simp [renderBlock]
  | cons s ss ih =>
    simp only [List.cons_append, renderBlock, ih, bind_assoc, pure_bind, List.append_assoc]

end HtmlTemplate
