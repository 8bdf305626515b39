import HtmlTemplate.Proofs.Rendering.Runs
import HtmlTemplate.Template.Basic

/-!
# Scopes of a rendering

Whatever the outcome, a rendering leaves the frames of its context as it found them, except that
assignments outside of loops bind their names in the innermost frame. A pass of a loop assigns in a
frame of its own, which is gone afterwards.
-/

namespace HtmlTemplate

mutual

/-- The names that a statement assigns in the frame it runs in. -/
def Statement.targets : Statement → List String
  | .tag _ _ body => targetsOf body
  | .text _ => []
  | .choice _ body otherwise => targetsOf body ++ targetsOf otherwise
  | .loop _ _ _ => []
  | .assign name _ => [name.name]

def targetsOf : List Statement → List String
  | [] => []
  | s :: ss => s.targets ++ targetsOf ss

end

namespace Context

/-- A context after some assignments of the given names in its innermost frame. -/
inductive Assigned (names : List String) : Context → Context → Prop where
  | refl (c : Context) : Assigned names c c
  | assign {c c' : Context} {name : String} (v : Value) : Assigned names c c' → name ∈ names →
      Assigned names c (c'.assign name (.value v))

namespace Assigned

variable {names more : List String} {c c' c'' : Context}

theorem trans (first : Assigned names c c') (later : Assigned names c' c'') :
    Assigned names c c'' := by
  induction later with
  | refl => exact first
  | assign v _ mem ih => exact .assign v ih mem

theorem mono (assigned : Assigned names c c') (sub : names ⊆ more) : Assigned more c c' := by
  induction assigned with
  | refl => exact .refl c
  | assign v _ mem ih => exact .assign v ih (sub mem)

theorem eq_of_nil (assigned : Assigned [] c c') : c' = c := by
  cases assigned with
  | refl => rfl
  | assign _ _ mem => cases mem

theorem outer_eq (assigned : Assigned names c c') : c'.outer = c.outer := by
  induction assigned with
  | refl => rfl
  | assign v _ _ ih => exact ih

theorem get?_innermost (assigned : Assigned names c c') {name : String} (other : name ∉ names) :
    c'.innermost.get? name = c.innermost.get? name := by
  induction assigned with
  | refl => rfl
  | @assign c' target v _ mem ih =>
    have different : target ≠ name := by
      rintro rfl
      exact other mem
    rw [← ih]
    exact (Entries.get?_put ..).trans (if_neg different)

theorem names_subset (assigned : Assigned names c c') :
    c.innermost.names ⊆ c'.innermost.names := by
  induction assigned with
  | refl => exact List.Subset.refl _
  | @assign c' target v _ _ ih =>
    intro name mem
    have bound := Entries.mem_names_iff.mp (ih mem)
    apply Entries.mem_names_iff.mpr
    change ((c'.innermost.put target (.value v)).get? name).isSome = true
    rw [Entries.get?_put]
    split
    · rfl
    · exact bound

end Assigned

/-- Whatever happened in a frame is forgotten with it. -/
theorem release_of_outer {c inner : Context} (outer : inner.outer = c.frames) :
    inner.release c.depth = c := by
  obtain ⟨f, fs⟩ := c
  obtain ⟨g, gs⟩ := inner
  cases outer
  have deeper : ¬ depth ⟨g, f :: fs⟩ ≤ depth ⟨f, fs⟩ := by
    simp only [depth, List.length_cons]
    omega
  rw [release, if_neg deeper]
  cases fs with
  | nil => rw [release]
  | cons => rw [release, if_pos (Nat.le_refl _)]

end Context

namespace Render

variable {α β : Type}

/-- Changes nothing but the values of the given names in the innermost frame. -/
def Assigns (names : List String) (r : Render α) : Prop :=
  ∀ c, Context.Assigned names c (r c).2

variable {names more : List String} {r : Render α} {f : α → Render β}

theorem Assigns.mono (assigns : Assigns names r) (sub : names ⊆ more) : Assigns more r :=
  fun c => (assigns c).mono sub

theorem Assigns.pure (a : α) : Assigns names (pure a : Render α) := fun c => .refl c

theorem Assigns.evaluate (e : Expr) : Assigns names (evaluate e) := fun c => .refl c

/-- A run that assigns no name. -/
theorem Assigns.same_of_run {a : Except Failure α} {c c' : Context} (assigns : Assigns [] r)
    (run : r c = (a, c')) : c' = c := by
  have assigned := assigns c
  rw [run] at assigned
  exact assigned.eq_of_nil

theorem Assigns.bind (first : Assigns names r) (later : ∀ a, Assigns names (f a)) :
    Assigns names (r >>= f) := by
  intro c
  have before := first c
  rw [bind_run]
  generalize r c = outcome at before
  obtain ⟨failure | a, c'⟩ := outcome
  · exact before
  · exact before.trans (later a c')

theorem within_run (name : String) (v : Value) (body : Render α) (assigns : Assigns names body)
    (c : Context) : (within name v body c).2 = c := by
  have kept := (assigns (c.push [(name, .value v)])).outer_eq
  exact Context.release_of_outer kept

/-- A loop leaves nothing behind, not even of its own name. -/
theorem Assigns.forEach {body : Render (List Node)} (assigns : Assigns names body) (name : String)
    (items : List Value) : Assigns more (forEach name body items) := by
  induction items with
  | nil => exact .pure []
  | cons v vs ih =>
    have pass : Assigns more (within name v body) := by
      intro c
      rw [within_run name v body assigns]
      exact .refl c
    apply pass.bind
    intro first
    apply ih.bind
    intro later
    exact .pure _

end Render

open Render

variable {names : List String}

theorem assigns_part (p : Part) : Assigns names p.render := by
  cases p with
  | text chars => exact .pure _
  | splice e => exact (Assigns.evaluate e).bind fun v => .pure _

theorem assigns_renderParts (ps : List Part) : Assigns names (renderParts ps) := by
  induction ps with
  | nil => exact .pure _
  | cons p ps ih => exact (assigns_part p).bind fun first => ih.bind fun later => .pure _

theorem assigns_renderAttributes (attributes : List (Ident × Expr)) :
    Assigns names (renderAttributes attributes) := by
  induction attributes with
  | nil => exact .pure _
  | cons a later ih => exact (Assigns.evaluate a.2).bind fun v => ih.bind fun rest => .pure _

mutual

theorem Statement.assigns_render : ∀ s : Statement, Assigns s.targets s.render
  | .tag name attributes body => by
    rw [Statement.render, Statement.targets]
    apply (assigns_renderAttributes attributes).bind
    intro written
    exact (assigns_renderBlock body).bind fun children => .pure _
  | .text parts => by
    rw [Statement.render]
    exact (assigns_renderParts parts).bind fun line => .pure _
  | .choice condition body otherwise => by
    rw [Statement.render, Statement.targets]
    apply (Assigns.evaluate condition).bind
    intro v
    split
    · exact (assigns_renderBlock body).mono (List.subset_append_left ..)
    · exact (assigns_renderBlock otherwise).mono (List.subset_append_right ..)
  | .loop name iterable body => by
    rw [Statement.render, Statement.targets]
    apply (Assigns.evaluate iterable).bind
    intro v
    refine Assigns.bind (fun c => .refl c) fun items => ?_
    exact (assigns_renderBlock body).forEach name.name items
  | .assign name value => by
    rw [Statement.render, Statement.targets]
    apply (Assigns.evaluate value).bind
    intro v
    refine Assigns.bind ?_ fun _ => .pure _
    intro c
    exact .assign v (.refl c) (List.mem_singleton_self _)

theorem assigns_renderBlock : ∀ ss : List Statement, Assigns (targetsOf ss) (renderBlock ss)
  | [] => by
    rw [renderBlock]
    exact .pure _
  | s :: ss => by
    rw [renderBlock, targetsOf]
    apply (s.assigns_render.mono (List.subset_append_left ..)).bind
    intro first
    apply ((assigns_renderBlock ss).mono (List.subset_append_right ..)).bind
    intro later
    exact .pure _

end

/-- The frames after a rendering, whether it returned a text or an error. -/
theorem Template.render_scopes (t : Template) (c : Context) :
    (t.render c).2.depth = c.depth ∧ (t.render c).2.outer = c.outer ∧
      (∀ name, name ∉ targetsOf t.statements →
        (t.render c).2.innermost.get? name = c.innermost.get? name) ∧
      ∀ name ∈ c.innermost.names, name ∈ (t.render c).2.innermost.names := by
  have same : (t.render c).2 = (t.forest c).2 := by
    unfold render
    split
    · next nodes c' eq => rw [eq]
    · next f c' eq => rw [eq]
  have assigned : Context.Assigned (targetsOf t.statements) c (t.forest c).2 :=
    assigns_renderBlock t.statements c
  rw [same]
  refine ⟨?_, assigned.outer_eq, fun name other => assigned.get?_innermost other, ?_⟩
  · rw [Context.depth, Context.depth, assigned.outer_eq]
  · exact fun name mem => assigned.names_subset mem

end HtmlTemplate
