import HtmlTemplate.Proofs.Rendering.Scopes

/-!
# Names that a rendering reads

An expression reads a name as a variable or calls it. Contexts in which the names of a template
stand for the same are alike to the template: it renders to the same in both and leaves them alike.
How many frames there are, which of them binds a name, and what other names are bound has no part
in this.
-/

namespace HtmlTemplate

/-- How an expression uses a name. -/
inductive Use where
  | value (name : String)
  | call (name : String)
  deriving DecidableEq

def Use.name : Use → String
  | .value name => name
  | .call name => name

@[simp] theorem Use.name_value (name : String) : (Use.value name).name = name := rfl

@[simp] theorem Use.name_call (name : String) : (Use.call name).name = name := rfl

mutual

def Expr.uses : Expr → List Use
  | .literal _ _ => []
  | .var name => [.value name.name]
  | .array items _ => usesOfItems items
  | .dict entries _ => usesOfEntries entries
  | .binary _ left right => left.uses ++ right.uses
  | .call function arguments _ => .call function.name :: usesOfItems arguments

def usesOfItems : List Expr → List Use
  | [] => []
  | e :: es => e.uses ++ usesOfItems es

def usesOfEntries : List (Expr × Expr) → List Use
  | [] => []
  | (key, value) :: es => key.uses ++ (value.uses ++ usesOfEntries es)

end

def Part.uses : Part → List Use
  | .text _ => []
  | .splice e => e.uses

mutual

/-- Names that are only bound, by a loop or an assignment, are not used. -/
def Statement.uses : Statement → List Use
  | .tag _ attributes body => attributes.flatMap (fun a => a.2.uses) ++ usesOf body
  | .text parts => parts.flatMap Part.uses
  | .choice condition body otherwise => condition.uses ++ (usesOf body ++ usesOf otherwise)
  | .loop _ iterable body => iterable.uses ++ usesOf body
  | .assign _ value => value.uses

def usesOf : List Statement → List Use
  | [] => []
  | s :: ss => s.uses ++ usesOf ss

end

def Template.uses (t : Template) : List Use := usesOf t.statements

/-! ## Contexts that are alike -/

/-- A missing value is the same as nothing, and a missing function the same as a plain value. -/
def Use.Same (c d : Context) : Use → Prop
  | .value name => c.value name = d.value name
  | .call name => c.function? name = d.function? name

namespace Context

theorem lookup_push (c : Context) (name other : String) (b : Binding) :
    (c.push [(name, b)]).lookup other = if name = other then some b else c.lookup other := by
  simp only [lookup, lookupIn, frames, push, List.findSome?_cons, Entries.ofPairs, List.foldl_cons,
    List.foldl_nil, Entries.put, Entries.get?]
  by_cases h : name = other <;> simp [h]

def Alike (uses : List Use) (c d : Context) : Prop := ∀ u ∈ uses, u.Same c d

variable {uses : List Use} {c d c' d' : Context}

theorem same_of_lookup {u : Use} (same : c.lookup u.name = d.lookup u.name) : u.Same c d := by
  cases u with
  | value name =>
    change c.lookup name = d.lookup name at same
    simp only [Use.Same, value, get?, same]
  | call name =>
    change c.lookup name = d.lookup name at same
    simp only [Use.Same, function?, same]

/-- Contexts that bind the same names are alike to every template. -/
theorem alike_of_lookup (same : ∀ u ∈ uses, c.lookup u.name = d.lookup u.name) : Alike uses c d :=
  fun u mem => same_of_lookup (same u mem)

/-- A value bound in both contexts hides what they disagree about, and changes nothing else. -/
theorem Alike.bind {name : String} {v : Value} (alike : Alike uses c d)
    (left : ∀ other, c'.lookup other = if name = other then some (.value v) else c.lookup other)
    (right : ∀ other, d'.lookup other = if name = other then some (.value v) else d.lookup other) :
    Alike uses c' d' := by
  intro u mem
  by_cases bound : name = u.name
  · apply same_of_lookup
    rw [left, right, if_pos bound, if_pos bound]
  · have before := alike u mem
    cases u with
    | value other =>
      rw [Use.name_value] at bound
      simp only [Use.Same, value, get?] at before ⊢
      rw [left, right, if_neg bound, if_neg bound, before]
    | call other =>
      rw [Use.name_call] at bound
      simp only [Use.Same, function?] at before ⊢
      rw [left, right, if_neg bound, if_neg bound, before]

theorem Alike.assign (alike : Alike uses c d) (name : String) (v : Value) :
    Alike uses (c.assign name (.value v)) (d.assign name (.value v)) :=
  alike.bind (c.lookup_assign name · _) (d.lookup_assign name · _)

theorem Alike.push (alike : Alike uses c d) (name : String) (v : Value) :
    Alike uses (c.push [(name, .value v)]) (d.push [(name, .value v)]) :=
  alike.bind (c.lookup_push name · _) (d.lookup_push name · _)

/-- Nothing bound to a free name changes nothing. -/
theorem alike_assign_nothing {name : String} (free : c.lookup name = none) :
    Alike uses c (c.assign name (.value .nothing)) := by
  intro u _
  by_cases bound : name = u.name
  · cases u with
    | value other =>
      rw [Use.name_value] at bound
      subst bound
      simp [Use.Same, value, get?, lookup_assign, free, Binding.value?]
    | call other =>
      rw [Use.name_call] at bound
      subst bound
      simp [Use.Same, function?, lookup_assign, free, Binding.function?]
  · apply same_of_lookup
    rw [lookup_assign, if_neg bound]

theorem alike_assign_unused {name : String} (unused : ∀ u ∈ uses, u.name ≠ name) (b : Binding) :
    Alike uses c (c.assign name b) := by
  apply alike_of_lookup
  intro u mem
  rw [lookup_assign, if_neg (unused u mem).symm]

/-! ## Frames put together -/

/-- Bindings laid over others. -/
def overlay (frame below : Frame) : Frame := frame.foldr (fun p es => Entries.put p.1 p.2 es) below

/-- All bindings that are not hidden, in one frame. -/
def flatten (c : Context) : Context := { innermost := c.frames.foldr overlay [] }

theorem get?_overlay (frame below : Frame) (name : String) :
    Entries.get? name (overlay frame below) =
      (Entries.get? name frame).or (Entries.get? name below) := by
  induction frame with
  | nil => rfl
  | cons e es ih =>
    change Entries.get? name (Entries.put e.1 e.2 (overlay es below)) = _
    rw [Entries.get?_put, ih, Entries.get?]
    split <;> rfl

theorem lookup_flatten (c : Context) (name : String) : c.flatten.lookup name = c.lookup name := by
  have merged (fs : List Frame) :
      Entries.get? name (fs.foldr overlay []) = lookupIn name fs := by
    induction fs with
    | nil => rfl
    | cons f fs ih =>
      rw [List.foldr_cons, get?_overlay, ih]
      simp only [lookupIn, List.findSome?_cons]
      cases Entries.get? name f <;> rfl
  change lookupIn name [c.frames.foldr overlay []] = lookupIn name c.frames
  rw [← merged c.frames]
  simp only [lookupIn, List.findSome?_cons, List.findSome?_nil]
  split
  · next b found => exact found.symm
  · next none => exact none.symm

end Context

/-! ## Evaluation -/

mutual

theorem Expr.eval_congr {c d : Context} : ∀ e : Expr, c.Alike e.uses d → e.eval c = e.eval d
  | .literal v _, _ => by
    rw [Expr.eval, Expr.eval]
  | .var name, alike => by
    have same : c.value name.name = d.value name.name :=
      alike (.value name.name) (by simp [Expr.uses])
    rw [Expr.eval, Expr.eval, same]
  | .array items _, alike => by
    rw [Expr.uses] at alike
    rw [Expr.eval, Expr.eval, evalItems_congr items alike]
  | .dict entries _, alike => by
    rw [Expr.uses] at alike
    rw [Expr.eval, Expr.eval, evalEntries_congr entries [] alike]
  | .binary op left right, alike => by
    rw [Expr.uses, Context.Alike, List.forall_mem_append] at alike
    rw [Expr.eval, Expr.eval, left.eval_congr alike.1, right.eval_congr alike.2]
  | .call function arguments _, alike => by
    rw [Expr.uses, Context.Alike, List.forall_mem_cons] at alike
    have same : c.function? function.name = d.function? function.name := alike.1
    rw [Expr.eval, Expr.eval, same, evalItems_congr arguments alike.2]

theorem evalItems_congr {c d : Context} :
    ∀ es : List Expr, c.Alike (usesOfItems es) d → evalItems c es = evalItems d es
  | [], _ => by
    rw [evalItems, evalItems]
  | e :: es, alike => by
    rw [usesOfItems, Context.Alike, List.forall_mem_append] at alike
    rw [evalItems, evalItems, e.eval_congr alike.1, evalItems_congr es alike.2]

theorem evalEntries_congr {c d : Context} : ∀ (es : List (Expr × Expr)) (read : Entries Value),
    c.Alike (usesOfEntries es) d → evalEntries c read es = evalEntries d read es
  | [], read, _ => by
    rw [evalEntries, evalEntries]
  | (key, value) :: es, read, alike => by
    rw [usesOfEntries, Context.Alike, List.forall_mem_append, List.forall_mem_append] at alike
    rw [evalEntries, evalEntries, key.eval_congr alike.1, value.eval_congr alike.2.1]
    simp only [evalEntries_congr es _ alike.2.2]

end

/-! ## Rendering -/

namespace Render

variable {α β : Type} {uses : List Use}

/-- Does the same in contexts that are alike, and leaves them alike. -/
def Respects (uses : List Use) (r : Render α) : Prop :=
  ∀ c d, c.Alike uses d → (r c).1 = (r d).1 ∧ (r c).2.Alike uses (r d).2

variable {r : Render α} {f : α → Render β}

theorem Respects.pure (a : α) : Respects uses (pure a : Render α) := fun _ _ alike => ⟨rfl, alike⟩

theorem Respects.evaluate {e : Expr} (used : e.uses ⊆ uses) : Respects uses (evaluate e) :=
  fun _ _ alike => ⟨e.eval_congr fun u mem => alike u (used mem), alike⟩

theorem Respects.bind (first : Respects uses r) (later : ∀ a, Respects uses (f a)) :
    Respects uses (r >>= f) := by
  intro c d alike
  obtain ⟨same, alike'⟩ := first c d alike
  rw [bind_run, bind_run]
  generalize r c = outcome at same alike'
  generalize r d = outcome' at same alike'
  obtain ⟨result, c'⟩ := outcome
  obtain ⟨result', d'⟩ := outcome'
  cases same
  cases result with
  | error => exact ⟨rfl, alike'⟩
  | ok a => exact later a c' d' alike'

/-- The frame of a pass is gone afterwards, so that the contexts are those from before. -/
theorem Respects.within {names : List String} {body : Render α} (respects : Respects uses body)
    (assigns : Assigns names body) (name : String) (v : Value) :
    Respects uses (within name v body) := by
  intro c d alike
  refine ⟨(respects _ _ (alike.push name v)).1, ?_⟩
  rw [within_run name v body assigns, within_run name v body assigns]
  exact alike

theorem Respects.forEach {names : List String} {body : Render (List Node)}
    (respects : Respects uses body) (assigns : Assigns names body) (name : String)
    (items : List Value) : Respects uses (forEach name body items) := by
  induction items with
  | nil => exact .pure []
  | cons v vs ih =>
    apply (respects.within assigns name v).bind
    intro first
    exact ih.bind fun later => .pure _

end Render

open Render

variable {uses : List Use}

theorem respects_part {p : Part} (used : p.uses ⊆ uses) : Respects uses p.render := by
  cases p with
  | text chars => exact .pure _
  | splice e => exact (Respects.evaluate used).bind fun v => .pure _

theorem respects_renderParts {ps : List Part} (used : ps.flatMap Part.uses ⊆ uses) :
    Respects uses (renderParts ps) := by
  induction ps with
  | nil => exact .pure _
  | cons p ps ih =>
    rw [List.flatMap_cons, List.append_subset] at used
    exact (respects_part used.1).bind fun first => (ih used.2).bind fun later => .pure _

theorem respects_renderAttributes {attributes : List (Ident × Expr)}
    (used : attributes.flatMap (fun a => a.2.uses) ⊆ uses) :
    Respects uses (renderAttributes attributes) := by
  induction attributes with
  | nil => exact .pure _
  | cons a later ih =>
    rw [List.flatMap_cons, List.append_subset] at used
    exact (Respects.evaluate used.1).bind fun v => (ih used.2).bind fun rest => .pure _

mutual

theorem Statement.respects_render : ∀ s : Statement, s.uses ⊆ uses → Respects uses s.render
  | .tag name attributes body, used => by
    rw [Statement.uses, List.append_subset] at used
    rw [Statement.render]
    apply (respects_renderAttributes used.1).bind
    intro written
    exact (respects_renderBlock body used.2).bind fun children => .pure _
  | .text parts, used => by
    rw [Statement.uses] at used
    rw [Statement.render]
    exact (respects_renderParts used).bind fun line => .pure _
  | .choice condition body otherwise, used => by
    rw [Statement.uses, List.append_subset, List.append_subset] at used
    rw [Statement.render]
    apply (Respects.evaluate used.1).bind
    intro v
    split
    · exact respects_renderBlock body used.2.1
    · exact respects_renderBlock otherwise used.2.2
  | .loop name iterable body, used => by
    rw [Statement.uses, List.append_subset] at used
    rw [Statement.render]
    apply (Respects.evaluate used.1).bind
    intro v
    refine Respects.bind (fun _ _ alike => ⟨rfl, alike⟩) fun items => ?_
    exact (respects_renderBlock body used.2).forEach (assigns_renderBlock body) name.name items
  | .assign name value, used => by
    rw [Statement.uses] at used
    rw [Statement.render]
    apply (Respects.evaluate used).bind
    intro v
    exact Respects.bind (fun _ _ alike => ⟨rfl, alike.assign name.name v⟩) fun _ => .pure _

theorem respects_renderBlock : ∀ ss : List Statement, usesOf ss ⊆ uses →
    Respects uses (renderBlock ss)
  | [], _ => by
    rw [renderBlock]
    exact .pure _
  | s :: ss, used => by
    rw [usesOf, List.append_subset] at used
    rw [renderBlock]
    apply (s.respects_render used.1).bind
    intro first
    exact (respects_renderBlock ss used.2).bind fun later => .pure _

end

namespace Template

/-- The template renders to the same text or error, and leaves contexts that are alike. -/
def Equates (t : Template) (c d : Context) : Prop :=
  (t.render c).1 = (t.render d).1 ∧ (t.render c).2.Alike t.uses (t.render d).2

theorem equates_of_alike (t : Template) {c d : Context} (alike : c.Alike t.uses d) :
    t.Equates c d := by
  obtain ⟨same, after⟩ := respects_renderBlock t.statements (List.Subset.refl _) c d alike
  change (t.forest c).1 = (t.forest d).1 at same
  change (t.forest c).2.Alike t.uses (t.forest d).2 at after
  unfold Equates render
  generalize t.forest c = outcome at same after
  generalize t.forest d = outcome' at same after
  obtain ⟨result, c'⟩ := outcome
  obtain ⟨result', d'⟩ := outcome'
  cases same
  cases result with
  | ok nodes => exact ⟨rfl, after⟩
  | error f => exact ⟨rfl, after⟩

/-- A rendering depends on what the names of the template stand for, and on nothing else. -/
theorem render_resolves (t : Template) :
    (∀ c d : Context, c.Alike t.uses d → t.Equates c d) ∧
      (∀ (c : Context) (name : String), c.lookup name = none →
        t.Equates c (c.assign name (.value .nothing))) ∧
      (∀ (c : Context) (name : String) (b : Binding), (∀ u ∈ t.uses, u.name ≠ name) →
        t.Equates c (c.assign name b)) ∧
      (∀ c d : Context, (∀ name, c.lookup name = d.lookup name) → t.Equates c d) ∧
      (∀ c : Context, t.Equates c c.flatten) ∧
      ∀ (c : Context) (function : Ident) (arguments : List Expr) (region : Region),
        c.function? function.name = none →
          (Expr.call function arguments region).eval c = .ok .nothing := by
  refine ⟨fun c d => t.equates_of_alike, ?_, ?_, ?_, ?_, ?_⟩
  · intro c name free
    exact t.equates_of_alike (Context.alike_assign_nothing free)
  · intro c name b unused
    exact t.equates_of_alike (Context.alike_assign_unused unused b)
  · intro c d same
    exact t.equates_of_alike (Context.alike_of_lookup fun u _ => same u.name)
  · intro c
    exact t.equates_of_alike (Context.alike_of_lookup fun u _ => (c.lookup_flatten u.name).symm)
  · intro c function arguments region plain
    rw [Expr.eval, plain]

/-- One frame in front of two: a missing name against nothing, and a missing function against a
plain value. -/
theorem resolves_across_frames :
    let x : Ident := ⟨"x", ⟨3, 4⟩⟩
    let call : Expr := .call ⟨"f", ⟨6, 7⟩⟩ [.var ⟨"y", ⟨8, 9⟩⟩] ⟨6, 10⟩
    let t : Template := ⟨none, "- \x7bx\x7d\x7bf(y)\x7d", [.text [.splice (.var x), .splice call]]⟩
    let c : Context := ⟨[("x", .value (.string "a"))], []⟩
    let d : Context :=
      ⟨[("y", .value .nothing), ("f", .value (.bool true))], [[("x", .value (.string "a"))]]⟩
    c.Alike t.uses d ∧ (t.render c).1 = .ok "a" ∧ (t.render d).1 = .ok "a" := by
  intro x call t c d
  have alike : c.Alike t.uses d := by
    have uses : t.uses = [.value "x", .call "f", .value "y"] := rfl
    rw [uses]
    simp only [Context.Alike, List.forall_mem_cons]
    exact ⟨rfl, rfl, rfl, nofun⟩
  have renders : (t.render c).1 = .ok "a" := rfl
  refine ⟨alike, renders, ?_⟩
  rw [← (t.render_resolves.1 c d alike).1, renders]

end Template

end HtmlTemplate
