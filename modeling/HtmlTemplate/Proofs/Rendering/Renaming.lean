import HtmlTemplate.Proofs.Rendering.Names

/-!
# Names of loops

Under which name a loop binds its items does not matter, as long as its body has no other use for
the name. With a new name throughout its body, the loop writes the same or fails in the same place
for the same cause, and leaves the same context, whatever both names stand for outside.
-/

namespace HtmlTemplate

/-! ## Names in a tree -/

def Expr.names (e : Expr) : List String := e.uses.map Use.name

def Part.names (p : Part) : List String := p.uses.map Use.name

mutual

/-- The names that a statement uses or binds. Those of tags and attributes are markup. -/
def Statement.names : Statement → List String
  | .tag _ attributes body => attributes.flatMap (fun a => a.2.names) ++ namesOf body
  | .text parts => parts.flatMap Part.names
  | .choice condition body otherwise => condition.names ++ (namesOf body ++ namesOf otherwise)
  | .loop name iterable body => name.name :: (iterable.names ++ namesOf body)
  | .assign name value => name.name :: value.names

def namesOf : List Statement → List String
  | [] => []
  | s :: ss => s.names ++ namesOf ss

end

section

variable (f : String → String)

def Ident.rename (i : Ident) : Ident := ⟨f i.name, i.region⟩

mutual

def Expr.rename : Expr → Expr
  | .literal v r => .literal v r
  | .var name => .var (name.rename f)
  | .array items r => .array (renameItems items) r
  | .dict entries r => .dict (renameEntries entries) r
  | .binary op left right => .binary op left.rename right.rename
  | .call function arguments r => .call (function.rename f) (renameItems arguments) r

def renameItems : List Expr → List Expr
  | [] => []
  | e :: es => e.rename :: renameItems es

def renameEntries : List (Expr × Expr) → List (Expr × Expr)
  | [] => []
  | (key, value) :: es => (key.rename, value.rename) :: renameEntries es

end

def Part.rename : Part → Part
  | .text chars => .text chars
  | .splice e => .splice (e.rename f)

/-- Attributes keep their names. -/
def renameAttributes (attributes : List (Ident × Expr)) : List (Ident × Expr) :=
  attributes.map fun a => (a.1, a.2.rename f)

mutual

/-- Tags keep their names. -/
def Statement.rename : Statement → Statement
  | .tag name attributes body => .tag name (renameAttributes f attributes) (renameAll body)
  | .text parts => .text (parts.map (Part.rename f))
  | .choice condition body otherwise =>
    .choice (condition.rename f) (renameAll body) (renameAll otherwise)
  | .loop name iterable body => .loop (name.rename f) (iterable.rename f) (renameAll body)
  | .assign name value => .assign (name.rename f) (value.rename f)

def renameAll : List Statement → List Statement
  | [] => []
  | s :: ss => s.rename :: renameAll ss

end

/-- Names are not part of a place. -/
theorem Expr.region_rename : ∀ e : Expr, (e.rename f).region = e.region
  | .binary op left right => by
    rw [Expr.rename, Expr.region, Expr.region, left.region_rename, right.region_rename]
  | .literal _ _ | .var _ | .array _ _ | .dict _ _ | .call _ _ _ => rfl

end

/-! ## Contexts with other names -/

/-- Keeps the names apart. -/
def Distinguishes (f : String → String) (names : List String) : Prop :=
  ∀ a ∈ names, ∀ b ∈ names, f a = f b → a = b

namespace Context

/-- What the names stand for in one context, their replacements stand for in the other. -/
def Renames (f : String → String) (names : List String) (c d : Context) : Prop :=
  ∀ name ∈ names, d.lookup (f name) = c.lookup name

variable {f : String → String} {names : List String} {c d c' d' : Context} {name : String}

theorem Renames.value (renames : c.Renames f names d) (mem : name ∈ names) :
    d.value (f name) = c.value name := by
  simp only [Context.value, get?, renames name mem]

theorem Renames.function? (renames : c.Renames f names d) (mem : name ∈ names) :
    d.function? (f name) = c.function? name := by
  simp only [Context.function?, renames name mem]

/-- A value bound to a name in one context and to its replacement in the other. -/
theorem Renames.bind {v : Value} (renames : c.Renames f names d) (apart : Distinguishes f names)
    (mem : name ∈ names)
    (left : ∀ other, c'.lookup other = if name = other then some (.value v) else c.lookup other)
    (right : ∀ other, d'.lookup other =
      if f name = other then some (.value v) else d.lookup other) : c'.Renames f names d' := by
  intro other mem'
  rw [left, right, renames other mem']
  by_cases same : name = other
  · rw [if_pos same, if_pos (congrArg f same)]
  · have different : f name ≠ f other := fun eq => same (apart name mem other mem' eq)
    rw [if_neg same, if_neg different]

end Context

/-! ## Evaluation -/

section

variable {f : String → String} {names : List String} {c d : Context}

mutual

theorem Expr.eval_rename (renames : c.Renames f names d) :
    ∀ e : Expr, e.names ⊆ names → (e.rename f).eval d = e.eval c
  | .literal v _, _ => by
    rw [Expr.rename, Expr.eval, Expr.eval]
  | .var name, used => by
    have mem : name.name ∈ names := used (by simp [Expr.names, Expr.uses])
    rw [Expr.rename, Expr.eval, Expr.eval, Ident.rename, renames.value mem]
  | .array items _, used => by
    rw [Expr.rename, Expr.eval, Expr.eval, evalItems_rename renames items used]
  | .dict entries _, used => by
    rw [Expr.rename, Expr.eval, Expr.eval, evalEntries_rename renames entries [] used]
  | .binary op left right, used => by
    rw [Expr.names, Expr.uses, List.map_append, List.append_subset] at used
    rw [Expr.rename, Expr.eval, Expr.eval, left.eval_rename renames used.1,
      right.eval_rename renames used.2, left.region_rename, right.region_rename]
  | .call function arguments _, used => by
    rw [Expr.names, Expr.uses, List.map_cons, List.cons_subset] at used
    have same : d.function? (f function.name) = c.function? function.name :=
      renames.function? used.1
    rw [Expr.rename, Expr.eval, Expr.eval, Ident.rename, same,
      evalItems_rename renames arguments used.2]

theorem evalItems_rename (renames : c.Renames f names d) : ∀ es : List Expr,
    (usesOfItems es).map Use.name ⊆ names → evalItems d (renameItems f es) = evalItems c es
  | [], _ => by
    rw [renameItems, evalItems, evalItems]
  | e :: es, used => by
    rw [usesOfItems, List.map_append, List.append_subset] at used
    rw [renameItems, evalItems, evalItems, e.eval_rename renames used.1,
      evalItems_rename renames es used.2]

theorem evalEntries_rename (renames : c.Renames f names d) :
    ∀ (es : List (Expr × Expr)) (read : Entries Value), (usesOfEntries es).map Use.name ⊆ names →
      evalEntries d read (renameEntries f es) = evalEntries c read es
  | [], read, _ => by
    rw [renameEntries, evalEntries, evalEntries]
  | (key, value) :: es, read, used => by
    rw [usesOfEntries, List.map_append, List.append_subset, List.map_append,
      List.append_subset] at used
    rw [renameEntries, evalEntries, evalEntries, key.eval_rename renames used.1,
      value.eval_rename renames used.2.1, key.region_rename]
    simp only [evalEntries_rename renames es _ used.2.2]

end

end

/-! ## Rendering -/

namespace Render

variable {α β : Type} {f : String → String} {names : List String}

/-- Does in contexts with other names what the first does. -/
def Mirrors (f : String → String) (names : List String) (r r' : Render α) : Prop :=
  ∀ c d, c.Renames f names d → (r' d).1 = (r c).1 ∧ (r c).2.Renames f names (r' d).2

variable {r r' : Render α} {g g' : α → Render β}

theorem Mirrors.pure (a : α) : Mirrors f names (pure a : Render α) (pure a) :=
  fun _ _ renames => ⟨rfl, renames⟩

theorem Mirrors.evaluate {e : Expr} (used : e.names ⊆ names) :
    Mirrors f names (evaluate e) (evaluate (e.rename f)) :=
  fun _ _ renames => ⟨e.eval_rename renames used, renames⟩

theorem Mirrors.bind (first : Mirrors f names r r') (later : ∀ a, Mirrors f names (g a) (g' a)) :
    Mirrors f names (r >>= g) (r' >>= g') := by
  intro c d renames
  obtain ⟨same, after⟩ := first c d renames
  rw [bind_run, bind_run]
  generalize r c = outcome at same after
  generalize r' d = outcome' at same after
  obtain ⟨result, c'⟩ := outcome
  obtain ⟨result', d'⟩ := outcome'
  cases same
  cases result with
  | error => exact ⟨rfl, after⟩
  | ok a => exact later a c' d' after

theorem Mirrors.assign {name : String} (apart : Distinguishes f names) (mem : name ∈ names)
    (v : Value) : Mirrors f names (assign name v) (assign (f name) v) :=
  fun c d renames => ⟨rfl, renames.bind apart mem (c.lookup_assign name · _)
    (d.lookup_assign (f name) · _)⟩

/-- The frames of a pass are gone afterwards, so that the contexts are those from before. -/
theorem Mirrors.within {targets targets' : List String} {name : String}
    (mirrors : Mirrors f names r r') (assigns : Assigns targets r) (assigns' : Assigns targets' r')
    (apart : Distinguishes f names) (mem : name ∈ names) (v : Value) :
    Mirrors f names (within name v r) (within (f name) v r') := by
  intro c d renames
  have inner : (c.push [(name, .value v)]).Renames f names (d.push [(f name, .value v)]) :=
    renames.bind apart mem (c.lookup_push name · _) (d.lookup_push (f name) · _)
  refine ⟨(mirrors _ _ inner).1, ?_⟩
  rw [within_run name v r assigns, within_run (f name) v r' assigns']
  exact renames

theorem Mirrors.forEach {targets targets' : List String} {name : String}
    {body body' : Render (List Node)} (mirrors : Mirrors f names body body')
    (assigns : Assigns targets body) (assigns' : Assigns targets' body')
    (apart : Distinguishes f names) (mem : name ∈ names) (items : List Value) :
    Mirrors f names (forEach name body items) (forEach (f name) body' items) := by
  induction items with
  | nil => exact .pure []
  | cons v vs ih =>
    apply (mirrors.within assigns assigns' apart mem v).bind
    intro first
    exact ih.bind fun later => .pure _

end Render

open Render

section

variable {f : String → String} {names : List String}

theorem mirrors_part {p : Part} (used : p.names ⊆ names) :
    Mirrors f names p.render (p.rename f).render := by
  cases p with
  | text chars => exact .pure _
  | splice e => exact (Mirrors.evaluate used).bind fun v => .pure _

theorem mirrors_renderParts {ps : List Part} (used : ps.flatMap Part.names ⊆ names) :
    Mirrors f names (renderParts ps) (renderParts (ps.map (Part.rename f))) := by
  induction ps with
  | nil => exact .pure _
  | cons p ps ih =>
    rw [List.flatMap_cons, List.append_subset] at used
    exact (mirrors_part used.1).bind fun first => (ih used.2).bind fun later => .pure _

theorem mirrors_renderAttributes {attributes : List (Ident × Expr)}
    (used : attributes.flatMap (fun a => a.2.names) ⊆ names) :
    Mirrors f names (renderAttributes attributes)
      (renderAttributes (renameAttributes f attributes)) := by
  induction attributes with
  | nil => exact .pure _
  | cons a later ih =>
    rw [List.flatMap_cons, List.append_subset] at used
    exact (Mirrors.evaluate used.1).bind fun v => (ih used.2).bind fun rest => .pure _

mutual

theorem Statement.mirrors_render (apart : Distinguishes f names) :
    ∀ s : Statement, s.names ⊆ names → Mirrors f names s.render (s.rename f).render
  | .tag name attributes body, used => by
    rw [Statement.names, List.append_subset] at used
    rw [Statement.rename, Statement.render, Statement.render]
    apply (mirrors_renderAttributes used.1).bind
    intro written
    exact (mirrors_renderBlock apart body used.2).bind fun children => .pure _
  | .text parts, used => by
    rw [Statement.names] at used
    rw [Statement.rename, Statement.render, Statement.render]
    exact (mirrors_renderParts used).bind fun line => .pure _
  | .choice condition body otherwise, used => by
    rw [Statement.names, List.append_subset, List.append_subset] at used
    rw [Statement.rename, Statement.render, Statement.render]
    apply (Mirrors.evaluate used.1).bind
    intro v
    split
    · exact mirrors_renderBlock apart body used.2.1
    · exact mirrors_renderBlock apart otherwise used.2.2
  | .loop name iterable body, used => by
    rw [Statement.names, List.cons_subset, List.append_subset] at used
    rw [Statement.rename, Statement.render, Statement.render, iterable.region_rename]
    apply (Mirrors.evaluate used.2.1).bind
    intro v
    refine Mirrors.bind (fun _ _ renames => ⟨rfl, renames⟩) fun items => ?_
    exact (mirrors_renderBlock apart body used.2.2).forEach (assigns_renderBlock _)
      (assigns_renderBlock _) apart used.1 items
  | .assign name value, used => by
    rw [Statement.names, List.cons_subset] at used
    rw [Statement.rename, Statement.render, Statement.render]
    apply (Mirrors.evaluate used.2).bind
    intro v
    exact (Mirrors.assign apart used.1 v).bind fun _ => .pure _

theorem mirrors_renderBlock (apart : Distinguishes f names) : ∀ ss : List Statement,
    namesOf ss ⊆ names → Mirrors f names (renderBlock ss) (renderBlock (renameAll f ss))
  | [], _ => by
    rw [renameAll, renderBlock]
    exact .pure _
  | s :: ss, used => by
    rw [namesOf, List.append_subset] at used
    rw [renameAll, renderBlock, renderBlock]
    apply (s.mirrors_render apart used.1).bind
    intro first
    exact (mirrors_renderBlock apart ss used.2).bind fun later => .pure _

end

end

/-! ## A loop by another name -/

/-- The second name in place of the first. -/
def replaceName (x y : String) (name : String) : String := if name = x then y else name

section

variable {x y : String} {names : List String}

theorem replaceName_self : replaceName x y x = y := if_pos rfl

theorem replaceName_of_ne {name : String} (other : name ≠ x) : replaceName x y name = name :=
  if_neg other

/-- A name that does not occur can take the place of another one. -/
theorem distinguishes_replaceName (fresh : y ∉ names) : Distinguishes (replaceName x y) names := by
  intro a memA b memB same
  have neA : a ≠ y := by
    rintro rfl
    exact fresh memA
  have neB : b ≠ y := by
    rintro rfl
    exact fresh memB
  by_cases isA : a = x <;> by_cases isB : b = x
  · rw [isA, isB]
  · rw [isA, replaceName_self, replaceName_of_ne isB] at same
    exact absurd same.symm neB
  · rw [isB, replaceName_self, replaceName_of_ne isA] at same
    exact absurd same neA
  · rwa [replaceName_of_ne isA, replaceName_of_ne isB] at same

/-- Frames that bind the same value to the one name and to the other, over one context. -/
theorem Context.renames_push (fresh : y ∉ names) (c : Context) (b : Binding) :
    (c.push [(x, b)]).Renames (replaceName x y) names (c.push [(y, b)]) := by
  intro name mem
  have other : y ≠ name := by
    rintro rfl
    exact fresh mem
  rw [lookup_push, lookup_push]
  by_cases same : name = x
  · rw [same, replaceName_self, if_pos rfl, if_pos rfl]
  · rw [replaceName_of_ne same, if_neg other, if_neg (Ne.symm same)]

theorem within_replaceName {α : Type} {r r' : Render α} {targets targets' : List String}
    (mirrors : Mirrors (replaceName x y) names r r') (assigns : Assigns targets r)
    (assigns' : Assigns targets' r') (fresh : y ∉ names) (v : Value) :
    within y v r' = within x v r := by
  funext c
  have same : (within y v r' c).1 = (within x v r c).1 :=
    (mirrors _ _ (c.renames_push fresh (.value v))).1
  refine Prod.ext same ?_
  rw [within_run x v r assigns, within_run y v r' assigns']

theorem forEach_replaceName {body body' : Render (List Node)} {targets targets' : List String}
    (mirrors : Mirrors (replaceName x y) names body body') (assigns : Assigns targets body)
    (assigns' : Assigns targets' body') (fresh : y ∉ names) (items : List Value) :
    forEach y body' items = forEach x body items := by
  induction items with
  | nil => rfl
  | cons v vs ih => rw [forEach, forEach, within_replaceName mirrors assigns assigns' fresh, ih]

end

/-- The loop with another name for its items. -/
theorem Statement.render_loop_replaceName {name : Ident} {y : String} {body : List Statement}
    (fresh : y ∉ namesOf body) (iterable : Expr) :
    (Statement.loop ⟨y, name.region⟩ iterable (renameAll (replaceName name.name y) body)).render =
      (Statement.loop name iterable body).render := by
  have mirrors : Mirrors (replaceName name.name y) (namesOf body) (renderBlock body)
      (renderBlock (renameAll (replaceName name.name y) body)) :=
    mirrors_renderBlock (distinguishes_replaceName fresh) body (List.Subset.refl _)
  have passes := forEach_replaceName mirrors (assigns_renderBlock _) (assigns_renderBlock _) fresh
  rw [Statement.render, Statement.render]
  simp only [passes]

mutual

/-- The second is the first but for the name of one loop in it, which is replaced by a name that
its body does not have. -/
inductive Statement.RenamesLoop : Statement → Statement → Prop where
  | here {name : Ident} {iterable : Expr} {body : List Statement} {y : String} :
      y ∉ namesOf body → Statement.RenamesLoop (.loop name iterable body)
        (.loop ⟨y, name.region⟩ iterable (renameAll (replaceName name.name y) body))
  | tag {name : Ident} {attributes : List (Ident × Expr)} {body body' : List Statement} :
      RenamesLoopIn body body' →
        Statement.RenamesLoop (.tag name attributes body) (.tag name attributes body')
  | branch {condition : Expr} {body body' otherwise : List Statement} :
      RenamesLoopIn body body' →
        Statement.RenamesLoop (.choice condition body otherwise) (.choice condition body' otherwise)
  | otherwise {condition : Expr} {body other other' : List Statement} :
      RenamesLoopIn other other' →
        Statement.RenamesLoop (.choice condition body other) (.choice condition body other')
  | loop {name : Ident} {iterable : Expr} {body body' : List Statement} :
      RenamesLoopIn body body' →
        Statement.RenamesLoop (.loop name iterable body) (.loop name iterable body')

inductive RenamesLoopIn : List Statement → List Statement → Prop where
  | first {s s' : Statement} {ss : List Statement} :
      s.RenamesLoop s' → RenamesLoopIn (s :: ss) (s' :: ss)
  | later {s : Statement} {ss ss' : List Statement} :
      RenamesLoopIn ss ss' → RenamesLoopIn (s :: ss) (s :: ss')

end

mutual

theorem Statement.RenamesLoop.render_eq :
    ∀ {s s' : Statement}, s.RenamesLoop s' → s'.render = s.render
  | _, _, .here fresh => Statement.render_loop_replaceName fresh _
  | _, _, .tag inside => by
    rw [Statement.render, Statement.render, inside.renderBlock_eq]
  | _, _, .branch inside => by
    rw [Statement.render, Statement.render, inside.renderBlock_eq]
  | _, _, .otherwise inside => by
    rw [Statement.render, Statement.render, inside.renderBlock_eq]
  | _, _, .loop inside => by
    rw [Statement.render, Statement.render, inside.renderBlock_eq]

theorem RenamesLoopIn.renderBlock_eq :
    ∀ {ss ss' : List Statement}, RenamesLoopIn ss ss' → renderBlock ss' = renderBlock ss
  | _, _, .first renames => by
    rw [renderBlock, renderBlock, renames.render_eq]
  | _, _, .later renames => by
    rw [renderBlock, renderBlock, renames.renderBlock_eq]

end

namespace Template

/-- A loop of a template may have any name that its body does not use: the text, the error and the
context afterwards are the same. -/
theorem render_renamed_loop (t : Template) {ss : List Statement}
    (renames : RenamesLoopIn t.statements ss) (c : Context) :
    { t with statements := ss }.render c = t.render c := by
  have same : { t with statements := ss }.forest = t.forest := renames.renderBlock_eq
  unfold render
  rw [same]

/-- A name that is assigned and bound again within its loop, is a function outside of it, and is
also the name of a tag and of an attribute. Its replacement is a value outside. -/
theorem renamed_loop_shadowing :
    let loop (x : String) : Statement :=
      .loop ⟨x, ⟨4, 5⟩⟩ (.literal (.string "12") ⟨9, 13⟩)
        [.tag ⟨"x", ⟨16, 17⟩⟩ [(⟨"x", ⟨18, 19⟩⟩, .var ⟨x, ⟨22, 23⟩⟩)]
          [.loop ⟨x, ⟨32, 33⟩⟩ (.literal (.string "ab") ⟨37, 41⟩)
            [.text [.text [' '], .splice (.var ⟨x, ⟨49, 50⟩⟩)]]],
          .assign ⟨x, ⟨57, 58⟩⟩ (.array [.var ⟨x, ⟨62, 63⟩⟩, .var ⟨x, ⟨65, 66⟩⟩] ⟨61, 67⟩),
          .text [.text [' '], .splice (.var ⟨x, ⟨72, 73⟩⟩)]]
    let outside : Statement :=
      .text [.text [' '], .splice (.var ⟨"y", ⟨78, 79⟩⟩),
        .splice (.call ⟨"x", ⟨81, 82⟩⟩ [] ⟨81, 84⟩)]
    let t : Template := ⟨none,
      "for x in \"12\":\n x(x = x):\n  for x in \"ab\":\n   - \x7bx\x7d\n" ++
        " var x = [x, x]\n - \x7bx\x7d\n- \x7by\x7d\x7bx()\x7d", [loop "x", outside]⟩
    let c : Context :=
      ⟨[("x", .function fun _ => .ok (.string "f")), ("y", .value (.string "v"))], []⟩
    RenamesLoopIn t.statements [loop "y", outside] ∧
      { t with statements := [loop "y", outside] }.render c = t.render c ∧
      (t.render c).1.toOption = some "<x x=\"1\">ab</x>[1, 1]<x x=\"2\">ab</x>[2, 2]vf" := by
  intro loop outside t c
  have renames : RenamesLoopIn t.statements [loop "y", outside] := .first (.here (by decide))
  exact ⟨renames, t.render_renamed_loop renames c, by decide +kernel⟩

end Template

end HtmlTemplate
