import HtmlTemplate.Proofs.Rendering.Scopes

/-!
# Errors of a rendering

An operation of a template takes place once its operands are there: arithmetic, a call, the choice
of a key, or taking the items of a loop. A rendering goes through these operations in an order that
its template and its context determine, and its error is that of the first one which is refused. The
pointer of the error is that operation's, whatever stands around it.
-/

namespace HtmlTemplate

/-- An operation that may be refused. -/
inductive Site where
  | binary (op : Operator) (left right : Expr)
  | call (function : Ident) (arguments : List Expr) (region : Region)
  /-- An expression as the key of an entry. -/
  | key (e : Expr)
  /-- An expression as what a loop goes through. -/
  | iterable (e : Expr)

/-- The expression that is blamed. -/
def Site.expr : Site → Expr
  | .binary op left right => .binary op left right
  | .call function arguments region => .call function arguments region
  | .key e | .iterable e => e

/-- All operands have values, but the operation on them fails. -/
inductive Site.Refuses (c : Context) : Site → FailureCause → Prop where
  | binary {op left right a b cause} : left.eval c = .ok a → right.eval c = .ok b →
      op.applyValues a b = .error cause → Refuses c (.binary op left right) cause
  | call {function arguments region f values e} : c.function? function.name = some f →
      evalItems c arguments = .ok values → f values = .error e →
      Refuses c (.call function arguments region) (.host e)
  | key {e v} : e.eval c = .ok v → v.key? = none → Refuses c (.key e) (.badKey v)
  | iterable {e v} : e.eval c = .ok v → v.items? = none → Refuses c (.iterable e) (.notIterable v)

/-- An operation and the context that it takes place in. -/
structure Step where
  context : Context
  site : Site

def Step.Refuses (s : Step) (cause : FailureCause) : Prop := s.site.Refuses s.context cause

/-! ## The order of operations -/

mutual

/-- Operands come before their operation. What is no function is not called, and its arguments are
not evaluated. -/
def Expr.steps (c : Context) : Expr → List Step
  | .literal _ _ | .var _ => []
  | .array items _ => stepsOfItems c items
  | .dict entries _ => stepsOfEntries c entries
  | .binary op left right => left.steps c ++ (right.steps c ++ [⟨c, .binary op left right⟩])
  | .call function arguments region =>
    if (c.function? function.name).isSome then
      stepsOfItems c arguments ++ [⟨c, .call function arguments region⟩]
    else []

def stepsOfItems (c : Context) : List Expr → List Step
  | [] => []
  | e :: es => e.steps c ++ stepsOfItems c es

def stepsOfEntries (c : Context) : List (Expr × Expr) → List Step
  | [] => []
  | (key, value) :: es =>
    key.steps c ++ ([⟨c, .key key⟩] ++ (value.steps c ++ stepsOfEntries c es))

end

def Part.steps (c : Context) : Part → List Step
  | .text _ => []
  | .splice e => e.steps c

mutual

/-- The operations of the branch that is chosen, and of each pass of a loop. -/
def Statement.steps : Statement → Context → List Step
  | .tag _ attributes body, c => attributes.flatMap (fun a => a.2.steps c) ++ stepsOf body c
  | .text parts, c => parts.flatMap (Part.steps c)
  | .choice condition body otherwise, c =>
    condition.steps c ++
      match condition.eval c with
      | .ok v => if v.isTruthy then stepsOf body c else stepsOf otherwise c
      | .error _ => []
  | .loop name iterable body, c =>
    iterable.steps c ++ ([⟨c, .iterable iterable⟩] ++
      match iterable.eval c with
      | .ok v => (v.items?.getD []).flatMap fun item =>
        stepsOf body (c.push [(name.name, .value item)])
      | .error _ => [])
  | .assign _ value, c => value.steps c

/-- Each statement runs in the context that those in front of it leave. -/
def stepsOf : List Statement → Context → List Step
  | [], _ => []
  | s :: ss, c => s.steps c ++ stepsOf ss (s.render c).2

end

def Template.steps (t : Template) (c : Context) : List Step := stepsOf t.statements c

/-! ## The first operation that is refused -/

/-- An outcome is that of some operations in their order: a failure is that of the first one which
is refused, and a result says that none is. -/
def Settles {α : Type} (steps : List Step) : Except Failure α → Prop
  | .ok _ => ∀ s ∈ steps, ∀ cause, ¬ s.Refuses cause
  | .error f => ∃ before step after, steps = before ++ step :: after ∧
      (∀ s ∈ before, ∀ cause, ¬ s.Refuses cause) ∧ step.Refuses f.cause ∧
      f.region = step.site.expr.region

section

variable {α β : Type} {xs ys : List Step} {c : Context}

theorem settles_nil (a : α) : Settles [] (.ok a) := nofun

/-- What comes behind a failure does not count. -/
theorem Settles.error_append {f : Failure} (first : Settles xs (.error f : Except Failure α)) :
    Settles (xs ++ ys) (.error f : Except Failure β) := by
  obtain ⟨before, step, after, rfl, smooth, refused⟩ := first
  exact ⟨before, step, after ++ ys, by simp, smooth, refused⟩

theorem Settles.ok_append {a : α} {outcome : Except Failure β} (first : Settles xs (.ok a))
    (later : Settles ys outcome) : Settles (xs ++ ys) outcome := by
  cases outcome with
  | ok b => exact List.forall_mem_append.mpr ⟨first, later⟩
  | error f =>
    obtain ⟨before, step, after, rfl, smooth, refused⟩ := later
    exact ⟨xs ++ before, step, after, by simp, List.forall_mem_append.mpr ⟨first, smooth⟩, refused⟩

theorem Settles.bind {x : Except Failure α} {f : α → Except Failure β} (first : Settles xs x)
    (later : ∀ a, x = .ok a → Settles ys (f a)) : Settles (xs ++ ys) (x >>= f) := by
  cases x with
  | ok a => exact first.ok_append (later a rfl)
  | error e => exact first.error_append

theorem Settles.map {x : Except Failure α} {f : α → β} (settles : Settles xs x) :
    Settles xs (x >>= fun a => pure (f a)) := by
  rw [← List.append_nil xs]
  exact settles.bind fun a _ => settles_nil (f a)

/-- An operation whose operands are there. -/
theorem settles_failAt {site : Site} {region : Region} {outcome : Except FailureCause α}
    (here : region = site.expr.region)
    (refuses : ∀ cause, site.Refuses c cause ↔ outcome = .error cause) :
    Settles [⟨c, site⟩] (failAt region outcome) := by
  cases outcome with
  | ok a =>
    intro s mem cause refused
    rw [List.mem_singleton.mp mem] at refused
    cases (refuses cause).mp refused
  | error cause =>
    exact ⟨[], ⟨c, site⟩, [], rfl, nofun, (refuses cause).mpr rfl, here⟩

end

variable {c : Context}

/-! ## Expressions -/

theorem refuses_binary_iff {op : Operator} {left right : Expr} {a b : Value} {cause : FailureCause}
    (leftValue : left.eval c = .ok a) (rightValue : right.eval c = .ok b) :
    (Site.binary op left right).Refuses c cause ↔ op.applyValues a b = .error cause := by
  constructor
  · intro refused
    cases refused with
    | binary leftValue' rightValue' fails =>
      rw [leftValue] at leftValue'
      rw [rightValue] at rightValue'
      cases leftValue'
      cases rightValue'
      exact fails
  · exact .binary leftValue rightValue

theorem refuses_call_iff {function : Ident} {arguments : List Expr} {region : Region}
    {f : HostFunction} {values : List Value} {cause : FailureCause}
    (callable : c.function? function.name = some f)
    (evaluated : evalItems c arguments = .ok values) :
    (Site.call function arguments region).Refuses c cause ↔ f.call values = .error cause := by
  constructor
  · intro refused
    cases refused with
    | call callable' evaluated' fails =>
      rw [callable] at callable'
      rw [evaluated] at evaluated'
      cases callable'
      cases evaluated'
      rw [HostFunction.call, fails]
  · intro fails
    unfold HostFunction.call at fails
    split at fails
    · cases fails
    · next e failed =>
      cases fails
      exact .call callable evaluated failed

theorem refuses_key_iff {e : Expr} {v : Value} {cause : FailureCause} (value : e.eval c = .ok v) :
    (Site.key e).Refuses c cause ↔ keyOf v = .error cause := by
  unfold keyOf
  constructor
  · intro refused
    cases refused with
    | key value' none =>
      rw [value] at value'
      cases value'
      rw [none]
  · intro fails
    split at fails
    · cases fails
    · next none =>
      cases fails
      exact .key value none

theorem refuses_iterable_iff {e : Expr} {v : Value} {cause : FailureCause}
    (value : e.eval c = .ok v) :
    (Site.iterable e).Refuses c cause ↔ itemsOf v = .error cause := by
  unfold itemsOf
  constructor
  · intro refused
    cases refused with
    | iterable value' none =>
      rw [value] at value'
      cases value'
      rw [none]
  · intro fails
    split at fails
    · cases fails
    · next none =>
      cases fails
      exact .iterable value none

mutual

theorem Expr.settles_eval : ∀ e : Expr, Settles (e.steps c) (e.eval c)
  | .literal v _ => by
    rw [Expr.steps, Expr.eval]
    exact settles_nil v
  | .var name => by
    rw [Expr.steps, Expr.eval]
    exact settles_nil _
  | .array items _ => by
    rw [Expr.steps, Expr.eval]
    exact (settles_evalItems items).map
  | .dict entries _ => by
    rw [Expr.steps, Expr.eval]
    exact (settles_evalEntries entries []).map
  | .binary op left right => by
    rw [Expr.steps, Expr.eval]
    apply left.settles_eval.bind
    intro a leftValue
    apply right.settles_eval.bind
    intro b rightValue
    exact settles_failAt rfl fun cause => refuses_binary_iff leftValue rightValue
  | .call function arguments region => by
    rw [Expr.steps, Expr.eval]
    cases callable : c.function? function.name with
    | none => exact settles_nil _
    | some f =>
      apply (settles_evalItems arguments).bind
      intro values evaluated
      exact settles_failAt rfl fun cause => refuses_call_iff callable evaluated

theorem settles_evalItems : ∀ es : List Expr, Settles (stepsOfItems c es) (evalItems c es)
  | [] => by
    rw [stepsOfItems, evalItems]
    exact settles_nil _
  | e :: es => by
    rw [stepsOfItems, evalItems]
    apply e.settles_eval.bind
    intro v _
    exact (settles_evalItems es).map

theorem settles_evalEntries : ∀ (es : List (Expr × Expr)) (read : Entries Value),
    Settles (stepsOfEntries c es) (evalEntries c read es)
  | [], read => by
    rw [stepsOfEntries, evalEntries]
    exact settles_nil _
  | (key, value) :: es, read => by
    rw [stepsOfEntries, evalEntries]
    apply key.settles_eval.bind
    intro k evaluated
    apply (settles_failAt rfl fun cause => refuses_key_iff evaluated).bind
    intro name _
    apply value.settles_eval.bind
    intro v _
    exact settles_evalEntries es _

end

/-! ## Statements -/

open Render

section

variable {α β : Type} {r : Render α} {f : α → Render β} {xs ys : List Step}

theorem Settles.bind_run (first : Settles xs (r c).1)
    (later : ∀ a c', r c = (.ok a, c') → Settles ys (f a c').1) :
    Settles (xs ++ ys) ((r >>= f) c).1 := by
  rw [Render.bind_run]
  generalize r c = outcome at first later
  obtain ⟨failure | a, c'⟩ := outcome
  · exact first.error_append
  · exact first.ok_append (later a c' rfl)

theorem Settles.map_run {g : α → β} (settles : Settles xs (r c).1) :
    Settles xs ((r >>= fun a => pure (g a)) c).1 := by
  rw [← List.append_nil xs]
  exact settles.bind_run fun a _ _ => settles_nil (g a)

/-- Something evaluated leaves the context as it is. -/
theorem Settles.bind_evaluate {e : Expr} {g : Value → Render β}
    (later : ∀ v, e.eval c = .ok v → Settles ys (g v c).1) :
    Settles (e.steps c ++ ys) ((evaluate e >>= g) c).1 := by
  have first : Settles (e.steps c) (evaluate e c).1 := e.settles_eval
  apply first.bind_run
  intro v c' evaluation
  obtain ⟨value, rfl⟩ := evaluate_run_ok.mp evaluation
  exact later v value

end

theorem settles_part (p : Part) : Settles (p.steps c) (p.render c).1 := by
  cases p with
  | text chars => exact settles_nil chars
  | splice e =>
    have value : Settles (e.steps c) (evaluate e c).1 := e.settles_eval
    exact value.map_run

theorem settles_renderParts (ps : List Part) :
    Settles (ps.flatMap (Part.steps c)) (renderParts ps c).1 := by
  induction ps with
  | nil => exact settles_nil _
  | cons p ps ih =>
    rw [List.flatMap_cons, renderParts]
    apply (settles_part p).bind_run
    intro first c' part
    have same : c' = c := (assigns_part p).same_of_run part
    subst same
    exact ih.map_run

theorem settles_renderAttributes (attributes : List (Ident × Expr)) :
    Settles (attributes.flatMap fun a => a.2.steps c) (renderAttributes attributes c).1 := by
  induction attributes with
  | nil => exact settles_nil _
  | cons a later ih =>
    rw [List.flatMap_cons, renderAttributes]
    apply Settles.bind_evaluate
    intro v _
    exact ih.map_run

/-- The passes of a loop are settled one after the other, each in a context that the others have no
part in. -/
theorem settles_forEach {names : List String} {body : Render (List Node)}
    {steps : Context → List Step} (settles : ∀ c, Settles (steps c) (body c).1)
    (assigns : Assigns names body) (name : String) (items : List Value) :
    Settles (items.flatMap fun v => steps (c.push [(name, .value v)]))
      (forEach name body items c).1 := by
  induction items with
  | nil => exact settles_nil _
  | cons v vs ih =>
    rw [List.flatMap_cons, forEach]
    have pass : Settles (steps (c.push [(name, .value v)])) (within name v body c).1 := settles _
    apply pass.bind_run
    intro first c' run
    have same : c' = c := by
      have after := within_run name v body assigns c
      rwa [run] at after
    subst same
    exact ih.map_run

mutual

theorem Statement.settles_render : ∀ (s : Statement) (c : Context),
    Settles (s.steps c) (s.render c).1
  | .tag name attributes body, c => by
    rw [Statement.steps, Statement.render]
    apply (settles_renderAttributes attributes).bind_run
    intro written c' run
    have same : c' = c := (assigns_renderAttributes attributes).same_of_run run
    subst same
    exact (settles_renderBlock body c').map_run
  | .text parts, c => by
    rw [Statement.steps, Statement.render]
    exact (settles_renderParts parts).map_run
  | .choice condition body otherwise, c => by
    rw [Statement.steps, Statement.render]
    apply Settles.bind_evaluate
    intro v value
    rw [value]
    dsimp only
    split
    · exact settles_renderBlock body c
    · exact settles_renderBlock otherwise c
  | .loop name iterable body, c => by
    rw [Statement.steps, Statement.render]
    apply Settles.bind_evaluate
    intro v value
    rw [value]
    have goesThrough : Settles [⟨c, .iterable iterable⟩]
        ((fun c => (failAt iterable.region (itemsOf v), c) : Render (List Value)) c).1 :=
      settles_failAt rfl fun cause => refuses_iterable_iff value
    apply goesThrough.bind_run
    intro items c' run
    have found : v.items? = some items ∧ c' = c := by
      obtain ⟨outcome, same⟩ := Prod.mk.inj run
      exact ⟨itemsOf_eq_ok_iff.mp (failAt_eq_ok_iff.mp outcome), same.symm⟩
    obtain ⟨found, rfl⟩ := found
    dsimp only
    rw [found, Option.getD_some]
    exact settles_forEach (settles_renderBlock body) (assigns_renderBlock body) name.name items
  | .assign name value, c => by
    rw [Statement.steps, Statement.render]
    rw [← List.append_nil (value.steps c)]
    apply Settles.bind_evaluate
    intro v _
    exact settles_nil _

theorem settles_renderBlock : ∀ (ss : List Statement) (c : Context),
    Settles (stepsOf ss c) (renderBlock ss c).1
  | [], c => by
    rw [stepsOf, renderBlock]
    exact settles_nil _
  | s :: ss, c => by
    rw [stepsOf, renderBlock]
    apply (s.settles_render c).bind_run
    intro first c' run
    rw [run]
    exact (settles_renderBlock ss c').map_run

end

/-! ## Expressions of a template -/

mutual

/-- An expression and all that stand within it. -/
def Expr.subterms : Expr → List Expr
  | .literal v region => [.literal v region]
  | .var name => [.var name]
  | .array items region => .array items region :: subtermsOfItems items
  | .dict entries region => .dict entries region :: subtermsOfEntries entries
  | .binary op left right => .binary op left right :: (left.subterms ++ right.subterms)
  | .call function arguments region => .call function arguments region :: subtermsOfItems arguments

def subtermsOfItems : List Expr → List Expr
  | [] => []
  | e :: es => e.subterms ++ subtermsOfItems es

def subtermsOfEntries : List (Expr × Expr) → List Expr
  | [] => []
  | (key, value) :: es => key.subterms ++ (value.subterms ++ subtermsOfEntries es)

end

def Part.expressions : Part → List Expr
  | .text _ => []
  | .splice e => e.subterms

mutual

def Statement.expressions : Statement → List Expr
  | .tag _ attributes body => attributes.flatMap (fun a => a.2.subterms) ++ expressionsOf body
  | .text parts => parts.flatMap Part.expressions
  | .choice condition body otherwise =>
    condition.subterms ++ (expressionsOf body ++ expressionsOf otherwise)
  | .loop _ iterable body => iterable.subterms ++ expressionsOf body
  | .assign _ value => value.subterms

def expressionsOf : List Statement → List Expr
  | [] => []
  | s :: ss => s.expressions ++ expressionsOf ss

end

theorem Expr.mem_subterms (e : Expr) : e ∈ e.subterms := by
  cases e with
  | _ => simp [subterms]

/-- The operations of some expressions belong to them. -/
def Within (steps : List Step) (es : List Expr) : Prop := ∀ s ∈ steps, s.site.expr ∈ es

section

variable {xs ys : List Step} {es fs : List Expr}

theorem within_nil : Within [] es := nofun

theorem Within.append (first : Within xs es) (later : Within ys fs) :
    Within (xs ++ ys) (es ++ fs) := by
  refine List.forall_mem_append.mpr ⟨fun s mem => ?_, fun s mem => ?_⟩
  · exact List.mem_append_left _ (first s mem)
  · exact List.mem_append_right _ (later s mem)

theorem Within.cons (within : Within xs es) (e : Expr) : Within xs (e :: es) :=
  fun s mem => List.mem_cons_of_mem _ (within s mem)

/-- The operation of an expression itself. -/
theorem Within.own (within : Within xs es) {site : Site} (mem : site.expr ∈ es) :
    Within (xs ++ [⟨c, site⟩]) es := by
  refine List.forall_mem_append.mpr ⟨within, ?_⟩
  intro s here
  rw [List.mem_singleton.mp here]
  exact mem

theorem within_flatMap {α : Type} {as : List α} {f : α → List Step} {g : α → List Expr}
    (within : ∀ a ∈ as, Within (f a) (g a)) : Within (as.flatMap f) (as.flatMap g) := by
  intro s mem
  obtain ⟨a, found, here⟩ := List.mem_flatMap.mp mem
  exact List.mem_flatMap.mpr ⟨a, found, within a found s here⟩

end

mutual

theorem Expr.within_steps : ∀ e : Expr, Within (e.steps c) e.subterms
  | .literal v _ => by
    rw [Expr.steps]
    exact within_nil
  | .var name => by
    rw [Expr.steps]
    exact within_nil
  | .array items region => by
    rw [Expr.steps, Expr.subterms]
    exact (within_stepsOfItems items).cons _
  | .dict entries region => by
    rw [Expr.steps, Expr.subterms]
    exact (within_stepsOfEntries entries).cons _
  | .binary op left right => by
    rw [Expr.steps, Expr.subterms, ← List.append_assoc]
    exact ((left.within_steps.append right.within_steps).cons _).own List.mem_cons_self
  | .call function arguments region => by
    rw [Expr.steps, Expr.subterms]
    split
    · exact ((within_stepsOfItems arguments).cons _).own List.mem_cons_self
    · exact within_nil

theorem within_stepsOfItems : ∀ es : List Expr, Within (stepsOfItems c es) (subtermsOfItems es)
  | [] => by
    rw [stepsOfItems]
    exact within_nil
  | e :: es => by
    rw [stepsOfItems, subtermsOfItems]
    exact e.within_steps.append (within_stepsOfItems es)

theorem within_stepsOfEntries :
    ∀ es : List (Expr × Expr), Within (stepsOfEntries c es) (subtermsOfEntries es)
  | [] => by
    rw [stepsOfEntries]
    exact within_nil
  | (key, value) :: es => by
    rw [stepsOfEntries, subtermsOfEntries, ← List.append_assoc]
    have first : Within (key.steps c ++ [⟨c, .key key⟩]) key.subterms :=
      key.within_steps.own key.mem_subterms
    exact first.append (value.within_steps.append (within_stepsOfEntries es))

end

theorem within_part (p : Part) : Within (p.steps c) p.expressions := by
  cases p with
  | text chars => exact within_nil
  | splice e => exact e.within_steps

mutual

theorem Statement.within_steps : ∀ (s : Statement) (c : Context), Within (s.steps c) s.expressions
  | .tag _ attributes body, c => by
    rw [Statement.steps, Statement.expressions]
    have values : Within (attributes.flatMap fun a => a.2.steps c)
        (attributes.flatMap fun a => a.2.subterms) := within_flatMap fun a _ => a.2.within_steps
    exact values.append (within_stepsOf body c)
  | .text parts, c => by
    rw [Statement.steps, Statement.expressions]
    exact within_flatMap fun p _ => within_part p
  | .choice condition body otherwise, c => by
    rw [Statement.steps, Statement.expressions]
    apply condition.within_steps.append
    split
    · split
      · exact fun s mem => List.mem_append_left _ (within_stepsOf body c s mem)
      · exact fun s mem => List.mem_append_right _ (within_stepsOf otherwise c s mem)
    · exact within_nil
  | .loop name iterable body, c => by
    rw [Statement.steps, Statement.expressions, ← List.append_assoc]
    have head : Within (iterable.steps c ++ [⟨c, .iterable iterable⟩]) iterable.subterms :=
      iterable.within_steps.own iterable.mem_subterms
    apply head.append
    split
    · intro s mem
      obtain ⟨item, _, here⟩ := List.mem_flatMap.mp mem
      exact within_stepsOf body _ s here
    · exact within_nil
  | .assign _ value, c => by
    rw [Statement.steps, Statement.expressions]
    exact value.within_steps

theorem within_stepsOf : ∀ (ss : List Statement) (c : Context),
    Within (stepsOf ss c) (expressionsOf ss)
  | [], c => by
    rw [stepsOf]
    exact within_nil
  | s :: ss, c => by
    rw [stepsOf, expressionsOf]
    exact (s.within_steps c).append (within_stepsOf ss _)

end

/-! ## Errors -/

/-- What a function of the host returned in place of a value. -/
def FailureCause.host? : FailureCause → Option Error
  | .host e => some e
  | _ => none

/-- Only the host draws pictures of its own. -/
theorem FailureCause.visual_error (cause : FailureCause) :
    cause.error.visual = cause.host?.bind Error.visual := by
  cases cause with
  | arithmetic f => cases f <;> rfl
  | _ => rfl

/-- Only the host sets names of its own. -/
theorem FailureCause.name_error (cause : FailureCause) :
    cause.error.name = cause.host?.bind Error.name := by
  cases cause with
  | arithmetic f => cases f <;> rfl
  | _ => rfl

theorem Error.visual_orPointer (e : Error) (source : List Char) (region : Region) :
    (e.orPointer source region).visual =
      some (e.visual.getD (.pointer (.ofRegion source region))) := by
  unfold orPointer
  cases drawn : e.visual with
  | none => rfl
  | some v => exact drawn

theorem Error.fields_orPointer (e : Error) (source : List Char) (region : Region) :
    (e.orPointer source region).name = e.name ∧ (e.orPointer source region).reason = e.reason ∧
      (e.orPointer source region).kind = e.kind ∧ (e.orPointer source region).help = e.help := by
  unfold orPointer
  split <;> exact ⟨rfl, rfl, rfl, rfl⟩

/-- Line and column of an offset, both from one. -/
def placeOf (source : List Char) (offset : Nat) : Nat × Nat :=
  ((Position.ofOffset source offset).line + 1, (Position.ofOffset source offset).column + 1)

/-- An error that reports why an operation was refused, and where. -/
structure Error.Reports (e : Error) (t : Template) (site : Site) (cause : FailureCause) : Prop where
  reason : e.reason = cause.error.reason
  kind : e.kind = cause.error.kind
  help : e.help = cause.error.help
  name : e.name = ((cause.host?.bind Error.name) <|> t.name)
  shown : e.visual.isSome = true
  drawn : ∀ v, cause.host?.bind Error.visual = some v → e.visual = some v
  pointed : cause.host?.bind Error.visual = none →
    e.position? = some (placeOf t.source.toList site.expr.region.start)

theorem Failure.reports_toError {t : Template} {site : Site} {f : Failure}
    (here : f.region = site.expr.region) :
    (f.toError t.source.toList t.name).Reports t site f.cause := by
  have visual : (f.toError t.source.toList t.name).visual =
      some ((f.cause.host?.bind Error.visual).getD
        (.pointer (.ofRegion t.source.toList site.expr.region))) := by
    rw [← f.cause.visual_error, ← here]
    exact f.cause.error.visual_orPointer t.source.toList f.region
  obtain ⟨name, reason, kind, help⟩ := f.cause.error.fields_orPointer t.source.toList f.region
  constructor
  · exact reason
  · exact kind
  · exact help
  · rw [← f.cause.name_error, ← name]
    rfl
  · rw [visual]
    rfl
  · intro v drawn
    rw [visual, drawn, Option.getD_some]
  · intro plain
    rw [Error.position?, visual, plain]
    rfl

namespace Template

/-- The error of a rendering is that of the first operation that is refused, and points at it. -/
theorem render_error_points {t : Template} {c c' : Context} {e : Error}
    (fails : t.render c = (.error e, c')) :
    ∃ before step after cause, t.steps c = before ++ step :: after ∧
      (∀ s ∈ before, ∀ cause, ¬ s.Refuses cause) ∧ step.Refuses cause ∧
      step.site.expr ∈ expressionsOf t.statements ∧ e.Reports t step.site cause := by
  have settles := settles_renderBlock t.statements c
  change Settles (t.steps c) (t.forest c).1 at settles
  unfold render at fails
  split at fails
  · cases fails
  · next f mid runs =>
    cases fails
    rw [runs] at settles
    obtain ⟨before, step, after, order, smooth, refused, here⟩ := settles
    have mem : step ∈ t.steps c := by simp [order]
    exact ⟨before, step, after, f.cause, order, smooth, refused,
      within_stepsOf t.statements c step mem, Failure.reports_toError here⟩

/-- A missing name as the key of a dictionary, behind a statement that succeeds. -/
theorem missing_key_error_points :
    let one : Number := .int ⟨1, by decide, by decide⟩
    let t : Template := ⟨some "page", "if True:\n - a\nvar y = \x7bx: 1\x7d",
      [.choice (.literal (.bool true) ⟨3, 7⟩) [.text [.text [' ', 'a']]] [],
        .assign ⟨"y", ⟨18, 19⟩⟩
          (.dict [(.var ⟨"x", ⟨23, 24⟩⟩, .literal (.number one) ⟨26, 27⟩)] ⟨22, 28⟩)]⟩
    ∃ e c' step cause, t.render {} = (.error e, c') ∧ e.position? = some (3, 10) ∧
      step ∈ t.steps {} ∧ step.Refuses cause ∧ e.Reports t step.site cause := by
  intro one t
  let e := Failure.toError t.source.toList t.name ⟨⟨23, 24⟩, .badKey .nothing⟩
  have fails : t.render {} = (.error e, {}) := rfl
  have place : e.position? = some (3, 10) := by decide +kernel
  obtain ⟨before, step, after, cause, order, -, refused, -, reports⟩ := render_error_points fails
  exact ⟨e, _, step, cause, fails, place, by simp [order], refused, reports⟩

end Template

end HtmlTemplate
