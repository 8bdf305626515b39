import Mathlib.Data.List.Forall2
import HtmlTemplate.Proofs.Rendering.Scopes

/-!
# Passes of a loop

A loop visits the items of an array, the keys of a dictionary or the characters of a string. It
renders its body once for each of them, every time in the context of the loop with a frame that
binds the name of the loop and nothing else. The passes know nothing of each other, and the context
is the same when the loop is over, whether it succeeded or not.
-/

namespace HtmlTemplate

open Render

/-! ## What is visited -/

namespace Value

/-- The values that a loop over a value visits, in their order. Keys and characters are visited as
strings. -/
inductive Visits : Value → List Value → Prop where
  | items (items : List Value) : Visits (.array items) items
  | keys (entries : Entries Value) : Visits (.dict entries) (entries.names.map .string)
  | characters (chars : List Char) :
      Visits (.string (String.ofList chars)) (chars.map fun ch => .string (String.ofList [ch]))

theorem items?_eq_some_iff {v : Value} {items : List Value} :
    v.items? = some items ↔ v.Visits items := by
  constructor
  · intro iterates
    cases v with
    | array items => cases iterates; exact .items items
    | dict entries =>
      cases iterates
      have visits := Visits.keys entries
      rwa [Entries.names, List.map_map] at visits
    | string s =>
      cases iterates
      have visits := Visits.characters s.toList
      rwa [String.ofList_toList] at visits
    | nothing | bool | number => cases iterates
  · rintro (items | entries | chars)
    · rfl
    · rw [Entries.names, List.map_map]; rfl
    · rw [items?, String.toList_ofList]; rfl

end Value

/-! ## One after the other -/

/-- All outputs of the passes over some items, or the error of the first pass that fails. -/
structure InTurn {ε ω : Type} (pass : Value → Except ε ω) (join : List ω → ω) (items : List Value)
    (outcome : Except ε ω) : Prop where
  succeeds {outs : List ω} : List.Forall₂ (fun v out => pass v = .ok out) items outs →
    outcome = .ok (join outs)
  fails {before after : List Value} {v : Value} {outs : List ω} {e : ε} :
    items = before ++ v :: after → List.Forall₂ (fun v out => pass v = .ok out) before outs →
      pass v = .error e → outcome = .error e
  decided : (∃ outs, List.Forall₂ (fun v out => pass v = .ok out) items outs) ∨
    ∃ before v after outs e, items = before ++ v :: after ∧
      List.Forall₂ (fun v out => pass v = .ok out) before outs ∧ pass v = .error e

section Passes

variable {ε ω : Type} {pass : Value → Except ε ω} {items before after : List Value} {v : Value}
  {outs : List ω} {e : ε}

theorem mapM_of_forall₂ (passed : List.Forall₂ (fun v out => pass v = .ok out) items outs) :
    items.mapM pass = .ok outs := by
  induction passed with
  | nil => rfl
  | cons first later ih =>
    rw [List.mapM_cons, first, ih]
    rfl

theorem mapM_of_first_error (passed : List.Forall₂ (fun v out => pass v = .ok out) before outs)
    (failed : pass v = .error e) : (before ++ v :: after).mapM pass = .error e := by
  rw [List.mapM_append, mapM_of_forall₂ passed, List.mapM_cons, failed]
  rfl

theorem passed_or_failed (pass : Value → Except ε ω) (items : List Value) :
    (∃ outs, List.Forall₂ (fun v out => pass v = .ok out) items outs) ∨
      ∃ before v after outs e, items = before ++ v :: after ∧
        List.Forall₂ (fun v out => pass v = .ok out) before outs ∧ pass v = .error e := by
  induction items with
  | nil => exact .inl ⟨[], .nil⟩
  | cons v items ih =>
    cases first : pass v with
    | error e => exact .inr ⟨[], v, items, [], e, rfl, .nil, first⟩
    | ok out =>
      rcases ih with ⟨outs, passed⟩ | ⟨before, v', after, outs, e, rfl, passed, failed⟩
      · exact .inl ⟨out :: outs, .cons first passed⟩
      · exact .inr ⟨v :: before, v', after, out :: outs, e, rfl, .cons first passed, failed⟩

theorem inTurn_of_mapM {join : List ω → ω} {outcome : Except ε ω}
    (mapped : outcome = (items.mapM pass).map join) : InTurn pass join items outcome where
  succeeds passed := by rw [mapped, mapM_of_forall₂ passed]; rfl
  fails split passed failed := by rw [mapped, split, mapM_of_first_error passed failed]; rfl
  decided := passed_or_failed pass items

theorem mapM_join_append {join : List ω → ω} {append : ω → ω → ω}
    (joins : ∀ outs outs', join (outs ++ outs') = append (join outs) (join outs'))
    (pass : Value → Except ε ω) (xs ys : List Value) :
    ((xs ++ ys).mapM pass).map join = do
      let out ← (xs.mapM pass).map join
      let out' ← (ys.mapM pass).map join
      return append out out' := by
  rw [List.mapM_append]
  cases xs.mapM pass with
  | error e => rfl
  | ok outs =>
    cases ys.mapM pass with
    | error e => rfl
    | ok outs' => exact congrArg Except.ok (joins outs outs')

end Passes

/-! ## Statements -/

/-- What the body of a loop writes for one item. -/
def passNodes (c : Context) (name : Ident) (body : List Statement) (v : Value) :
    Except Failure (List Node) :=
  (renderBlock body (c.push [(name.name, .value v)])).1

theorem within_eq (name : Ident) (body : List Statement) (v : Value) (c : Context) :
    within name.name v (renderBlock body) c = (passNodes c name body v, c) :=
  Prod.ext rfl (within_run name.name v (renderBlock body) (assigns_renderBlock body) c)

theorem forEach_run (name : Ident) (body : List Statement) (items : List Value) (c : Context) :
    forEach name.name (renderBlock body) items c =
      ((items.mapM (passNodes c name body)).map List.flatten, c) := by
  induction items with
  | nil => rfl
  | cons v items ih =>
    rw [forEach, bind_run, within_eq, List.mapM_cons]
    cases passNodes c name body v with
    | error f => rfl
    | ok nodes =>
      dsimp only
      rw [bind_run, ih]
      cases items.mapM (passNodes c name body) <;> rfl

variable {c : Context} {name : Ident} {iterable : Expr} {v : Value} {items : List Value}

theorem Statement.render_loop (body : List Statement) (evaluated : iterable.eval c = .ok v)
    (visits : v.Visits items) :
    (Statement.loop name iterable body).render c =
      ((items.mapM (passNodes c name body)).map List.flatten, c) := by
  have value : evaluate iterable c = (.ok v, c) := by rw [evaluate, evaluated]
  have visited : itemsOf v = .ok items :=
    itemsOf_eq_ok_iff.mpr (Value.items?_eq_some_iff.mpr visits)
  rw [Statement.render, bind_run, value]
  dsimp only
  rw [bind_run, visited]
  exact forEach_run name body items c

theorem renderBlock_singleton (s : Statement) : renderBlock [s] = s.render := by
  simp [renderBlock]

/-! ## Templates -/

namespace Template

/-- Other statements in place of those of a template. -/
def saying (t : Template) (statements : List Statement) : Template := { t with statements }

/-- What a template makes of the outcome of its statements. -/
def report (t : Template) (outcome : Except Failure (List Node)) : Except Error String :=
  (outcome.map fun nodes => String.ofList (Node.writeAll nodes)).mapError
    (Failure.toError t.source.toList t.name)

/-- What a template with the body of a loop writes for one item. -/
def pass (t : Template) (c : Context) (name : Ident) (body : List Statement) (v : Value) :
    Except Error String :=
  ((t.saying body).render (c.push [(name.name, .value v)])).1

theorem render_eq_report (t : Template) (c : Context) :
    t.render c = (t.report (renderBlock t.statements c).1, (renderBlock t.statements c).2) := by
  unfold render forest
  rcases renderBlock t.statements c with ⟨f | nodes, c'⟩ <;> rfl

theorem pass_eq_report (t : Template) (c : Context) (name : Ident) (body : List Statement) :
    t.pass c name body = fun v => t.report (passNodes c name body v) :=
  funext fun _ => congrArg Prod.fst ((t.saying body).render_eq_report _)

theorem report_append (t : Template) (nodes : List Node) (later : Except Failure (List Node)) :
    t.report (later.map (nodes ++ ·)) =
      (t.report later).map (String.ofList (Node.writeAll nodes) ++ ·) := by
  cases later with
  | error f => rfl
  | ok nodes' => exact congrArg Except.ok (by
    dsimp only
    rw [Node.writeAll_append, String.ofList_append])

theorem report_mapM (t : Template) (nodesOf : Value → Except Failure (List Node))
    (items : List Value) :
    t.report ((items.mapM nodesOf).map List.flatten) =
      (items.mapM fun v => t.report (nodesOf v)).map String.join := by
  induction items with
  | nil => rfl
  | cons v items ih =>
    rw [List.mapM_cons, List.mapM_cons]
    cases nodesOf v with
    | error f => rfl
    | ok nodes =>
      calc t.report ((do let outs ← items.mapM nodesOf; return nodes :: outs).map List.flatten)
        _ = t.report (((items.mapM nodesOf).map List.flatten).map (nodes ++ ·)) := by
          cases items.mapM nodesOf <;> rfl
        _ = ((items.mapM fun v => t.report (nodesOf v)).map String.join).map
              (String.ofList (Node.writeAll nodes) ++ ·) := by rw [report_append, ih]
        _ = (do
              let outs ← items.mapM fun v => t.report (nodesOf v)
              return String.ofList (Node.writeAll nodes) :: outs).map String.join := by
          cases items.mapM fun v => t.report (nodesOf v) with
          | error e => rfl
          | ok outs => exact congrArg Except.ok String.join_cons.symm

theorem render_loop (t : Template) (body : List Statement) (evaluated : iterable.eval c = .ok v)
    (visits : v.Visits items) :
    (t.saying [.loop name iterable body]).render c =
      ((items.mapM (t.pass c name body)).map String.join, c) := by
  have run : renderBlock [.loop name iterable body] c =
      ((items.mapM (passNodes c name body)).map List.flatten, c) := by
    rw [renderBlock_singleton]
    exact Statement.render_loop body evaluated visits
  calc (t.saying [.loop name iterable body]).render c
    _ = (t.report ((items.mapM (passNodes c name body)).map List.flatten), c) := by
      rw [render_eq_report]
      exact congrArg (fun r => (t.report r.1, r.2)) run
    _ = _ := by rw [report_mapM, pass_eq_report]

/-- The outcome of a loop is that of its passes in turn, for a loop among other statements as for
one alone, and what two loops visit one after the other is visited as well by one loop over both. -/
theorem loop_inTurn (t : Template) (c : Context) (name : Ident) (iterable : Expr)
    (body : List Statement) {v : Value} {items : List Value}
    (evaluated : iterable.eval c = .ok v) (visits : v.Visits items) :
    (InTurn (passNodes c name body) List.flatten items
        ((Statement.loop name iterable body).render c).1 ∧
      ((Statement.loop name iterable body).render c).2 = c) ∧
    (InTurn (t.pass c name body) String.join items
        ((t.saying [.loop name iterable body]).render c).1 ∧
      ((t.saying [.loop name iterable body]).render c).2 = c) ∧
    ∀ {first second : Expr} {u w : Value} {xs ys : List Value},
      first.eval c = .ok u → u.Visits xs → second.eval c = .ok w → w.Visits ys →
        items = xs ++ ys →
          ((t.saying [.loop name iterable body]).render c).1 = do
            let out ← ((t.saying [.loop name first body]).render c).1
            let out' ← ((t.saying [.loop name second body]).render c).1
            return out ++ out' := by
  have statement : (Statement.loop name iterable body).render c = _ :=
    Statement.render_loop body evaluated visits
  have alone : (t.saying [.loop name iterable body]).render c = _ :=
    t.render_loop body evaluated visits
  refine ⟨⟨inTurn_of_mapM (by rw [statement]), by rw [statement]⟩,
    ⟨inTurn_of_mapM (by rw [alone]), by rw [alone]⟩, ?_⟩
  intro first second u w xs ys evaluated' visits' evaluated'' visits'' split
  rw [alone, t.render_loop body evaluated' visits', t.render_loop body evaluated'' visits'', split]
  exact mapM_join_append (fun _ _ => String.join_append) _ xs ys

/-- A body that overwrites the name of its loop, which is bound outside as well, for the items of an
array, the keys of a dictionary and the characters of a string. -/
theorem loop_overwrites_name :
    let c : Context := { innermost := [("x", .value (.string "outside"))] }
    let x : Ident := ⟨"x", ⟨4, 1⟩⟩
    let items : List Value := [.string "é", .string "a"]
    let array : Value := .array items
    let dict : Value := .dict [("é", .nothing), ("a", array)]
    let text : Value := .string "éa"
    let body : List Statement :=
      [.text [.splice (.var x)], .assign x (.literal (.string "inside") ⟨0, 0⟩)]
    let t : Template := ⟨none, "", []⟩
    let iterable (v : Value) : Expr := .literal v ⟨0, 0⟩
    let rendered (v : Value) : Except Error String × Context :=
      (t.saying [.loop x (iterable v) body]).render c
    ((iterable array).eval c = .ok array ∧ array.Visits items ∧
      rendered array = (.ok "éa", c)) ∧
    ((iterable dict).eval c = .ok dict ∧ dict.Visits items ∧ rendered dict = (.ok "éa", c)) ∧
    ((iterable text).eval c = .ok text ∧ text.Visits items ∧ rendered text = (.ok "éa", c)) ∧
    (rendered array).1 = do
      let out ← (rendered (.string "é")).1
      let out' ← (rendered (.dict [("a", .nothing)])).1
      return out ++ out' := by
  intro c x items array dict text body t iterable rendered
  have inArray : array.Visits items := .items items
  have inDict : dict.Visits items := .keys [("é", .nothing), ("a", array)]
  have inText : text.Visits items := .characters ['é', 'a']
  have passed : List.Forall₂ (fun v out => t.pass c x body v = .ok out) items ["é", "a"] :=
    .cons rfl (.cons rfl .nil)
  have outcome {v : Value} (visits : v.Visits items) : rendered v = (.ok "éa", c) := by
    obtain ⟨-, ⟨passes, same⟩, -⟩ := loop_inTurn t c x (iterable v) body rfl visits
    exact Prod.ext (passes.succeeds passed) same
  refine ⟨⟨rfl, inArray, outcome inArray⟩, ⟨rfl, inDict, outcome inDict⟩,
    ⟨rfl, inText, outcome inText⟩, ?_⟩
  obtain ⟨-, -, joined⟩ := loop_inTurn t c x (iterable array) body rfl inArray
  exact joined rfl (.characters ['é']) rfl (.keys [("a", .nothing)]) rfl

end Template

end HtmlTemplate
