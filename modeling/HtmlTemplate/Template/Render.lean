import HtmlTemplate.Markup
import HtmlTemplate.Template.Eval

/-!
# Rendering

Statements write markup and change the context, also on the way to a failure. Every pass of a loop
has a frame of its own, which is released whether the pass succeeds or fails.
-/

namespace HtmlTemplate

abbrev Render := ExceptT Failure (StateM Context)

namespace Render

def evaluate (e : Expr) : Render Value := fun c => (e.eval c, c)

def assign (name : String) (v : Value) : Render Unit := fun c => (.ok (), c.assign name (.value v))

/-- Runs with a further frame that binds one name. -/
def within {α : Type} (name : String) (v : Value) (body : Render α) : Render α := fun c =>
  let (result, inner) := body (c.push [(name, .value v)])
  (result, inner.release c.depth)

/-- Runs once for every item, and collects what was written. -/
def forEach (name : String) (body : Render (List Node)) : List Value → Render (List Node)
  | [] => pure []
  | v :: vs => do
    let first ← within name v body
    let later ← forEach name body vs
    return first ++ later

end Render

open Render

def Part.render : Part → Render (List Char)
  | .text chars => pure chars
  | .splice e => do
    let v ← evaluate e
    return v.write

def renderParts : List Part → Render (List Char)
  | [] => pure []
  | p :: ps => do
    let first ← p.render
    let later ← renderParts ps
    return first ++ later

/-- The space that sets off the text from its marker is not part of the text. -/
def trimLine : List Char → List Char
  | ' ' :: cs => cs
  | cs => cs

def renderAttributes : List (Ident × Expr) → Render (List Attribute)
  | [] => pure []
  | (name, e) :: later => do
    let v ← evaluate e
    let attributes ← renderAttributes later
    return ⟨name.name, v.write⟩ :: attributes

mutual

def Statement.render : Statement → Render (List Node)
  | .tag name attributes body => do
    let attributes ← renderAttributes attributes
    let children ← renderBlock body
    return [.element name.name attributes children]
  | .text parts => do
    let line ← renderParts parts
    return [.text (trimLine line)]
  | .choice condition body otherwise => do
    let v ← evaluate condition
    if v.isTruthy then renderBlock body else renderBlock otherwise
  | .loop name iterable body => do
    let v ← evaluate iterable
    let items ← (fun c => (failAt iterable.region (itemsOf v), c) : Render (List Value))
    forEach name.name (renderBlock body) items
  | .assign name value => do
    let v ← evaluate value
    assign name.name v
    return []

def renderBlock : List Statement → Render (List Node)
  | [] => pure []
  | s :: ss => do
    let first ← s.render
    let later ← renderBlock ss
    return first ++ later

end

end HtmlTemplate
