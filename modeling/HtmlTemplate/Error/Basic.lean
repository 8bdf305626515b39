import HtmlTemplate.Error.Pointer

/-!
# Errors

An error says what failed and, as far as it is known, where, in which template, and what helps.
Hosts may attach a picture of their own in place of a pointer. Pictures do not count when two
errors are compared.
-/

namespace HtmlTemplate

inductive ErrorKind where
  | syntactic
  | arithmetic
  | typeMismatch
  | iteration
  | template
  | write
  | general
  deriving DecidableEq

def ErrorKind.text : ErrorKind → String
  | .syntactic => "syntax"
  | .arithmetic => "arithmetic"
  | .typeMismatch => "type mismatch"
  | .iteration => "iteration"
  | .template => "template"
  | .write => "write"
  | .general => "general"

/-- A picture drawn by the host from the template's name and the help. -/
structure Drawing where
  display : (name help : Option String) → String
  position : Option (Nat × Nat) := none
  label : String

inductive Visual where
  | pointer (p : Pointer)
  | drawing (d : Drawing)

namespace Visual

def display : Visual → (name help : Option String) → String
  | .pointer p => p.display
  | .drawing d => d.display

/-- Line and column, both from one. -/
def position? : Visual → Option (Nat × Nat)
  | .pointer p => some (p.position.line + 1, p.position.column + 1)
  | .drawing d => d.position

end Visual

structure Error where
  reason : String
  kind : ErrorKind := .general
  help : Option String := none
  name : Option String := none
  visual : Option Visual := none

namespace Error

def withPointer (e : Error) (source : List Char) (region : Region) : Error :=
  { e with visual := some (.pointer (.ofRegion source region)) }

/-- Keeps a picture that is already there. -/
def orPointer (e : Error) (source : List Char) (region : Region) : Error :=
  if e.visual.isSome then e else e.withPointer source region

/-- Keeps a name that is already there. -/
def orName (e : Error) (name : Option String) : Error :=
  { e with name := e.name <|> name }

def position? (e : Error) : Option (Nat × Nat) := e.visual.bind Visual.position?

def isSyntactic (e : Error) : Bool := e.kind == .syntactic

def isTypeMismatch (e : Error) : Bool := e.kind == .typeMismatch || e.kind == .iteration

def sameAs (a b : Error) : Bool :=
  a.reason == b.reason && a.kind == b.kind && a.help == b.help && a.name == b.name

/-- The reason on one line. -/
def summary (e : Error) : String := Pointer.red ++ "error" ++ Pointer.plain ++ ": " ++ e.reason

/-- The reason and the picture. -/
def display (e : Error) : String :=
  e.summary ++ match e.visual with
    | some v => v.display e.name e.help
    | none => ""

end Error

end HtmlTemplate
