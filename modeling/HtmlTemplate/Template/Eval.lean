import HtmlTemplate.Context
import HtmlTemplate.Tree.Basic
import HtmlTemplate.Value.Text

/-!
# Evaluation

Expressions are evaluated from left to right and leave the context as it is. A failure knows the
region of the expression whose own operation failed.
-/

namespace HtmlTemplate

inductive FailureCause where
  | notNumbers (op : Operator) (left right : Value)
  | arithmetic (f : ArithmeticFault)
  | badKey (found : Value)
  | notIterable (found : Value)
  | host (e : Error)

structure Failure where
  region : Region
  cause : FailureCause

namespace FailureCause

def arithmeticError : ArithmeticFault → Error
  | .divisionByZero =>
    { reason := "division by zero", kind := .arithmetic
      help := some "the right side of `/` must not be zero" }
  | .integerOverflow op =>
    { reason := "numeric overflow", kind := .arithmetic
      help := some ("the result of `" ++ op.text ++ "` does not fit in a 64-bit integer") }
  | .notFinite =>
    { reason := "numeric overflow", kind := .arithmetic
      help := some "the result of the operation is not a finite number" }

/-- The error without a place. -/
def error : FailureCause → Error
  | .notNumbers op left right =>
    { reason := "incompatible types", kind := .typeMismatch
      help := some ("operator `" ++ op.text ++ "` requires two numbers, found " ++ left.typeName ++
        " and " ++ right.typeName) }
  | .arithmetic f => arithmeticError f
  | .badKey found =>
    { reason := "incompatible types", kind := .typeMismatch
      help := some ("a dictionary key must be a string, number or boolean, found " ++
        found.typeName) }
  | .notIterable found =>
    { reason := "value is not iterable", kind := .iteration
      help := some ("a loop requires an array, dictionary or string, found " ++ found.typeName) }
  | .host e => e

end FailureCause

/-- The error of a failure in a template. What the host has drawn or named stays. -/
def Failure.toError (source : List Char) (name : Option String) (f : Failure) : Error :=
  (f.cause.error.orPointer source f.region).orName name

def Operator.applyValues (op : Operator) (left right : Value) : Except FailureCause Value :=
  match left, right with
  | .number a, .number b =>
    match Number.apply op a b with
    | .ok n => .ok (.number n)
    | .error f => .error (.arithmetic f)
  | left, right => .error (.notNumbers op left right)

/-- Puts a cause in its place. -/
@[macro_inline] def failAt {α : Type} (region : Region) : Except FailureCause α → Except Failure α
  | .ok a => .ok a
  | .error cause => .error ⟨region, cause⟩

theorem failAt_eq_ok_iff {α : Type} {region : Region} {x : Except FailureCause α} {a : α} :
    failAt region x = .ok a ↔ x = .ok a := by
  cases x <;> simp [failAt]

def keyOf (v : Value) : Except FailureCause String :=
  match v.key? with
  | some key => .ok key
  | none => .error (.badKey v)

def itemsOf (v : Value) : Except FailureCause (List Value) :=
  match v.items? with
  | some items => .ok items
  | none => .error (.notIterable v)

theorem itemsOf_eq_ok_iff {v : Value} {items : List Value} :
    itemsOf v = .ok items ↔ v.items? = some items := by
  unfold itemsOf
  cases v.items? <;> simp

def HostFunction.call (f : HostFunction) (arguments : List Value) : Except FailureCause Value :=
  match f arguments with
  | .ok v => .ok v
  | .error e => .error (.host e)

/-- A name that is not bound to a value stands for nothing. -/
def Context.value (c : Context) (name : String) : Value := (c.get? name).getD .nothing

mutual

/-- A call of what is no function is nothing, and its arguments do not matter. -/
def Expr.eval (c : Context) : Expr → Except Failure Value
  | .literal v _ => .ok v
  | .var name => .ok (c.value name.name)
  | .array items _ => do
    let values ← evalItems c items
    return .array values
  | .dict entries _ => do
    let values ← evalEntries c [] entries
    return .dict values
  | .binary op left right => do
    let a ← left.eval c
    let b ← right.eval c
    failAt (left.region.join right.region) (op.applyValues a b)
  | .call function arguments region =>
    match c.function? function.name with
    | none => .ok .nothing
    | some f => do
      let values ← evalItems c arguments
      failAt region (f.call values)

def evalItems (c : Context) : List Expr → Except Failure (List Value)
  | [] => .ok []
  | e :: es => do
    let v ← e.eval c
    let vs ← evalItems c es
    return v :: vs

/-- Each key comes before its value, and each entry before the next. -/
def evalEntries (c : Context) (read : Entries Value) :
    List (Expr × Expr) → Except Failure (Entries Value)
  | [] => .ok read
  | (key, value) :: es => do
    let k ← key.eval c
    let name ← failAt key.region (keyOf k)
    let v ← value.eval c
    evalEntries c (read.put name v) es

end

end HtmlTemplate
