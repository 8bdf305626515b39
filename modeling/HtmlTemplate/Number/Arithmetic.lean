import HtmlTemplate.Number.Basic

/-!
# Arithmetic

Sums, differences and products of integers are integers, computed in machine words that are chosen
by the operands. Quotients, and everything with a double in it, are doubles. A result that fits no
word, or is no finite double, is a fault.
-/

namespace HtmlTemplate

inductive Operator where
  | add
  | subtract
  | multiply
  | divide
  deriving DecidableEq

namespace Operator

def text : Operator → String
  | .add => "+"
  | .subtract => "-"
  | .multiply => "*"
  | .divide => "/"

/-- Products bind tighter than sums. -/
def isProduct : Operator → Bool
  | .multiply | .divide => true
  | .add | .subtract => false

def onInts? : Operator → Option (Int → Int → Int)
  | .add => some (· + ·)
  | .subtract => some (· - ·)
  | .multiply => some (· * ·)
  | .divide => none

def onFloats : Operator → Float → Float → Float
  | .add => (· + ·)
  | .subtract => (· - ·)
  | .multiply => (· * ·)
  | .divide => (· / ·)

end Operator

inductive Word where
  | signed64
  | unsigned64
  | signed128
  deriving DecidableEq

def Word.Holds (i : Int) : Word → Prop
  | .signed64 => -0x8000000000000000 ≤ i ∧ i < 0x8000000000000000
  | .unsigned64 => 0 ≤ i ∧ i < 0x10000000000000000
  | .signed128 =>
    -0x80000000000000000000000000000000 ≤ i ∧ i < 0x80000000000000000000000000000000

instance (i : Int) (w : Word) : Decidable (w.Holds i) := by
  cases w <;> unfold Word.Holds <;> infer_instance

inductive ArithmeticFault where
  | divisionByZero
  | integerOverflow (op : Operator)
  | notFinite
  deriving DecidableEq

namespace Integer

/-- The result as an integer if one of the words holds it. -/
def fit (words : List Word) (i : Int) : Option Integer :=
  if ∃ w ∈ words, w.Holds i then ofInt? i else none

/-- Two signed operands make a signed result, two that are not negative an unsigned one or a signed
one below zero. A negative and a large operand meet in a wide word. -/
def combine (f : Int → Int → Int) (a b : Integer) : Option Integer :=
  let result := f a.val b.val
  if Word.signed64.Holds a.val ∧ Word.signed64.Holds b.val then fit [.signed64] result
  else if Word.unsigned64.Holds a.val ∧ Word.unsigned64.Holds b.val then
    fit [.unsigned64, .signed64] result
  else if Word.signed128.Holds result then fit [.signed64, .unsigned64] result
  else none

end Integer

namespace Number

def ofFloat (x : Float) : Except ArithmeticFault Number :=
  match Finite.ofFloat? x with
  | some x => .ok (.float x)
  | none => .error .notFinite

def divide (a b : Number) : Except ArithmeticFault Number :=
  if b.toFloat == 0.0 then .error .divisionByZero else ofFloat (a.toFloat / b.toFloat)

def apply (op : Operator) (a b : Number) : Except ArithmeticFault Number :=
  match op.onInts?, a, b with
  | none, a, b => divide a b
  | some f, .int i, .int j =>
    match Integer.combine f i j with
    | some k => .ok (.int k)
    | none => .error (.integerOverflow op)
  | some _, a, b => ofFloat (op.onFloats a.toFloat b.toFloat)

end Number

end HtmlTemplate
