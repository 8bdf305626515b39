import HtmlTemplate.Number.Basic

/-!
# Number literals

A literal is a minus or nothing, a whole part without needless zeros, and perhaps a point and a
fraction. Without a point it is an integer if it fits one. Otherwise it is a double: the leading
digits that fit 64 bits, scaled once by the power of ten of the digits dropped or behind the point.
-/

namespace HtmlTemplate

namespace NumberLiteral

/-- The number `significand * 10 ^ exponent`. -/
structure Scaled where
  significand : Nat
  exponent : Int
  deriving DecidableEq

def digitValue (c : Char) : Nat := c.toNat - '0'.toNat

/-- Whether another digit fits into 64 bits. -/
def Fits (significand : Nat) (c : Char) : Prop :=
  significand * 10 + digitValue c < 0x10000000000000000

instance (n : Nat) (c : Char) : Decidable (Fits n c) := by unfold Fits; infer_instance

/-- Reads a whole part. The first digit that does not fit is dropped with all that follow. -/
def readWhole (significand : Nat) : List Char → Scaled
  | [] => ⟨significand, 0⟩
  | c :: cs =>
    if Fits significand c then readWhole (significand * 10 + digitValue c) cs
    else ⟨significand, (c :: cs).length⟩

/-- Reads a fraction on from a whole part, up to the first digit that does not fit. -/
def readFraction (read : Scaled) : List Char → Scaled
  | [] => read
  | c :: cs =>
    if Fits read.significand c then
      readFraction ⟨read.significand * 10 + digitValue c, read.exponent - 1⟩ cs
    else read

/-- The power `10 ^ n`, correctly rounded. -/
def power (n : Nat) : Float := Float.ofScientific 1 false n

/-- The greatest power of ten that is a double. -/
def topPower : Nat := 308

/-- Divides by `10 ^ n`, in several steps if that is no double. -/
def shrink (x : Float) (n : Nat) : Float :=
  if n ≤ topPower then x / power n
  else if x == 0.0 then x
  else shrink (x / power topPower) (n - topPower)
termination_by n
decreasing_by simp [topPower] at *; omega

/-- The double of a scaled number, unless it overflows. -/
def Scaled.toFloat? (s : Scaled) : Option Finite :=
  let x := (UInt64.ofNat s.significand).toFloat
  if s.exponent < 0 then Finite.ofFloat? (shrink x s.exponent.natAbs)
  else if s.exponent.natAbs ≤ topPower then Finite.ofFloat? (x * power s.exponent.natAbs)
  else if x == 0.0 then Finite.ofFloat? x
  else none

def Scaled.toNumber? (negative : Bool) (s : Scaled) : Option Number := do
  let x ← s.toFloat?
  let signed ← Finite.ofFloat? (if negative then -x.val else x.val)
  return .float signed

/-- A literal without a point. Zero has no negative integer, and an integer below the signed range
none at all. -/
def wholeNumber? (negative : Bool) (s : Scaled) : Option Number :=
  if s.exponent ≠ 0 then s.toNumber? negative
  else if negative = false then (Integer.ofNat? s.significand).map .int
  else if s.significand = 0 ∨ 0x8000000000000000 < s.significand then s.toNumber? true
  else (Integer.ofInt? (-s.significand)).map .int

/-- Zero alone or digits without a leading zero. -/
def IsWhole (cs : List Char) : Prop :=
  cs ≠ [] ∧ (∀ c ∈ cs, c.isDigit = true) ∧ (cs.head? = some '0' → cs = ['0'])

instance (cs : List Char) : Decidable (IsWhole cs) :=
  decidable_of_iff (cs ≠ [] ∧ cs.all Char.isDigit = true ∧ (cs.head? = some '0' → cs = ['0']))
    (by simp [IsWhole])

def IsFraction (cs : List Char) : Prop := cs ≠ [] ∧ ∀ c ∈ cs, c.isDigit = true

instance (cs : List Char) : Decidable (IsFraction cs) :=
  decidable_of_iff (cs ≠ [] ∧ cs.all Char.isDigit = true) (by simp [IsFraction])

def unsigned? (negative : Bool) (cs : List Char) : Option Number :=
  let whole := cs.takeWhile (· != '.')
  if IsWhole whole then
    match cs.dropWhile (· != '.') with
    | [] => wholeNumber? negative (readWhole 0 whole)
    | _ :: fraction =>
      if IsFraction fraction then
        (readFraction (readWhole 0 whole) fraction).toNumber? negative
      else none
  else none

def read? : List Char → Option Number
  | '-' :: cs => unsigned? true cs
  | cs => unsigned? false cs

end NumberLiteral

end HtmlTemplate
