/-!
# Shortest decimals

Every double is the nearest one to all reals of an interval around it. Its shortest decimal is the
point of the coarsest decimal grid that hits the interval, the nearer of two such points, and the
even one if both are equally near.
-/

namespace HtmlTemplate

/-- The interval from `low / unit` to `high / unit` around `value / unit`, with or without ends. -/
structure Interval where
  low : Nat
  value : Nat
  high : Nat
  unit : Nat
  closed : Bool

namespace Interval

def Holds (s : Interval) (n : Nat) : Prop :=
  if s.closed then s.low ≤ n * s.unit ∧ n * s.unit ≤ s.high
  else s.low < n * s.unit ∧ n * s.unit < s.high

instance (s : Interval) (n : Nat) : Decidable (s.Holds n) := by
  unfold Holds
  split <;> infer_instance

/-- The same interval counted in units of `10 ^ k`. -/
def inTens (s : Interval) (k : Int) : Interval :=
  if 0 ≤ k then { s with unit := s.unit * Nat.pow 10 k.toNat }
  else
    let m := Nat.pow 10 (-k).toNat
    { s with low := s.low * m, value := s.value * m, high := s.high * m }

/-- The nearer of the two whole numbers around the value. -/
def nearest (s : Interval) : Nat :=
  let below := s.value / s.unit
  let twice := 2 * s.value
  let middle := (2 * below + 1) * s.unit
  if twice < middle then below
  else if middle < twice then below + 1
  else below + below % 2

/-- A whole number of the interval, one of the two around the value. -/
def hit? (s : Interval) : Option Nat :=
  let below := s.value / s.unit
  if s.Holds below then
    if s.Holds (below + 1) then some s.nearest else some below
  else if s.Holds (below + 1) then some (below + 1)
  else none

end Interval

/-- The number `digits * 10 ^ exponent`. -/
structure Decimal where
  digits : Nat
  exponent : Int
  deriving DecidableEq

/-- Tries the grid of `10 ^ k` and then finer ones; the last is fine enough for every interval. -/
def Decimal.within (s : Interval) (k : Int) : (finer : Nat) → Decimal
  | 0 => ⟨(s.inTens k).nearest, k⟩
  | finer + 1 =>
    match (s.inTens k).hit? with
    | some n => ⟨n, k⟩
    | none => within s (k - 1) finer

/-- A positive double `mantissa * 2 ^ exponent`. A power of two lies nearer to its lower neighbour
than to the upper one. -/
structure Binary where
  mantissa : Nat
  exponent : Int
  isPower : Bool
  deriving DecidableEq

namespace Binary

/-- Splits the 64 bits of a double, less its sign. -/
def ofBits (bits : Nat) : Binary :=
  let fraction : Nat := bits % 0x10000000000000
  let scale : Nat := bits / 0x10000000000000 % 0x800
  if scale = 0 then ⟨fraction, -1074, false⟩
  else ⟨fraction + 0x10000000000000, (scale : Int) - 1075, fraction = 0 && 1 < scale⟩

def interval (b : Binary) : Interval :=
  let scale := b.exponent - 2
  let factor := Nat.pow 2 scale.toNat
  { low := (4 * b.mantissa - if b.isPower then 1 else 2) * factor
    value := 4 * b.mantissa * factor
    high := (4 * b.mantissa + 2) * factor
    unit := Nat.pow 2 (-scale).toNat
    closed := b.mantissa % 2 = 0 }

/-- An exponent of ten that is not below the size of the number. -/
def tens (b : Binary) : Int := (b.mantissa.log2 + 1 + b.exponent) * 30103 / 100000 + 1

def shortest (b : Binary) : Decimal := Decimal.within b.interval b.tens 20

end Binary

end HtmlTemplate
