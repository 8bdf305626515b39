/-!
# Numbers

A number is an integer of the signed or the unsigned 64-bit range, or a finite double. The two kinds
stay apart: `1` and `1.0` are different numbers.
-/

namespace HtmlTemplate

structure Integer where
  val : Int
  low : -0x8000000000000000 ≤ val
  high : val < 0x10000000000000000
  deriving DecidableEq

namespace Integer

def ofInt? (i : Int) : Option Integer :=
  if h : -0x8000000000000000 ≤ i ∧ i < 0x10000000000000000 then some ⟨i, h.1, h.2⟩ else none

def ofNat? (n : Nat) : Option Integer := ofInt? n

theorem ofInt?_eq_some_iff {i : Int} {n : Integer} : ofInt? i = some n ↔ n.val = i := by
  unfold ofInt?
  split
  · next h => constructor
              · rintro ⟨⟩; rfl
              · rintro rfl; rfl
  · next h => constructor
              · intro h; cases h
              · rintro rfl; exact absurd ⟨n.low, n.high⟩ h

/-- The nearest double. -/
def toFloat (n : Integer) : Float :=
  let magnitude := (UInt64.ofNat n.val.natAbs).toFloat
  if n.val < 0 then -magnitude else magnitude

end Integer

structure Finite where
  val : Float
  isFinite : val.isFinite = true

def Finite.ofFloat? (x : Float) : Option Finite :=
  if h : x.isFinite = true then some ⟨x, h⟩ else none

inductive Number where
  | int (i : Integer)
  | float (x : Finite)

namespace Number

def toFloat : Number → Float
  | .int i => i.toFloat
  | .float x => x.val

def isZero : Number → Bool
  | .int i => i.val == 0
  | .float x => x.val == 0.0

end Number

end HtmlTemplate
