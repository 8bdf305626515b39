import HtmlTemplate.Number.Basic
import HtmlTemplate.Number.Shortest

/-!
# Text of numbers

Integers are written in decimal. Doubles are written with the shortest digits that read back,
positionally between the limits of a layout and with an exponent outside them.
-/

namespace HtmlTemplate

structure Layout where
  /-- The least exponent of ten of the first digit that is written positionally. -/
  leastPositional : Int
  /-- The exponents from here on are written out. -/
  leastScientific : Int

/-- Doubles from `0.00001` up to ten quadrillions are written positionally. -/
def Number.layout : Layout := ⟨-5, 16⟩

def decimalDigits (n : Nat) : List Char := Nat.toDigits 10 n

def zeros (n : Nat) : List Char := List.replicate n '0'

/-- Digits whose first one counts `10 ^ e`, with a point and at least one digit on both sides. -/
def positional (digits : List Char) (e : Int) : List Char :=
  if e < 0 then ['0', '.'] ++ zeros (-e - 1).toNat ++ digits
  else
    let whole := e.toNat + 1
    if digits.length ≤ whole then digits ++ zeros (whole - digits.length) ++ ['.', '0']
    else digits.take whole ++ '.' :: digits.drop whole

/-- One digit before the point, which only further digits bring along, and a signed exponent. -/
def scientific (digits : List Char) (e : Int) : List Char :=
  let fraction := digits.drop 1
  digits.take 1 ++ (if fraction.isEmpty then [] else '.' :: fraction) ++
    ['e', if e < 0 then '-' else '+'] ++ decimalDigits e.natAbs

def Decimal.text (layout : Layout) (d : Decimal) : List Char :=
  let digits := decimalDigits d.digits
  let e := d.exponent + digits.length - 1
  if layout.leastPositional ≤ e ∧ e < layout.leastScientific then positional digits e
  else scientific digits e

/-- The text of a double from its bits; zero keeps its sign. -/
def floatText (bits : UInt64) : List Char :=
  let magnitude := bits.toNat % 0x8000000000000000
  (if bits.toNat = magnitude then [] else ['-']) ++
    if magnitude = 0 then positional ['0'] 0
    else (Binary.ofBits magnitude).shortest.text Number.layout

def intText (i : Int) : List Char :=
  (if i < 0 then ['-'] else []) ++ decimalDigits i.natAbs

def Number.text : Number → List Char
  | .int i => intText i.val
  | .float x => floatText x.val.toBits

end HtmlTemplate
