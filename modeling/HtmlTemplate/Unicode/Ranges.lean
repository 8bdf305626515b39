/-!
# Sets of characters as ranges of code points

A property of characters is a list of closed ranges. Tables hold the part of a property above
ASCII only: the ASCII part is written out where the property is defined.
-/

namespace HtmlTemplate.Unicode

abbrev Ranges := List (Nat × Nat)

def inRanges (ranges : Ranges) (c : Char) : Bool :=
  ranges.any fun r => r.1 ≤ c.toNat && c.toNat ≤ r.2

def isAscii (c : Char) : Bool := c.toNat < 0x80

end HtmlTemplate.Unicode
