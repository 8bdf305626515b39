/-!
# Regions of a source

Offsets count the bytes of the source in UTF-8. A region may lie anywhere: only one that begins
and stops between two characters of the source covers a text.
-/

namespace HtmlTemplate

def byteLength : List Char → Nat
  | [] => 0
  | c :: cs => c.utf8Size + byteLength cs

@[simp] theorem byteLength_nil : byteLength [] = 0 := rfl

@[simp] theorem byteLength_cons (c : Char) (cs : List Char) :
    byteLength (c :: cs) = c.utf8Size + byteLength cs := rfl

@[simp] theorem byteLength_append (xs ys : List Char) :
    byteLength (xs ++ ys) = byteLength xs + byteLength ys := by
  induction xs with
  | nil => simp
  | cons c cs ih => simp [ih, Nat.add_assoc]

theorem length_le_byteLength (cs : List Char) : cs.length ≤ byteLength cs := by
  induction cs with
  | nil => simp
  | cons c cs ih => have := c.utf8Size_pos; simp only [List.length_cons, byteLength_cons]; omega

/-- The characters before and from offset `n`, if `n` lies between two characters. -/
def cutAt (n : Nat) : List Char → Option (List Char × List Char)
  | [] => if n = 0 then some ([], []) else none
  | c :: cs =>
    if n = 0 then some ([], c :: cs)
    else if c.utf8Size ≤ n then (cutAt (n - c.utf8Size) cs).map fun p => (c :: p.1, p.2)
    else none

@[simp] theorem cutAt_zero (cs : List Char) : cutAt 0 cs = some ([], cs) := by
  cases cs <;> simp [cutAt]

theorem cutAt_byteLength_append (xs ys : List Char) :
    cutAt (byteLength xs) (xs ++ ys) = some (xs, ys) := by
  induction xs with
  | nil => simp
  | cons c cs ih =>
    have := c.utf8Size_pos
    simp [cutAt, ih, show c.utf8Size ≠ 0 by omega]

structure Region where
  start : Nat
  stop : Nat
  deriving DecidableEq

namespace Region

/-- The empty region at an offset. -/
def point (offset : Nat) : Region := ⟨offset, offset⟩

def touches (a b : Region) : Bool := a.stop == b.start || b.stop == a.start

/-- The least region around both. -/
def join (a b : Region) : Region := ⟨min a.start b.start, max a.stop b.stop⟩

/-- The text of the source that the region covers, empty if it covers none. -/
def literal (r : Region) (source : List Char) : List Char :=
  if r.start ≤ r.stop then
    match cutAt r.start source with
    | some (_, tail) => ((cutAt (r.stop - r.start) tail).map (·.1)).getD []
    | none => []
  else []

theorem literal_append (xs ys zs : List Char) :
    literal ⟨byteLength xs, byteLength xs + byteLength ys⟩ (xs ++ ys ++ zs) = ys := by
  simp [literal, List.append_assoc, cutAt_byteLength_append]

end Region

end HtmlTemplate
