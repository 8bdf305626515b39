import HtmlTemplate.Source.Region
import HtmlTemplate.Unicode.Width

/-!
# Positions in a source

An offset is shown as a line and the columns in front of it on that line, both from zero. Offsets
beyond the end stand at the end.
-/

namespace HtmlTemplate

/-- The lines of a text, without their line feeds; a text has one line more than line feeds. -/
def lines : List Char → List (List Char)
  | [] => [[]]
  | c :: cs => if c = '\n' then [] :: lines cs else
    match lines cs with
    | [] => [[c]]
    | l :: ls => (c :: l) :: ls

theorem lines_ne_nil (cs : List Char) : lines cs ≠ [] := by
  cases cs with
  | nil => simp [lines]
  | cons c cs => simp only [lines]; split; · simp
                 · split <;> simp

/-- The part of a line in front of an offset, all of it if the offset is none of its own. -/
def lineBefore (offset : Nat) (line : List Char) : List Char :=
  match cutAt offset line with
  | some (before, _) => before
  | none => line

structure Position where
  line : Nat
  column : Nat
  deriving DecidableEq

/-- The position of an offset that counts from the first of the given lines, the first of them
being number `line`. -/
def Position.among (line offset : Nat) : List (List Char) → Position
  | [] => ⟨line, 0⟩
  | [l] => ⟨line, Unicode.width (lineBefore offset l)⟩
  | l :: ls =>
    if offset ≤ byteLength l then ⟨line, Unicode.width (lineBefore offset l)⟩
    else among (line + 1) (offset - (byteLength l + 1)) ls

def Position.ofOffset (source : List Char) (offset : Nat) : Position :=
  Position.among 0 offset (lines source)

end HtmlTemplate
