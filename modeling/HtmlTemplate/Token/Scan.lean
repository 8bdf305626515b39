import HtmlTemplate.Markers

/-!
# Runs of characters

The stretches of a source that make up one lexeme, each with the characters that follow it. A run
and its rest put together are the characters read.
-/

namespace HtmlTemplate

def isBlank (c : Char) : Bool := c == ' ' || c == '\t'

/-- White space that separates tokens within a line. -/
def isGap (c : Char) : Bool := isBlank c || c == '\r'

def isNumeral (c : Char) : Bool := c.isDigit || c == '.'

structure Run where
  chars : List Char
  rest : List Char
  deriving DecidableEq

namespace Run

def add (c : Char) (r : Run) : Run := ⟨c :: r.chars, r.rest⟩

/-- The longest run of characters with a property. -/
def takeWhile (p : Char → Bool) (cs : List Char) : Run := ⟨cs.takeWhile p, cs.dropWhile p⟩

theorem takeWhile_append (p : Char → Bool) (cs : List Char) :
    (takeWhile p cs).chars ++ (takeWhile p cs).rest = cs := List.takeWhile_append_dropWhile

/-- Text up to the end of the line or the first splice. A backslash takes a marker of splices or
another backslash with it. -/
def text (m : Markers) : List Char → Run
  | [] => ⟨[], []⟩
  | [c] => if c = '\n' ∨ c = m.opening then ⟨[], [c]⟩ else ⟨[c], []⟩
  | c :: d :: cs =>
    if c = '\\' then
      if m.isEscapable d then add c (add d (text m cs)) else add c (text m (d :: cs))
    else if c = '\n' ∨ c = m.opening then ⟨[], c :: d :: cs⟩
    else add c (text m (d :: cs))

theorem text_append (m : Markers) (cs : List Char) :
    (text m cs).chars ++ (text m cs).rest = cs := by
  fun_induction text m cs <;> simp_all [add]

/-- A string literal after its first quote, up to the quote that closes it or else to the end of
the line. -/
def string (escaped : Bool) : List Char → Run × Bool
  | [] => (⟨[], []⟩, false)
  | c :: cs =>
    if c = '"' ∧ escaped = false then (⟨[c], cs⟩, true)
    else if c = '\n' then (⟨[], c :: cs⟩, false)
    else
      match string (!escaped && c == '\\') cs with
      | (run, closed) => (run.add c, closed)

theorem string_append (escaped : Bool) (cs : List Char) :
    (string escaped cs).1.chars ++ (string escaped cs).1.rest = cs := by
  fun_induction string escaped cs <;> simp_all [add]

end Run

end HtmlTemplate
