import HtmlTemplate.Markers

/-!
# Escapes

In the text of a text line a backslash takes a marker of splices or another backslash literally, and
stands for itself elsewhere. In a string literal it begins one of five escapes.
-/

namespace HtmlTemplate

/-- The text that the characters of a text line stand for. -/
def plainText (m : Markers) : List Char → List Char
  | [] => []
  | [c] => [c]
  | c :: d :: cs =>
    if c = '\\' ∧ m.isEscapable d = true then d :: plainText m cs else c :: plainText m (d :: cs)

def stringEscape : Char → Option Char
  | 'n' => some '\n'
  | 'r' => some '\r'
  | 't' => some '\t'
  | '\\' => some '\\'
  | '"' => some '"'
  | _ => none

/-- The text that the characters between the quotes of a string stand for. -/
def decodeString? : List Char → Option (List Char)
  | [] => some []
  | [c] => if c = '\\' then none else some [c]
  | c :: d :: cs =>
    if c = '\\' then do
      let e ← stringEscape d
      let rest ← decodeString? cs
      return e :: rest
    else (decodeString? (d :: cs)).map (c :: ·)

/-- The characters of a string literal without its quotes. -/
def insideQuotes (chars : List Char) : List Char := chars.tail.dropLast

theorem insideQuotes_quoted (cs : List Char) : insideQuotes ('"' :: cs ++ ['"']) = cs := by
  simp [insideQuotes]

end HtmlTemplate
