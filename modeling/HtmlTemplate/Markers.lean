import HtmlTemplate.Unicode.Alphanumeric

/-!
# Markers

One character begins a text line, two others enclose an expression within it. They are chosen among
the characters that are neither letters, numbers, white space, underscores nor backslashes.
-/

namespace HtmlTemplate

def isMarker (c : Char) : Bool :=
  !Unicode.isSpace c && !Unicode.isAlphanumeric c && c != '_' && c != '\\'

structure Markers where
  text : Char
  opening : Char
  closing : Char
  text_isMarker : isMarker text = true
  opening_isMarker : isMarker opening = true
  closing_isMarker : isMarker closing = true
  opening_ne_closing : opening ≠ closing
  deriving DecidableEq

inductive MarkerFault where
  | textNotMarker
  | spliceNotMarker
  | spliceAlike
  deriving DecidableEq

def MarkerFault.message : MarkerFault → String
  | .textNotMarker => "text marker must be punctuation"
  | .spliceNotMarker => "splice markers must be punctuation"
  | .spliceAlike => "splice markers must differ"

namespace Markers

/-- A hyphen, and braces around splices. -/
def standard : Markers where
  text := '-'
  opening := '{'
  closing := '}'
  text_isMarker := by decide
  opening_isMarker := by decide
  closing_isMarker := by decide
  opening_ne_closing := by decide

def withText (m : Markers) (c : Char) : Except MarkerFault Markers :=
  if h : isMarker c = true then .ok { m with text := c, text_isMarker := h }
  else .error .textNotMarker

def withSplice (m : Markers) (opening closing : Char) : Except MarkerFault Markers :=
  if h : isMarker opening = true ∧ isMarker closing = true then
    if d : opening = closing then .error .spliceAlike
    else .ok { m with
      opening, closing
      opening_isMarker := h.1, closing_isMarker := h.2, opening_ne_closing := d }
  else .error .spliceNotMarker

/-- The characters that a backslash in text takes literally. -/
def isEscapable (m : Markers) (c : Char) : Bool := c == m.opening || c == m.closing || c == '\\'

end Markers

end HtmlTemplate
