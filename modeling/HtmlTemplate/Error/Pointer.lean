import HtmlTemplate.Source.Position

/-!
# Pointers

A pointer shows a region of a source: the line on which it begins, and as many columns of that line
as the region's text fills there, one at least.
-/

namespace HtmlTemplate

structure Pointer where
  position : Position
  length : Nat
  text : List Char
  deriving DecidableEq

namespace Pointer

def dropReturns (line : List Char) : List Char :=
  (line.reverse.dropWhile (· == '\r')).reverse

def ofRegion (source : List Char) (region : Region) : Pointer :=
  let position := Position.ofOffset source region.start
  { position
    length := max 1 (Unicode.width ((region.literal source).takeWhile (· != '\n')))
    text := dropReturns ((lines source)[position.line]?.getD []) }

def yellow : String := "\x1b[33m"
def red : String := "\x1b[31m"
def plain : String := "\x1b[0m"

/-- The excerpt under an error: the place, the line with carets below the region, and the help. -/
def display (p : Pointer) (name help : Option String) : String :=
  let number := toString (p.position.line + 1)
  let pad := "".pushn ' ' number.length
  let gutter := "\n " ++ pad ++ " |"
  "\n " ++ pad ++ "--> " ++ name.getD "?" ++ ":" ++ number ++ ":"
    ++ toString (p.position.column + 1) ++ gutter
    ++ "\n " ++ number ++ " | " ++ String.ofList p.text
    ++ gutter ++ " " ++ yellow ++ "".pushn ' ' p.position.column ++ "".pushn '^' p.length ++ plain
    ++ "".pushn '-' (3 - p.length)
    ++ gutter ++ "\n"
    ++ match help with
      | some help => pad ++ " = help: " ++ help ++ "\n"
      | none => ""

end Pointer

end HtmlTemplate
