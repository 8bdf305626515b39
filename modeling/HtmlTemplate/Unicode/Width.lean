import HtmlTemplate.Unicode.Emoji
import HtmlTemplate.Unicode.Ligature

/-!
# Display width

How many columns of a terminal a line of text fills. It is read from its right end: what a character
adds depends on what the characters to its right can still join with. Letters of a ligature fill the
columns of one letter, a picture and what belongs to it two, and so do pictures with the joiner
between them.
-/

namespace HtmlTemplate.Unicode

def textSelector : Char := '\ufe0e'
def pictureSelector : Char := '\ufe0f'
def keycap : Char := '\u20e3'
def blackFlag : Char := Char.ofNat 0x1F3F4

/-- The tags of a subdivision, read from their end. Its code has up to four letters or digits, and a
region of two letters or three digits stands before it. -/
inductive Subdivision where
  | letters (count : Nat)
  | digits (count : Nat)
  deriving DecidableEq

namespace Subdivision

def meet? : Subdivision → Char → Option Subdivision
  | letters n, c =>
    if isTagLetter c && n < 6 then some (letters (n + 1))
    else if isTagDigit c && n < 5 then some (digits 1)
    else none
  | digits n, c => if isTagDigit c && n < 3 then some (digits (n + 1)) else none

/-- Whether a black flag may stand before the tags. -/
def isComplete : Subdivision → Bool
  | letters n => 3 ≤ n
  | digits n => n == 3

end Subdivision

/-- What stands before the joiner that leads to a picture. -/
inductive Link where
  | bare
  | keycap
  | subdivision (tags : Subdivision)
  | indicator
  | flags (odd : Bool)
  deriving DecidableEq

/-- What a character may join with: the text to its right begins with a ligature under way, a skin
tone, regional indicators, a picture, or the joiner before a picture. -/
inductive Joining where
  | nothing
  | letter (ligature : Ligature) (joined : Bool)
  | skinTone
  | indicator (several : Bool)
  | picture
  | linked (link : Link)
  deriving DecidableEq

/-- The text to the right of a character, as far as it bears on the columns that the character adds:
what it may join with, behind a selector or not. -/
inductive Right where
  | plain (joining : Joining)
  | textSelector (joining : Joining)
  | pictureSelector (joining : Joining)
  deriving DecidableEq

namespace Joining

/-- What is left to join with across a selector that selects nothing: a ligature under way. -/
def acrossSelector : Joining → Joining
  | letter l joined => letter l joined
  | _ => nothing

/-- What is left to join with for a character that U+FE0F makes a picture. -/
def acrossPictureSelector : Joining → Joining
  | letter l joined => letter l joined
  | linked .bare => linked .bare
  | linked .keycap => linked .keycap
  | _ => nothing

def isLinked : Joining → Bool
  | linked _ => true
  | _ => false

/-- What `c` leaves to its left if it joins with nothing to its right. -/
def ofChar (c : Char) : Joining :=
  if isAscii c then nothing
  else if isRegionalIndicator c then indicator false
  else if isSkinTone c then skinTone
  else if isPicture c then picture
  else match Ligature.endingIn? c with
    | some l => letter l false
    | none => nothing

/-- The columns that `c` adds if it joins with what stands to its right, and what it then leaves to
its left. Regional indicators pair up from the left: a run of even length ends in a flag, which
shares the columns of the picture behind the joiner, and one of odd length in a single indicator,
which does not. -/
def meet? : Joining → Char → Option (Int × Joining)
  | nothing, _ => none
  | letter l joined, c =>
    if l.admitsJoiner && c == joiner then some (0, letter l true)
    else if l.admitsJoiner && isUndrawnMark c then some (0, letter l joined)
    else (l.meet? joined c).map fun (columns, left) =>
      (columns, match left with
        | some l => letter l joined
        | none => nothing)
  | skinTone, c =>
    if takesSkinTone c then some (0, picture)
    else if c == joiner then some (0, linked .bare)
    else none
  | indicator several, c =>
    if isRegionalIndicator c then some (1, indicator true)
    else if several && c == joiner then some (0, linked .bare)
    else none
  | picture, c => if c == joiner then some (0, linked .bare) else none
  | linked .bare, c =>
    if c == Unicode.keycap then some (0, linked .keycap)
    else if isRegionalIndicator c then some (1, linked .indicator)
    else if isSkinTone c then some (0, skinTone)
    else if c == tagEnd then some (0, linked (.subdivision (.letters 0)))
    else if isPicture c then some (0, picture)
    else none
  | linked .keycap, _ => none
  | linked (.subdivision tags), c =>
    if tags.isComplete && c == blackFlag then some (0, picture)
    else (tags.meet? c).map fun tags => (0, linked (.subdivision tags))
  | linked .indicator, c =>
    if isRegionalIndicator c then some (-1, linked (.flags false)) else none
  | linked (.flags odd), c =>
    if isRegionalIndicator c then some (if odd then -1 else 3, linked (.flags !odd))
    else if c == joiner then some (0, linked .bare)
    else none

/-- The columns that `c` adds, and what then stands to the right of its left neighbour. -/
def extend (joining : Joining) (c : Char) : Int × Right :=
  if c == pictureSelector then (0, .pictureSelector joining.acrossPictureSelector)
  else if c == textSelector then (0, .textSelector joining.acrossSelector)
  else match joining.meet? c with
    | some (columns, left) => (columns, .plain left)
    | none => (charWidth c, .plain (ofChar c))

end Joining

namespace Right

def nothing : Right := .plain .nothing

/-- The columns that `c` adds, and what then stands to the right of its left neighbour. A selected
picture shares the columns of a picture that the joiner links it with. -/
def extend : Right → Char → Int × Right
  | plain joining, c => joining.extend c
  | textSelector joining, c =>
    if takesTextSelector c then (1, nothing) else joining.extend c
  | pictureSelector joining, c =>
    if takesPictureSelector c then (if joining.isLinked then 0 else 2, .plain .picture)
    else joining.acrossSelector.extend c

end Right

/-- The columns of a text, and what its left neighbour finds to the right. -/
def measure (text : List Char) : Int × Right :=
  text.foldr (fun c (columns, right) => ((right.extend c).1 + columns, (right.extend c).2))
    (0, .nothing)

/-- The columns of a line, which contains no line feed. -/
def width (line : List Char) : Nat := (measure line).1.toNat

end HtmlTemplate.Unicode
