import HtmlTemplate.Unicode.Columns

/-!
# Ligatures of letters

Letters that share the columns of one letter, told by what stands at the right end: a ligature under
way meets the characters to its left one by one, until its last letter completes it or another
character ends it. The classes are those of Unicode 15.1.
-/

namespace HtmlTemplate.Unicode

/-- U+200D asks for its neighbours to be drawn as one. -/
def joiner : Char := '\u200d'

/-- Marks that are never drawn; no ligature ends at one. -/
def isUndrawnMark (c : Char) : Bool :=
  inRanges [(0x34F, 0x34F), (0x17B4, 0x17B5), (0x180B, 0x180D), (0x180F, 0x180F), (0xFE00, 0xFE0F),
    (0xE0100, 0xE01EF)] c

/-! ## Classes of letters -/

/-- The characters without width that are not of Joining_Type Transparent. -/
def notTransparent : Ranges := [
  (0x605, 0x605), (0x890, 0x891), (0x8E2, 0x8E2), (0x9BE, 0x9BE), (0x9D7, 0x9D7), (0xB3E, 0xB3E),
  (0xB57, 0xB57), (0xBBE, 0xBBE), (0xBD7, 0xBD7), (0xCC0, 0xCC0), (0xCC2, 0xCC2), (0xCC7, 0xCC8),
  (0xCCA, 0xCCB), (0xCD5, 0xCD6), (0xD3E, 0xD3E), (0xD4E, 0xD4E), (0xD57, 0xD57), (0xDCF, 0xDCF),
  (0xDDF, 0xDDF), (0x1160, 0x11FF), (0x180E, 0x180E), (0x1B35, 0x1B35), (0x1B3B, 0x1B3B),
  (0x1B3D, 0x1B3D), (0x1B43, 0x1B43), (0x200C, 0x200D), (0x2065, 0x2069), (0x302E, 0x302F),
  (0x3164, 0x3164), (0xA8FA, 0xA8FA), (0xD7B0, 0xD7C6), (0xD7CB, 0xD7FB), (0xFF9E, 0xFFA0),
  (0xFFF0, 0xFFF8), (0x111C2, 0x111C3), (0x1133E, 0x1133E), (0x11357, 0x11357), (0x114B0, 0x114B0),
  (0x114BD, 0x114BD), (0x115AF, 0x115AF), (0x11930, 0x11930), (0x1193F, 0x1193F),
  (0x11941, 0x11941), (0x11A3A, 0x11A3A), (0x11A84, 0x11A89), (0x11D46, 0x11D46),
  (0x11F02, 0x11F02), (0x1D165, 0x1D165), (0x1D16E, 0x1D172), (0xE0000, 0xE0000),
  (0xE0002, 0xE001F), (0xE0080, 0xE00FF), (0xE01F0, 0xE0FFF)]

/-- Whether Arabic letters join across `c`. -/
def isTransparent (c : Char) : Bool := isZeroWidth c && !inRanges notTransparent c

def isAlef (c : Char) : Bool :=
  inRanges [(0x622, 0x623), (0x625, 0x625), (0x627, 0x627), (0x671, 0x673), (0x675, 0x675),
    (0x773, 0x774), (0x870, 0x882)] c

def isLam (c : Char) : Bool :=
  inRanges [(0x644, 0x644), (0x6B5, 0x6B8), (0x76A, 0x76A), (0x8A6, 0x8A6), (0x8C7, 0x8C7)] c

/-- Khmer letters that the sign U+17D2 sets below the one before. -/
def isKhmerSubscript (c : Char) : Bool :=
  inRanges [(0x1780, 0x1782), (0x1784, 0x1787), (0x1789, 0x178C), (0x178E, 0x1793),
    (0x1795, 0x1798), (0x179B, 0x179D), (0x17A0, 0x17A0), (0x17A2, 0x17A2), (0x17A7, 0x17A7),
    (0x17AB, 0x17AC), (0x17AF, 0x17AF)] c

def isTifinaghConsonant (c : Char) : Bool := inRanges [(0x2D31, 0x2D65), (0x2D6F, 0x2D6F)] c

/-- The first half of a Lisu tone. -/
def isLisuTone (c : Char) : Bool := inRanges [(0xA4F8, 0xA4FB)] c

/-- The second half of a Lisu tone. -/
def isLisuToneEnd (c : Char) : Bool := inRanges [(0xA4FC, 0xA4FD)] c

/-! ## Ligatures under way -/

/-- A ligature under way, by the letters of it read so far from the right. -/
inductive Ligature where
  | alef
  | lamed
  | khmerSubscript
  | bugineseYa
  | bugineseVowelYa
  | tifinagh
  | tifinaghJoined
  | lisuTone
  | orkhonI
  deriving DecidableEq

namespace Ligature

/-- The ligature that `c` can stand at the right end of. -/
def endingIn? (c : Char) : Option Ligature :=
  if isAlef c then some .alef
  else if c == '\u05dc' then some .lamed
  else if isKhmerSubscript c then some .khmerSubscript
  else if c == '\u1a10' then some .bugineseYa
  else if isTifinaghConsonant c then some .tifinagh
  else if isLisuToneEnd c then some .lisuTone
  else if c.toNat == 0x10C03 then some .orkhonI
  else none

/-- Whether the joiner and marks that are never drawn may stand inside the ligature. Arabic letters
join across other marks, and not across the joiner. -/
def admitsJoiner (l : Ligature) : Bool := l != .alef

/-- The columns that `c` adds as the next letter of the ligature, given whether the joiner stands to
its right, and what is left under way. The number is negative where `c` and the letters to its right
fill fewer columns than they did without it. -/
def meet? (l : Ligature) (joined : Bool) (c : Char) : Option (Int × Option Ligature) :=
  match l with
  | .alef =>
    if isLam c then some (0, none) else if isTransparent c then some (0, some .alef) else none
  | .lamed => if joined && c == '\u05d0' then some (0, none) else none
  | .khmerSubscript => if c == '\u17d2' then some (-1, none) else none
  | .bugineseYa => if joined && c == '\u1a17' then some (0, some .bugineseVowelYa) else none
  | .bugineseVowelYa => if c == '\u1a15' then some (0, none) else none
  | .tifinagh =>
    if c == '\u2d7f' then some (1, some .tifinaghJoined)
    else if joined && isTifinaghConsonant c then some (0, none)
    else none
  | .tifinaghJoined => if isTifinaghConsonant c then some (-1, none) else none
  | .lisuTone => if isLisuTone c then some (0, none) else none
  | .orkhonI => if joined && c.toNat == 0x10C32 then some (0, none) else none

end Ligature

end HtmlTemplate.Unicode
