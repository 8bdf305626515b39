import HtmlTemplate.Proofs.Lexing.Indents
import HtmlTemplate.Proofs.Lexing.Moves
import HtmlTemplate.Proofs.Printing.Basic
import HtmlTemplate.Proofs.Printing.Spelling

/-!
# Blocks of lines

What opens or closes a block stands in front of the line behind it. So a lexer that has read a block
behaves, in front of a line that returns from it, like a lexer that never entered the block and has
a dedent to return first.
-/

namespace HtmlTemplate

namespace Indents

/-- The indentations of open blocks: blank, and each further in than the one around it. -/
structure Proper (blocks : Indents) : Prop where
  nested : blocks.Nested
  blank : ∀ indent ∈ blocks, ∀ c ∈ indent, isBlank c = true

section

variable {blocks : Indents}

theorem Proper.innermost (proper : blocks.Proper) : ∀ c ∈ blocks.innermost, isBlank c = true := by
  cases blocks with
  | nil => nofun
  | cons top outer => exact proper.blank top List.mem_cons_self

/-- A line that goes further in opens a block. -/
theorem change?_deeper (blocks : Indents) (margin : Margin) (start : Nat) :
    blocks.change? start (blocks.innermost ++ margin.chars) =
      some ((blocks.innermost ++ margin.chars) :: blocks,
        [⟨.indent, start, blocks.innermost ++ margin.chars⟩]) := by
  have deeper : blocks.innermost.isPrefixOf (blocks.innermost ++ margin.chars) = true :=
    List.isPrefixOf_iff_prefix.mpr (List.prefix_append _ _)
  have other : blocks.innermost ++ margin.chars ≠ blocks.innermost := by simpa using margin.nonempty
  rw [change?, if_neg other, if_pos deeper]

theorem Proper.within (proper : blocks.Proper) (margin : Margin) :
    Proper ((blocks.innermost ++ margin.chars) :: blocks) := by
  have blank : ∀ c ∈ blocks.innermost ++ margin.chars, isBlank c = true :=
    List.forall_mem_append.mpr ⟨proper.innermost, margin.blank⟩
  refine ⟨?_, List.forall_mem_cons.mpr ⟨blank, proper.blank⟩⟩
  exact proper.nested.within (List.prefix_append ..) (by simpa using margin.nonempty)

end

end Indents

namespace Lexer

/-- May be the first character of a line that says something. -/
structure Inked (c : Char) : Prop where
  notBlank : isBlank c = false
  noReturn : c ≠ '\r'
  noFeed : c ≠ '\n'

theorem inked_of_isIdentStart {c : Char} (start : Unicode.isIdentStart c = true) : Inked c := by
  constructor
  · rw [Bool.eq_false_iff]
    intro blank
    have one : c = ' ' ∨ c = '\t' := by simpa [isBlank] using blank
    rcases one with rfl | rfl <;> cases start
  · rintro rfl
    cases start
  · rintro rfl
    cases start

/-- The start of a line that says something, by what it makes of the indentation. -/
theorem startLine_of_ink {l : Lexer} {indents : Indents} {changes : List Lexeme} {c : Char}
    {indent cs : List Char} (source : l.rest = indent ++ c :: cs)
    (blank : ∀ d ∈ indent, isBlank d = true) (ink : Inked c)
    (change : l.indents.change? l.offset indent = some (indents, changes)) :
    l.startLine = .ok (if c = l.markers.text then
        { (l.enterLine indent (c :: cs) indents changes).emit .marker [c] cs with mode := .text }
      else { l.enterLine indent (c :: cs) indents changes with mode := .statement }) := by
  have run : Run.takeWhile isBlank l.rest = ⟨indent, c :: cs⟩ := by
    rw [source]
    exact Run.takeWhile_of_stops blank (by simpa using ink.notBlank)
  have goesOn : ¬ LineEnd (c :: cs) := by
    intro ends
    cases ends with
    | feed => exact ink.noFeed rfl
    | returnFeed => exact ink.noReturn rfl
  rw [startLine_of_goesOn run goesOn, change]
  by_cases marked : c = l.markers.text
  · rw [if_pos marked]
    exact if_pos marked
  · rw [if_neg marked]
    exact if_neg marked

section

variable {l : Lexer} {blocks indents : Indents} {changes ts us : List Lexeme} {c : Char}
  {indent cs : List Char}

/-- What a line changes is returned before all else, and all else is the same for any blocks. -/
theorem enters_line (owes : l.pending = []) (mode : l.mode = .lineStart)
    (source : l.rest = indent ++ c :: cs) (blank : ∀ d ∈ indent, isBlank d = true) (ink : Inked c)
    (indents : Indents) : ∃ behind l', ∀ {blocks : Indents} {changes : List Lexeme},
      blocks.change? l.offset indent = some (indents, changes) →
        ({ l with indents := blocks } : Lexer).Leads (changes ++ behind) l' := by
  have active : l.mode ≠ .done := by simp [mode]
  have step {blocks : Indents} {changes : List Lexeme}
      (change : blocks.change? l.offset indent = some (indents, changes)) :=
    (step_of_lineStart (l := { l with indents := blocks }) mode (by simp [source])).trans
      (startLine_of_ink source blank ink change)
  by_cases marked : c = l.markers.text
  · refine ⟨[⟨.marker, l.offset + byteLength indent, [c]⟩],
      { l.skip (indent ++ [c]) cs with mode := .text, indents }, fun change => ?_⟩
    refine leads_of_found owes owes active ((step change).trans ?_)
    simp [marked, enterLine, emit, skip, owes, Nat.add_assoc]
  · refine ⟨[], { l.skip indent (c :: cs) with mode := .statement, indents }, fun change => ?_⟩
    refine leads_of_found owes owes active ((step change).trans ?_)
    simp [marked, enterLine, skip, owes]

/-- What other blocks return for the next line as well comes last. -/
theorem leads_change (owes : l.pending = []) (mode : l.mode = .lineStart)
    (source : l.rest = indent ++ c :: cs) (blank : ∀ d ∈ indent, isBlank d = true) (ink : Inked c)
    (before : l.indents.change? l.offset indent = some (indents, ts ++ us))
    (behind : blocks.change? l.offset indent = some (indents, us)) :
    l.Leads ts { l with indents := blocks } := by
  obtain ⟨vs, l', enters⟩ := enters_line owes mode source blank ink indents
  have first : l.Leads (ts ++ us ++ vs) l' := enters before
  rw [List.append_assoc] at first
  exact .of_common first (enters behind)

theorem leads_statement (owes : l.pending = []) (mode : l.mode = .lineStart)
    (source : l.rest = indent ++ c :: cs) (blank : ∀ d ∈ indent, isBlank d = true) (ink : Inked c)
    (unmarked : c ≠ l.markers.text)
    (change : l.indents.change? l.offset indent = some (indents, changes)) :
    l.Leads changes { l.skip indent (c :: cs) with mode := .statement, indents } := by
  refine leads_of_found owes owes (by simp [mode]) ?_
  rw [step_of_lineStart mode (by simp [source]), startLine_of_ink source blank ink change,
    if_neg unmarked]
  simp [enterLine, skip, owes]

end

/-- At the start of a line, in front of some characters. -/
structure AtLine (l : Lexer) (blocks : Indents) (source : List Char) : Prop where
  owes : l.pending = []
  markers : l.markers = .standard
  mode : l.mode = .lineStart
  nesting : l.nesting = []
  indents : l.indents = blocks
  source : l.rest = source

/-- The next line, if there is one, returns to one of the blocks. -/
inductive ReturnsTo (blocks : Indents) : List Char → Prop where
  | source : ReturnsTo blocks []
  | line {indent cs : List Char} {c : Char} {r : Indents × Nat}
      (blank : ∀ d ∈ indent, isBlank d = true) (ink : Inked c)
      (returns : Indents.returnTo? indent blocks = some r) :
      ReturnsTo blocks (indent ++ c :: cs)

section

variable {l : Lexer} {blocks blocks' indents : Indents} {changes : List Lexeme} {t : Lexeme}
  {c : Char} {top indent cs ds rest : List Char}

theorem ReturnsTo.within (nested : Indents.Nested (top :: blocks))
    (returns : ReturnsTo blocks rest) : ReturnsTo (top :: blocks) rest := by
  cases returns with
  | source => exact .source
  | line blank ink returns => exact .line blank ink (Indents.returnTo?_cons nested returns)

theorem AtLine.active (line : l.AtLine blocks cs) : l.mode ≠ .done := by simp [line.mode]

theorem AtLine.skip (line : l.AtLine blocks cs) : (l.skip ds rest).AtLine blocks rest :=
  ⟨line.owes, line.markers, line.mode, line.nesting, line.indents, rfl⟩

/-- Other blocks are open. -/
theorem AtLine.enter (line : l.AtLine blocks cs) :
    { l with indents := blocks' }.AtLine blocks' cs :=
  ⟨line.owes, line.markers, line.mode, line.nesting, rfl, line.source⟩

/-- The step at the start of a line, by what it makes of the indentation. -/
theorem AtLine.step (line : l.AtLine blocks (indent ++ c :: cs))
    (blank : ∀ d ∈ indent, isBlank d = true) (ink : Inked c)
    (change : blocks.change? l.offset indent = some (indents, changes)) :
    l.step = .ok
      (if c = '-' then
        { (l.enterLine indent (c :: cs) indents changes).emit .marker [c] cs with mode := .text }
      else { l.enterLine indent (c :: cs) indents changes with mode := .statement }) := by
  have marker : l.markers.text = '-' := by
    rw [line.markers]
    rfl
  rw [step_of_lineStart line.mode (by simp [line.source]),
    startLine_of_ink line.source blank ink (line.indents ▸ change), marker]

/-- The step at the end of the source. -/
theorem AtLine.finish (line : l.AtLine blocks []) :
    l.step = .ok { l with
      mode := .done
      indents := []
      pending := List.replicate blocks.length ⟨.dedent, l.offset, []⟩ } := by
  simp [Lexer.step, line.source, Lexer.finish, line.nesting, line.mode, line.owes, line.indents]

theorem AtLine.lexemes_nil (line : l.AtLine [] []) : l.lexemes = ⟨[], none⟩ := by
  rw [lexemes_of_step line.owes line.active line.finish, lexemes_of_done rfl rfl]
  rfl

theorem AtLine.leads_statement (line : l.AtLine blocks (indent ++ c :: cs))
    (blank : ∀ d ∈ indent, isBlank d = true) (ink : Inked c) (unmarked : c ≠ '-')
    (change : blocks.change? l.offset indent = some (indents, changes)) :
    l.Leads changes { l.skip indent (c :: cs) with mode := .statement, indents } := by
  refine Lexer.leads_statement line.owes line.mode line.source blank ink ?_ (line.indents ▸ change)
  rw [line.markers]
  exact unmarked

theorem AtLine.leads_marker (line : l.AtLine blocks (indent ++ '-' :: cs))
    (blank : ∀ d ∈ indent, isBlank d = true)
    (change : blocks.change? l.offset indent = some (indents, changes)) :
    l.Leads (changes ++ [⟨.marker, l.offset + byteLength indent, ['-']⟩])
      { l.skip (indent ++ ['-']) cs with mode := .text, indents } := by
  have step := line.step blank (by constructor <;> decide) change
  rw [if_pos rfl] at step
  have leads := leads_of_step line.owes line.active step
  simpa only [emit, enterLine, idle, Lexer.skip, line.owes, List.nil_append, byteLength_append,
    Nat.add_assoc] using leads

/-- What a block more or less returns for the next line comes first. -/
theorem AtLine.leads_change (line : l.AtLine blocks (indent ++ c :: cs))
    (blank : ∀ d ∈ indent, isBlank d = true) (ink : Inked c)
    (before : blocks.change? l.offset indent = some (indents, t :: changes))
    (behind : blocks'.change? l.offset indent = some (indents, changes)) :
    l.Leads [t] { l with indents := blocks' } := by
  have before' : l.indents.change? l.offset indent = some (indents, [t] ++ changes) :=
    line.indents ▸ before
  exact Lexer.leads_change line.owes line.mode line.source blank ink before' behind

theorem AtLine.leads_indent {margin : Margin} (proper : blocks.Proper)
    (line : l.AtLine blocks (blocks.innermost ++ margin.chars ++ c :: cs)) (ink : Inked c) :
    ∃ t, t.token = .indent ∧
      l.Leads [t] { l with indents := (blocks.innermost ++ margin.chars) :: blocks } := by
  have before := blocks.change?_deeper margin l.offset
  have blank := (proper.within margin).innermost
  exact ⟨_, rfl, line.leads_change blank ink before (if_pos rfl)⟩

/-- A line that returns from a block closes it. -/
theorem AtLine.leads_dedent (proper : Indents.Proper (top :: blocks))
    (line : l.AtLine (top :: blocks) rest) (returns : ReturnsTo blocks rest) :
    ∃ t, t.token = .dedent ∧ l.Leads [t] { l with indents := blocks } := by
  cases returns with
  | source =>
    have line' : { l with indents := blocks }.AtLine blocks [] := line.enter
    have first := leads_of_step line.owes line.active line.finish
    have later := leads_of_step line'.owes line'.active line'.finish
    exact ⟨⟨.dedent, l.offset, []⟩, rfl, .of_common first later⟩
  | @line indent cs c r blank ink returns =>
    have deeper := Indents.returnTo?_cons proper.nested returns
    have before := Indents.change?_of_returnTo? l.offset deeper
    have behind := Indents.change?_of_returnTo? l.offset returns
    exact ⟨_, rfl, line.leads_change blank ink before behind⟩

end

end Lexer

/-! ## Spellings -/

/-- A lexer that meets the lines where they begin, with a line behind them that returns to one of
the blocks, reads such lexemes. -/
def SpellsLines (blocks : Indents) (cs : List Char) (good : List Lexeme → Prop) : Prop :=
  ∀ ⦃l : Lexer⦄ ⦃rest : List Char⦄, l.AtLine blocks (cs ++ rest) → Lexer.ReturnsTo blocks rest →
    ∃ ts, good ts ∧ l.Leads ts (l.skip cs rest)

/-- Says something behind an indentation. -/
def Begins (indent cs : List Char) : Prop := ∃ c ds, cs = indent ++ c :: ds ∧ Lexer.Inked c

theorem Begins.append {indent cs : List Char} (begins : Begins indent cs) (ds : List Char) :
    Begins indent (cs ++ ds) := by
  obtain ⟨c, cs, rfl, ink⟩ := begins
  exact ⟨c, cs ++ ds, by simp, ink⟩

/-- A line that is no text line. -/
theorem Lexer.AtLine.leads_line {l : Lexer} {blocks : Indents} {text rest : List Char}
    {good : List Lexeme → Prop} (proper : blocks.Proper)
    (line : l.AtLine blocks (blocks.innermost ++ text ++ ['\n'] ++ rest))
    (worded : Worded text) (spells : Spells Breaks text good) :
    ∃ ts us, good ts ∧ Single .newline ['\n'] us ∧
      l.Leads (ts ++ us) (l.skip (blocks.innermost ++ text ++ ['\n']) rest) := by
  obtain ⟨c, ds, rfl, start⟩ := worded
  have unmarked : c ≠ '-' := by
    rintro rfl
    cases start
  have begins : l.AtLine blocks (blocks.innermost ++ c :: (ds ++ '\n' :: rest)) := by
    simpa using line
  have ink := inked_of_isIdentStart start
  have first := begins.leads_statement proper.innermost ink unmarked (if_pos rfl)
  generalize entered : ({ l.skip blocks.innermost (c :: (ds ++ '\n' :: rest)) with
    mode := .statement, indents := blocks } : Lexer) = l' at first
  have ready : l'.Ready (c :: ds ++ '\n' :: rest) := by
    subst entered
    exact ⟨line.owes, line.markers, .inl rfl, rfl⟩
  obtain ⟨ts, goodTs, leads⟩ := spells ready (breaks_of_special (by decide) rest)
  have ready' : (l'.skip (c :: ds) ('\n' :: rest)).Ready ('\n' :: rest) := ready.skip
  have closed : (l'.skip (c :: ds) ('\n' :: rest)).nesting = [] := by
    subst entered
    exact line.nesting
  have last := ready'.leads_newline (by subst entered; rfl) closed
  have behind : ({ (l'.skip (c :: ds) ('\n' :: rest)).skip ['\n'] rest with
      mode := .lineStart } : Lexer) = l.skip (blocks.innermost ++ c :: ds ++ ['\n']) rest := by
    subst entered
    simp [Lexer.skip, line.mode, line.indents, Nat.add_assoc]
  rw [behind] at last
  exact ⟨ts, _, goodTs, ⟨_, rfl, rfl, rfl⟩, first.trans (leads.trans last)⟩

namespace SpellsLines

open Lexer

variable {blocks : Indents} {margin : Margin} {text cs ds rest : List Char}
  {good good' : List Lexeme → Prop}

theorem mono (spells : SpellsLines blocks cs good) (implies : ∀ ts, good ts → good' ts) :
    SpellsLines blocks cs good' := by
  intro l rest line returns
  obtain ⟨ts, is, leads⟩ := spells line returns
  exact ⟨ts, implies ts is, leads⟩

theorem nil : SpellsLines blocks [] (· = []) := by
  intro l rest line _
  refine ⟨[], rfl, ?_⟩
  have same : l.skip [] rest = l := skip_nil line.source
  rw [same]
  exact .refl l

theorem append (proper : blocks.Proper) (first : SpellsLines blocks cs good)
    (later : SpellsLines blocks ds good') (begins : ds = [] ∨ Begins blocks.innermost ds) :
    SpellsLines blocks (cs ++ ds) (Joined good good') := by
  intro l rest line returns
  rw [List.append_assoc] at line
  have between : ReturnsTo blocks (ds ++ rest) := by
    rcases begins with rfl | ⟨c, ds, rfl, ink⟩
    · exact returns
    · rw [List.append_assoc]
      exact .line proper.innermost ink blocks.returnTo?_innermost
  obtain ⟨ts, goodTs, leads⟩ := first line between
  have line' : (l.skip cs (ds ++ rest)).AtLine blocks (ds ++ rest) := line.skip
  obtain ⟨us, goodUs, leads'⟩ := later line' returns
  rw [skip_skip] at leads'
  exact ⟨ts ++ us, ⟨ts, us, rfl, goodTs, goodUs⟩, leads.trans leads'⟩

/-- The first line of a statement with the lines behind it. -/
theorem behindLine (proper : blocks.Proper) (worded : Worded text)
    (spells : Spells Breaks text good) (later : SpellsLines blocks ds good') :
    SpellsLines blocks (blocks.innermost ++ text ++ ['\n'] ++ ds)
      (Joined good (Joined (Single .newline ['\n']) good')) := by
  intro l rest line returns
  rw [List.append_assoc] at line
  obtain ⟨ts, u, goodTs, newline, leads⟩ := line.leads_line proper worded spells
  have line' : (l.skip (blocks.innermost ++ text ++ ['\n']) (ds ++ rest)).AtLine blocks
      (ds ++ rest) := line.skip
  obtain ⟨us, goodUs, leads'⟩ := later line' returns
  rw [skip_skip] at leads'
  have together := leads.trans leads'
  rw [List.append_assoc] at together
  exact ⟨_, ⟨ts, _, rfl, goodTs, _, us, rfl, newline, goodUs⟩, together⟩

/-- Lines that open a block and close it. -/
theorem block (proper : blocks.Proper) (begins : Begins (blocks.innermost ++ margin.chars) cs)
    (inside : SpellsLines ((blocks.innermost ++ margin.chars) :: blocks) cs good) :
    SpellsLines blocks cs fun ts =>
      ∃ t us u, ts = t :: us ++ [u] ∧ t.token = .indent ∧ good us ∧ u.token = .dedent := by
  intro l rest line returns
  have proper' := proper.within margin
  obtain ⟨c, ds, rfl, ink⟩ := begins
  have begins : l.AtLine blocks (blocks.innermost ++ margin.chars ++ c :: (ds ++ rest)) := by
    simpa using line
  obtain ⟨t, indent, first⟩ := begins.leads_indent proper ink
  generalize entered :
    ({ l with indents := (blocks.innermost ++ margin.chars) :: blocks } : Lexer) = l' at first
  have line' : l'.AtLine ((blocks.innermost ++ margin.chars) :: blocks)
      (blocks.innermost ++ margin.chars ++ c :: ds ++ rest) := by
    subst entered
    exact line.enter
  obtain ⟨us, goodUs, leads⟩ := inside line' (returns.within proper'.nested)
  have line'' : (l'.skip (blocks.innermost ++ margin.chars ++ c :: ds) rest).AtLine
      ((blocks.innermost ++ margin.chars) :: blocks) rest := line'.skip
  obtain ⟨u, dedent, last⟩ := line''.leads_dedent proper' returns
  have behind : ({ l'.skip (blocks.innermost ++ margin.chars ++ c :: ds) rest with
      indents := blocks } : Lexer) = l.skip (blocks.innermost ++ margin.chars ++ c :: ds) rest := by
    subst entered
    rw [← line.indents]
    rfl
  rw [behind] at last
  exact ⟨_, ⟨t, us, u, rfl, indent, goodUs, dedent⟩, first.trans (leads.trans last)⟩

end SpellsLines

end HtmlTemplate
