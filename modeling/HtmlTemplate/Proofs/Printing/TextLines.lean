import HtmlTemplate.Proofs.Printing.Blocks
import HtmlTemplate.Proofs.Printing.Expressions

/-!
# Printed text lines

A text ends where a splice begins or its line ends, and what is printed into a splice never closes
it: braces stand in the text only with a backslash, in a splice only within brackets or strings.
-/

namespace HtmlTemplate

theorem getLast?_shielded (text : List Char) : (shielded text).getLast? = text.getLast? :=
  Markers.standard.getLast?_shield text

theorem shielded_ne_nil {text : List Char} (said : text ≠ []) : shielded text ≠ [] :=
  Markers.shield_ne_nil said

namespace Lexer

/-- In the text of a text line, in front of some characters. -/
structure InText (l : Lexer) (source : List Char) : Prop where
  owes : l.pending = []
  markers : l.markers = .standard
  mode : l.mode = .text
  nesting : l.nesting = []
  source : l.rest = source

section

variable {l : Lexer} {c : Char} {text cs ds rest : List Char}

theorem InText.skip (inText : l.InText cs) : (l.skip ds rest).InText rest :=
  ⟨inText.owes, inText.markers, inText.mode, inText.nesting, rfl⟩

theorem InText.leads_readText (inText : l.InText cs) (some : cs ≠ []) :
    l.Leads l.readText.pending l.readText.idle := by
  have active : l.mode ≠ .done := by simp [inText.mode]
  obtain ⟨c, ds, rfl⟩ := List.exists_cons_of_ne_nil some
  have step : l.step = .ok l.readText := by simp [Lexer.step, inText.source, inText.mode]
  exact leads_of_step inText.owes active step

theorem InText.run (inText : l.InText (shielded text ++ c :: cs)) (oneLine : '\n' ∉ text)
    (stops : c = '\n' ∨ c = '{') : Run.text l.markers l.rest = ⟨shielded text, c :: cs⟩ := by
  rw [inText.markers, inText.source]
  apply Run.text_shielded oneLine
  rintro _ ⟨⟩
  exact stops

theorem InText.leads_text (inText : l.InText (shielded text ++ c :: cs)) (said : text ≠ [])
    (oneLine : '\n' ∉ text) (ends : c = '{' ∨ c = '\n' ∧ text.getLast? ≠ some '\r') :
    l.Leads [⟨.text, l.offset, shielded text⟩] (l.skip (shielded text) (c :: cs)) := by
  have run := inText.run oneLine (ends.symm.imp_left And.left)
  have said' := shielded_ne_nil said
  have leads := inText.leads_readText (by simp)
  rcases ends with rfl | ⟨rfl, noReturn⟩
  · simpa [readText, run, said', emit, idle, Lexer.skip, inText.owes] using leads
  · have whole : beforeLineEnd (shielded text) = shielded text :=
      if_neg (by rwa [getLast?_shielded])
    simpa [readText, run, said', whole, idle, Lexer.skip, inText.owes] using leads

theorem InText.leads_openSplice (inText : l.InText ('{' :: cs)) :
    l.Leads [⟨.openSplice, l.offset, ['{']⟩] { l.skip ['{'] cs with mode := .splice } := by
  have run : Run.text l.markers l.rest = ⟨[], '{' :: cs⟩ :=
    @InText.run l '{' [] cs inText nofun (.inr rfl)
  have leads := inText.leads_readText (by simp)
  simpa [readText, run, emit, idle, Lexer.skip, inText.owes] using leads

theorem InText.leads_newline (inText : l.InText ('\n' :: cs)) :
    l.Leads [⟨.newline, l.offset, ['\n']⟩] { l.skip ['\n'] cs with mode := .lineStart } := by
  have run : Run.text l.markers l.rest = ⟨[], '\n' :: cs⟩ :=
    @InText.run l '\n' [] cs inText nofun (.inl rfl)
  have leads := inText.leads_readText (by simp)
  simpa [readText, run, emit, idle, Lexer.skip, inText.owes, beforeLineEnd] using leads

end

end Lexer

open Lexer

/-! ## Parts -/

def PartsRead (parts : List Part) (ts : List Lexeme) : Prop :=
  ∃ parts', Grammar.Parts .standard ts parts' ∧
    parts'.map (Part.relocate Region.forget) = parts.map (Part.relocate Region.forget)

theorem PrintableParts.later {p : Part} {parts : List Part}
    (printable : PrintableParts (p :: parts)) :
    PrintableParts parts := by
  refine ⟨?_, ?_, printable.apart.tail, ?_⟩
  · exact fun chars mem => printable.texts chars (List.mem_cons_of_mem p mem)
  · exact fun e mem => printable.splices e (List.mem_cons_of_mem p mem)
  · intro chars last
    apply printable.noReturn
    rw [List.getLast?_cons, last]
    rfl

/-- A text is read up to its end. -/
theorem leads_textPart {l : Lexer} {chars rest : List Char} {later : List Part}
    (printable : PrintableParts (.text chars :: later))
    (inText : l.InText (shielded chars ++ (printParts later ++ '\n' :: rest))) :
    l.Leads [⟨.text, l.offset, shielded chars⟩]
      (l.skip (shielded chars) (printParts later ++ '\n' :: rest)) := by
  obtain ⟨said, oneLine⟩ := printable.texts chars List.mem_cons_self
  cases later with
  | nil => exact inText.leads_text said oneLine (.inr ⟨rfl, printable.noReturn chars rfl⟩)
  | cons p later =>
    cases p with
    | text chars' => exact absurd ⟨rfl, rfl⟩ (List.isChain_cons_cons.mp printable.apart).1
    | splice e => exact inText.leads_text said oneLine (.inl rfl)

/-- An expression is read within its braces. -/
theorem leads_splicePart {l : Lexer} {e : Expr} {rest : List Char} (printable : e.Printable)
    (inText : l.InText ((Part.splice e).print ++ rest)) :
    ∃ t ts u, t.token = .openSplice ∧ Level.sum.Reads e ts ∧ u.token = .closeSplice ∧
      l.Leads (t :: ts ++ [u]) (l.skip (Part.splice e).print rest) := by
  have shape : (Part.splice e).print ++ rest =
      '{' :: (e.print .sum ++ '}' :: rest) := by simp [Part.print]
  rw [shape] at inText
  have first := inText.leads_openSplice
  generalize entered :
    ({ l.skip ['{'] (e.print .sum ++ '}' :: rest) with mode := .splice } : Lexer) = l' at first
  have ready : l'.Ready (e.print .sum ++ '}' :: rest) := by
    subst entered
    exact ⟨inText.owes, inText.markers, .inr rfl, rfl⟩
  obtain ⟨ts, reads, leads⟩ := e.spells .sum printable ready (breaks_of_special (by decide) rest)
  have ready' : (l'.skip (e.print .sum) ('}' :: rest)).Ready ('}' :: rest) := ready.skip
  have closed : (l'.skip (e.print .sum) ('}' :: rest)).nesting = [] := by
    subst entered
    exact inText.nesting
  have last := ready'.leads_closeSplice (by subst entered; rfl) closed
  have behind : ({ (l'.skip (e.print .sum) ('}' :: rest)).skip ['}'] rest with
      mode := .text } : Lexer) = l.skip (Part.splice e).print rest := by
    subst entered
    simp [Lexer.skip, Part.print, inText.mode, Nat.add_assoc]
  rw [behind] at last
  exact ⟨_, ts, _, rfl, reads, rfl, first.trans (leads.trans last)⟩

theorem leads_parts {l : Lexer} {rest : List Char} {parts : List Part}
    (printable : PrintableParts parts)
    (inText : l.InText (printParts parts ++ '\n' :: rest)) :
    ∃ ts, PartsRead parts ts ∧ l.Leads ts (l.skip (printParts parts) ('\n' :: rest)) := by
  induction parts generalizing l with
  | nil =>
    have same : l.skip [] ('\n' :: rest) = l := skip_nil inText.source
    refine ⟨[], ⟨[], .nil, rfl⟩, ?_⟩
    rw [printParts, List.flatMap_nil, same]
    exact .refl l
  | cons p later ih =>
    have shape : printParts (p :: later) = p.print ++ printParts later := rfl
    rw [shape, List.append_assoc] at inText
    have inText' : (l.skip p.print (printParts later ++ '\n' :: rest)).InText
      (printParts later ++ '\n' :: rest) := inText.skip
    obtain ⟨us, ⟨parts', derived', same'⟩, leads'⟩ := ih printable.later inText'
    rw [skip_skip, ← shape] at leads'
    cases p with
    | text chars =>
      have leads := leads_textPart printable inText
      refine ⟨_, ⟨_, .text rfl derived', ?_⟩, leads.trans leads'⟩
      simp [plainText_shielded, Part.relocate, same']
    | splice e =>
      obtain ⟨t, ts, u, opens, ⟨e', derived, same⟩, closes, leads⟩ :=
        leads_splicePart (printable.splices e List.mem_cons_self) inText
      have together := leads.trans leads'
      rw [List.append_assoc] at together
      refine ⟨_, ⟨_, .splice opens derived closes derived', ?_⟩, together⟩
      simp [Part.relocate, same, same']

/-! ## Lines -/

theorem SpellsLines.text {blocks : Indents} {parts : List Part} (proper : blocks.Proper)
    (printable : PrintableParts parts) :
    SpellsLines blocks (blocks.innermost ++ '-' :: printParts parts ++ ['\n'])
      (Joined (Single .marker ['-']) (Joined (PartsRead parts) (Single .newline ['\n']))) := by
  intro l rest line _
  have begins :
      l.AtLine blocks (blocks.innermost ++ '-' :: (printParts parts ++ '\n' :: rest)) := by
    simpa using line
  have first := begins.leads_marker proper.innermost (if_pos rfl)
  generalize entered : ({ l.skip (blocks.innermost ++ ['-']) (printParts parts ++ '\n' :: rest) with
    mode := .text, indents := blocks } : Lexer) = l' at first
  have inText : l'.InText (printParts parts ++ '\n' :: rest) := by
    subst entered
    exact ⟨line.owes, line.markers, rfl, line.nesting, rfl⟩
  obtain ⟨ts, reads, leads⟩ := leads_parts printable inText
  have inText' : (l'.skip (printParts parts) ('\n' :: rest)).InText ('\n' :: rest) := inText.skip
  have last := inText'.leads_newline
  have behind : ({ (l'.skip (printParts parts) ('\n' :: rest)).skip ['\n'] rest with
      mode := .lineStart } : Lexer) =
      l.skip (blocks.innermost ++ '-' :: printParts parts ++ ['\n']) rest := by
    subst entered
    simp [Lexer.skip, line.mode, line.indents, Nat.add_assoc]
  rw [behind] at last
  exact ⟨_, ⟨_, _, rfl, ⟨_, rfl, rfl, rfl⟩, ts, _, rfl, reads, _, rfl, rfl, rfl⟩,
    first.trans (leads.trans last)⟩

end HtmlTemplate
