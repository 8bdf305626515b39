import HtmlTemplate.Proofs.Grammar.Exact
import HtmlTemplate.Proofs.Lexing.Levels
import HtmlTemplate.Proofs.Lexing.LineEnds
import HtmlTemplate.Proofs.Printing.UsableMarkers

/-!
# Text lines

A text line compiles to what a single pass over it says: its texts with all escapes resolved, and
between them the expressions of its splices. The lexer finds the marker that closes a splice; the
pass goes on behind it. A text whose special characters are escaped is rendered as it stands.
-/

namespace HtmlTemplate

/-- No part if there is no text. -/
def textParts (text : List Char) : List Part := if text = [] then [] else [.text text]

/-- What may stand between the last line of a source and its end. -/
def IsEnding (chars : List Char) : Prop := chars = [] ∨ chars = ['\n'] ∨ chars = ['\r', '\n']

/-- The parts that a single pass over a text line finds, if the line begins at the offset and ends
before the ending. A splice reaches up to its closing marker: this is where the lexer comes upon the
character outside of all brackets. -/
inductive Says (m : Markers) (ending : List Char) : Nat → List Char → List Part → Prop where
  | plain {n : Nat} {r text : List Char} (reads : readOnce m r = (text, none)) :
      Says m ending n r (textParts text)
  | splice {n k : Nat} {r text behind after : List Char} {parts : List Part} {e : Expr}
      {ts : List Lexeme} {l : Lexer} (reads : readOnce m r = (text, some behind))
      (place : k + byteLength behind = n + byteLength r)
      (steps : Lexer.Steps (m.splicing k (behind ++ ending)) ts l) (mode : l.mode = .splice)
      (closed : l.nesting = []) (closes : l.rest = m.closing :: (after ++ ending))
      (derived : Grammar.Sum ts e)
      (later : Says m ending (l.offset + byteLength [m.closing]) after parts) :
      Says m ending n r (textParts text ++ .splice e :: parts)

/-! ## Derivations -/

/-- The lexeme of a text, if there is any text. -/
def textLexemes (offset : Nat) (chars : List Char) : List Lexeme :=
  if chars = [] then [] else [⟨.text, offset, chars⟩]

namespace Grammar

variable {m : Markers} {ts us : List Lexeme} {t u : Lexeme} {parts : List Part}

theorem Parts.ne_newline (derived : Parts m ts parts) : ∀ t ∈ ts, t.token ≠ .newline := by
  induction derived with
  | nil => exact List.forall_mem_nil _
  | text is _ ih => exact List.forall_mem_cons.mpr ⟨by simp [is], ih⟩
  | splice opens derived closes _ ih =>
    refine List.forall_mem_append.mpr ⟨List.forall_mem_cons.mpr ⟨by simp [opens], ?_⟩,
      List.forall_mem_cons.mpr ⟨by simp [closes], ih⟩⟩
    exact fun t mem => Token.ne_of_isInner (derived.inner t mem) rfl

theorem Parts.of_nil (derived : Parts m [] parts) : parts = [] := by
  generalize none : [] = ts at derived
  cases derived with
  | nil => rfl
  | text | splice => cases none

/-- The parts of a text in front of others. -/
theorem Parts.of_text {offset : Nat} {chars : List Char}
    (derived : Parts m (textLexemes offset chars ++ us) parts) :
    ∃ later, parts = textParts (plainText m chars) ++ later ∧ Parts m us later := by
  by_cases none : chars = []
  · subst none
    exact ⟨parts, rfl, derived⟩
  · rw [textLexemes, if_neg none, List.singleton_append] at derived
    rw [textParts, if_neg (plainText_ne_nil none)]
    generalize whole : Lexeme.mk .text offset chars :: us = ts at derived
    cases derived with
    | nil => cases whole
    | text is later =>
      cases whole
      exact ⟨_, rfl, later⟩
    | splice opens =>
      cases whole
      cases opens

/-- A splice says one expression. -/
theorem Parts.of_splice (opens : t.token = .openSplice) (inner : Inner ts)
    (closes : u.token = .closeSplice) (derived : Parts m (t :: (ts ++ u :: us)) parts) :
    ∃ e later, parts = .splice e :: later ∧ Sum ts e ∧ Parts m us later := by
  generalize whole : t :: (ts ++ u :: us) = vs at derived
  cases derived with
  | nil => cases whole
  | text is =>
    cases whole
    rw [opens] at is
    cases is
  | splice _ sum closes' later =>
    obtain ⟨-, whole⟩ := List.cons.inj whole
    obtain ⟨rfl, same⟩ := eq_of_append_of_stops inner sum.inner (by rw [closes]; rfl)
      (by rw [closes']; rfl) whole
    cases same
    exact ⟨_, _, rfl, sum, later⟩

/-- A marker and a line end make a text line of what stands between them. -/
theorem Lines.of_marker {ss : List Statement} (marker : t.token = .marker)
    (inLine : ∀ v ∈ us, v.token ≠ .newline) (newline : u.token = .newline)
    (derived : Lines m (t :: (us ++ [u])) ss) : ∃ parts, ss = [.text parts] ∧ Parts m us parts := by
  generalize back : us ++ [u] = vs at derived
  generalize whole : t :: vs = ws at derived
  cases derived with
  | nil => cases whole
  | @cons ls behind s ss line later =>
    cases line with
    | @text ts t' u' parts' _ parts _ newline' =>
      cases whole
      have split : us ++ [u] = ts ++ u' :: behind := back.trans (List.append_assoc ..)
      have noNewline : decide (Token.newline ≠ .newline) = false := rfl
      obtain ⟨rfl, ended⟩ := eq_of_append_of_stops (p := fun token => decide (token ≠ .newline))
        (fun v mem => decide_eq_true (inLine v mem))
        (fun v mem => decide_eq_true (parts.ne_newline v mem)) (newline ▸ noNewline)
        (newline' ▸ noNewline) split
      cases ended
      obtain rfl : ss = [] := later.unique .nil
      exact ⟨_, rfl, parts⟩
    | assign other | choice other | loop other | tag other | emptyTag other =>
      cases whole
      rw [marker] at other
      cases other

end Grammar

/-! ## Lexemes -/

theorem IsEnding.cases {ending : List Char} (ends : IsEnding ending) :
    ending = [] ∨ ∃ ret, IsReturn ret ∧ ending = ret ++ ['\n'] := by
  rcases ends with rfl | rfl | rfl
  · exact .inl rfl
  · exact .inr ⟨[], .inl rfl, rfl⟩
  · exact .inr ⟨['\r'], .inr rfl, rfl⟩

namespace Lexer

variable {l l' : Lexer} {r ending chars behind : List Char} {found : Lexemes}

/-- In the text of the last line of a source, outside of all blocks. -/
structure InLastLine (l : Lexer) (r ending : List Char) : Prop where
  owes : l.pending = []
  mode : l.mode = .text
  closed : l.nesting = []
  outside : l.indents = []
  rest : l.rest = r ++ ending
  oneLine : '\n' ∉ r
  noReturn : r.getLast? ≠ some '\r'
  ends : IsEnding ending

namespace InLastLine

theorem active (inLine : l.InLastLine r ending) : l.mode ≠ .done := by simp [inLine.mode]

/-- Nothing but the line end is left. -/
theorem lexemes_end (inLine : l.InLastLine [] ending) :
    ∃ newline, newline.token = .newline ∧ l.lexemes = ⟨[newline], none⟩ := by
  rcases inLine.ends.cases with rfl | ⟨ret, isReturn, rfl⟩
  · refine ⟨⟨.newline, l.offset, []⟩, rfl, ?_⟩
    rw [lexemes_of_closed inLine.owes inLine.active inLine.rest inLine.closed
      (by simp [inLine.mode])]
    simp [Lexer.ending, inLine.mode, inLine.outside]
  · have leads := leads_endTextLine inLine.owes inLine.mode isReturn inLine.rest
    have last := lexemes_of_closed (l := { l.skip (ret ++ ['\n']) [] with mode := .lineStart })
      inLine.owes (by simp) rfl inLine.closed (by simp)
    refine ⟨⟨.newline, l.offset + byteLength ret, ['\n']⟩, rfl, ?_⟩
    rw [leads, last]
    simp [Lexer.ending, Lexer.skip, inLine.outside, Lexemes.after]

/-- A text that no splice follows is read up to the end of the line. -/
theorem leads_text (inLine : l.InLastLine r ending) (said : r ≠ [])
    (plain : (Run.text l.markers r).rest = []) :
    ∃ l' ending', l.Leads [⟨.text, l.offset, r⟩] l' ∧ l'.InLastLine [] ending' := by
  have step := step_of_text inLine.mode (by simp [inLine.rest, said])
  rcases inLine.ends.cases with rfl | ⟨ret, isReturn, rfl⟩
  · have rest : l.rest = r := by rw [inLine.rest, List.append_nil]
    have run : Run.text l.markers l.rest = ⟨r, []⟩ := by rw [rest, Run.text_of_plain plain]
    refine ⟨l.skip r [], [], leads_of_found inLine.owes inLine.owes inLine.active
      (step.trans ?_), { inLine with rest := rfl, oneLine := nofun, noReturn := nofun }⟩
    simp [readText, run, emit, inLine.owes]
  · have run : Run.text l.markers (r ++ (ret ++ ['\n'])) = ⟨r ++ ret, ['\n']⟩ :=
      Run.text_append_of_line plain isReturn
    have line := beforeLineEnd_append inLine.noReturn isReturn
    refine ⟨l.skip (r ++ ret) ['\n'], ['\n'], leads_of_found inLine.owes inLine.owes inLine.active
      (step.trans ?_),
      { inLine with
        rest := rfl, oneLine := nofun, noReturn := nofun, ends := .inr (.inl rfl) }⟩
    simp [readText, inLine.rest, run, line, said, inLine.owes]

theorem lexemes_text (inLine : l.InLastLine r ending) (plain : (Run.text l.markers r).rest = []) :
    ∃ newline, newline.token = .newline ∧
      l.lexemes = ⟨textLexemes l.offset r ++ [newline], none⟩ := by
  by_cases none : r = []
  · subst none
    exact inLine.lexemes_end
  · obtain ⟨l', ending', leads, inLine'⟩ := inLine.leads_text none plain
    obtain ⟨newline, is, lexemes⟩ := inLine'.lexemes_end
    refine ⟨newline, is, ?_⟩
    rw [leads, lexemes, textLexemes, if_neg none]
    rfl

/-- A text in front of a splice is read up to the opening marker, and then the marker. -/
theorem leads_splice (inLine : l.InLastLine r ending)
    (reads : Run.text l.markers r = ⟨chars, l.markers.opening :: behind⟩) :
    l.Leads (textLexemes l.offset chars ++
        [⟨.openSplice, l.offset + byteLength chars, [l.markers.opening]⟩])
      (l.markers.splicing (l.offset + byteLength chars + byteLength [l.markers.opening])
        (behind ++ ending)) := by
  have run : Run.text l.markers l.rest = ⟨chars, l.markers.opening :: (behind ++ ending)⟩ := by
    rw [inLine.rest, Run.text_append_of_rest (by rw [reads]; simp), reads]
    rfl
  by_cases none : chars = []
  · subst none
    have source := Run.text_append l.markers l.rest
    rw [run, List.nil_append] at source
    exact leads_openSplice inLine.owes inLine.mode inLine.closed inLine.outside source.symm
  · have leads : l.Leads [⟨.text, l.offset, chars⟩]
        (l.skip chars (l.markers.opening :: (behind ++ ending))) := by
      refine leads_of_found inLine.owes inLine.owes inLine.active
        ((step_of_text inLine.mode ?_).trans ?_)
      · intro ended
        rw [ended] at run
        cases run
      · simp [readText, run, none, Markers.ne_feed l.markers.opening_isMarker, emit, inLine.owes]
    have opens := leads_openSplice (l := l.skip chars (l.markers.opening :: (behind ++ ending)))
      inLine.owes inLine.mode inLine.closed inLine.outside rfl
    rw [textLexemes, if_neg none]
    exact leads.trans opens

end InLastLine

/-- A move in a splice stays in it, unless the closing marker comes outside of all brackets. -/
theorem Moves.inSplice (move : l.Moves l') (owes : l.pending = []) (mode : l.mode = .splice) :
    (l'.mode = .splice ∧ l'.indents = l.indents ∧ Inner l'.pending) ∨
      l.nesting = [] ∧ ∃ cs, l.rest = l.markers.closing :: cs := by
  have single {token : Token} {chars : List Char} (inner : token.isInner = true) :
      Inner (l.pending ++ [⟨token, l.offset, chars⟩]) := by
    rw [owes]
    exact inner_cons rfl inner inner_nil
  cases move with
  | finish _ _ other => exact absurd mode other
  | blankLine other | line other | textLine other | text other | lineText other
  | endTextLine other | openSplice other | endLine other => simp [mode] at other
  | closeSplice _ closed source => exact .inr ⟨closed, _, source⟩
  | token _ source spelling => exact .inl ⟨mode, rfl, single spelling.isInner⟩
  | openBracket | closeBracket => exact .inl ⟨mode, rfl, single rfl⟩
  | joinLine | gap => exact .inl ⟨mode, rfl, owes.symm ▸ inner_nil⟩

/-- A run without a fault that begins in a splice leaves it. -/
theorem Run.leaves_splice (run : l.Run found) (faultless : found.fault = none)
    (mode : l.mode = .splice) :
    ∃ ts l' cs, Steps l ts l' ∧ Inner ts ∧ l'.pending = [] ∧ l'.mode = .splice ∧ l'.nesting = [] ∧
      l'.indents = l.indents ∧ l'.rest = l'.markers.closing :: cs := by
  induction run with
  | done _ mode' => simp [mode] at mode'
  | fault => cases faultless
  | @step l l' later owes active step run ih =>
    rcases (moves_of_step active step).inSplice owes mode with
      ⟨mode', same, inner⟩ | ⟨closed, cs, rest⟩
    · have more : l.rest ≠ [] := fun ended => by
        obtain ⟨f, lexemes⟩ := lexemes_of_unclosed owes active ended (.inr mode)
        rw [(Run.step owes active step run).lexemes_eq] at lexemes
        rw [lexemes] at faultless
        cases faultless
      obtain ⟨ts, l'', cs, steps, inner', owes', mode'', closed, same', rest⟩ := ih faultless mode'
      exact ⟨l'.pending ++ ts, l'', cs, .step owes active more step steps,
        inner_append inner inner', owes', mode'', closed, same'.trans same, rest⟩
    · exact ⟨[], l, cs, .refl l, inner_nil, owes, mode, closed, rfl, rest⟩

theorem getLast?_of_behind {front back : List Char} {c d : Char} (last : back.getLast? = some d) :
    (front ++ c :: back).getLast? = some d := by
  rw [List.getLast?_append_of_ne_nil _ (List.cons_ne_nil _ _), List.getLast?_cons, last]
  rfl

theorem not_mem_ending (ends : IsEnding ending) {c : Char} (marker : isMarker c = true) :
    c ∉ ending := by
  have noFeed := Markers.ne_feed marker
  have noReturn := Markers.ne_return marker
  rcases ends with rfl | rfl | rfl <;> simp [noFeed, noReturn]

/-- A splice of the last line is left at its closing marker, and text goes on behind that. -/
structure Leaves (m : Markers) (n : Nat) (behind ending : List Char) (ts : List Lexeme)
    (l l' : Lexer) (after : List Char) : Prop where
  steps : Steps (m.splicing n (behind ++ ending)) ts l
  inner : Inner ts
  mode : l.mode = .splice
  closed : l.nesting = []
  rest : l.rest = m.closing :: (after ++ ending)
  ahead : m.closing :: after <:+ behind
  leads : l.Leads [⟨.closeSplice, l.offset, [m.closing]⟩] l'
  markers : l'.markers = m
  offset : l'.offset = l.offset + byteLength [m.closing]
  inLine : l'.InLastLine after ending

theorem leaves_splicing {m : Markers} {n : Nat}
    (faultless : (m.splicing n (behind ++ ending)).lexemes.fault = none) (oneLine : '\n' ∉ behind)
    (noReturn : behind.getLast? ≠ some '\r') (ends : IsEnding ending) :
    ∃ ts l l' after, Leaves m n behind ending ts l l' after := by
  have run : Run (m.splicing n (behind ++ ending)) _ := run_lexemes rfl
  obtain ⟨ts, l, cs, steps, inner, owes, mode, closed, outside, rest⟩ :=
    run.leaves_splice faultless rfl
  have markers : l.markers = m := steps.markers
  have leads := leads_closeSplice owes mode closed rest
  rw [markers] at rest leads
  obtain ⟨inside, source⟩ := steps.suffix
  rw [rest] at source
  rcases split_of_append source.symm with ⟨after, rfl, rfl⟩ | ⟨front, -, back⟩
  · refine ⟨ts, l, _, after, steps, inner, mode, closed, rest, ⟨inside, rfl⟩, leads, markers, rfl,
      ?_⟩
    exact ⟨owes, rfl, closed, outside, rfl, fun feed => oneLine (by simp [feed]),
      fun last => noReturn (getLast?_of_behind last), ends⟩
  · exact absurd (by simp [back]) (not_mem_ending ends m.closing_isMarker)

/-- The lexemes of a text line, which have parts only if a single pass finds the same. -/
structure Tells (l : Lexer) (r ending : List Char) (us : List Lexeme) (newline : Lexeme) :
    Prop where
  lexemes : l.lexemes = ⟨us ++ [newline], none⟩
  ends : newline.token = .newline
  inLine : ∀ u ∈ us, u.token ≠ .newline
  reads : ∀ parts, Grammar.Parts l.markers us parts → Says l.markers ending l.offset r parts

theorem ne_newline_textLexemes (offset : Nat) (chars : List Char) :
    ∀ u ∈ textLexemes offset chars, u.token ≠ .newline := by
  unfold textLexemes
  split <;> simp

theorem InLastLine.tells_plain (inLine : l.InLastLine r ending)
    (plain : (Run.text l.markers r).rest = []) :
    ∃ newline, l.Tells r ending (textLexemes l.offset r) newline := by
  obtain ⟨newline, is, lexemes⟩ := inLine.lexemes_text plain
  refine ⟨newline, lexemes, is, ne_newline_textLexemes _ _, fun parts derived => ?_⟩
  have once := readOnce_eq (m := l.markers) inLine.oneLine
  rw [Run.text_of_plain plain] at once
  rw [← List.append_nil (textLexemes _ _)] at derived
  obtain ⟨later, rfl, none⟩ := derived.of_text
  rw [none.of_nil, List.append_nil]
  exact .plain once

/-- What a text line tells behind a splice it tells in front of the splice as well. -/
theorem Tells.behind_splice {l'' : Lexer} {after : List Char} {ts us : List Lexeme}
    {newline : Lexeme} (later : l''.Tells after ending us newline)
    (inLine : l.InLastLine r ending)
    (run : Run.text l.markers r = ⟨chars, l.markers.opening :: behind⟩)
    (leaves : Leaves l.markers (l.offset + byteLength chars + byteLength [l.markers.opening]) behind
      ending ts l' l'' after) :
    l.Tells r ending (textLexemes l.offset chars ++
      ⟨.openSplice, l.offset + byteLength chars, [l.markers.opening]⟩ ::
        (ts ++ ⟨.closeSplice, l'.offset, [l.markers.closing]⟩ :: us)) newline where
  lexemes := by
    rw [inLine.leads_splice run, leaves.steps.leads, leaves.leads, later.lexemes]
    simp [Lexemes.after]
  ends := later.ends
  inLine := by
    refine List.forall_mem_append.mpr ⟨ne_newline_textLexemes _ _, ?_⟩
    refine List.forall_mem_cons.mpr ⟨by simp, List.forall_mem_append.mpr ⟨fun t mem => ?_, ?_⟩⟩
    · exact Token.ne_of_isInner (leaves.inner t mem) rfl
    · exact List.forall_mem_cons.mpr ⟨by simp, later.inLine⟩
  reads := by
    intro parts derived
    have once := readOnce_eq (m := l.markers) inLine.oneLine
    have whole := Run.text_append l.markers r
    rw [run] at once whole
    obtain ⟨spliced, rfl, behindText⟩ := derived.of_text
    obtain ⟨e, parts', rfl, sum, behindSplice⟩ := behindText.of_splice rfl leaves.inner rfl
    rw [← leaves.markers] at behindSplice
    have said := later.reads _ behindSplice
    rw [leaves.markers, leaves.offset] at said
    refine .splice once ?_ leaves.steps leaves.mode leaves.closed leaves.rest sum said
    rw [← whole, byteLength_append, byteLength_cons]
    simp
    omega

theorem InLastLine.tells {l : Lexer} {r : List Char} (inLine : l.InLastLine r ending)
    (faultless : l.lexemes.fault = none) : ∃ us newline, l.Tells r ending us newline := by
  obtain ⟨chars, rest, run⟩ : ∃ chars rest, Run.text l.markers r = ⟨chars, rest⟩ := ⟨_, _, rfl⟩
  cases rest with
  | nil => exact ⟨_, inLine.tells_plain (congrArg Run.rest run)⟩
  | cons c behind =>
    have whole := Run.text_append l.markers r
    rw [run] at whole
    have opens : c = l.markers.opening := (Run.text_stops run rfl).resolve_left fun feed =>
      inLine.oneLine (whole ▸ by simp [feed])
    subst opens
    rw [inLine.leads_splice run] at faultless
    obtain ⟨ts, l', l'', after, leaves⟩ := leaves_splicing faultless
      (fun feed => inLine.oneLine (whole ▸ by simp [feed]))
      (fun last => inLine.noReturn (whole ▸ getLast?_of_behind last)) inLine.ends
    rw [leaves.steps.leads, leaves.leads] at faultless
    have shorter : after.length < r.length := by
      have length := leaves.ahead.length_le
      rw [← whole, List.length_append]
      simp only [List.length_cons] at length ⊢
      omega
    obtain ⟨us, newline, later⟩ := leaves.inLine.tells faultless
    exact ⟨_, newline, later.behind_splice inLine run leaves⟩
termination_by r.length

end Lexer

/-! ## Templates of one text line -/

/-- The lexer behind the marker of a text line. -/
def Markers.inText (m : Markers) (source : List Char) : Lexer where
  markers := m
  rest := source
  offset := byteLength [m.text]
  mode := .text

/-- A text line says something, and nothing that ends it. -/
structure OneLine (r : List Char) : Prop where
  said : r ≠ []
  noFeed : '\n' ∉ r
  noReturn : r.getLast? ≠ some '\r'

theorem OneLine.shield (m : Markers) {r : List Char} (line : OneLine r) : OneLine (m.shield r) where
  said := Markers.shield_ne_nil line.said
  noFeed mem := line.noFeed ((Markers.mem_shield mem).resolve_right (by decide))
  noReturn := by
    rw [m.getLast?_shield]
    exact line.noReturn

namespace Template

variable {m : Markers} {r ending : List Char} {name : Option String}

theorem inLastLine_inText (m : Markers) (line : OneLine r) (ends : IsEnding ending) :
    (m.inText (r ++ ending)).InLastLine r ending :=
  ⟨rfl, rfl, rfl, rfl, rfl, line.noFeed, line.noReturn, ends⟩

theorem lexemes_marked (m : Markers) (r ending : List Char) :
    Lexemes.ofSource m (String.ofList (m.text :: (r ++ ending))).toList =
      (m.inText (r ++ ending)).lexemes.after [⟨.marker, 0, [m.text]⟩] := by
  rw [String.toList_ofList]
  exact m.leads_marker (r ++ ending)

/-- A text line without splices compiles to its text. -/
theorem compile_plain (line : OneLine r) (ends : IsEnding ending) {text : List Char}
    (reads : readOnce m r = (text, none)) :
    compile m name (String.ofList (m.text :: (r ++ ending))) =
      .ok ⟨name, String.ofList (m.text :: (r ++ ending)), [.text [.text text]]⟩ := by
  rw [readOnce_eq line.noFeed, Prod.mk.injEq] at reads
  obtain ⟨rfl, none⟩ := reads
  have plain : (Run.text m r).rest = [] := by
    cases rest : (Run.text m r).rest with
    | nil => rfl
    | cons c cs =>
      rw [rest] at none
      cases none
  obtain ⟨newline, is, lexemes⟩ := (inLastLine_inText m line ends).lexemes_text plain
  rw [textLexemes, if_neg line.said] at lexemes
  have derived (n : Nat) : Grammar.Lines m [⟨.marker, 0, [m.text]⟩, ⟨.text, n, r⟩, newline]
      [.text [.text (plainText m r)]] :=
    .cons (.text rfl (.text rfl .nil) (List.cons_ne_nil _ _) is) .nil
  refine compile_eq_ok_iff.mpr ⟨parseSource_eq_ok_iff.mpr ?_, rfl, rfl⟩
  rw [lexemes_marked, lexemes, Run.text_of_plain plain]
  exact ⟨rfl, derived _⟩

/-- A text line that compiles has the parts that a single pass finds. -/
theorem says_of_compile (line : OneLine r) (ends : IsEnding ending) {t : Template}
    (compiles : compile m name (String.ofList (m.text :: (r ++ ending))) = .ok t) :
    ∃ parts, t.statements = [.text parts] ∧ Says m ending (byteLength [m.text]) r parts := by
  obtain ⟨faultless, derived⟩ := parseSource_eq_ok_iff.mp (compile_eq_ok_iff.mp compiles).1
  rw [lexemes_marked] at faultless derived
  obtain ⟨us, newline, tells⟩ := (inLastLine_inText m line ends).tells faultless
  rw [tells.lexemes] at derived
  obtain ⟨parts, statements, derived⟩ := derived.of_marker rfl tells.inLine tells.ends
  exact ⟨parts, statements, tells.reads parts derived⟩

theorem render_text {t : Template} {text : List Char}
    (statements : t.statements = [.text [.text text]]) (c : Context) :
    t.render c = (.ok (String.ofList (trimLine text)), c) := by
  have forest : t.forest c = (.ok [.text (trimLine (text ++ []))], c) := by
    rw [Template.forest, statements]
    rfl
  rw [List.append_nil] at forest
  simp only [render, forest, Node.writeAll, Node.write, List.append_nil]

/-- The escapes of a text line mean the same to the lexer and to the parser: both follow a single
pass over the line. So a text whose special characters are escaped is rendered as it stands, less
the space that sets it off. -/
theorem textLine_readOnce (m : Markers) (name : Option String) {r ending : List Char}
    (line : OneLine r) (ends : IsEnding ending) :
    (∀ text, readOnce m r = (text, none) →
      ∃ t, compile m name (String.ofList (m.text :: (r ++ ending))) = .ok t ∧
        t.statements = [.text [.text text]]) ∧
    (∀ t, compile m name (String.ofList (m.text :: (r ++ ending))) = .ok t →
      ∃ parts, t.statements = [.text parts] ∧ Says m ending (byteLength [m.text]) r parts) ∧
    ∃ t, compile m name (String.ofList (m.text :: (m.shield r ++ ending))) = .ok t ∧
      ∀ c, t.render c = (.ok (String.ofList (trimLine r)), c) := by
  refine ⟨fun text reads => ⟨_, compile_plain line ends reads, rfl⟩,
    fun t compiles => says_of_compile line ends compiles,
    ⟨_, compile_plain (line.shield m) ends (readOnce_shield m line.noFeed),
      fun c => render_text rfl c⟩⟩

/-- An escaped brace in front of a splice. -/
theorem textLine_escape_splice :
    let r := "a\\\x7b\x7bx\x7d!".toList
    (∃ t, compile .standard none (String.ofList ('-' :: (r ++ ['\n']))) = .ok t ∧
      ∃ parts, t.statements = [.text parts] ∧ Says .standard ['\n'] 1 r parts) ∧
    ∃ t, compile .standard none (String.ofList ('-' :: (Markers.standard.shield r ++ ['\n']))) =
        .ok t ∧
      ∀ c, t.render c = (.ok (String.ofList r), c) := by
  intro r
  have line : OneLine r := ⟨by decide, by decide, by decide⟩
  have lexemes : Lexemes.ofSource .standard ('-' :: (r ++ ['\n'])) =
      ⟨[⟨.marker, 0, ['-']⟩, ⟨.text, 1, ['a', '\\', '{']⟩, ⟨.openSplice, 4, ['{']⟩,
        ⟨.identifier, 5, ['x']⟩, ⟨.closeSplice, 6, ['}']⟩, ⟨.text, 7, ['!']⟩,
        ⟨.newline, 8, ['\n']⟩], none⟩ :=
    Lexemes.ofSource_of_within (n := 20) (by decide +kernel)
  have sum : Grammar.Sum [⟨.identifier, 5, ['x']⟩] (.var ⟨"x", ⟨5, 6⟩⟩) :=
    .product (.atom (.var rfl))
  have derived : Grammar.Lines .standard (Lexemes.ofSource .standard ('-' :: (r ++ ['\n']))).list
      [.text [.text ['a', '{'], .splice (.var ⟨"x", ⟨5, 6⟩⟩), .text ['!']]] := by
    rw [lexemes]
    exact .cons (.text rfl (.text rfl (.splice rfl sum rfl (.text rfl .nil))) nofun rfl) .nil
  have reads := parseSource_eq_ok_iff.mpr ⟨congrArg Lexemes.fault lexemes, derived⟩
  rw [← String.toList_ofList (l := '-' :: (r ++ ['\n']))] at reads
  have compiles : compile .standard none (String.ofList ('-' :: (r ++ ['\n']))) =
      .ok ⟨none, _, _⟩ := compile_eq_ok_iff.mpr ⟨reads, rfl, rfl⟩
  obtain ⟨-, parts, rendered⟩ := textLine_readOnce .standard none line (.inr (.inl rfl))
  exact ⟨⟨_, compiles, parts _ compiles⟩, rendered⟩

end Template

end HtmlTemplate
