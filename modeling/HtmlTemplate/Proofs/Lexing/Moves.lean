import HtmlTemplate.Token.Lexer

/-!
# Moves of a lexer

What a single step can do, said once: which mode it needs, which characters it passes and what it
returns for them. Facts about all steps are proved by cases on the move.
-/

namespace HtmlTemplate

theorem Run.takeWhile_holds {p : Char → Bool} {cs : List Char} :
    ∀ c ∈ (Run.takeWhile p cs).chars, p c = true := fun _ mem =>
  List.all_eq_true.mp List.all_takeWhile _ mem

theorem Run.takeWhile_stops {p : Char → Bool} {cs ds : List Char} {d : Char}
    (rest : (Run.takeWhile p cs).rest = d :: ds) : p d = false := by
  have head := List.head?_dropWhile_not p cs
  change cs.dropWhile p = d :: ds at rest
  rw [rest] at head
  exact head

theorem Run.takeWhile_append_of_holds {p : Char → Bool} {chars rest : List Char} {c : Char}
    (holds : ∀ d ∈ chars, p d = true) (stops : p c = false) :
    Run.takeWhile p (chars ++ c :: rest) = ⟨chars, c :: rest⟩ := by
  simp [takeWhile, List.takeWhile_append_of_pos holds, List.dropWhile_append_of_pos holds, stops]

/-- Text goes up to a line feed or a splice. -/
theorem Run.text_stops {m : Markers} {cs ds : List Char} {d : Char} {run : Run}
    (read : Run.text m cs = run) (rest : run.rest = d :: ds) : d = '\n' ∨ d = m.opening := by
  subst read
  fun_induction Run.text m cs with
  | case1 => cases rest
  | case2 c stops => cases rest; exact stops
  | case3 => cases rest
  | case4 d cs _ ih => exact ih rest
  | case5 d cs _ ih => exact ih rest
  | case6 c d cs _ stops => cases rest; exact stops
  | case7 c d cs _ _ ih => exact ih rest

namespace Lexer

/-- A line ends here, whether by a line feed alone or behind a carriage return. -/
inductive LineEnd : List Char → Prop where
  | source : LineEnd []
  | feed (cs : List Char) : LineEnd ('\n' :: cs)
  | returnFeed (cs : List Char) : LineEnd ('\r' :: '\n' :: cs)

/-- The characters that make up one token of a statement or a splice, brackets aside. -/
inductive Spelling : Token → List Char → Prop where
  | punctuation {c : Char} {token : Token} (is : punctuation c = some token) : Spelling token [c]
  | string {cs : List Char} {run : Run} (closed : Run.string false cs = (run, true)) :
      Spelling .string ('"' :: run.chars)
  | number {c : Char} {cs : List Char} (digit : c.isDigit = true)
      (numeral : ∀ d ∈ cs, isNumeral d = true) : Spelling .number (c :: cs)
  | word {c : Char} {cs : List Char} (start : Unicode.isIdentStart c = true)
      (continues : ∀ d ∈ cs, Unicode.isIdentContinue d = true) :
      Spelling (.ofWord (String.ofList (c :: cs))) (c :: cs)

theorem Spelling.ne_nil {token : Token} {chars : List Char} (spelling : Spelling token chars) :
    chars ≠ [] := by
  cases spelling <;> simp

/-- The line end and the dedents at the end of a source. -/
def ending (l : Lexer) : List Lexeme :=
  (if l.mode = .lineStart then [] else [⟨.newline, l.offset, []⟩]) ++
    List.replicate l.indents.length ⟨.dedent, l.offset, []⟩

theorem token_of_mem_ending {l : Lexer} {t : Lexeme} (mem : t ∈ l.ending) :
    t.token = .newline ∨ t.token = .dedent := by
  unfold ending at mem
  rcases List.mem_append.mp mem with newline | dedent
  · split at newline
    · cases newline
    · rw [List.mem_singleton.mp newline]
      exact .inl rfl
  · rw [List.eq_of_mem_replicate dedent]
    exact .inr rfl

theorem token_of_mem_changes {start : Nat} {indent : List Char} {blocks blocks' : Indents}
    {changes : List Lexeme} (change : blocks.change? start indent = some (blocks', changes))
    {t : Lexeme} (mem : t ∈ changes) : t.token = .indent ∨ t.token = .dedent := by
  simp only [Indents.change?] at change
  split at change
  · cases change
    cases mem
  · split at change
    · cases change
      rw [List.mem_singleton.mp mem]
      exact .inl rfl
    · obtain ⟨r, -, eq⟩ := Option.map_eq_some_iff.mp change
      cases eq
      rw [List.eq_of_mem_replicate mem]
      exact .inr rfl

/-- Where nothing is pending, what a step finds is all that will be. -/
theorem pending_append {l : Lexer} (owes : l.pending = []) (ts : List Lexeme) :
    l.pending ++ ts = ts := by
  rw [owes, List.nil_append]

/-- The first step of a line that says something opens and closes blocks. -/
def enterLine (l : Lexer) (indent rest : List Char) (indents : Indents) (changes : List Lexeme) :
    Lexer :=
  { l.skip indent rest with indents, pending := l.pending ++ changes }

inductive Moves (l : Lexer) : Lexer → Prop where
  | finish (source : l.rest = []) (closed : l.nesting = []) (mode : l.mode ≠ .splice) :
      Moves l { l with mode := .done, indents := [], pending := l.pending ++ l.ending }
  | blankLine {blanks ending cs : List Char} (mode : l.mode = .lineStart)
      (source : l.rest = blanks ++ ending ++ cs) (blank : ∀ c ∈ blanks, isBlank c = true)
      (ends : ending = [] ∧ cs = [] ∨ ending = ['\n'] ∨ ending = ['\r', '\n']) :
      Moves l (l.skip (blanks ++ ending) cs)
  | line {indent cs : List Char} {c : Char} {indents : Indents} {changes : List Lexeme}
      (mode : l.mode = .lineStart) (source : l.rest = indent ++ c :: cs)
      (blank : ∀ d ∈ indent, isBlank d = true) (ink : isBlank c = false)
      (goesOn : ¬ LineEnd (c :: cs))
      (change : l.indents.change? l.offset indent = some (indents, changes))
      (statement : c ≠ l.markers.text) :
      Moves l { l.enterLine indent (c :: cs) indents changes with mode := .statement }
  | textLine {indent cs : List Char} {c : Char} {indents : Indents} {changes : List Lexeme}
      (mode : l.mode = .lineStart) (source : l.rest = indent ++ c :: cs)
      (blank : ∀ d ∈ indent, isBlank d = true) (ink : isBlank c = false)
      (goesOn : ¬ LineEnd (c :: cs))
      (change : l.indents.change? l.offset indent = some (indents, changes))
      (marked : c = l.markers.text) :
      Moves l
        { (l.enterLine indent (c :: cs) indents changes).emit .marker [c] cs with mode := .text }
  /-- Text up to a splice or to the end of the source. -/
  | text {run : Run} (mode : l.mode = .text) (source : Run.text l.markers l.rest = run)
      (said : run.chars ≠ []) (ends : ∀ c ∈ run.rest.head?, c = l.markers.opening) :
      Moves l (l.emit .text run.chars run.rest)
  /-- Text up to the end of its line. -/
  | lineText {chars cs : List Char} (mode : l.mode = .text)
      (source : Run.text l.markers l.rest = ⟨chars, '\n' :: cs⟩) (said : beforeLineEnd chars ≠ []) :
      Moves l { l.skip chars ('\n' :: cs) with
        pending := l.pending ++ [⟨.text, l.offset, beforeLineEnd chars⟩] }
  | endTextLine {chars cs : List Char} (mode : l.mode = .text)
      (source : Run.text l.markers l.rest = ⟨chars, '\n' :: cs⟩)
      (empty : beforeLineEnd chars = []) :
      Moves l { (l.skip chars ('\n' :: cs)).emit .newline ['\n'] cs with mode := .lineStart }
  | openSplice {cs : List Char} (mode : l.mode = .text)
      (source : l.rest = l.markers.opening :: cs) :
      Moves l { l.emit .openSplice [l.markers.opening] cs with mode := .splice }
  | closeSplice {cs : List Char} (mode : l.mode = .splice) (closed : l.nesting = [])
      (source : l.rest = l.markers.closing :: cs) :
      Moves l { l.emit .closeSplice [l.markers.closing] cs with mode := .text }
  | token {token : Token} {chars cs : List Char} (mode : l.mode = .statement ∨ l.mode = .splice)
      (source : l.rest = chars ++ cs) (spelling : Spelling token chars) :
      Moves l (l.emit token chars cs)
  | openBracket {b : Bracket} {c : Char} {cs : List Char}
      (mode : l.mode = .statement ∨ l.mode = .splice) (source : l.rest = c :: cs)
      (bracket : opening c = some b) : Moves l (l.openBracket b c cs)
  | closeBracket {b : Bracket} {c : Char} {cs : List Char} {start : Nat}
      {outer : List (Bracket × Nat)}
      (mode : l.mode = .statement ∨ l.mode = .splice) (source : l.rest = c :: cs)
      (bracket : closing c = some b) (nesting : l.nesting = (b, start) :: outer) :
      Moves l { l.emit (.closing b) [c] cs with nesting := outer }
  | joinLine {cs : List Char} (mode : l.mode = .statement ∨ l.mode = .splice)
      (source : l.rest = '\n' :: cs) (nested : l.nesting ≠ []) : Moves l (l.skip ['\n'] cs)
  | endLine {cs : List Char} (mode : l.mode = .statement) (source : l.rest = '\n' :: cs)
      (closed : l.nesting = []) : Moves l { l.emit .newline ['\n'] cs with mode := .lineStart }
  | gap {chars cs : List Char} (mode : l.mode = .statement ∨ l.mode = .splice)
      (source : l.rest = chars ++ cs) (gap : ∀ c ∈ chars, isGap c = true) :
      Moves l (l.skip chars cs)

theorem moves_of_finish {l l' : Lexer} (source : l.rest = []) (h : l.finish = .ok l') :
    l.Moves l' := by
  simp only [finish] at h
  split at h
  · cases h
  · next closed =>
    split at h
    · cases h
    · next mode =>
      cases h
      have move := Moves.finish source closed mode
      rwa [ending, ← List.append_assoc] at move

theorem moves_of_startLine {l l' : Lexer} (mode : l.mode = .lineStart) (h : l.startLine = .ok l') :
    l.Moves l' := by
  have source := Run.takeWhile_append isBlank l.rest
  have blank : ∀ c ∈ (Run.takeWhile isBlank l.rest).chars, isBlank c = true := Run.takeWhile_holds
  simp only [startLine] at h
  split at h
  · next none =>
    cases h
    rw [none] at source
    rw [List.append_nil] at source
    have move : l.Moves (l.skip ((Run.takeWhile isBlank l.rest).chars ++ []) []) :=
      .blankLine mode (by simpa using source.symm) blank (.inl ⟨rfl, rfl⟩)
    rwa [List.append_nil] at move
  · next cs feed =>
    cases h
    rw [feed] at source
    exact .blankLine mode (by simpa using source.symm) blank (.inr (.inl rfl))
  · next cs feed =>
    cases h
    rw [feed] at source
    exact .blankLine mode (by simpa using source.symm) blank (.inr (.inr rfl))
  · next c cs noFeed noReturn line =>
    split at h
    · cases h
    · next indents changes change =>
      rw [line] at source h
      have ink := Run.takeWhile_stops line
      have goesOn : ¬ LineEnd (c :: cs) := by
        intro lineEnd
        cases lineEnd with
        | feed => exact noFeed rfl
        | returnFeed => exact noReturn _ rfl rfl
      split at h
      · next marked =>
        cases h
        exact .textLine mode source.symm blank ink goesOn change marked
      · next statement =>
        cases h
        exact .line mode source.symm blank ink goesOn change statement

theorem moves_of_readText {l : Lexer} (mode : l.mode = .text) (source : l.rest ≠ []) :
    l.Moves l.readText := by
  have whole := Run.text_append l.markers l.rest
  generalize read : Run.text l.markers l.rest = run at whole
  simp only [readText, read]
  split
  · next none =>
    have some : run.chars ≠ [] := by
      intro empty
      rw [empty, none] at whole
      exact source whole.symm
    have move := Moves.text mode read some (by rw [none]; rintro c ⟨⟩)
    rwa [none] at move
  · next c cs rest =>
    split
    · next feed =>
      subst feed
      have read' : Run.text l.markers l.rest = ⟨run.chars, '\n' :: cs⟩ := by rw [read, ← rest]
      split
      · next none =>
        have move := Moves.endTextLine mode read' none
        rwa [← rest] at move
      · next some =>
        have move := Moves.lineText mode read' some
        rwa [← rest] at move
    · next feed =>
      have stops := Run.text_stops read rest
      have opens : c = l.markers.opening := stops.resolve_left feed
      subst opens
      split
      · next none =>
        rw [none, rest] at whole
        exact .openSplice mode whole.symm
      · next some =>
        refine Moves.text mode read some ?_
        rw [rest]
        rintro _ ⟨⟩
        rfl

theorem moves_of_readExpression {l l' : Lexer} {c : Char} {cs : List Char}
    (mode : l.mode = .statement ∨ l.mode = .splice) (source : l.rest = c :: cs)
    (h : l.readExpression c cs = .ok l') : l.Moves l' := by
  have string := Run.string_append false cs
  have gaps := Run.takeWhile_append isGap cs
  have numerals := Run.takeWhile_append isNumeral cs
  have letters := Run.takeWhile_append Unicode.isIdentContinue cs
  simp only [readExpression] at h
  split at h
  · next closes =>
    obtain ⟨splice, closed, rfl⟩ := closes
    cases h
    exact .closeSplice splice closed source
  · split at h
    · next token _ _ is =>
      cases h
      exact .token mode source (.punctuation is)
    · next b bracket _ =>
      cases h
      exact .openBracket mode source bracket
    · next b bracket _ _ =>
      simp only [closeBracket] at h
      split at h
      · cases h
      · next expected start outer nesting =>
        split at h
        · next same =>
          subst same
          cases h
          exact .closeBracket mode source bracket nesting
        · cases h
    · split at h
      · next quote =>
        simp only [readString] at h
        split at h
        · next run closed =>
          cases h
          rw [closed] at string
          subst quote
          refine .token mode ?_ (.string closed)
          rw [source, List.cons_append, string]
        · cases h
      · split at h
        · next feed =>
          subst feed
          simp only [endLine] at h
          split at h
          · next nested =>
            cases h
            exact .joinLine mode source nested
          · next closed =>
            split at h
            · cases h
            · next splice =>
              cases h
              exact .endLine (mode.resolve_right splice) source (Classical.not_not.mp closed)
        · split at h
          · next isGap =>
            cases h
            refine .gap mode ?_ (List.forall_mem_cons.mpr ⟨isGap, Run.takeWhile_holds⟩)
            rw [source, List.cons_append, gaps]
          · split at h
            · next digit =>
              cases h
              refine .token mode ?_ (.number digit Run.takeWhile_holds)
              rw [source, List.cons_append, numerals]
            · split at h
              · next start =>
                cases h
                refine .token mode ?_ (.word start Run.takeWhile_holds)
                rw [source, List.cons_append, letters]
              · cases h

theorem skip_skip {l : Lexer} {cs ds rest rest' : List Char} :
    (l.skip cs rest).skip ds rest' = l.skip (cs ++ ds) rest' := by
  simp [skip, Nat.add_assoc]

theorem skip_nil {l : Lexer} {rest : List Char} (source : l.rest = rest) : l.skip [] rest = l := by
  subst source
  rfl

/-- Gaps mean nothing, neither in a statement nor in a splice. -/
theorem readExpression_gap {l : Lexer} {c : Char} (gap : isGap c = true) (cs : List Char) :
    l.readExpression c cs =
      .ok (l.skip (c :: (Run.takeWhile isGap cs).chars) (Run.takeWhile isGap cs).rest) := by
  have one : c = ' ' ∨ c = '\t' ∨ c = '\r' := by simpa [isGap, isBlank, or_assoc] using gap
  have goesOn : ¬ (l.mode = .splice ∧ l.nesting = [] ∧ c = l.markers.closing) := by
    rintro ⟨-, -, rfl⟩
    have marker := l.markers.closing_isMarker
    rcases one with one | one | one <;> rw [one] at marker <;> revert marker <;> decide
  rcases one with rfl | rfl | rfl <;>
    simp [readExpression, goesOn, punctuation, opening, closing, isGap, isBlank]

theorem active_of_expression {l : Lexer} (mode : l.mode = .statement ∨ l.mode = .splice) :
    l.mode ≠ .done := by
  rcases mode with mode | mode <;> simp [mode]

theorem step_of_expression {l : Lexer} {c : Char} {cs : List Char}
    (mode : l.mode = .statement ∨ l.mode = .splice) (rest : l.rest = c :: cs) :
    l.step = l.readExpression c cs := by
  rcases mode with mode | mode <;> simp [step, rest, mode]

theorem step_of_lineStart {l : Lexer} (mode : l.mode = .lineStart) (more : l.rest ≠ []) :
    l.step = l.startLine := by
  obtain ⟨c, cs, rest⟩ := List.exists_cons_of_ne_nil more
  simp [step, rest, mode]

theorem step_of_text {l : Lexer} (mode : l.mode = .text) (more : l.rest ≠ []) :
    l.step = .ok l.readText := by
  obtain ⟨c, cs, rest⟩ := List.exists_cons_of_ne_nil more
  simp [step, rest, mode]

/-- Every step is a move. -/
theorem moves_of_step {l l' : Lexer} (active : l.mode ≠ .done) (h : l.step = .ok l') :
    l.Moves l' := by
  simp only [step] at h
  split at h
  · next source => exact moves_of_finish source h
  · next c cs source =>
    split at h
    · next mode => exact moves_of_startLine mode h
    · next mode =>
      cases h
      exact moves_of_readText mode (by simp [source])
    · next mode => exact moves_of_readExpression (.inl mode) source h
    · next mode => exact moves_of_readExpression (.inr mode) source h
    · next mode => exact absurd mode active

end Lexer

end HtmlTemplate
