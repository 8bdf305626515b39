import HtmlTemplate.Proofs.Lexing.Escapes
import HtmlTemplate.Proofs.Lexing.Moves
import HtmlTemplate.Proofs.Lexing.Runs

/-!
# Lexers within a longer source

No step reads beyond the end of a line. So a lexer does the same in a source that goes on behind a
line feed, and in one that has more in front: only the offsets differ, by what stands there.
-/

namespace HtmlTemplate

def Region.shift (n : Nat) (r : Region) : Region := ⟨r.start + n, r.stop + n⟩

def Lexeme.shift (n : Nat) (t : Lexeme) : Lexeme := { t with start := t.start + n }

def Fault.shift (n : Nat) (f : Fault) : Fault := { f with region := f.region.shift n }

def Lexemes.shift (n : Nat) (found : Lexemes) : Lexemes :=
  ⟨found.list.map (Lexeme.shift n), found.fault.map (Fault.shift n)⟩

theorem Lexemes.shift_after (n : Nat) (later : Lexemes) (read : List Lexeme) :
    (later.after read).shift n = (later.shift n).after (read.map (Lexeme.shift n)) := by
  simp [shift, after]

@[simp] theorem Lexeme.shift_zero : Lexeme.shift 0 = id := rfl

theorem Lexeme.region_shift (n : Nat) (t : Lexeme) : (t.shift n).region = t.region.shift n := by
  simp [region, shift, Region.shift, Nat.add_right_comm]

/-! ## Runs of characters -/

namespace Run

/-- The run with more characters behind. -/
def followedBy (cs : List Char) (r : Run) : Run := ⟨r.chars, r.rest ++ cs⟩

variable {cs ds : List Char}

@[simp] theorem followedBy_nil (r : Run) : r.followedBy [] = r := by simp [followedBy]

/-- A line feed in sight stops the run, whatever stands behind it. -/
theorem takeWhile_followedBy {p : Char → Bool} (stops : p '\n' = false)
    (line : cs = [] ∨ '\n' ∈ ds) : takeWhile p (ds ++ cs) = (takeWhile p ds).followedBy cs := by
  rcases line with rfl | feed
  · simp
  · induction ds with
    | nil => cases feed
    | cons d ds ih =>
      cases holds : p d with
      | false => simp [takeWhile, followedBy, holds]
      | true =>
        have other : '\n' ≠ d := by
          rintro rfl
          rw [stops] at holds
          cases holds
        have later := ih ((List.mem_cons.mp feed).resolve_left other)
        simpa [takeWhile, followedBy, holds] using later

theorem feed_mem_takeWhile_rest {p : Char → Bool} (stops : p '\n' = false) (feed : '\n' ∈ ds) :
    '\n' ∈ (takeWhile p ds).rest := by
  rw [← takeWhile_append p ds] at feed
  refine (List.mem_append.mp feed).resolve_left fun mem => ?_
  have holds := takeWhile_holds _ mem
  rw [stops] at holds
  cases holds

theorem text_feed (m : Markers) (cs : List Char) : text m ('\n' :: cs) = ⟨[], '\n' :: cs⟩ := by
  cases cs <;> simp [text]

theorem text_followedBy {m : Markers} (line : cs = [] ∨ '\n' ∈ ds) :
    text m (ds ++ cs) = (text m ds).followedBy cs := by
  rcases line with rfl | feed
  · simp
  · fun_induction text m ds with
    | case1 => cases feed
    | case2 c | case3 c =>
      obtain rfl : '\n' = c := by simpa using feed
      simp_all [text_feed, followedBy]
    | case4 d ds escapable ih =>
      have other : '\n' ≠ d := by
        rintro rfl
        rw [m.not_isEscapable_feed] at escapable
        cases escapable
      have later := ih (by simpa [other] using feed)
      simp [text, escapable, later, add, followedBy]
    | case5 d ds literal ih =>
      have later := ih (by simpa using feed)
      rw [List.cons_append] at later
      simp [text, literal, later, add, followedBy]
    | case6 c d ds noEscape stops => simp [text, noEscape, stops, followedBy]
    | case7 c d ds noEscape goesOn ih =>
      have other : '\n' ≠ c := by
        rintro rfl
        exact goesOn (.inl rfl)
      have later := ih ((List.mem_cons.mp feed).resolve_left other)
      rw [List.cons_append] at later
      simp [text, noEscape, goesOn, later, add, followedBy]

theorem feed_not_mem_text (m : Markers) (cs : List Char) : '\n' ∉ (text m cs).chars := by
  fun_induction text m cs with
  | case1 | case2 | case6 => simp
  | case3 c goesOn | case7 c _ _ _ goesOn =>
    have other : '\n' ≠ c := by
      rintro rfl
      exact goesOn (.inl rfl)
    simp_all [add]
  | case4 d ds escapable ih =>
    have other : '\n' ≠ d := by
      rintro rfl
      rw [m.not_isEscapable_feed] at escapable
      cases escapable
    simpa [add, other] using ih
  | case5 d ds literal ih => simpa [add] using ih

theorem feed_mem_text_rest {m : Markers} (feed : '\n' ∈ ds) : '\n' ∈ (text m ds).rest := by
  rw [← text_append m ds] at feed
  exact (List.mem_append.mp feed).resolve_left (feed_not_mem_text m ds)

theorem string_followedBy {escaped : Bool} (line : cs = [] ∨ '\n' ∈ ds) :
    string escaped (ds ++ cs) = ((string escaped ds).1.followedBy cs, (string escaped ds).2) := by
  rcases line with rfl | feed
  · simp
  · fun_induction string escaped ds with
    | case1 => cases feed
    | case2 escaped c ds quote => simp [string, quote, followedBy]
    | case3 escaped ds noQuote => simp [string, followedBy]
    | case4 escaped c ds noQuote noFeed run closed later ih =>
      have later' := ih ((List.mem_cons.mp feed).resolve_left (Ne.symm noFeed))
      simp [string, noQuote, noFeed, later, later', add, followedBy]

theorem feed_not_mem_string (escaped : Bool) (cs : List Char) :
    '\n' ∉ (string escaped cs).1.chars := by
  fun_induction string escaped cs with
  | case1 | case3 => simp
  | case2 escaped c cs quote => simp [quote]
  | case4 escaped c cs noQuote noFeed run closed later ih =>
    rw [later] at ih
    simpa [add, Ne.symm noFeed] using ih

end Run

/-! ## Steps -/

theorem Indents.change?_shift (n start : Nat) (indent : List Char) (blocks : Indents) :
    blocks.change? (start + n) indent =
      (blocks.change? start indent).map fun r => (r.1, r.2.map (Lexeme.shift n)) := by
  simp only [change?]
  split
  · rfl
  · split
    · rfl
    · simp [Lexeme.shift, Nat.add_right_comm, Function.comp_def]

namespace Lexer

/-- The lexer in a source with `n` bytes more in front and further characters behind. -/
def within (n : Nat) (cs : List Char) (l : Lexer) : Lexer :=
  { l with
    rest := l.rest ++ cs
    offset := l.offset + n
    nesting := l.nesting.map fun b => (b.1, b.2 + n)
    pending := l.pending.map (Lexeme.shift n) }

def outcomeWithin (n : Nat) (cs : List Char) : Except Fault Lexer → Except Fault Lexer
  | .ok l => .ok (l.within n cs)
  | .error f => .error (f.shift n)

variable {n : Nat} {cs : List Char} {l : Lexer}

theorem skip_within (chars rest : List Char) :
    (l.within n cs).skip chars (rest ++ cs) = (l.skip chars rest).within n cs := by
  simp [within, skip, Nat.add_right_comm]

theorem emit_within (token : Token) (chars rest : List Char) :
    (l.within n cs).emit token chars (rest ++ cs) = (l.emit token chars rest).within n cs := by
  simp [within, emit, skip, Lexeme.shift, Nat.add_right_comm]

theorem finish_within : (l.within n []).finish = outcomeWithin n [] l.finish := by
  simp only [finish]
  cases nesting : l.nesting with
  | cons b outer =>
    obtain ⟨b, start⟩ := b
    simp [within, nesting, outcomeWithin, Fault.shift, Region.shift, Nat.add_right_comm]
  | nil =>
    by_cases splice : l.mode = .splice
    · simp [within, nesting, splice, outcomeWithin, Fault.shift, Region.shift, Region.point]
    · by_cases start : l.mode = .lineStart
      · simp [within, nesting, start, outcomeWithin, Lexeme.shift]
      · simp [within, nesting, splice, start, outcomeWithin, Lexeme.shift]

theorem LineEnd.of_append {c : Char} {ds : List Char} (line : cs = [] ∨ '\n' ∈ c :: ds)
    (ends : LineEnd (c :: (ds ++ cs))) : LineEnd (c :: ds) := by
  generalize source : c :: (ds ++ cs) = whole at ends
  cases ends with
  | source => cases source
  | feed => cases source; exact .feed ds
  | returnFeed =>
    cases ds with
    | nil => cases source; simp at line
    | cons d ds => cases source; exact .returnFeed ds

/-- The start of a line that says something, by what it makes of the indentation. -/
theorem startLine_of_goesOn {indent ds : List Char} {c : Char}
    (run : Run.takeWhile isBlank l.rest = ⟨indent, c :: ds⟩) (goesOn : ¬ LineEnd (c :: ds)) :
    l.startLine = match l.indents.change? l.offset indent with
      | none => .error ⟨⟨l.offset, l.offset + byteLength indent⟩, .indentation⟩
      | some (indents, changes) =>
        if c = l.markers.text then
          .ok { (l.enterLine indent (c :: ds) indents changes).emit .marker [c] ds with
            mode := .text }
        else .ok { l.enterLine indent (c :: ds) indents changes with mode := .statement } := by
  simp only [startLine, run]
  split
  · next none => cases none
  · next feed => cases feed; exact absurd (.feed _) goesOn
  · next feed => cases feed; exact absurd (.returnFeed _) goesOn
  · next eq => cases eq; rfl

theorem startLine_within_of_goesOn {indent ds : List Char} {c : Char}
    (run : Run.takeWhile isBlank l.rest = ⟨indent, c :: ds⟩)
    (run' : Run.takeWhile isBlank (l.within n cs).rest = ⟨indent, c :: (ds ++ cs)⟩)
    (goesOn : ¬ LineEnd (c :: ds)) (goesOn' : ¬ LineEnd (c :: (ds ++ cs))) :
    (l.within n cs).startLine = outcomeWithin n cs l.startLine := by
  have change' : (l.within n cs).indents.change? (l.within n cs).offset indent =
      (l.indents.change? l.offset indent).map fun r => (r.1, r.2.map (Lexeme.shift n)) :=
    Indents.change?_shift n l.offset indent l.indents
  rw [startLine_of_goesOn run goesOn, startLine_of_goesOn run' goesOn', change']
  cases l.indents.change? l.offset indent with
  | none => simp [outcomeWithin, Fault.shift, Region.shift, within, Nat.add_right_comm]
  | some r =>
    obtain ⟨indents, changes⟩ := r
    by_cases marked : c = l.markers.text
    · simp [marked, outcomeWithin, within, enterLine, emit, skip, Lexeme.shift,
        Nat.add_right_comm]
    · simp [marked, outcomeWithin, within, enterLine, skip, Nat.add_right_comm]

theorem startLine_within (line : cs = [] ∨ '\n' ∈ l.rest) :
    (l.within n cs).startLine = outcomeWithin n cs l.startLine := by
  have run' : Run.takeWhile isBlank (l.within n cs).rest =
      (Run.takeWhile isBlank l.rest).followedBy cs := Run.takeWhile_followedBy rfl line
  have line' : cs = [] ∨ '\n' ∈ (Run.takeWhile isBlank l.rest).rest :=
    line.imp_right (Run.feed_mem_takeWhile_rest rfl)
  generalize run : Run.takeWhile isBlank l.rest = found at run' line'
  obtain ⟨indent, rest⟩ := found
  cases rest with
  | nil =>
    obtain rfl : cs = [] := by simpa using line'
    rw [Run.followedBy_nil] at run'
    simp only [startLine, run, run']
    exact congrArg Except.ok (skip_within indent [])
  | cons c ds =>
    by_cases ends : LineEnd (c :: ds)
    · cases ends with
      | feed =>
        simp only [startLine, run, run', Run.followedBy, List.cons_append]
        exact congrArg Except.ok (skip_within _ ds)
      | returnFeed ds =>
        simp only [startLine, run, run', Run.followedBy, List.cons_append]
        exact congrArg Except.ok (skip_within _ ds)
    · exact startLine_within_of_goesOn run run' ends fun whole => ends (whole.of_append line')

theorem readText_within_of_text
    (run' : Run.text l.markers (l.rest ++ cs) = (Run.text l.markers l.rest).followedBy cs)
    (line' : cs = [] ∨ (Run.text l.markers l.rest).rest ≠ []) :
    (l.within n cs).readText = l.readText.within n cs := by
  have run' : Run.text (l.within n cs).markers (l.within n cs).rest =
      (Run.text l.markers l.rest).followedBy cs := run'
  generalize run : Run.text l.markers l.rest = found at run' line'
  obtain ⟨chars, rest⟩ := found
  simp only [readText, run, run']
  cases rest with
  | nil =>
    obtain rfl : cs = [] := by simpa using line'
    exact emit_within .text chars []
  | cons c ds =>
    simp only [Run.followedBy, List.cons_append]
    by_cases feed : c = '\n'
    · by_cases none : beforeLineEnd chars = []
      · simp [feed, none, within, emit, skip, Lexeme.shift, Nat.add_right_comm]
      · simp [feed, none, within, skip, Lexeme.shift, Nat.add_right_comm]
    · by_cases none : chars = []
      · simp [feed, none, within, emit, skip, Lexeme.shift, Nat.add_right_comm]
      · simp [feed, none, within, emit, skip, Lexeme.shift, Nat.add_right_comm]

theorem readText_within (line : cs = [] ∨ '\n' ∈ l.rest) :
    (l.within n cs).readText = l.readText.within n cs :=
  readText_within_of_text (Run.text_followedBy line)
    (line.imp_right fun feed => List.ne_nil_of_mem (Run.feed_mem_text_rest feed))

theorem closeBracket_within (b : Bracket) (c : Char) (ds : List Char) :
    (l.within n cs).closeBracket b c (ds ++ cs) = outcomeWithin n cs (l.closeBracket b c ds) := by
  unfold closeBracket
  cases nesting : l.nesting with
  | nil =>
    simp [within, nesting, outcomeWithin, Fault.shift, Region.shift, Nat.add_right_comm]
  | cons top outer =>
    obtain ⟨expected, start⟩ := top
    by_cases same : expected = b
    · simp [nesting, same, outcomeWithin, within, emit, skip, Lexeme.shift, Nat.add_right_comm]
    · simp [nesting, same, outcomeWithin, within, Fault.shift, Region.shift, Nat.add_right_comm]

theorem endLine_within (ds : List Char) :
    (l.within n cs).endLine (ds ++ cs) = outcomeWithin n cs (l.endLine ds) := by
  unfold endLine
  by_cases closed : l.nesting = []
  · by_cases splice : l.mode = .splice
    · simp [closed, splice, outcomeWithin, within, Fault.shift, Region.shift, Nat.add_right_comm]
    · simp [closed, splice, outcomeWithin, within, emit, skip, Lexeme.shift, Nat.add_right_comm]
  · simp [closed, outcomeWithin, within, skip, Nat.add_right_comm]

theorem readString_within {ds : List Char}
    (string : Run.string false (ds ++ cs) =
      ((Run.string false ds).1.followedBy cs, (Run.string false ds).2)) :
    (l.within n cs).readString (ds ++ cs) = outcomeWithin n cs (l.readString ds) := by
  unfold readString
  rw [string]
  obtain ⟨run, closed⟩ := Run.string false ds
  cases closed with
  | true => exact congrArg Except.ok (emit_within ..)
  | false =>
    simp [outcomeWithin, Run.followedBy, within, Fault.shift, Region.shift, Nat.add_right_comm]

theorem readExpression_within_of_runs {c : Char} {ds : List Char}
    (string : ¬ (l.mode = .splice ∧ l.nesting = [] ∧ c = l.markers.closing) → c = '"' →
      Run.string false (ds ++ cs) =
        ((Run.string false ds).1.followedBy cs, (Run.string false ds).2))
    (gap : isGap c = true → Run.takeWhile isGap (ds ++ cs) =
      (Run.takeWhile isGap ds).followedBy cs)
    (numeral : c.isDigit = true → Run.takeWhile isNumeral (ds ++ cs) =
      (Run.takeWhile isNumeral ds).followedBy cs)
    (word : Unicode.isIdentStart c = true → Run.takeWhile Unicode.isIdentContinue (ds ++ cs) =
      (Run.takeWhile Unicode.isIdentContinue ds).followedBy cs) :
    (l.within n cs).readExpression c (ds ++ cs) = outcomeWithin n cs (l.readExpression c ds) := by
  have nested : (l.within n cs).nesting = [] ↔ l.nesting = [] := by simp [within]
  have mode : (l.within n cs).mode = l.mode := rfl
  have markers : (l.within n cs).markers = l.markers := rfl
  simp only [readExpression, nested, mode, markers]
  by_cases closes : l.mode = .splice ∧ l.nesting = [] ∧ c = l.markers.closing
  · rw [if_pos closes, if_pos closes]
    simp [outcomeWithin, within, emit, skip, Lexeme.shift, Nat.add_right_comm]
  · rw [if_neg closes, if_neg closes]
    split
    · exact congrArg Except.ok (emit_within ..)
    · simp [openBracket, outcomeWithin, within, emit, skip, Lexeme.shift, Nat.add_right_comm]
    · exact closeBracket_within ..
    · split
      · next quote => exact readString_within (string closes quote)
      · split
        · exact endLine_within ds
        · split
          · next is =>
            rw [gap is]
            exact congrArg Except.ok (skip_within ..)
          · split
            · next digit =>
              rw [numeral digit]
              exact congrArg Except.ok (emit_within ..)
            · split
              · next start =>
                rw [word start]
                exact congrArg Except.ok (emit_within ..)
              · simp [outcomeWithin, within, Fault.shift, Region.shift, Nat.add_right_comm]

theorem readExpression_within {c : Char} {ds : List Char} (line : cs = [] ∨ '\n' ∈ c :: ds) :
    (l.within n cs).readExpression c (ds ++ cs) = outcomeWithin n cs (l.readExpression c ds) := by
  have behind {p : Char → Bool} (holds : p c = true) (stops : p '\n' = false) :
      cs = [] ∨ '\n' ∈ ds := by
    refine line.imp_right fun feed => (List.mem_cons.mp feed).resolve_left ?_
    rintro rfl
    rw [stops] at holds
    cases holds
  refine readExpression_within_of_runs ?_ ?_ ?_ ?_
  · rintro - rfl
    exact Run.string_followedBy (line.imp_right fun feed => by simpa using feed)
  · exact fun gap => Run.takeWhile_followedBy rfl (behind gap rfl)
  · exact fun digit => Run.takeWhile_followedBy rfl (behind digit rfl)
  · exact fun start => Run.takeWhile_followedBy rfl (behind start rfl)

/-- A step does not see what is far away. -/
theorem step_within (line : cs = [] ∨ '\n' ∈ l.rest) :
    (l.within n cs).step = outcomeWithin n cs l.step := by
  cases rest : l.rest with
  | nil =>
    obtain rfl : cs = [] := by simpa [rest] using line
    have rest' : (l.within n []).rest = [] := by simp [within, rest]
    simp only [step, rest, rest']
    exact finish_within
  | cons c ds =>
    have rest' : (l.within n cs).rest = c :: (ds ++ cs) := by simp [within, rest]
    have mode : (l.within n cs).mode = l.mode := rfl
    simp only [step, rest, rest', mode]
    split
    · exact startLine_within line
    · exact congrArg Except.ok (readText_within line)
    · exact readExpression_within (rest ▸ line)
    · exact readExpression_within (rest ▸ line)
    · exact readExpression_within (rest ▸ line)

theorem idle_within : (l.within n cs).idle = l.idle.within n cs := rfl

theorem pending_within (owes : l.pending = []) : (l.within n cs).pending = [] := by
  simp [within, owes]

theorem active_within (active : l.mode ≠ .done) : (l.within n cs).mode ≠ .done := active

/-- A source behind `n` bytes of another one has the same lexemes, so much further on. -/
theorem Run.lexemes_within {found : Lexemes} (run : l.Run found) (n : Nat) :
    (l.within n []).lexemes = found.shift n := by
  induction run with
  | done owes mode => exact lexemes_of_done (pending_within owes) mode
  | @fault l f owes active step =>
    have step' : (l.within n []).step = .error (f.shift n) := by
      rw [step_within (.inl rfl), step]
      rfl
    exact lexemes_of_fault (pending_within owes) (active_within active) step'
  | @step l l' later owes active step _ ih =>
    have step' : (l.within n []).step = .ok (l'.within n []) := by
      rw [step_within (.inl rfl), step]
      rfl
    rw [lexemes_of_step (pending_within owes) (active_within active) step', idle_within, ih,
      Lexemes.shift_after]
    rfl

end Lexer

end HtmlTemplate
