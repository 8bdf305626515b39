import HtmlTemplate.Proofs.Lexing.Concatenation

/-!
# Ends of lines

A line is read in the same way whether its source ends there, or a line feed follows, or a carriage
return and a line feed. Where a step passes the whole rest of a line, it may pass the carriage
return as well; the line feed then ends the line as it would have done behind the carriage return.
-/

namespace HtmlTemplate

/-! ## Runs of characters -/

/-- What may stand between a line and its line feed. -/
def IsReturn (chars : List Char) : Prop := chars = [] ∨ chars = ['\r']

theorem IsReturn.isGap {chars : List Char} (isReturn : IsReturn chars) :
    ∀ c ∈ chars, HtmlTemplate.isGap c = true := by
  rcases isReturn with rfl | rfl <;> simp [HtmlTemplate.isGap]

namespace Run

variable {m : Markers} {ds cs ret : List Char}

theorem takeWhile_append_of_stops {p : Char → Bool} (stops : ∀ c ∈ cs.head?, p c = false) :
    takeWhile p (ds ++ cs) = (takeWhile p ds).followedBy cs := by
  induction ds with
  | nil =>
    cases cs with
    | nil => rfl
    | cons c cs =>
      have stop : ¬ p c = true := by simpa using stops
      simp [takeWhile, followedBy, stop]
  | cons d ds ih =>
    by_cases holds : p d = true
    · simpa [takeWhile, followedBy, holds] using ih
    · simp [takeWhile, followedBy, holds]

theorem takeWhile_append_of_rest {p : Char → Bool} (more : (takeWhile p ds).rest ≠ []) :
    takeWhile p (ds ++ cs) = (takeWhile p ds).followedBy cs := by
  induction ds with
  | nil => simp [takeWhile] at more
  | cons d ds ih =>
    by_cases holds : p d = true
    · have later := ih (by simpa [takeWhile, holds] using more)
      simpa [takeWhile, followedBy, holds] using later
    · simp [takeWhile, followedBy, holds]

/-- A splice ends the text, whatever stands behind it. -/
theorem text_append_of_rest (more : (text m ds).rest ≠ []) :
    text m (ds ++ cs) = (text m ds).followedBy cs := by
  fun_induction text m ds with
  | case1 => simp at more
  | case2 c stops => exact text_of_stops stops
  | case3 c goesOn => simp at more
  | case4 d ds escapable ih =>
    have later := ih more
    simp [text, escapable, later, add, followedBy]
  | case5 d ds literal ih =>
    have later := ih more
    rw [List.cons_append] at later
    simp [text, literal, later, add, followedBy]
  | case6 c d ds noEscape stops => simp [text, noEscape, stops, followedBy]
  | case7 c d ds noEscape goesOn ih =>
    have later := ih more
    rw [List.cons_append] at later
    simp [text, noEscape, goesOn, later, add, followedBy]

theorem text_return (isReturn : IsReturn ret) : text m (ret ++ '\n' :: cs) = ⟨ret, '\n' :: cs⟩ := by
  rcases isReturn with rfl | rfl
  · exact text_feed m cs
  · have goesOn := (Markers.ne_return m.opening_isMarker).symm
    simp [text, text_feed, goesOn, add]

/-- Text that ends with its line takes the carriage return in front of the line feed with it. -/
theorem text_append_of_line (line : (text m ds).rest = []) (isReturn : IsReturn ret) :
    text m (ds ++ (ret ++ '\n' :: cs)) = ⟨ds ++ ret, '\n' :: cs⟩ := by
  have tail : text m (ret ++ '\n' :: cs) = ⟨ret, '\n' :: cs⟩ := text_return isReturn
  fun_induction text m ds with
  | case1 => exact tail
  | case2 c stops => simp at line
  | case3 c goesOn =>
    obtain ⟨d, tail', source, literal⟩ : ∃ d tail', ret ++ '\n' :: cs = d :: tail' ∧
        m.isEscapable d = false := by
      rcases isReturn with rfl | rfl
      · exact ⟨_, _, rfl, m.not_isEscapable_feed⟩
      · exact ⟨_, _, rfl, m.not_isEscapable_return⟩
    rw [source] at tail ⊢
    simp [text, literal, goesOn, tail, add]
  | case4 d ds escapable ih =>
    have later := ih line
    simp [text, escapable, later, add]
  | case5 d ds literal ih =>
    have later := ih line
    rw [List.cons_append] at later
    simp [text, literal, later, add]
  | case6 c d ds noEscape stops => simp at line
  | case7 c d ds noEscape goesOn ih =>
    have later := ih line
    rw [List.cons_append] at later
    simp [text, noEscape, goesOn, later, add]

theorem string_append_of_closed {escaped : Bool} (closed : (string escaped ds).2 = true) :
    string escaped (ds ++ cs) = ((string escaped ds).1.followedBy cs, true) := by
  fun_induction string escaped ds with
  | case1 | case3 => cases closed
  | case2 escaped c ds quote => simp [string, quote, followedBy]
  | case4 escaped c ds noQuote noFeed run found later ih =>
    rw [later] at ih
    have later' := ih closed
    simp [string, noQuote, noFeed, later', add, followedBy]

/-- No string literal goes on behind its line. -/
theorem string_append_of_open {escaped : Bool} (opened : (string escaped ds).2 = false)
    (isReturn : IsReturn ret) :
    (string escaped (ds ++ (ret ++ '\n' :: cs))).2 = false := by
  fun_induction string escaped ds with
  | case1 => rcases isReturn with rfl | rfl <;> simp [string]
  | case2 escaped c ds quote => cases opened
  | case3 escaped ds noQuote => simp [string]
  | case4 escaped c ds noQuote noFeed run found later ih =>
    rw [later] at ih
    have later' := ih opened
    simp [string, noQuote, noFeed, later']

end Run

/-! ## Steps -/

namespace Lexer

variable {l l' : Lexer} {cs gaps blanks ret : List Char}

/-- Gaps that are passed together with those in front of them could also be passed alone. -/
theorem leads_gaps (owes : l.pending = []) (mode : l.mode = .statement ∨ l.mode = .splice)
    (gap : ∀ c ∈ gaps, isGap c = true) (rest : l.rest = gaps ++ '\n' :: cs) :
    l.Leads [] (l.skip gaps ('\n' :: cs)) := by
  cases gaps with
  | nil =>
    have here : l.skip [] ('\n' :: cs) = l := skip_nil rest
    rw [here]
    exact .refl l
  | cons c gaps =>
    obtain ⟨first, later⟩ := List.forall_mem_cons.mp gap
    rw [List.cons_append] at rest
    have step : l.step = .ok (l.skip (c :: gaps) ('\n' :: cs)) := by
      rw [step_of_expression mode rest, readExpression_gap first,
        Run.takeWhile_append_of_holds later rfl]
    exact leads_of_skip owes (active_of_expression mode) step

theorem readExpression_feed (l : Lexer) (cs : List Char) :
    l.readExpression '\n' cs = l.endLine cs := by
  have goesOn : ¬ (l.mode = .splice ∧ l.nesting = [] ∧ '\n' = l.markers.closing) := fun closes =>
    Markers.ne_feed l.markers.closing_isMarker closes.2.2.symm
  simp [readExpression, goesOn, punctuation, opening, closing]

theorem leads_joinLine (owes : l.pending = []) (mode : l.mode = .statement ∨ l.mode = .splice)
    (nested : l.nesting ≠ []) (rest : l.rest = '\n' :: cs) : l.Leads [] (l.skip ['\n'] cs) := by
  have step : l.step = .ok (l.skip ['\n'] cs) := by
    rw [step_of_expression mode rest, readExpression_feed, endLine, if_pos nested]
  exact leads_of_skip owes (active_of_expression mode) step

theorem leads_endLine (owes : l.pending = []) (mode : l.mode = .statement)
    (closed : l.nesting = []) (rest : l.rest = '\n' :: cs) :
    l.Leads [⟨.newline, l.offset, ['\n']⟩] { l.skip ['\n'] cs with mode := .lineStart } := by
  have step : l.step = .ok { l.emit .newline ['\n'] cs with mode := .lineStart } := by
    rw [step_of_expression (.inl mode) rest, readExpression_feed]
    simp [endLine, closed, mode]
  have leads := leads_of_step owes (by simp [mode]) step
  simpa only [emit, idle, skip, owes, List.nil_append] using leads

theorem startLine_of_blank (blank : ∀ c ∈ blanks, isBlank c = true) (isReturn : IsReturn ret)
    (rest : l.rest = blanks ++ (ret ++ '\n' :: cs)) :
    l.startLine = .ok (l.skip (blanks ++ (ret ++ ['\n'])) cs) := by
  rcases isReturn with rfl | rfl
  · have run : Run.takeWhile isBlank (blanks ++ '\n' :: cs) = ⟨blanks, '\n' :: cs⟩ :=
      Run.takeWhile_append_of_holds blank rfl
    rw [List.nil_append] at rest
    simp [startLine, rest, run]
  · have run : Run.takeWhile isBlank (blanks ++ '\r' :: '\n' :: cs) =
        ⟨blanks, '\r' :: '\n' :: cs⟩ := Run.takeWhile_append_of_holds blank rfl
    rw [List.singleton_append] at rest
    simp [startLine, rest, run]

theorem leads_blank (owes : l.pending = []) (mode : l.mode = .lineStart)
    (blank : ∀ c ∈ blanks, isBlank c = true) (isReturn : IsReturn ret)
    (rest : l.rest = blanks ++ (ret ++ '\n' :: cs)) :
    l.Leads [] (l.skip (blanks ++ (ret ++ ['\n'])) cs) := by
  have more : l.rest ≠ [] := by simp [rest]
  have step := (step_of_lineStart mode more).trans (startLine_of_blank blank isReturn rest)
  exact leads_of_skip owes (by simp [mode]) step

theorem readText_of_return (isReturn : IsReturn ret) (rest : l.rest = ret ++ '\n' :: cs) :
    l.readText =
      { (l.skip ret ('\n' :: cs)).emit .newline ['\n'] cs with mode := .lineStart } := by
  have empty : beforeLineEnd ret = [] := by rcases isReturn with rfl | rfl <;> rfl
  simp only [readText, rest, Run.text_return isReturn, empty, if_true]

theorem leads_endTextLine (owes : l.pending = []) (mode : l.mode = .text)
    (isReturn : IsReturn ret) (rest : l.rest = ret ++ '\n' :: cs) :
    l.Leads [⟨.newline, l.offset + byteLength ret, ['\n']⟩]
      { l.skip (ret ++ ['\n']) cs with mode := .lineStart } := by
  have step : l.step =
      .ok { (l.skip ret ('\n' :: cs)).emit .newline ['\n'] cs with mode := .lineStart } := by
    rw [step_of_text mode (by simp [rest]), readText_of_return isReturn rest]
  have leads := leads_of_step owes (by simp [mode]) step
  simpa [emit, idle, skip, owes, Nat.add_assoc] using leads

/-- A carriage return in front of a line feed does nothing. -/
theorem leads_return (owes : l.pending = []) (active : l.mode ≠ .done) (isReturn : IsReturn ret)
    (rest : l.rest = ret ++ '\n' :: cs) : l.Leads [] (l.skip ret ('\n' :: cs)) := by
  have owes' : (l.skip ret ('\n' :: cs)).pending = [] := owes
  have feed : (l.skip ret ('\n' :: cs)).rest = [] ++ '\n' :: cs := rfl
  cases mode : l.mode with
  | done => exact absurd mode active
  | statement | splice => exact leads_gaps owes (by simp [mode]) isReturn.isGap rest
  | lineStart =>
    have first := leads_blank owes mode (List.forall_mem_nil _) isReturn rest
    have later := leads_blank owes' mode (List.forall_mem_nil _) (.inl rfl) feed
    rw [skip_skip] at later
    exact .of_common first later
  | text =>
    have first := leads_endTextLine owes mode isReturn rest
    have later := leads_endTextLine owes' mode (.inl rfl) feed
    rw [skip_skip] at later
    exact .of_common first later

/-- The lexer goes on in the same way if more stands behind its source. -/
def GoesOnWith (cs : List Char) (l : Lexer) : Prop :=
  match l.step with
  | .ok l' => (l.within 0 cs).Leads l'.pending (l'.idle.within 0 cs)
  | .error _ => ∃ f, (l.within 0 cs).step = .error f

theorem pending_within_zero : (l.within 0 cs).pending = l.pending := by simp [within]

theorem goesOnWith_of_step (owes : l.pending = []) (active : l.mode ≠ .done)
    (step' : (l.within 0 cs).step = outcomeWithin 0 cs l.step) : l.GoesOnWith cs := by
  unfold GoesOnWith
  cases step : l.step with
  | error f => exact ⟨f.shift 0, by rw [step', step, outcomeWithin]⟩
  | ok l' =>
    rw [step, outcomeWithin] at step'
    have leads := leads_of_step (pending_within owes) (active_within active) step'
    rwa [pending_within_zero, idle_within] at leads

/-- Where a step passes the whole rest of a line and the carriage return behind it, the carriage
return could as well be passed later. -/
theorem goesOnWith_of_passed (owes : l.pending = []) (active : l.mode ≠ .done)
    (isReturn : IsReturn ret) (step : l.step = .ok l') (passed : l'.rest = [])
    (active' : l'.mode ≠ .done)
    (step' : (l.within 0 (ret ++ '\n' :: cs)).step =
      .ok ((l'.within 0 (ret ++ '\n' :: cs)).skip ret ('\n' :: cs))) :
    l.GoesOnWith (ret ++ '\n' :: cs) := by
  have first := leads_of_step (pending_within owes) (active_within active) step'
  have rest : (l'.idle.within 0 (ret ++ '\n' :: cs)).rest = ret ++ '\n' :: cs := by
    simp [within, idle, passed]
  have later : (l'.idle.within 0 (ret ++ '\n' :: cs)).Leads []
      ((l'.within 0 (ret ++ '\n' :: cs)).skip ret ('\n' :: cs)).idle :=
    leads_return rfl active' isReturn rest
  have whole := first.trans later.back
  rw [List.append_nil, show ((l'.within 0 (ret ++ '\n' :: cs)).skip ret ('\n' :: cs)).pending =
    (l'.within 0 (ret ++ '\n' :: cs)).pending from rfl, pending_within_zero] at whole
  simpa only [GoesOnWith, step] using whole

/-- A line that says something does so in front of whatever ends it. -/
theorem not_lineEnd_append {c : Char} {ds : List Char} (clean : '\n' ∉ c :: ds)
    (noReturn : (c :: ds).getLast? ≠ some '\r') (cs : List Char) : ¬ LineEnd (c :: (ds ++ cs)) := by
  intro ends
  generalize source : c :: (ds ++ cs) = whole at ends
  cases ends with
  | source => cases source
  | feed => cases source; exact clean List.mem_cons_self
  | returnFeed =>
    cases ds with
    | nil => cases source; exact noReturn rfl
    | cons d ds => cases source; exact clean (List.mem_cons_of_mem _ List.mem_cons_self)

/-- A blank line is passed with its line end at once, or first up to it and then beyond. -/
theorem goesOnWith_blank (owes : l.pending = []) (mode : l.mode = .lineStart) (more : l.rest ≠ [])
    (run : Run.takeWhile isBlank l.rest = ⟨l.rest, []⟩) (isReturn : IsReturn ret) :
    l.GoesOnWith (ret ++ '\n' :: cs) := by
  have step : l.step = .ok (l.skip l.rest []) := by
    rw [step_of_lineStart mode more, startLine, run]
  have blank : ∀ c ∈ l.rest, isBlank c = true := by
    have holds : ∀ c ∈ (Run.takeWhile isBlank l.rest).chars, isBlank c = true :=
      Run.takeWhile_holds
    rwa [run] at holds
  have first : (l.within 0 (ret ++ '\n' :: cs)).Leads []
      ((l.within 0 (ret ++ '\n' :: cs)).skip (l.rest ++ (ret ++ ['\n'])) cs) :=
    leads_blank (pending_within owes) mode blank isReturn rfl
  have later : ((l.skip l.rest []).idle.within 0 (ret ++ '\n' :: cs)).Leads []
      (((l.skip l.rest []).idle.within 0 (ret ++ '\n' :: cs)).skip ([] ++ (ret ++ ['\n'])) cs) :=
    leads_blank rfl mode (List.forall_mem_nil _) isReturn rfl
  have same : ((l.skip l.rest []).idle.within 0 (ret ++ '\n' :: cs)).skip
      ([] ++ (ret ++ ['\n'])) cs =
        (l.within 0 (ret ++ '\n' :: cs)).skip (l.rest ++ (ret ++ ['\n'])) cs := by
    simp [within, skip, idle, owes, Nat.add_assoc]
  rw [same] at later
  have leads : (l.within 0 (ret ++ '\n' :: cs)).Leads [] _ := .of_common first later
  simpa only [GoesOnWith, step, skip, owes] using leads

theorem goesOnWith_startLine (owes : l.pending = []) (mode : l.mode = .lineStart)
    (more : l.rest ≠ []) (clean : '\n' ∉ l.rest) (noReturn : l.rest.getLast? ≠ some '\r')
    (isReturn : IsReturn ret) : l.GoesOnWith (ret ++ '\n' :: cs) := by
  have source := Run.takeWhile_append isBlank l.rest
  generalize run : Run.takeWhile isBlank l.rest = found at source
  obtain ⟨indent, _ | ⟨c, ds⟩⟩ := found
  · rw [List.append_nil] at source
    subst source
    exact goesOnWith_blank owes mode more run isReturn
  · have clean' : '\n' ∉ c :: ds := fun feed => clean (source ▸ List.mem_append_right _ feed)
    have noReturn' : (c :: ds).getLast? ≠ some '\r' := by
      rw [← source, List.getLast?_append_of_ne_nil _ (List.cons_ne_nil c ds)] at noReturn
      exact noReturn
    have run' : Run.takeWhile isBlank (l.rest ++ (ret ++ '\n' :: cs)) =
        ⟨indent, c :: (ds ++ (ret ++ '\n' :: cs))⟩ := by
      rw [Run.takeWhile_append_of_rest (by simp [run]), run]
      rfl
    have ends := not_lineEnd_append clean' noReturn' []
    rw [List.append_nil] at ends
    have starts : (l.within 0 (ret ++ '\n' :: cs)).step =
        (l.within 0 (ret ++ '\n' :: cs)).startLine := step_of_lineStart mode (by simp [within])
    refine goesOnWith_of_step owes (by simp [mode]) ?_
    rw [starts, step_of_lineStart mode more]
    exact startLine_within_of_goesOn run run' ends (not_lineEnd_append clean' noReturn' _)

theorem beforeLineEnd_append {chars : List Char} (noReturn : chars.getLast? ≠ some '\r')
    (isReturn : IsReturn ret) : beforeLineEnd (chars ++ ret) = chars := by
  rcases isReturn with rfl | rfl <;> simp [beforeLineEnd, noReturn]

theorem goesOnWith_readText (owes : l.pending = []) (mode : l.mode = .text)
    (more : l.rest ≠ []) (noReturn : l.rest.getLast? ≠ some '\r') (isReturn : IsReturn ret) :
    l.GoesOnWith (ret ++ '\n' :: cs) := by
  have active : l.mode ≠ .done := by simp [mode]
  have step := step_of_text mode more
  have step' : (l.within 0 (ret ++ '\n' :: cs)).step =
      .ok (l.within 0 (ret ++ '\n' :: cs)).readText := step_of_text mode (by simp [within])
  by_cases line : (Run.text l.markers l.rest).rest = []
  · have chars : (Run.text l.markers l.rest).chars = l.rest := by
      have source := Run.text_append l.markers l.rest
      rwa [line, List.append_nil] at source
    have reads : l.readText = l.emit .text l.rest [] := by
      simp only [readText, line, chars]
    have text : Run.text (l.within 0 (ret ++ '\n' :: cs)).markers
        (l.within 0 (ret ++ '\n' :: cs)).rest = ⟨l.rest ++ ret, '\n' :: cs⟩ :=
      Run.text_append_of_line line isReturn
    rw [reads] at step
    refine goesOnWith_of_passed owes active isReturn step rfl active (step'.trans ?_)
    simp only [readText, text, beforeLineEnd_append noReturn isReturn, if_true, more, if_false]
    simp [within, emit, skip, Nat.add_assoc]
  · refine goesOnWith_of_step owes active ?_
    rw [step', readText_within_of_text (Run.text_append_of_rest line) (.inr line), step]
    rfl

/-- A gap that goes up to the end of the line may go on with its carriage return. -/
theorem goesOnWith_gap {c : Char} {ds : List Char} (owes : l.pending = [])
    (mode : l.mode = .statement ∨ l.mode = .splice) (rest : l.rest = c :: ds)
    (gap : isGap c = true) (line : (Run.takeWhile isGap ds).rest = []) (isReturn : IsReturn ret) :
    l.GoesOnWith (ret ++ '\n' :: cs) := by
  have active := active_of_expression mode
  have chars : (Run.takeWhile isGap ds).chars = ds := by
    have source := Run.takeWhile_append isGap ds
    rwa [line, List.append_nil] at source
  have gaps : ∀ c ∈ ds ++ ret, isGap c = true := by
    have holds : ∀ c ∈ (Run.takeWhile isGap ds).chars, isGap c = true := Run.takeWhile_holds
    rw [chars] at holds
    exact List.forall_mem_append.mpr ⟨holds, isReturn.isGap⟩
  have run : Run.takeWhile isGap (ds ++ (ret ++ '\n' :: cs)) = ⟨ds ++ ret, '\n' :: cs⟩ := by
    rw [← List.append_assoc]
    exact Run.takeWhile_append_of_holds gaps rfl
  have step : l.step = .ok (l.skip (c :: ds) []) := by
    rw [step_of_expression mode rest, readExpression_gap gap, line, chars]
  have rest' : (l.within 0 (ret ++ '\n' :: cs)).rest = c :: (ds ++ (ret ++ '\n' :: cs)) := by
    simp [within, rest]
  refine goesOnWith_of_passed owes active isReturn step rfl active ?_
  have step' : (l.within 0 (ret ++ '\n' :: cs)).step =
      .ok ((l.within 0 (ret ++ '\n' :: cs)).skip (c :: (ds ++ ret)) ('\n' :: cs)) := by
    have reads := step_of_expression (l := l.within 0 (ret ++ '\n' :: cs)) mode rest'
    rw [reads, readExpression_gap gap, run]
  rw [step']
  simp [within, skip, Nat.add_assoc]

theorem step_of_openString {ds : List Char} (mode : l.mode = .statement ∨ l.mode = .splice)
    (rest : l.rest = '"' :: ds)
    (inside : ¬ (l.mode = .splice ∧ l.nesting = [] ∧ '"' = l.markers.closing))
    (opened : (Run.string false ds).2 = false) : ∃ f, l.step = .error f := by
  have reads : l.step = l.readString ds := by
    simp [step_of_expression mode rest, readExpression, inside, punctuation, opening, closing]
  rw [reads, readString]
  generalize Run.string false ds = found at opened
  obtain ⟨run, _⟩ := found
  cases opened
  exact ⟨_, rfl⟩

/-- A string literal cannot run on into the end of the line. -/
theorem goesOnWith_openString {ds : List Char} (mode : l.mode = .statement ∨ l.mode = .splice)
    (rest : l.rest = '"' :: ds)
    (inside : ¬ (l.mode = .splice ∧ l.nesting = [] ∧ '"' = l.markers.closing))
    (opened : (Run.string false ds).2 = false) (isReturn : IsReturn ret) :
    l.GoesOnWith (ret ++ '\n' :: cs) := by
  obtain ⟨f, step⟩ := step_of_openString mode rest inside opened
  have rest' : (l.within 0 (ret ++ '\n' :: cs)).rest = '"' :: (ds ++ (ret ++ '\n' :: cs)) := by
    simp [within, rest]
  have inside' : ¬ ((l.within 0 (ret ++ '\n' :: cs)).mode = .splice ∧
      (l.within 0 (ret ++ '\n' :: cs)).nesting = [] ∧
        '"' = (l.within 0 (ret ++ '\n' :: cs)).markers.closing) := by
    simpa [within] using inside
  have fails := step_of_openString (l := l.within 0 (ret ++ '\n' :: cs)) mode rest' inside'
    (Run.string_append_of_open opened isReturn)
  simpa only [GoesOnWith, step] using fails

theorem goesOnWith_readExpression (owes : l.pending = [])
    (mode : l.mode = .statement ∨ l.mode = .splice) (more : l.rest ≠ [])
    (isReturn : IsReturn ret) : l.GoesOnWith (ret ++ '\n' :: cs) := by
  obtain ⟨c, ds, rest⟩ := List.exists_cons_of_ne_nil more
  have step := step_of_expression mode rest
  have step' : (l.within 0 (ret ++ '\n' :: cs)).step =
      (l.within 0 (ret ++ '\n' :: cs)).readExpression c (ds ++ (ret ++ '\n' :: cs)) :=
    step_of_expression mode (by simp [within, rest])
  have stops {p : Char → Bool} (feed : p '\n' = false) (carriage : p '\r' = false) :
      ∀ c ∈ (ret ++ '\n' :: cs).head?, p c = false := by
    rcases isReturn with rfl | rfl <;> simp [feed, carriage]
  by_cases gap : isGap c = true ∧ (Run.takeWhile isGap ds).rest = []
  · exact goesOnWith_gap owes mode rest gap.1 gap.2 isReturn
  by_cases opened : ¬ (l.mode = .splice ∧ l.nesting = [] ∧ c = l.markers.closing) ∧ c = '"' ∧
      (Run.string false ds).2 = false
  · obtain ⟨inside, rfl, opened⟩ := opened
    exact goesOnWith_openString mode rest inside opened isReturn
  -- Every other run of characters ends in front of the line end, or is the whole rest of the line.
  refine goesOnWith_of_step owes (active_of_expression mode) ?_
  rw [step', step]
  refine readExpression_within_of_runs ?_ ?_ ?_ ?_
  · intro inside quote
    have closed : (Run.string false ds).2 = true :=
      Bool.not_eq_false _ ▸ fun is => opened ⟨inside, quote, is⟩
    rw [Run.string_append_of_closed closed, closed]
  · exact fun is => Run.takeWhile_append_of_rest fun none => gap ⟨is, none⟩
  · exact fun _ => Run.takeWhile_append_of_stops (stops rfl rfl)
  · exact fun _ => Run.takeWhile_append_of_stops (stops rfl rfl)

/-- The characters in front end with a line, or may do so. -/
def CutAtLine (front cs : List Char) : Prop :=
  EndsLine front ∨ LineEnd cs ∧ front.getLast? ≠ some '\r'

theorem CutAtLine.of_suffix {front back : List Char} (cut : CutAtLine front cs)
    (suffix : back <:+ front) : CutAtLine back cs := by
  rcases cut with ends | ⟨ends, noReturn⟩
  · exact .inl (ends.of_suffix suffix)
  · obtain ⟨before, rfl⟩ := suffix
    refine .inr ⟨ends, ?_⟩
    by_cases none : back = []
    · simp [none]
    · rwa [List.getLast?_append_of_ne_nil _ none] at noReturn

theorem goesOnWith (owes : l.pending = []) (active : l.mode ≠ .done) (more : l.rest ≠ [])
    (cut : CutAtLine l.rest cs) : l.GoesOnWith cs := by
  by_cases feed : '\n' ∈ l.rest
  · exact goesOnWith_of_step owes active (step_within (.inr feed))
  obtain ⟨ends, noReturn⟩ := cut.resolve_left fun ends => feed (ends.feed_mem more)
  have lineEnd {ret cs : List Char} (isReturn : IsReturn ret) :
      l.GoesOnWith (ret ++ '\n' :: cs) := by
    cases mode : l.mode with
    | lineStart => exact goesOnWith_startLine owes mode more feed noReturn isReturn
    | text => exact goesOnWith_readText owes mode more noReturn isReturn
    | statement => exact goesOnWith_readExpression owes (.inl mode) more isReturn
    | splice => exact goesOnWith_readExpression owes (.inr mode) more isReturn
    | done => exact absurd mode active
  cases ends with
  | source => exact goesOnWith_of_step owes active (step_within (.inl rfl))
  | feed cs => exact lineEnd (.inl rfl)
  | returnFeed cs => exact lineEnd (.inr rfl)

theorem Steps.leads_within {ts : List Lexeme} (steps : Steps l ts l') (cut : CutAtLine l.rest cs) :
    (l.within 0 cs).Leads ts (l'.within 0 cs) := by
  induction steps with
  | refl l => exact .refl _
  | @step l l' l'' ts owes active more step later ih =>
    have first := goesOnWith owes active more cut
    simp only [GoesOnWith, step] at first
    obtain ⟨passed, passes⟩ := (moves_of_step active step).passes
    exact first.trans (ih (cut.of_suffix ⟨passed, passes.rest.symm⟩))

end Lexer

end HtmlTemplate
