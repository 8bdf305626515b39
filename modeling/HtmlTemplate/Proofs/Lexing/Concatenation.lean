import HtmlTemplate.Proofs.Lexing.Indents
import HtmlTemplate.Proofs.Lexing.Places
import HtmlTemplate.Proofs.Lexing.Within

/-!
# Lexemes of a concatenation

A source that ends with a line feed is read to its end in the same way whatever follows. There the
lexer stands at the start of a line with some blocks still open, and the first line behind closes
them all. So the lexemes of two sources put together are those of the one and of the other, with
dedents between them that would have stood at the end of the first.
-/

namespace HtmlTemplate

/-- A member of two lists put together is one of the first or one of the second. -/
theorem split_of_append {α : Type} {xs ys before after : List α} {a : α}
    (whole : xs ++ ys = before ++ a :: after) :
    (∃ back, xs = before ++ a :: back ∧ after = back ++ ys) ∨
      ∃ front, before = xs ++ front ∧ ys = front ++ a :: after := by
  rcases List.append_eq_append_iff.mp whole with ⟨front, shape, later⟩ | ⟨back, shape, later⟩
  · exact .inr ⟨front, shape, later⟩
  · cases back with
    | nil => exact .inr ⟨[], by simpa using shape.symm, later.symm⟩
    | cons b back =>
      cases later
      exact .inl ⟨back, shape, rfl⟩

/-- Whatever follows begins a line of its own. -/
def EndsLine (source : List Char) : Prop := source = [] ∨ source.getLast? = some '\n'

theorem EndsLine.feed_mem {source : List Char} (ends : EndsLine source) (some : source ≠ []) :
    '\n' ∈ source := List.mem_of_getLast? (ends.resolve_left some)

theorem EndsLine.of_suffix {source cs : List Char} (ends : EndsLine source)
    (suffix : cs <:+ source) : EndsLine cs := by
  by_cases none : cs = []
  · exact .inl none
  · obtain ⟨before, rfl⟩ := suffix
    right
    rcases ends with empty | last
    · exact absurd (List.append_eq_nil_iff.mp empty).2 none
    · rwa [List.getLast?_append_of_ne_nil _ none] at last

namespace Lexer

theorem Spelling.feed_not_mem {token : Token} {chars : List Char}
    (spelling : Spelling token chars) : '\n' ∉ chars := by
  cases spelling with
  | punctuation is =>
    rintro feed
    rw [← List.mem_singleton.mp feed] at is
    cases is
  | @string cs run closed =>
    have clean := Run.feed_not_mem_string false cs
    rw [closed] at clean
    simpa using clean
  | number digit numeral =>
    rintro feed
    rcases List.mem_cons.mp feed with rfl | feed
    · cases digit
    · cases numeral _ feed
  | word start continues =>
    rintro feed
    rcases List.mem_cons.mp feed with rfl | feed
    · cases start
    · cases continues _ feed

theorem feed_not_mem_of_holds {p : Char → Bool} {chars : List Char}
    (holds : ∀ c ∈ chars, p c = true) (stops : p '\n' = false) : '\n' ∉ chars := by
  intro feed
  have feed' := holds _ feed
  rw [stops] at feed'
  cases feed'

/-- A lexer goes forward in its source, and a line feed that it passes ends the line unless brackets
join it to the next. -/
structure Passes (l l' : Lexer) (passed : List Char) : Prop where
  rest : l.rest = passed ++ l'.rest
  offset : l'.offset = l.offset + byteLength passed
  lands : '\n' ∈ passed → l'.mode = .lineStart ∨ l'.nesting ≠ []

section

variable {l l' : Lexer}

theorem Moves.passes (move : l.Moves l') : ∃ passed, l.Passes l' passed := by
  cases move with
  | finish source closed mode => exact ⟨[], rfl, rfl, nofun⟩
  | blankLine mode source blank ends => exact ⟨_, source, rfl, fun _ => .inl mode⟩
  | @line indent cs c indents changes mode source blank =>
    exact ⟨indent, source, rfl, fun feed => absurd feed (feed_not_mem_of_holds blank rfl)⟩
  | @textLine indent cs c indents changes mode source blank ink goesOn change marked =>
    have noFeed := Markers.ne_feed (marked ▸ l.markers.text_isMarker)
    refine ⟨indent ++ [c], by simpa [enterLine, emit, skip] using source, ?_, ?_⟩
    · simp [enterLine, emit, skip, Nat.add_assoc]
    · simp [feed_not_mem_of_holds blank rfl, noFeed.symm]
  | @text run mode read =>
    subst read
    have clean := Run.feed_not_mem_text l.markers l.rest
    exact ⟨_, (Run.text_append ..).symm, rfl, fun feed => absurd feed clean⟩
  | @lineText chars cs mode read =>
    have source := Run.text_append l.markers l.rest
    have clean := Run.feed_not_mem_text l.markers l.rest
    rw [read] at source clean
    exact ⟨chars, source.symm, rfl, fun feed => absurd feed clean⟩
  | @endTextLine chars cs mode read =>
    have source := Run.text_append l.markers l.rest
    rw [read] at source
    refine ⟨chars ++ ['\n'], by simpa [emit, skip] using source.symm, ?_, fun _ => .inl rfl⟩
    simp [emit, skip, Nat.add_assoc]
  | openSplice mode source =>
    have noFeed := Markers.ne_feed l.markers.opening_isMarker
    exact ⟨_, source, rfl, by simp [noFeed.symm]⟩
  | closeSplice mode closed source =>
    have noFeed := Markers.ne_feed l.markers.closing_isMarker
    exact ⟨_, source, rfl, by simp [noFeed.symm]⟩
  | token mode source spelling =>
    exact ⟨_, source, rfl, fun feed => absurd feed spelling.feed_not_mem⟩
  | @openBracket b c cs mode source =>
    exact ⟨[c], source, rfl, fun _ => .inr (by simp [Lexer.openBracket])⟩
  | @closeBracket b c cs start outer mode source bracket =>
    refine ⟨[c], source, rfl, fun feed => ?_⟩
    rw [← List.mem_singleton.mp feed] at bracket
    cases bracket
  | joinLine mode source nested => exact ⟨_, source, rfl, fun _ => .inr nested⟩
  | endLine mode source => exact ⟨_, source, rfl, fun _ => .inl rfl⟩
  | gap mode source gap =>
    exact ⟨_, source, rfl, fun feed => absurd feed (feed_not_mem_of_holds gap rfl)⟩

theorem Moves.nested (move : l.Moves l') (nested : l.indents.Nested) : l'.indents.Nested := by
  cases move with
  | finish => trivial
  | line mode source blank ink goesOn change => exact nested.change? change
  | textLine mode source blank ink goesOn change => exact nested.change? change
  | _ => exact nested

theorem Moves.markers (move : l.Moves l') : l'.markers = l.markers := by
  cases move <;> rfl

/-- Only the end of its source makes a lexer stop. -/
theorem Moves.active (move : l.Moves l') (active : l.mode ≠ .done) (more : l.rest ≠ []) :
    l'.mode ≠ .done := by
  cases move with
  | finish source => exact absurd source more
  | line | textLine | endTextLine | openSplice | closeSplice | endLine => nofun
  | _ => exact active

end

/-! ## To the end of a source -/

/-- Steps that find some lexemes before the source is at its end. -/
inductive Steps : Lexer → List Lexeme → Lexer → Prop where
  | refl (l : Lexer) : Steps l [] l
  | step {l l' l'' : Lexer} {ts : List Lexeme} (owes : l.pending = []) (active : l.mode ≠ .done)
      (more : l.rest ≠ []) (step : l.step = .ok l') (later : Steps l'.idle ts l'') :
      Steps l (l'.pending ++ ts) l''

/-- The end of a source behind its last line. -/
structure AtEnd (l : Lexer) : Prop where
  owes : l.pending = []
  rest : l.rest = []
  mode : l.mode = .lineStart
  closed : l.nesting = []

section

variable {l l' : Lexer} {ts : List Lexeme}

theorem Steps.leads (steps : Steps l ts l') : l.Leads ts l' := by
  induction steps with
  | refl l => exact .refl l
  | step owes active more step later ih => exact (leads_of_step owes active step).trans ih

/-- What each step keeps is kept by all of them. -/
theorem Steps.keeps {P : Lexer → Prop} (steps : Steps l ts l') (holds : P l)
    (kept : ∀ {l l' : Lexer}, l.Moves l' → P l → P l'.idle) : P l' := by
  induction steps with
  | refl => exact holds
  | step owes active more step later ih => exact ih (kept (moves_of_step active step) holds)

theorem Steps.markers (steps : Steps l ts l') : l'.markers = l.markers :=
  steps.keeps (P := fun k => k.markers = l.markers) rfl fun move same => move.markers.trans same

theorem Steps.nested (steps : Steps l ts l') (nested : l.indents.Nested) : l'.indents.Nested :=
  steps.keeps (P := fun k => k.indents.Nested) nested Moves.nested

/-- The offset counts what was passed. -/
theorem Steps.offset (steps : Steps l ts l') :
    l'.offset + byteLength l'.rest = l.offset + byteLength l.rest := by
  refine steps.keeps (P := fun k => k.offset + byteLength k.rest = _) rfl fun move sum => ?_
  obtain ⟨passed, passes⟩ := move.passes
  rw [passes.rest, byteLength_append, ← Nat.add_assoc, ← passes.offset] at sum
  exact sum

theorem Steps.endsLine (steps : Steps l ts l') (ends : EndsLine l.rest) : EndsLine l'.rest :=
  steps.keeps (P := fun k => EndsLine k.rest) ends fun move ends =>
    move.passes.elim fun passed passes => ends.of_suffix ⟨passed, passes.rest.symm⟩

theorem Steps.suffix (steps : Steps l ts l') : l'.rest <:+ l.rest :=
  steps.keeps (P := fun k => k.rest <:+ l.rest) (List.suffix_refl _) fun move suffix =>
    move.passes.elim fun passed passes => List.IsSuffix.trans ⟨passed, passes.rest.symm⟩ suffix

theorem Steps.within (steps : Steps l ts l') (ends : EndsLine l.rest) (n : Nat)
    (cs : List Char) : Steps (l.within n cs) (ts.map (Lexeme.shift n)) (l'.within n cs) := by
  induction steps with
  | refl => exact .refl _
  | @step l l' l'' ts owes active more step later ih =>
    have step' : (l.within n cs).step = .ok (l'.within n cs) := by
      rw [step_within (.inr (ends.feed_mem more)), step]
      rfl
    obtain ⟨passed, passes⟩ := (moves_of_step active step).passes
    have later' := ih (ends.of_suffix ⟨passed, passes.rest.symm⟩)
    have more' : (l.within n cs).rest ≠ [] := by simp [Lexer.within, more]
    have first := Steps.step (pending_within owes) (active_within active) more' step' later'
    simpa [Lexer.within] using first

theorem lexemes_of_closed (owes : l.pending = []) (active : l.mode ≠ .done) (rest : l.rest = [])
    (closed : l.nesting = []) (mode : l.mode ≠ .splice) : l.lexemes = ⟨l.ending, none⟩ := by
  have step : l.step = .ok { l with mode := .done, indents := [], pending := l.ending } := by
    simp [Lexer.step, rest, finish, closed, mode, owes, ending]
  rw [lexemes_of_step owes active step, lexemes_of_done rfl rfl]
  simp [Lexemes.after]

theorem lexemes_of_unclosed (owes : l.pending = []) (active : l.mode ≠ .done) (rest : l.rest = [])
    (unclosed : l.nesting ≠ [] ∨ l.mode = .splice) : ∃ f, l.lexemes = ⟨[], some f⟩ := by
  have step : ∃ f, l.step = .error f := by
    cases nesting : l.nesting with
    | nil =>
      have mode := unclosed.resolve_left (not_not_intro nesting)
      simp [Lexer.step, rest, finish, nesting, mode]
    | cons b outer => simp [Lexer.step, rest, finish, nesting]
  obtain ⟨f, step⟩ := step
  exact ⟨f, lexemes_of_fault owes active step⟩

theorem AtEnd.lexemes (atEnd : l.AtEnd) :
    l.lexemes = ⟨List.replicate l.indents.length ⟨.dedent, l.offset, []⟩, none⟩ := by
  rw [lexemes_of_closed atEnd.owes (by simp [atEnd.mode]) atEnd.rest atEnd.closed
    (by simp [atEnd.mode]), ending, if_pos atEnd.mode, List.nil_append]

theorem atEnd_of_finish (owes : l.pending = []) (rest : l.rest = [])
    (landed : l.mode = .lineStart ∨ l.nesting ≠ []) (step : l.step = .ok l') : l.AtEnd := by
  have finish : l.finish = .ok l' := by simpa [Lexer.step, rest] using step
  have closed : l.nesting = [] := by
    cases nesting : l.nesting with
    | nil => rfl
    | cons b outer => simp [Lexer.finish, nesting] at finish
  exact ⟨owes, rest, landed.resolve_right (not_not_intro closed), closed⟩

/-- A lexer comes to the end of its source or to a fault. -/
theorem Run.steps_ahead {found : Lexemes} (run : l.Run found) (active : l.mode ≠ .done) :
    ∃ l' ts, Steps l ts l' ∧ l'.pending = [] ∧ l'.mode ≠ .done ∧
      (l'.rest ≠ [] → ∃ f, l'.step = .error f) := by
  induction run with
  | done owes mode => exact absurd mode active
  | @fault l f owes _ step => exact ⟨l, [], .refl l, owes, active, fun _ => ⟨f, step⟩⟩
  | @step l l' later owes _ step _ ih =>
    by_cases rest : l.rest = []
    · exact ⟨l, [], .refl l, owes, active, fun more => absurd rest more⟩
    · have move := moves_of_step active step
      obtain ⟨l'', ts, steps, ahead⟩ := ih (move.active active rest)
      exact ⟨l'', _, .step owes active rest step steps, ahead⟩

/-- Behind a line feed at the end of its source a lexer begins a line or joins one. -/
theorem Steps.landed (steps : Steps l ts l') (ends : EndsLine l.rest)
    (landed : l.rest = [] → l.mode = .lineStart ∨ l.nesting ≠ []) (rest : l'.rest = []) :
    l'.mode = .lineStart ∨ l'.nesting ≠ [] := by
  induction steps with
  | refl => exact landed rest
  | @step l l' l'' ts owes active more step later ih =>
    obtain ⟨passed, passes⟩ := (moves_of_step active step).passes
    refine ih (ends.of_suffix ⟨passed, passes.rest.symm⟩) (fun ended => passes.lands ?_) rest
    have source : l.rest = passed := by
      rw [passes.rest, show l'.rest = [] from ended, List.append_nil]
    exact source ▸ ends.feed_mem more

/-- A source without a fault whose last line is ended is read up to its end, where only the open
blocks are left to be closed. -/
theorem Run.steps_to_end {found : Lexemes} (run : l.Run found) (faultless : found.fault = none)
    (active : l.mode ≠ .done) (ends : EndsLine l.rest)
    (landed : l.rest = [] → l.mode = .lineStart ∨ l.nesting ≠ []) :
    ∃ l' ts, Steps l ts l' ∧ l'.AtEnd := by
  obtain ⟨l', ts, steps, owes, active', stuck⟩ := run.steps_ahead active
  refine ⟨l', ts, steps, ?_⟩
  have leads := steps.leads
  unfold Leads at leads
  rw [run.lexemes_eq] at leads
  cases step : l'.step with
  | error f =>
    rw [leads, lexemes_of_fault owes active' step] at faultless
    cases faultless
  | ok next =>
    have rest : l'.rest = [] := by
      by_contra more
      obtain ⟨f, fails⟩ := stuck more
      rw [step] at fails
      cases fails
    exact atEnd_of_finish owes rest (steps.landed ends landed rest) step

end

/-! ## From the start of the next source -/

/-- The lexer with other blocks open. -/
def inside (blocks : Indents) (l : Lexer) : Lexer := { l with indents := blocks }

/-- At the start of a line outside of all blocks. -/
structure Outside (l : Lexer) : Prop where
  owes : l.pending = []
  mode : l.mode = .lineStart
  closed : l.nesting = []
  indents : l.indents = []

section

variable {l l' : Lexer} {blocks : Indents}

/-- A line that says nothing leaves the open blocks alone. -/
theorem startLine_of_lineEnd (ends : LineEnd (HtmlTemplate.Run.takeWhile isBlank l.rest).rest)
    (blocks : Indents) : ∃ passed rest, l.startLine = .ok (l.skip passed rest) ∧
      (l.inside blocks).startLine = .ok ((l.skip passed rest).inside blocks) := by
  generalize run : HtmlTemplate.Run.takeWhile isBlank l.rest = found at ends
  obtain ⟨blanks, rest⟩ := found
  cases ends with
  | source => exact ⟨blanks, [], by simp [startLine, run], by simp [startLine, inside, run, skip]⟩
  | feed cs =>
    exact ⟨blanks ++ ['\n'], cs, by simp [startLine, run], by simp [startLine, inside, run, skip]⟩
  | returnFeed cs =>
    exact ⟨blanks ++ ['\r', '\n'], cs, by simp [startLine, run],
      by simp [startLine, inside, run, skip]⟩

/-- Outside of all blocks a line opens at most one, and closes none. -/
theorem change?_outside {start : Nat} {indent : List Char} {indents : Indents}
    {changes : List Lexeme} (change : Indents.change? start indent [] = some (indents, changes)) :
    (indent = [] ∧ indents = [] ∧ changes = []) ∨ changes = [⟨.indent, start, indent⟩] := by
  unfold Indents.change? at change
  split at change
  · next same =>
    cases change
    exact .inl ⟨same, rfl, rfl⟩
  · split at change
    · cases change
      exact .inr rfl
    · next deeper => exact absurd rfl deeper

/-- A line that stands further out than all open blocks closes them, and is read on as if there had
been none. -/
theorem Outside.startLine_inside {indent cs : List Char} {c : Char} (outside : l.Outside)
    (nested : blocks.Nested)
    (run : HtmlTemplate.Run.takeWhile isBlank l.rest = ⟨indent, c :: cs⟩)
    (goesOn : ¬ LineEnd (c :: cs)) (starts : l.startLine = .ok l')
    (noIndent : ∀ t ∈ l'.pending.head?, t.token ≠ .indent) :
    (l.inside blocks).startLine = .ok { l' with
      pending := List.replicate blocks.length ⟨.dedent, l.offset, []⟩ ++ l'.pending } := by
  have run' : HtmlTemplate.Run.takeWhile isBlank (l.inside blocks).rest = ⟨indent, c :: cs⟩ := run
  have change' : (l.inside blocks).indents.change? (l.inside blocks).offset [] =
      some ([], List.replicate blocks.length ⟨.dedent, l.offset, []⟩) :=
    Indents.change?_of_returnTo? l.offset nested.returnTo?_nil
  rw [startLine_of_goesOn run goesOn, outside.indents] at starts
  rw [startLine_of_goesOn run' goesOn]
  cases change : Indents.change? l.offset indent [] with
  | none => simp [change] at starts
  | some r =>
    obtain ⟨indents, changes⟩ := r
    rw [change] at starts
    rcases change?_outside change with ⟨rfl, rfl, rfl⟩ | rfl
    · rw [change']
      by_cases marked : c = l.markers.text
      · simp only [marked, if_true] at starts
        cases starts
        simp [marked, inside, enterLine, emit, skip, outside.owes]
      · simp only [marked, if_false] at starts
        cases starts
        simp [marked, inside, enterLine, skip, outside.owes]
    · refine absurd rfl (noIndent ⟨.indent, l.offset, indent⟩ ?_)
      by_cases marked : c = l.markers.text
      · simp only [marked, if_true] at starts
        cases starts
        simp [enterLine, emit, skip, outside.owes]
      · simp only [marked, if_false] at starts
        cases starts
        simp [enterLine, skip, outside.owes]

/-- Blocks that are still open in front of a source are closed by its first line, or at its end if
it has none, and make no difference otherwise. -/
theorem Run.leads_closing {found : Lexemes} (run : l.Run found) (faultless : found.fault = none)
    (outside : l.Outside) (noIndent : ∀ t ∈ found.list.head?, t.token ≠ .indent)
    (nested : blocks.Nested) :
    ∃ p, (l.inside blocks).Leads (List.replicate blocks.length ⟨.dedent, p, []⟩) l := by
  induction run with
  | @done l owes mode => simp [outside.mode] at mode
  | fault => cases faultless
  | @step l l' later owes active step _ ih =>
    by_cases rest : l.rest = []
    · have atEnd : l.AtEnd := ⟨owes, rest, outside.mode, outside.closed⟩
      have atEnd' : (l.inside blocks).AtEnd := ⟨owes, rest, outside.mode, outside.closed⟩
      refine ⟨l.offset, ?_⟩
      unfold Leads
      rw [atEnd.lexemes, atEnd'.lexemes, outside.indents]
      simp [Lexemes.after, inside]
    · have starts := step_of_lineStart outside.mode rest
      have starts' : (l.inside blocks).step = (l.inside blocks).startLine :=
        step_of_lineStart outside.mode rest
      have first := leads_of_step owes active step
      by_cases ends : LineEnd (HtmlTemplate.Run.takeWhile isBlank l.rest).rest
      · obtain ⟨passed, cs, line, line'⟩ := startLine_of_lineEnd ends blocks
        rw [starts, line] at step
        cases step
        have first' := leads_of_step (l := l.inside blocks) owes active (starts'.trans line')
        have none : (l.skip passed cs).pending = [] := owes
        have outside' : (l.skip passed cs).idle.Outside :=
          ⟨rfl, outside.mode, outside.closed, outside.indents⟩
        rw [none, Lexemes.after_nil] at noIndent faultless
        obtain ⟨p, closes⟩ := ih faultless outside' noIndent
        rw [none] at first
        rw [show ((l.skip passed cs).inside blocks).pending = [] from owes] at first'
        exact ⟨p, by simpa using (first'.trans closes).trans first.back⟩
      · generalize run : HtmlTemplate.Run.takeWhile isBlank l.rest = read at ends
        obtain ⟨indent, _ | ⟨c, cs⟩⟩ := read
        · exact absurd .source ends
        · have noIndent' : ∀ t ∈ l'.pending.head?, t.token ≠ .indent := by
            intro t mem
            exact noIndent t (by simp [Lexemes.after, Option.mem_def.mp mem])
          have line' := outside.startLine_inside nested run ends (starts ▸ step) noIndent'
          have first' := leads_of_step (l := l.inside blocks) owes active (starts'.trans line')
          exact ⟨l.offset, .of_common first' first⟩

end

end Lexer

/-- The lexer that has read one source, in front of another, is the one that begins to read there,
but for the blocks that are still open. -/
theorem Lexer.within_eq_inside {m : Markers} {a b : List Char} {l : Lexer} (atEnd : l.AtEnd)
    (markers : l.markers = m) (offset : l.offset = byteLength a) :
    l.within 0 b =
      (Lexer.within (byteLength a) [] { markers := m, rest := b }).inside l.indents := by
  obtain ⟨⟩ := l
  obtain ⟨rfl, rfl, rfl, rfl⟩ := atEnd
  cases markers
  cases offset
  simp [within, inside]

/-- The lexemes of two sources put together, of which the first ends its last line and the second
does not begin with an indentation. -/
theorem Lexemes.ofSource_append {m : Markers} {a b : List Char} (ends : EndsLine a)
    (faultless : (ofSource m a).fault = none) (faultless' : (ofSource m b).fault = none)
    (noIndent : ∀ t ∈ (ofSource m b).list.head?, t.token ≠ .indent) :
    ∃ ts n p q, (ofSource m a).list = ts ++ List.replicate n ⟨.dedent, p, []⟩ ∧
      ofSource m (a ++ b) = ⟨ts ++ List.replicate n ⟨.dedent, q, []⟩ ++
        (ofSource m b).list.map (Lexeme.shift (byteLength a)), none⟩ := by
  have run : Lexer.Run { markers := m, rest := a } (ofSource m a) := Lexer.run_lexemes rfl
  obtain ⟨l, ts, steps, atEnd⟩ := run.steps_to_end faultless (by simp) ends fun _ => .inl rfl
  have nested : l.indents.Nested := steps.nested trivial
  have offset : l.offset = byteLength a := by
    have sum := steps.offset
    rwa [atEnd.rest, byteLength_nil, Nat.add_zero, Nat.zero_add] at sum
  have first : (ofSource m a).list =
      ts ++ List.replicate l.indents.length ⟨.dedent, l.offset, []⟩ := by
    have leads : (ofSource m a) = l.lexemes.after ts := steps.leads
    rw [leads, atEnd.lexemes]
    rfl
  have run' : Lexer.Run { markers := m, rest := b } (ofSource m b) := Lexer.run_lexemes rfl
  have shifted := run'.lexemes_within (byteLength a)
  have closing : Lexer.Run (Lexer.within (byteLength a) [] { markers := m, rest := b })
      ((ofSource m b).shift (byteLength a)) := shifted ▸ Lexer.run_lexemes rfl
  have outside : (Lexer.within (byteLength a) [] { markers := m, rest := b }).Outside :=
    ⟨rfl, rfl, rfl, rfl⟩
  have noIndent' : ∀ t ∈ ((ofSource m b).shift (byteLength a)).list.head?, t.token ≠ .indent := by
    intro t mem
    simp only [shift, List.head?_map, Option.mem_def, Option.map_eq_some_iff] at mem
    obtain ⟨u, mem, rfl⟩ := mem
    exact noIndent u mem
  obtain ⟨q, closes⟩ := closing.leads_closing (by simp [shift, faultless']) outside noIndent' nested
  have through := steps.within ends 0 b
  rw [Lexer.within_eq_inside atEnd steps.markers offset] at through
  have leads := through.leads.trans closes
  refine ⟨ts, l.indents.length, l.offset, q, first, ?_⟩
  have whole : ofSource m (a ++ b) =
      Lexemes.after _
        (ts.map (Lexeme.shift 0) ++ List.replicate l.indents.length ⟨.dedent, q, []⟩) :=
    leads
  rw [whole, shifted]
  simp [after, shift, faultless']

end HtmlTemplate
