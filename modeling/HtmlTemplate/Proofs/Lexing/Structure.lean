import HtmlTemplate.Proofs.Lexing.Layout
import HtmlTemplate.Proofs.Lexing.Levels
import HtmlTemplate.Proofs.Lexing.States

/-!
# Structure of a source

A lexer finds lexemes in the order of their lines. Which lines it accepts depends on the blocks that
are open: a line stays in the innermost block, opens another one in it, or returns to one that is
open around it. Any other indentation is a fault.
-/

namespace HtmlTemplate

theorem levelAfter_change {start : Nat} {indent : List Char} {blocks blocks' : Indents}
    {changes : List Lexeme} (change : blocks.change? start indent = some (blocks', changes)) :
    levelAfter blocks.length changes = some blocks'.length := by
  simp only [Indents.change?] at change
  split at change
  · cases change
    rfl
  · split at change
    · cases change
      rfl
    · obtain ⟨r, returns, eq⟩ := Option.map_eq_some_iff.mp change
      cases eq
      rw [← Indents.length_returnTo? returns]
      exact levelAfter_replicate ..

namespace Lexer

variable {l l' : Lexer} {found : Lexemes} {p : Place}

/-- The place in its line that a lexer has come to. A statement of which nothing has been found yet
is still at its start. -/
inductive At (l : Lexer) : Place → Prop where
  | start (mode : l.mode ≠ .text ∧ l.mode ≠ .splice) (closed : l.nesting = []) : At l .start
  | statement {opened : List Bracket} (mode : l.mode = .statement)
      (nesting : l.nesting.map (·.1) = opened) : At l (.statement opened)
  | text (mode : l.mode = .text) (closed : l.nesting = []) : At l .text
  | splice {opened : List Bracket} (mode : l.mode = .splice)
      (nesting : l.nesting.map (·.1) = opened) : At l (.splice opened)

/-- A word or a sign is found between brackets of any kind. -/
theorem Spelling.brackets {token : Token} {chars : List Char} (spelling : Spelling token chars)
    (opened : List Bracket) : token.brackets opened = some opened := by
  have plain : ∀ token ∈ reservedWords.map (·.2), token.brackets opened = some opened := by
    simp [reservedWords, Keyword.all, Token.brackets, Token.isInner]
  cases spelling with
  | punctuation is =>
    simp only [Lexer.punctuation] at is
    split at is <;> cases is <;> rfl
  | string | number => rfl
  | word =>
    rcases Token.ofWord_mem _ with identifier | reserved
    · rw [identifier]
      rfl
    · exact plain _ reserved

/-- Within a statement or a splice only the brackets change. -/
theorem At.takes {t : Lexeme} {opened : List Bracket} (at' : l.At p)
    (mode : l.mode = .statement ∨ l.mode = .splice)
    (brackets : t.token.brackets (l.nesting.map (·.1)) = some opened) (mode' : l'.mode = l.mode)
    (nesting' : l'.nesting.map (·.1) = opened) (one : l'.pending = [t]) :
    ∃ q, p.Reads l'.pending q ∧ l'.At q := by
  rw [one]
  cases at' with
  | start other closed =>
    rw [closed] at brackets
    exact ⟨_, .single (.first brackets),
      .statement (mode'.trans (mode.resolve_right other.2)) nesting'⟩
  | text other => simp [other] at mode
  | statement mode nesting =>
    rw [nesting] at brackets
    exact ⟨_, .single (.statement brackets), .statement (mode'.trans mode) nesting'⟩
  | splice mode nesting =>
    rw [nesting] at brackets
    exact ⟨_, .single (.splice brackets), .splice (mode'.trans mode) nesting'⟩

theorem At.of_same (at' : l.At p) (mode : l'.mode = l.mode) (nesting : l'.nesting = l.nesting) :
    l'.At p := by
  cases at' with
  | start other closed => exact .start (mode ▸ other) (nesting ▸ closed)
  | statement is same => exact .statement (mode.trans is) (nesting ▸ same)
  | text is closed => exact .text (mode.trans is) (nesting.trans closed)
  | splice is same => exact .splice (mode.trans is) (nesting ▸ same)

theorem reads_layout {ts : List Lexeme} (layout : ∀ t ∈ ts, t.token = .indent ∨ t.token = .dedent) :
    Place.start.Reads ts .start := by
  induction ts with
  | nil => exact .nil _
  | cons t ts ih =>
    obtain ⟨first, later⟩ := List.forall_mem_cons.mp layout
    exact .cons (.change first) (ih later)

theorem At.lineStart (at' : l.At p) (mode : l.mode = .lineStart) : p = .start := by
  cases at' with
  | start => rfl
  | statement other | text other | splice other => simp [other] at mode

theorem At.closed (at' : l.At .start) : l.nesting = [] := by
  cases at'
  assumption

theorem At.inText (at' : l.At p) (mode : l.mode = .text) : p = .text ∧ l.nesting = [] := by
  cases at' with
  | start other => exact absurd mode other.1
  | text _ closed => exact ⟨rfl, closed⟩
  | statement other | splice other => simp [other] at mode

theorem At.inSplice (at' : l.At p) (mode : l.mode = .splice) (closed : l.nesting = []) :
    p = .splice [] := by
  cases at' with
  | start other => exact absurd mode other.2
  | splice _ nesting => rw [← nesting, closed, List.map_nil]
  | statement other | text other => simp [other] at mode

/-- A line may end wherever no bracket and no splice is open. -/
theorem At.ends (at' : l.At p) (closed : l.nesting = []) (mode : l.mode ≠ .splice) :
    p.Takes .newline .start := by
  cases at' with
  | start => exact .emptyLine
  | statement _ nesting =>
    rw [← nesting, closed]
    exact .endLine
  | text => exact .endText
  | splice splice => exact absurd splice mode

/-- What a move finds is read from the place of the lexer to the next one. -/
theorem Moves.reads (move : l.Moves l') (owes : l.pending = []) (at' : l.At p) :
    ∃ q, p.Reads l'.pending q ∧ l'.At q := by
  have stays (mode : l'.mode = l.mode) (nesting : l'.nesting = l.nesting) (none : l'.pending = []) :
      ∃ q, p.Reads l'.pending q ∧ l'.At q := ⟨p, none ▸ .nil p, at'.of_same mode nesting⟩
  have finds {t : Lexeme} {q : Place} (one : l'.pending = [t]) (takes : p.Takes t.token q)
      (next : l'.At q) : ∃ q, p.Reads l'.pending q ∧ l'.At q := ⟨q, one ▸ .single takes, next⟩
  cases move with
  | finish source closed mode =>
    refine ⟨.start, ?_, .start ⟨by simp, by simp⟩ closed⟩
    simp only [owes, List.nil_append, ending]
    have dedents : Place.start.Reads
        (List.replicate l.indents.length ⟨.dedent, l.offset, []⟩) .start :=
      reads_layout fun t inDedents => .inr (by rw [List.eq_of_mem_replicate inDedents])
    split
    · next start =>
      cases at'.lineStart start
      exact dedents
    · exact .cons (at'.ends closed mode) dedents
  | blankLine mode => exact stays rfl rfl owes
  | line mode source blank ink goesOn change =>
    cases at'.lineStart mode
    refine ⟨.start, ?_, .start ⟨by simp, by simp⟩ at'.closed⟩
    simp only [enterLine, owes, List.nil_append]
    exact reads_layout fun t mem => token_of_mem_changes change mem
  | textLine mode source blank ink goesOn change =>
    cases at'.lineStart mode
    refine ⟨.text, ?_, .text rfl at'.closed⟩
    simp only [enterLine, emit, skip, owes, List.nil_append]
    exact (reads_layout fun t mem => token_of_mem_changes change mem).append (.single .marker)
  | text mode | lineText mode =>
    obtain ⟨rfl, closed⟩ := at'.inText mode
    exact finds (pending_append owes _) .text (.text mode closed)
  | endTextLine mode =>
    obtain ⟨rfl, closed⟩ := at'.inText mode
    exact finds (pending_append owes _) .endText (.start ⟨by simp, by simp⟩ closed)
  | openSplice mode =>
    obtain ⟨rfl, closed⟩ := at'.inText mode
    exact finds (pending_append owes _) .openSplice (.splice rfl (congrArg _ closed))
  | closeSplice mode closed =>
    cases at'.inSplice mode closed
    exact finds (pending_append owes _) .closeSplice (.text rfl closed)
  | token mode source spelling =>
    exact at'.takes mode (spelling.brackets _) rfl rfl (pending_append owes _)
  | openBracket mode => exact at'.takes mode rfl rfl rfl (pending_append owes _)
  | @closeBracket b c cs start outer mode source bracket nesting =>
    have closes : (Token.closing b).brackets (l.nesting.map (·.1)) = some (outer.map (·.1)) := by
      simp [nesting, Token.brackets]
    exact at'.takes mode closes rfl rfl (pending_append owes _)
  | joinLine | gap => exact stays rfl rfl owes
  | endLine mode source closed =>
    refine finds (pending_append owes _) ?_ (.start ⟨by simp, by simp⟩ closed)
    exact at'.ends closed (by simp [mode])

theorem Moves.ended (move : l.Moves l') (active : l.mode ≠ .done) (ended : l'.mode = .done) :
    l'.indents = [] := by
  cases move with
  | finish => rfl
  | line | textLine | endTextLine | openSplice | closeSplice | endLine => cases ended
  | _ => exact absurd ended active

/-- The blocks that are open follow the levels of what is found. -/
theorem Moves.level (move : l.Moves l') (owes : l.pending = []) :
    levelAfter l.indents.length l'.pending = some l'.indents.length := by
  have single {t : Lexeme} {n : Nat} (flat : t.token.isFlat = true) : levelAfter n [t] = some n :=
    (flat_cons rfl flat flat_nil).levelAfter n
  have finds {t : Lexeme} (one : l'.pending = [t]) (flat : t.token.isFlat = true)
      (same : l'.indents = l.indents) :
      levelAfter l.indents.length l'.pending = some l'.indents.length := by
    rw [one, same, single flat]
  cases move with
  | finish =>
    simp only [owes, List.nil_append, ending, levelAfter_append]
    have dedents := levelAfter_replicate 0 l.indents.length l.offset
    rw [Nat.zero_add] at dedents
    split
    · exact dedents
    · rw [single rfl]
      exact dedents
  | line mode source blank ink goesOn change =>
    simp only [enterLine, owes, List.nil_append]
    exact levelAfter_change change
  | textLine mode source blank ink goesOn change =>
    simp only [enterLine, emit, skip, owes, List.nil_append]
    rw [levelAfter_append, levelAfter_change change, Option.bind_some]
    exact single rfl
  | token mode source spelling => exact finds (pending_append owes _) spelling.isFlat rfl
  | text | lineText | endTextLine | openSplice | closeSplice | openBracket | closeBracket
  | endLine => exact finds (pending_append owes _) rfl rfl
  | blankLine | joinLine | gap =>
    simp only [skip, owes]
    rfl

/-- A run to the end of the source reads on to where a line would start, outside of all blocks. -/
theorem Run.reads (run : l.Run found) (faultless : found.fault = none) (at' : l.At p)
    (ended : l.mode = .done → l.indents = []) :
    p.Reads found.list .start ∧ levelAfter l.indents.length found.list = some 0 := by
  induction run generalizing p with
  | @done l owes mode =>
    cases at' with
    | start =>
      rw [ended mode]
      exact ⟨.nil _, rfl⟩
    | statement other | text other | splice other => simp [mode] at other
  | fault => cases faultless
  | @step l l' later owes active step _ ih =>
    have move := moves_of_step active step
    obtain ⟨q, reads, next⟩ := move.reads owes at'
    obtain ⟨reads', level⟩ := ih faultless (next.of_same rfl rfl) (move.ended active)
    refine ⟨reads.append reads', ?_⟩
    rw [Lexemes.after, levelAfter_append, move.level owes, Option.bind_some]
    exact level

/-- In a line of which something has been read, be it only its indentation. -/
def InLine (l : Lexer) : Prop := l.mode = .statement ∨ l.mode = .text ∨ l.mode = .splice

/-- Behind a line, where only dedents may be owed. -/
structure BehindLine (l : Lexer) : Prop where
  mode : l.mode = .lineStart ∨ l.mode = .done
  owes : ∀ t ∈ l.pending, t.token = .dedent

/-- A move stays in its line or ends it. -/
theorem Moves.inLine_or_ends (move : l.Moves l') (owes : l.pending = []) (within : l.InLine) :
    (l'.InLine ∧ ∀ t ∈ l'.pending, t.token.isLayout = false) ∨
      ∃ newline later, l'.pending = newline :: later ∧ newline.token = .newline ∧
        BehindLine { l' with pending := later } := by
  have found {token : Token} {chars : List Char} (other : token.isLayout = false) :
      ∀ t ∈ l.pending ++ [⟨token, l.offset, chars⟩], t.token.isLayout = false := by
    simp [owes, other]
  have noMore : ∀ t ∈ ([] : List Lexeme), t.token = .dedent := List.forall_mem_nil _
  cases move with
  | finish =>
    have started : l.mode ≠ .lineStart := by rcases within with is | is | is <;> simp [is]
    refine .inr ⟨⟨.newline, l.offset, []⟩,
      List.replicate l.indents.length ⟨.dedent, l.offset, []⟩, ?_, rfl, .inr rfl, ?_⟩
    · simp only [owes, ending, if_neg started]
      rfl
    · intro t mem
      rw [List.eq_of_mem_replicate mem]
  | blankLine mode | line mode | textLine mode =>
    rcases within with is | is | is <;> simp [mode] at is
  | text mode => exact .inl ⟨within, found rfl⟩
  | lineText mode => exact .inl ⟨within, found rfl⟩
  | endTextLine =>
    exact .inr ⟨_, [], pending_append owes _, rfl, .inl rfl, noMore⟩
  | openSplice => exact .inl ⟨.inr (.inr rfl), found rfl⟩
  | closeSplice => exact .inl ⟨.inr (.inl rfl), found rfl⟩
  | token mode source spelling =>
    exact .inl ⟨within, found (Token.isLayout_of_isInner spelling.isInner)⟩
  | openBracket | closeBracket => exact .inl ⟨within, found rfl⟩
  | joinLine | gap => exact .inl ⟨within, fun t mem => by simp [skip, owes] at mem⟩
  | endLine => exact .inr ⟨_, [], pending_append owes _, rfl, .inl rfl, noMore⟩

/-- What is read of a line is followed by its end, and the next line begins behind that. -/
theorem Run.line (run : l.Run found) (faultless : found.fault = none) (within : l.InLine) :
    ∃ line newline l', l.Reaches l' ∧ l.Leads (line ++ [newline]) l' ∧
      (∀ t ∈ line, t.token.isLayout = false) ∧ newline.token = .newline ∧ l'.BehindLine := by
  induction run with
  | done _ mode => rcases within with is | is | is <;> simp [mode] at is
  | fault => cases faultless
  | @step l l' later owes active step _ ih =>
    have reached := Reaches.step (.refl l) owes active step
    rcases (moves_of_step active step).inLine_or_ends owes within with
      ⟨within', inLine⟩ | ⟨newline, dedents, owed, is, behind⟩
    · obtain ⟨line, newline, l'', reaches, leads, inLine', is, behind⟩ := ih faultless within'
      refine ⟨l'.pending ++ line, newline, l'', (reached.trans l'.reaches_idle).trans reaches, ?_,
        List.forall_mem_append.mpr ⟨inLine, inLine'⟩, is, behind⟩
      rw [List.append_assoc]
      exact (leads_of_step owes active step).trans leads
    · refine ⟨[], newline, _, reached.trans (.give (.refl l') owed), ?_, List.forall_mem_nil _, is,
        behind⟩
      rw [Leads, lexemes_of_step owes active step, ← lexemes_eq_after_pending,
        lexemes_of_pending owed]
      rfl

/-! ## Lines that say something -/

/-- Such a line is ahead, with its indentation in front of its first character. -/
structure LineAhead (l : Lexer) (indent : List Char) (c : Char) (cs : List Char) : Prop where
  mode : l.mode = .lineStart
  owes : l.pending = []
  rest : l.rest = indent ++ c :: cs
  blank : ∀ d ∈ indent, isBlank d = true
  ink : isBlank c = false
  goesOn : ¬ LineEnd (c :: cs)

variable {indent cs : List Char} {c : Char}

/-- A line is accepted just if it belongs to some of the blocks. -/
theorem LineAhead.step (ahead : l.LineAhead indent c cs) (nested : l.indents.Nested) :
    (∀ blocks tokens, Indents.Change indent l.indents blocks tokens →
        ∃ l', l.step = .ok l' ∧ l'.indents = blocks ∧ l'.InLine ∧
          l'.pending.map (·.token) = tokens ++ if c = l.markers.text then [.marker] else []) ∧
      ((¬ ∃ blocks tokens, Indents.Change indent l.indents blocks tokens) →
        l.step = .error ⟨⟨l.offset, l.offset + byteLength indent⟩, .indentation⟩) := by
  have run : HtmlTemplate.Run.takeWhile isBlank l.rest = ⟨indent, c :: cs⟩ :=
    ahead.rest ▸ Run.takeWhile_append_of_holds ahead.blank ahead.ink
  have step : l.step = l.startLine := step_of_lineStart ahead.mode (by simp [ahead.rest])
  rw [step, startLine_of_goesOn run ahead.goesOn]
  constructor
  · intro blocks tokens change
    obtain ⟨changes, change', rfl⟩ := (nested.change?_iff l.offset).mp change
    rw [change']
    by_cases marked : c = l.markers.text
    · exact ⟨_, if_pos marked, rfl, .inr (.inl rfl),
        by simp [emit, enterLine, skip, ahead.owes, marked]⟩
    · exact ⟨_, if_neg marked, rfl, .inl rfl, by simp [enterLine, skip, ahead.owes, marked]⟩
  · intro none
    cases change : l.indents.change? l.offset indent with
    | none => rfl
    | some r => exact (none ⟨r.1, _, (nested.change?_iff l.offset).mpr ⟨r.2, change, rfl⟩⟩).elim

/-- The move into a line changes the blocks first. -/
theorem Moves.enters (move : l.Moves l') (owes : l.pending = []) (mode : l.mode = .lineStart)
    (within : l'.InLine) : ∃ changes marker, l'.pending = changes ++ marker ∧
      (∀ t ∈ changes, t.token = .indent ∨ t.token = .dedent) ∧
      ∀ t ∈ marker, t.token.isLayout = false := by
  cases move with
  | line _ source blank ink goesOn change =>
    exact ⟨_, [], by simp only [enterLine, owes, List.append_nil]; rfl,
      fun t mem => token_of_mem_changes change mem, List.forall_mem_nil _⟩
  | textLine _ source blank ink goesOn change =>
    exact ⟨_, [_], by simp only [emit, enterLine, skip, owes]; rfl,
      fun t mem => token_of_mem_changes change mem, List.forall_mem_singleton.mpr rfl⟩
  | finish | blankLine | endTextLine | endLine =>
    rcases within with is | is | is <;> simp_all [skip]
  | text other | lineText other | openSplice other | closeSplice other => simp [mode] at other
  | token other | openBracket other | closeBracket other | joinLine other | gap other =>
    simp [mode] at other

/-- A line is read as changes of the blocks, what it says, and its end. -/
theorem LineAhead.line (ahead : l.LineAhead indent c cs) (nested : l.indents.Nested)
    (faultless : l.lexemes.fault = none) :
    ∃ changes line newline l', l.Reaches l' ∧ l.Leads (changes ++ line ++ [newline]) l' ∧
      (∀ t ∈ changes, t.token = .indent ∨ t.token = .dedent) ∧
      (∀ t ∈ line, t.token.isLayout = false) ∧ newline.token = .newline ∧ l'.BehindLine := by
  have active : l.mode ≠ .done := by simp [ahead.mode]
  obtain ⟨accepts, rejects⟩ := ahead.step nested
  by_cases belongs : ∃ blocks tokens, Indents.Change indent l.indents blocks tokens
  · obtain ⟨blocks, tokens, change⟩ := belongs
    obtain ⟨l', step, -, within, -⟩ := accepts blocks tokens change
    obtain ⟨changes, marker, found, levels, said⟩ :=
      (moves_of_step active step).enters ahead.owes ahead.mode within
    have leads := leads_of_step ahead.owes active step
    have faultless' : l'.idle.lexemes.fault = none := by
      rw [leads] at faultless
      exact faultless
    obtain ⟨line, newline, l'', reaches, leads', said', is, behind⟩ :=
      (run_lexemes l'.idle_pending).line faultless' within
    have reached := Reaches.step (.refl l) ahead.owes active step
    refine ⟨changes, marker ++ line, newline, l'',
      (reached.trans l'.reaches_idle).trans reaches, ?_, levels,
      List.forall_mem_append.mpr ⟨said, said'⟩, is, behind⟩
    have whole := leads.trans leads'
    rw [found] at whole
    simpa using whole
  · rw [lexemes_of_fault ahead.owes active (rejects belongs)] at faultless
    cases faultless

end Lexer

/-- The open blocks of a lexer lie within each other, and a line is accepted just if it belongs to
some of them. The lexemes of a source without a fault are well structured, and each line that says
something has a line end of its own. -/
theorem Lexemes.structured (m : Markers) (source : List Char) :
    (∀ l, Lexer.Reaches { markers := m, rest := source } l →
      ((l.indents ++ [[]]).IsChain fun inner outer =>
        outer <+: inner ∧ outer.length < inner.length) ∧
      ∀ indent c cs, l.LineAhead indent c cs →
        (∀ blocks tokens, Indents.Change indent l.indents blocks tokens →
          ∃ l', l.step = .ok l' ∧ l'.indents = blocks ∧ l'.InLine ∧
            l'.pending.map (·.token) = tokens ++ if c = m.text then [.marker] else []) ∧
        ((¬ ∃ blocks tokens, Indents.Change indent l.indents blocks tokens) →
          l.step = .error ⟨⟨l.offset, l.offset + byteLength indent⟩, .indentation⟩)) ∧
    ((ofSource m source).fault = none → WellStructured (ofSource m source).list ∧
      ∀ l indent c cs, Lexer.Reaches { markers := m, rest := source } l →
        l.LineAhead indent c cs →
        ∃ changes line newline l', l.Reaches l' ∧ l.Leads (changes ++ line ++ [newline]) l' ∧
          (∀ t ∈ changes, t.token = .indent ∨ t.token = .dedent) ∧
          (∀ t ∈ line, t.token.isLayout = false) ∧ newline.token = .newline ∧ l'.BehindLine) := by
  constructor
  · intro l reached
    have nested := reached.nested trivial
    refine ⟨nested.isChain, fun indent c cs ahead => ?_⟩
    have step := ahead.step nested
    rwa [reached.markers] at step
  · intro faultless
    have run : Lexer.Run { markers := m, rest := source } (ofSource m source) :=
      Lexer.run_lexemes rfl
    have start : Lexer.At { markers := m, rest := source } .start := .start ⟨by simp, by simp⟩ rfl
    obtain ⟨reads, level⟩ := run.reads faultless start nofun
    refine ⟨wellStructured reads level, fun l indent c cs reached ahead => ?_⟩
    obtain ⟨ts, leads⟩ := reached.leads
    have faultless' : l.lexemes.fault = none := by
      rw [ofSource, leads] at faultless
      exact faultless
    exact ahead.line (reached.nested trivial) faultless'

/-- A call in a splice, in a text line within a block. -/
theorem Lexemes.structured_call :
    (∃ l', Lexer.step { markers := .standard, rest := "p:\n\t-\x7bf(x)\x7d".toList } = .ok l' ∧
      l'.indents = [] ∧ l'.InLine ∧ l'.pending.map (·.token) = []) ∧
    WellStructured [⟨.identifier, 0, ['p']⟩, ⟨.colon, 1, [':']⟩, ⟨.newline, 2, ['\n']⟩,
      ⟨.indent, 3, ['\t']⟩, ⟨.marker, 4, ['-']⟩, ⟨.openSplice, 5, ['{']⟩,
      ⟨.identifier, 6, ['f']⟩, ⟨.opening .round, 7, ['(']⟩, ⟨.identifier, 8, ['x']⟩,
      ⟨.closing .round, 9, [')']⟩, ⟨.closeSplice, 10, ['}']⟩, ⟨.newline, 11, []⟩,
      ⟨.dedent, 11, []⟩] := by
  have lexemes : ofSource .standard "p:\n\t-\x7bf(x)\x7d".toList =
      ⟨[⟨.identifier, 0, ['p']⟩, ⟨.colon, 1, [':']⟩, ⟨.newline, 2, ['\n']⟩,
        ⟨.indent, 3, ['\t']⟩, ⟨.marker, 4, ['-']⟩, ⟨.openSplice, 5, ['{']⟩,
        ⟨.identifier, 6, ['f']⟩, ⟨.opening .round, 7, ['(']⟩, ⟨.identifier, 8, ['x']⟩,
        ⟨.closing .round, 9, [')']⟩, ⟨.closeSplice, 10, ['}']⟩, ⟨.newline, 11, []⟩,
        ⟨.dedent, 11, []⟩], none⟩ :=
    ofSource_of_within (n := 20) (by decide +kernel)
  obtain ⟨lines, stream⟩ := structured .standard "p:\n\t-\x7bf(x)\x7d".toList
  have ahead : Lexer.LineAhead { markers := .standard, rest := "p:\n\t-\x7bf(x)\x7d".toList }
      [] 'p' ":\n\t-\x7bf(x)\x7d".toList :=
    ⟨rfl, rfl, rfl, List.forall_mem_nil _, rfl, nofun⟩
  have first := ((lines _ (.refl _)).2 _ _ _ ahead).1 [] [] (.same rfl)
  have streamed := (stream (congrArg Lexemes.fault lexemes)).1
  rw [lexemes] at streamed
  exact ⟨first, streamed⟩

end HtmlTemplate
