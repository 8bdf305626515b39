import HtmlTemplate.Proofs.Grammar.Levels
import HtmlTemplate.Proofs.Lexing.Concatenation

/-!
# Levels of a lexer

The open blocks of a lexer follow the levels of its lexemes. As long as these do not go below the
level of some blocks, the blocks stay open and all others lie within them.
-/

namespace HtmlTemplate

namespace Indents

/-- Some blocks are open, and `k` more within them. -/
structure Above (indents blocks : Indents) (k : Nat) : Prop where
  base : blocks <:+ indents
  level : indents.length = k + blocks.length

/-- A line that goes back by no more than `n` levels leaves the blocks below them open. -/
theorem Above.change? {blocks indents indents' : Indents} {n k start : Nat} {indent : List Char}
    {changes : List Lexeme} (above : indents.Above blocks n)
    (change : indents.change? start indent = some (indents', changes))
    (level : levelAfter n changes = some k) : indents'.Above blocks k := by
  have height := above.level
  simp only [Indents.change?] at change
  split at change
  · cases change
    cases level
    exact above
  · split at change
    · cases change
      cases level
      refine ⟨above.base.trans (List.suffix_cons ..), ?_⟩
      rw [List.length_cons]
      omega
    · obtain ⟨r, returns, eq⟩ := Option.map_eq_some_iff.mp change
      cases eq
      have total := length_returnTo? returns
      have down := levelAfter_dedents (fun t mem => by rw [List.eq_of_mem_replicate mem]) level
      rw [List.length_replicate] at down
      have suffix := suffix_of_returnTo? returns
      exact ⟨List.suffix_of_suffix_length_le above.base suffix (by omega), by omega⟩

end Indents

namespace Lexer

variable {l l' : Lexer} {blocks : Indents} {ts us : List Lexeme} {n k : Nat}

/-! ## Ends of lines -/

theorem Moves.landing (move : l.Moves l') (owes : l.pending = []) (lands : l'.mode = .lineStart) :
    (l.mode = .lineStart ∧ l'.pending = []) ∨ ∃ t, l'.pending = [t] ∧ t.token = .newline := by
  have stays {mode : Mode} (before : l.mode = mode) (behind : l.mode = .lineStart)
      (other : mode ≠ .lineStart) : False := other (before.symm.trans behind)
  cases move with
  | finish | line | textLine | openSplice | closeSplice => cases lands
  | blankLine mode => exact .inl ⟨mode, owes⟩
  | endTextLine | endLine => exact .inr ⟨_, by simp [emit, skip, owes]; rfl, rfl⟩
  | text mode | lineText mode => exact (stays mode lands (by decide)).elim
  | token mode | openBracket mode | closeBracket mode | joinLine mode | gap mode =>
    rcases mode with mode | mode <;> exact (stays mode lands (by decide)).elim

/-- What was found up to the start of a line ends with a line end. -/
theorem Steps.landing (steps : Steps l ts l') (lands : l'.mode = .lineStart) :
    (l.mode = .lineStart ∧ ts = []) ∨ ∃ front t, ts = front ++ [t] ∧ t.token = .newline := by
  induction steps with
  | refl => exact .inl ⟨lands, rfl⟩
  | @step l l' l'' ts owes active more step later ih =>
    rcases ih lands with ⟨mode, rfl⟩ | ⟨front, t, rfl, newline⟩
    · rw [List.append_nil]
      rcases (moves_of_step active step).landing owes mode with ⟨mode', none⟩ | ⟨t, one, newline⟩
      · exact .inl ⟨mode', none⟩
      · exact .inr ⟨[], t, one, newline⟩
    · exact .inr ⟨l'.pending ++ front, t, (List.append_assoc ..).symm, newline⟩

/-! ## Open blocks -/

theorem Spelling.isInner {token : Token} {chars : List Char} (spelling : Spelling token chars) :
    token.isInner = true := by
  have words : ∀ token ∈ reservedWords.map (·.2), token.isInner = true := by decide
  cases spelling with
  | punctuation is =>
    simp only [Lexer.punctuation] at is
    split at is <;> cases is <;> rfl
  | string | number => rfl
  | word =>
    rcases Token.ofWord_mem _ with identifier | reserved
    · rw [identifier]
      rfl
    · exact words _ reserved

theorem Spelling.isFlat {token : Token} {chars : List Char} (spelling : Spelling token chars) :
    token.isFlat = true := Token.isFlat_of_isInner spelling.isInner

theorem Moves.above (move : l.Moves l') (owes : l.pending = []) (more : l.rest ≠ [])
    (above : l.indents.Above blocks n) (level : levelAfter n l'.pending = some k) :
    l'.indents.Above blocks k := by
  have single {t : Lexeme} (flat : t.token.isFlat = true) (level : levelAfter n [t] = some k) :
      n = k := Option.some.inj (((flat_cons rfl flat flat_nil).levelAfter n).symm.trans level)
  cases move with
  | finish source => exact absurd source more
  | line mode source blank ink goesOn change =>
    simp only [enterLine, owes, List.nil_append] at level
    exact above.change? change level
  | textLine mode source blank ink goesOn change =>
    simp only [enterLine, emit, skip, owes, List.nil_append] at level
    rw [levelAfter_append] at level
    obtain ⟨j, changed, marker⟩ := Option.bind_eq_some_iff.mp level
    cases marker
    exact above.change? change changed
  | blankLine | joinLine | gap =>
    simp only [skip, owes] at level
    cases level
    exact above
  | token mode source spelling =>
    simp only [emit, skip, owes, List.nil_append] at level
    cases single spelling.isFlat level
    exact above
  | text | lineText | endTextLine | openSplice | closeSplice | closeBracket | endLine =>
    simp only [emit, skip, owes, List.nil_append] at level
    cases level
    exact above
  | openBracket =>
    simp only [Lexer.openBracket, emit, skip, owes, List.nil_append] at level
    cases level
    exact above

theorem Steps.above (steps : Steps l ts l') (above : l.indents.Above blocks n)
    (level : levelAfter n ts = some k) : l'.indents.Above blocks k := by
  induction steps generalizing n with
  | refl =>
    cases level
    exact above
  | step owes active more step later ih =>
    rw [levelAfter_append] at level
    obtain ⟨j, first, level⟩ := Option.bind_eq_some_iff.mp level
    exact ih ((moves_of_step active step).above owes more above first) level

/-- No dedent of an open block stands at the start of a line before the source has ended. -/
theorem Steps.no_dedent_last (steps : Steps l ts l') (start : l'.mode = .lineStart)
    {vs dedents : List Lexeme} (closing : ∀ t ∈ dedents, t.token = .dedent)
    (whole : ts = vs ++ dedents) : dedents = [] := by
  by_contra some
  rcases steps.landing start with ⟨-, rfl⟩ | ⟨front, t, rfl, newline⟩
  · exact some (List.append_eq_nil_iff.mp whole.symm).2
  · have last : dedents.getLast? = Option.some t := by
      rw [← List.getLast?_append_of_ne_nil vs some, ← whole, List.getLast?_concat]
    rw [closing t (List.mem_of_getLast? last)] at newline
    cases newline

/-- Lexemes that end on their level, with as many dedents behind them as there were blocks open in
front of them. All those blocks are still open at the end of the source. -/
theorem Steps.ends_within (steps : Steps l ts l') (atEnd : l'.AtEnd) {vs dedents : List Lexeme}
    (balanced : Balanced vs) (closing : ∀ t ∈ dedents, t.token = .dedent)
    (number : dedents.length = l.indents.length)
    (whole : ts ++ List.replicate l'.indents.length ⟨.dedent, l'.offset, []⟩ = vs ++ dedents) :
    ∃ inner, l'.indents = inner ++ l.indents ∧
      vs = ts ++ List.replicate inner.length ⟨.dedent, l'.offset, []⟩ := by
  have total := congrArg List.length whole
  simp only [List.length_append, List.length_replicate] at total
  have enough : l.indents.length ≤ l'.indents.length := by
    by_contra less
    have front : ts = vs ++ dedents.take (dedents.length - l'.indents.length) := by
      have split := List.take_append_drop (dedents.length - l'.indents.length) dedents
      rw [← split, ← List.append_assoc] at whole
      refine (List.append_inj' whole ?_).1
      rw [List.length_replicate, List.length_drop]
      omega
    have none := steps.no_dedent_last atEnd.mode (fun t mem => closing t (List.mem_of_mem_take mem))
      front
    have length := congrArg List.length none
    rw [List.length_take, List.length_nil] at length
    omega
  have inside : ts ++ List.replicate (l'.indents.length - l.indents.length)
      ⟨.dedent, l'.offset, []⟩ = vs := by
    rw [← Nat.sub_add_cancel enough, ← List.replicate_append_replicate,
      ← List.append_assoc] at whole
    exact (List.append_inj' whole (by rw [List.length_replicate, number])).1
  have level := balanced 0
  rw [← inside, levelAfter_append] at level
  obtain ⟨j, first, level⟩ := Option.bind_eq_some_iff.mp level
  have down := levelAfter_dedents (fun t mem => by rw [List.eq_of_mem_replicate mem]) level
  have above : l.indents.Above l.indents 0 := ⟨List.suffix_refl _, (Nat.zero_add _).symm⟩
  obtain ⟨⟨inner, extended⟩, -⟩ := steps.above above first
  refine ⟨inner, extended.symm, ?_⟩
  have further : inner.length = l'.indents.length - l.indents.length := by
    rw [← extended, List.length_append, Nat.add_sub_cancel]
  rw [further, inside]

end Lexer

end HtmlTemplate
