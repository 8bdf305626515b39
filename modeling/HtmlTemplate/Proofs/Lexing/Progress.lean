import HtmlTemplate.Proofs.Lexing.Order

/-!
# Progress of a lexer

A lexer that is asked for one lexeme after the other comes to the end or to a fault. No step leaves
more lexemes to come than there were before, however it changes the mode and whatever it makes
pending, and each lexeme that is returned leaves fewer. Behind the end there is nothing more.
-/

namespace HtmlTemplate

theorem Mode.owed_le (m : Mode) : m.owed ≤ 1 := by
  cases m <;> decide

namespace Lexer

variable {l l' : Lexer} {chars cs : List Char}

/-! ## Lexemes to come -/

theorem remaining_withMode_le (active : l.mode ≠ .done) (mode : Mode) :
    { l with mode : Lexer }.remaining ≤ l.remaining := by
  have owed := (Mode.rank_pos active).2
  have least := Mode.owed_le mode
  simp only [remaining]
  omega

theorem remaining_skip_le (source : l.rest = chars ++ cs) :
    (l.skip chars cs).remaining ≤ l.remaining := by
  simp only [remaining, skip, source, List.length_append]
  omega

/-- A lexeme counts for less than the characters that it is made of. -/
theorem remaining_emit_le (source : l.rest = chars ++ cs) (said : chars ≠ []) (token : Token) :
    (l.emit token chars cs).remaining ≤ l.remaining := by
  have positive := List.length_pos_iff.mpr said
  simp only [remaining, emit, skip, source, List.length_append, List.length_singleton]
  omega

theorem remaining_emit_one_le {c : Char} (source : l.rest = c :: cs) (token : Token) :
    (l.emit token [c] cs).remaining ≤ l.remaining :=
  remaining_emit_le (by simpa using source) (by simp) token

/-- Blocks that are closed were open before, and a block that is opened is indented. -/
theorem remaining_enterLine_le {indent : List Char} {indents : Indents} {changes : List Lexeme}
    (source : l.rest = indent ++ cs)
    (change : l.indents.change? l.offset indent = some (indents, changes)) :
    (l.enterLine indent cs indents changes).remaining ≤ l.remaining := by
  have levels := Indents.length_change? change
  simp only [remaining, enterLine, skip, source, List.length_append] at levels ⊢
  omega

theorem length_ending (active : l.mode ≠ .done) :
    l.ending.length ≤ l.indents.length + l.mode.owed := by
  have owed := (Mode.rank_pos active).2
  unfold ending
  split <;> simp only [List.length_append, List.length_replicate, List.length_nil,
    List.length_singleton] <;> omega

theorem Moves.remaining_le (move : l.Moves l') (active : l.mode ≠ .done) :
    l'.remaining ≤ l.remaining := by
  have moded {l' : Lexer} (less : l'.remaining ≤ l.remaining) (active' : l'.mode ≠ .done)
      (mode : Mode) : { l' with mode : Lexer }.remaining ≤ l.remaining :=
    Nat.le_trans (remaining_withMode_le active' mode) less
  cases move with
  | finish source closed mode =>
    have ending := length_ending active
    have ended : Mode.owed .done = 0 := rfl
    simp only [remaining, List.length_append, List.length_nil]
    omega
  | blankLine mode source blank ends => exact remaining_skip_le source
  | line mode source blank ink goesOn change =>
    exact moded (remaining_enterLine_le source change) active .statement
  | @textLine indent cs c indents changes mode source blank ink goesOn change =>
    have enters := remaining_enterLine_le source change
    have marks := remaining_emit_one_le (l := l.enterLine indent (c :: cs) indents changes) rfl
      .marker
    exact moded (Nat.le_trans marks enters) active .text
  | text mode read said =>
    subst read
    exact remaining_emit_le (Run.text_append ..).symm said .text
  | @lineText chars cs mode read said =>
    have whole := congrArg List.length (Run.text_append l.markers l.rest)
    have said' := List.length_pos_iff.mpr said
    have short := beforeLineEnd_prefix chars
    have least := short.length_le
    simp only [read, List.length_append] at whole
    simp only [remaining, skip, List.length_append, List.length_singleton]
    omega
  | @endTextLine chars cs mode read empty =>
    have whole := Run.text_append l.markers l.rest
    rw [read] at whole
    have ends := remaining_emit_one_le (l := l.skip chars ('\n' :: cs)) rfl .newline
    exact moded (Nat.le_trans ends (remaining_skip_le whole.symm)) active .lineStart
  | openSplice mode source => exact moded (remaining_emit_one_le source _) active .splice
  | closeSplice mode closed source => exact moded (remaining_emit_one_le source _) active .text
  | token mode source spelling => exact remaining_emit_le source spelling.ne_nil _
  | openBracket mode source => exact remaining_emit_one_le source _
  | closeBracket mode source => exact remaining_emit_one_le source _
  | joinLine mode source => exact remaining_skip_le source
  | endLine mode source => exact moded (remaining_emit_one_le source _) active .lineStart
  | gap mode source => exact remaining_skip_le source

/-- Each lexeme that is returned leaves fewer. -/
theorem next_remaining {t : Lexeme} (next : l.next = .ok (some t, l')) :
    l'.remaining < l.remaining := by
  fun_induction Lexer.next l with
  | case1 l u pending owed =>
    cases next
    simp only [remaining, owed, List.length_cons]
    omega
  | case2 l owes active l'' step ih =>
    exact Nat.lt_of_lt_of_le (ih next) ((moves_of_step active step).remaining_le active)
  | case3 => cases next
  | case4 => cases next

theorem length_lexemes_le (l : Lexer) : l.lexemes.list.length ≤ l.remaining := by
  rw [lexemes]
  split
  · exact Nat.zero_le _
  · exact Nat.zero_le _
  · next t l' next =>
    have fewer := next_remaining next
    have later := length_lexemes_le l'
    simp only [List.length_cons]
    omega
termination_by l.effort
decreasing_by exact next_effort ‹_›

/-! ## Calls for lexemes -/

/-- What a lexer answers when it is asked for one lexeme after the other, up to a fault. -/
def answers : Nat → Lexer → List (Except Fault (Option Lexeme))
  | 0, _ => []
  | k + 1, l =>
    match l.next with
    | .ok (found, l') => .ok found :: answers k l'
    | .error f => [.error f]

theorem answers_come_to_end {k : Nat} (l : Lexer) (enough : l.remaining < k) :
    ∃ a ∈ l.answers k, a = .ok none ∨ ∃ f, a = .error f := by
  induction k generalizing l with
  | zero => omega
  | succ k ih =>
    rw [answers]
    cases next : l.next with
    | error f => exact ⟨.error f, by simp, .inr ⟨f, rfl⟩⟩
    | ok found =>
      obtain ⟨_ | t, l'⟩ := found
      · exact ⟨.ok none, by simp, .inl rfl⟩
      · have fewer := next_remaining next
        obtain ⟨a, mem, ends⟩ := ih l' (by omega)
        exact ⟨a, List.mem_cons_of_mem _ mem, ends⟩

theorem done_of_next_none (next : l.next = .ok (none, l')) :
    l'.pending = [] ∧ l'.mode = .done := by
  fun_induction Lexer.next l with
  | case1 => cases next
  | case2 l owes active l'' step ih => exact ih next
  | case3 => cases next
  | case4 l owes ended =>
    cases next
    exact ⟨owes, Classical.not_not.mp ended⟩

theorem answers_of_done {k : Nat} (owes : l.pending = []) (ended : l.mode = .done) :
    l.answers k = List.replicate k (.ok none) := by
  induction k with
  | zero => rfl
  | succ k ih =>
    rw [answers, next_of_done owes ended]
    dsimp only
    rw [ih, List.replicate_succ]

/-- Where there was no lexeme there is none later. -/
theorem answers_after_end {i j k : Nat} (l : Lexer) (ended : (l.answers k)[i]? = some (.ok none))
    (later : i ≤ j) (asked : j < k) : (l.answers k)[j]? = some (.ok none) := by
  induction k generalizing l i j with
  | zero => omega
  | succ k ih =>
    rw [answers] at ended ⊢
    cases next : l.next with
    | error f =>
      rw [next] at ended
      cases i <;> simp at ended
    | ok found =>
      obtain ⟨found, l'⟩ := found
      rw [next] at ended
      dsimp only at ended ⊢
      cases i with
      | zero =>
        rw [List.getElem?_cons_zero, Option.some.injEq, Except.ok.injEq] at ended
        subst ended
        obtain ⟨owes, done⟩ := done_of_next_none next
        rw [answers_of_done owes done]
        cases j <;> simp_all
      | succ i =>
        obtain ⟨j, rfl⟩ : ∃ j', j = j' + 1 := ⟨j - 1, by omega⟩
        rw [List.getElem?_cons_succ] at ended ⊢
        exact ih l' ended (by omega) (by omega)

/-- The next lexeme, if no more than so many turns are needed to come to it. -/
def nextWithin : Nat → Lexer → Option (Except Fault (Option Lexeme × Lexer))
  | 0, _ => none
  | k + 1, l =>
    match l.pending with
    | t :: pending => some (.ok (some t, { l with pending }))
    | [] =>
      if l.mode = .done then some (.ok (none, l))
      else
        match l.step with
        | .ok l' => nextWithin k l'
        | .error f => some (.error f)

theorem nextWithin_eq {k : Nat} (l : Lexer) (enough : l.effort < k) :
    l.nextWithin k = some l.next := by
  induction k generalizing l with
  | zero => omega
  | succ k ih =>
    rw [nextWithin]
    split
    · next t pending owed => rw [next_of_pending owed]
    · next owes =>
      split
      · next ended => rw [next_of_done owes ended]
      · next active =>
        cases step : l.step with
        | error f => rw [next_of_fault owes active step]
        | ok l' =>
          have less := step_effort active step
          rw [next_of_step owes active step]
          exact ih l' (by omega)

end Lexer

end HtmlTemplate
