import HtmlTemplate.Proofs.Lexing.Within

/-!
# Lexers at other offsets

What a lexer reads depends on the characters ahead of it and not on the offset it has come to. Where
a bracket was opened decides about the fault of one that is never closed, and about nothing else.
-/

namespace HtmlTemplate.Lexer

/-- The lexer with its brackets opened elsewhere. -/
def reopened (nesting : List (Bracket × Nat)) (l : Lexer) : Lexer := { l with nesting }

/-- The same outcome, but for the places of a fault and of the open brackets. -/
inductive Agrees : Except Fault Lexer → Except Fault Lexer → Prop where
  | ok {l : Lexer} {nesting : List (Bracket × Nat)}
      (same : nesting.map Prod.fst = l.nesting.map Prod.fst) :
      Agrees (.ok l) (.ok (l.reopened nesting))
  | error (f f' : Fault) : Agrees (.error f) (.error f')

variable {l : Lexer} {nesting : List (Bracket × Nat)}

theorem finish_reopened (same : nesting.map Prod.fst = l.nesting.map Prod.fst) :
    Agrees l.finish (l.reopened nesting).finish := by
  unfold finish
  cases eq : l.nesting with
  | nil =>
    obtain rfl : nesting = [] := by simpa [eq] using same
    by_cases splice : l.mode = .splice
    · simp only [reopened, splice, if_true]
      exact .error ..
    · simp only [reopened, splice, if_false]
      exact .ok (by simp)
  | cons b outer =>
    obtain _ | ⟨b', outer'⟩ := nesting
    · simp [eq] at same
    · exact .error ..

theorem startLine_reopened (same : nesting.map Prod.fst = l.nesting.map Prod.fst) :
    Agrees l.startLine (l.reopened nesting).startLine := by
  unfold startLine
  dsimp only [reopened]
  split
  · exact .ok same
  · exact .ok same
  · exact .ok same
  · next c cs _ _ _ =>
    cases l.indents.change? l.offset (HtmlTemplate.Run.takeWhile isBlank l.rest).chars with
    | none => exact .error ..
    | some r =>
      by_cases marked : c = l.markers.text
      · simp only [skip, marked, if_true]
        exact .ok same
      · simp only [skip, marked, if_false]
        exact .ok same

theorem readText_reopened (same : nesting.map Prod.fst = l.nesting.map Prod.fst) :
    Agrees (.ok l.readText) (.ok (l.reopened nesting).readText) := by
  unfold readText
  dsimp only [reopened]
  split
  · exact .ok same
  · split
    · split <;> exact .ok same
    · split <;> exact .ok same

theorem closeBracket_reopened (same : nesting.map Prod.fst = l.nesting.map Prod.fst) (b : Bracket)
    (c : Char) (cs : List Char) :
    Agrees (l.closeBracket b c cs) ((l.reopened nesting).closeBracket b c cs) := by
  unfold closeBracket
  cases eq : l.nesting with
  | nil =>
    obtain rfl : nesting = [] := by simpa [eq] using same
    exact .error ..
  | cons top outer =>
    obtain _ | ⟨top', outer'⟩ := nesting
    · simp [eq] at same
    · rw [eq, List.map_cons, List.map_cons, List.cons.injEq] at same
      simp only [reopened, same.1]
      split
      · exact .ok same.2
      · exact .error ..

theorem endLine_reopened (same : nesting.map Prod.fst = l.nesting.map Prod.fst)
    (closed : nesting = [] ↔ l.nesting = []) (cs : List Char) :
    Agrees (l.endLine cs) ((l.reopened nesting).endLine cs) := by
  unfold endLine
  simp only [reopened, ne_eq, closed]
  by_cases nested : l.nesting = []
  · by_cases splice : l.mode = .splice
    · simp only [nested, splice, not_true, if_true, if_false]
      exact .error ..
    · simp only [nested, splice, not_true, if_false]
      exact .ok same
  · simp only [nested, not_false_eq_true, if_true]
    exact .ok same

theorem readString_reopened (same : nesting.map Prod.fst = l.nesting.map Prod.fst)
    (cs : List Char) : Agrees (l.readString cs) ((l.reopened nesting).readString cs) := by
  unfold readString
  split
  · exact .ok same
  · exact .error ..

theorem readExpression_reopened (same : nesting.map Prod.fst = l.nesting.map Prod.fst) (c : Char)
    (cs : List Char) :
    Agrees (l.readExpression c cs) ((l.reopened nesting).readExpression c cs) := by
  have closed : nesting = [] ↔ l.nesting = [] := by
    rw [← List.map_eq_nil_iff (f := Prod.fst), same, List.map_eq_nil_iff]
  have closes : (l.reopened nesting).mode = .splice ∧ (l.reopened nesting).nesting = [] ∧
      c = (l.reopened nesting).markers.closing ↔
      l.mode = .splice ∧ l.nesting = [] ∧ c = l.markers.closing := by simp [reopened, closed]
  unfold readExpression
  simp only [closes]
  split
  · exact .ok same
  · split
    · exact .ok same
    · next b _ _ =>
      have longer : ((b, l.offset) :: nesting).map Prod.fst =
          (l.openBracket b c cs).nesting.map Prod.fst := congrArg (List.cons b) same
      exact .ok longer
    · exact closeBracket_reopened same ..
    · split
      · exact readString_reopened same cs
      · split
        · exact endLine_reopened same closed cs
        · split
          · exact .ok same
          · split
            · exact .ok same
            · split
              · exact .ok same
              · exact .error ..

theorem step_reopened (same : nesting.map Prod.fst = l.nesting.map Prod.fst) :
    Agrees l.step (l.reopened nesting).step := by
  unfold step
  dsimp only [reopened]
  split
  · exact finish_reopened same
  · split
    · exact startLine_reopened same
    · exact readText_reopened same
    · exact readExpression_reopened same ..
    · exact readExpression_reopened same ..
    · exact readExpression_reopened same ..

theorem Run.lexemes_reopened {found : Lexemes} (run : l.Run found)
    (same : nesting.map Prod.fst = l.nesting.map Prod.fst) :
    (l.reopened nesting).lexemes.list = found.list ∧
      (l.reopened nesting).lexemes.fault.isSome = found.fault.isSome := by
  induction run generalizing nesting with
  | @done l owes mode =>
    have lexemes : (l.reopened nesting).lexemes = ⟨[], none⟩ := lexemes_of_done owes mode
    rw [lexemes]
    exact ⟨rfl, rfl⟩
  | @fault l f owes active step =>
    have agrees := step_reopened same
    rw [step] at agrees
    generalize step' : (l.reopened nesting).step = outcome at agrees
    obtain - | ⟨_, f'⟩ := agrees
    have lexemes : (l.reopened nesting).lexemes = ⟨[], some f'⟩ :=
      lexemes_of_fault owes active step'
    rw [lexemes]
    exact ⟨rfl, rfl⟩
  | @step l l' later owes active step _ ih =>
    have agrees := step_reopened same
    rw [step] at agrees
    generalize step' : (l.reopened nesting).step = outcome at agrees
    obtain @⟨_, nesting', same'⟩ | - := agrees
    have lexemes : (l.reopened nesting).lexemes =
        (l'.reopened nesting').idle.lexemes.after l'.pending :=
      lexemes_of_step (l := l.reopened nesting) owes active step'
    obtain ⟨list, fault⟩ := ih same'
    rw [lexemes]
    exact ⟨congrArg (l'.pending ++ ·) list, fault⟩

/-- The lexer at the beginning of a source that is all it has ahead of it. -/
def atStart (l : Lexer) : Lexer :=
  { l with offset := 0, nesting := l.nesting.map fun b => (b.1, 0) }

/-- What a lexer reads stands as far on as the lexer does. -/
theorem lexemes_eq_atStart (owes : l.pending = []) :
    l.lexemes.list = l.atStart.lexemes.list.map (Lexeme.shift l.offset) ∧
      l.lexemes.fault.isSome = l.atStart.lexemes.fault.isSome := by
  have run : l.atStart.Run l.atStart.lexemes := run_lexemes owes
  have run' : (l.atStart.within l.offset []).Run (l.atStart.lexemes.shift l.offset) :=
    run.lexemes_within l.offset ▸ run_lexemes (pending_within owes)
  have same : l.nesting.map Prod.fst = (l.atStart.within l.offset []).nesting.map Prod.fst := by
    simp [atStart, within]
  have back : (l.atStart.within l.offset []).reopened l.nesting = l := by
    obtain ⟨⟩ := l
    cases owes
    simp [atStart, within, reopened]
  obtain ⟨list, fault⟩ := run'.lexemes_reopened same
  rw [back] at list fault
  refine ⟨list, fault.trans ?_⟩
  simp [Lexemes.shift]

end HtmlTemplate.Lexer
