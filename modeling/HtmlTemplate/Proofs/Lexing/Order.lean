import HtmlTemplate.Proofs.Lexing.Moves
import HtmlTemplate.Proofs.Lexing.Runs
import Mathlib.Data.List.Chain

/-!
# Order of lexemes

Lexemes stand in the order of the source and do not overlap. A line that opens a block says
something in it, so that no dedent comes right behind an indent.
-/

namespace HtmlTemplate

/-- May stand directly in front of the other lexeme. -/
def Lexeme.Before (t u : Lexeme) : Prop :=
  t.region.stop ≤ u.region.start ∧ (t.token = .indent → u.token ≠ .dedent)

/-- May have been returned last by a lexer at an offset. -/
def Lexeme.Behind (offset : Nat) (mode : Mode) (t : Lexeme) : Prop :=
  t.region.stop ≤ offset ∧ (t.token = .indent → mode ≠ .lineStart)

/-- The lexemes of a step stand in order behind the one before them and in front of the lexer. -/
def Orders (offset : Nat) (mode : Mode) : Lexeme → List Lexeme → Prop
  | t, [] => t.Behind offset mode
  | t, u :: us => t.Before u ∧ Orders offset mode u us

section

variable {offset offset' : Nat} {mode mode' : Mode} {t u : Lexeme} {us : List Lexeme}

theorem Orders.isChain {later : List Lexeme} (orders : Orders offset mode t us)
    (chain : ∀ u : Lexeme, u.Behind offset mode → (u :: later).IsChain Lexeme.Before) :
    (t :: (us ++ later)).IsChain Lexeme.Before := by
  induction us generalizing t with
  | nil => exact chain t orders
  | cons u us ih => exact .cons_cons orders.1 (ih orders.2)

/-- Dedents have no width, so that any number of them stands at one offset. -/
theorem orders_dedents
    (orders : ∀ u : Lexeme, u.region.stop ≤ offset' → u.token ≠ .indent → Orders offset mode u us)
    (stop : t.region.stop ≤ offset') (noIndent : t.token ≠ .indent) (n : Nat) :
    Orders offset mode t (List.replicate n ⟨.dedent, offset', []⟩ ++ us) := by
  induction n generalizing t with
  | zero => exact orders t stop noIndent
  | succ n ih =>
    have before : t.Before ⟨.dedent, offset', []⟩ := ⟨stop, fun is => absurd is noIndent⟩
    exact ⟨before, ih (Nat.le_refl _) (by simp)⟩

/-- The tokens of a change of blocks, with what follows in the same line. -/
theorem orders_change {start : Nat} {indent : List Char} {blocks blocks' : Indents}
    {changes : List Lexeme} (change : blocks.change? start indent = some (blocks', changes))
    (orders : ∀ u : Lexeme, u.region.stop ≤ start + byteLength indent → Orders offset mode u us)
    (stop : t.region.stop ≤ start) (noIndent : t.token ≠ .indent) :
    Orders offset mode t (changes ++ us) := by
  simp only [Indents.change?] at change
  split at change
  · cases change
    exact orders t (by omega)
  · split at change
    · cases change
      have before : t.Before ⟨.indent, start, indent⟩ := ⟨stop, fun is => absurd is noIndent⟩
      exact ⟨before, orders _ (Nat.le_refl _)⟩
    · obtain ⟨r, -, eq⟩ := Option.map_eq_some_iff.mp change
      cases eq
      exact orders_dedents (fun u stop _ => orders u stop) (by omega) noIndent _

/-- The lexeme of the next characters, if it changes no block. -/
theorem Lexeme.Behind.orders_next {token : Token} (behind : t.Behind offset mode)
    (plain : token ≠ .indent ∧ token ≠ .dedent) (chars : List Char) :
    Orders (offset + byteLength chars) mode' t [⟨token, offset, chars⟩] :=
  ⟨⟨behind.1, fun _ => plain.2⟩, Nat.le_refl _, fun is => absurd is plain.1⟩

theorem Lexeme.Behind.of_le (behind : t.Behind offset mode) (forward : offset ≤ offset')
    (moved : mode ≠ .lineStart → mode' ≠ .lineStart) : t.Behind offset' mode' :=
  ⟨Nat.le_trans behind.1 forward, fun is => moved (behind.2 is)⟩

end

theorem beforeLineEnd_prefix (cs : List Char) : Lexer.beforeLineEnd cs <+: cs := by
  unfold Lexer.beforeLineEnd
  split
  · exact List.dropLast_prefix cs
  · exact List.prefix_rfl

theorem byteLength_beforeLineEnd_le (cs : List Char) :
    byteLength (Lexer.beforeLineEnd cs) ≤ byteLength cs := by
  obtain ⟨ending, whole⟩ := beforeLineEnd_prefix cs
  have total := congrArg byteLength whole
  rw [byteLength_append] at total
  omega

theorem Token.ofWord_mem (word : String) :
    Token.ofWord word = .identifier ∨ Token.ofWord word ∈ reservedWords.map (·.2) := by
  unfold Token.ofWord
  cases found : reservedWords.lookup word with
  | none => exact .inl rfl
  | some token =>
    obtain ⟨before, behind, eq, -⟩ := List.lookup_eq_some_iff.mp found
    exact .inr (by simp [eq])

namespace Lexer

theorem Spelling.plain {token : Token} {chars : List Char} (spelling : Spelling token chars) :
    token ≠ .indent ∧ token ≠ .dedent := by
  cases spelling with
  | punctuation is =>
    simp only [Lexer.punctuation] at is
    split at is <;> cases is <;> simp
  | string closed => simp
  | number digit numeral => simp
  | word start continues =>
    have plain : ∀ token ∈ reservedWords.map (·.2), token ≠ .indent ∧ token ≠ .dedent := by decide
    rcases Token.ofWord_mem _ with identifier | reserved
    · rw [identifier]
      simp
    · exact plain _ reserved

theorem orders_ending {l : Lexer} {t : Lexeme} (behind : t.Behind l.offset l.mode) :
    Orders l.offset .done t l.ending := by
  have last : ∀ u : Lexeme, u.region.stop ≤ l.offset → u.token ≠ .indent →
      Orders l.offset .done u [] := fun u stop _ => ⟨stop, fun _ => by simp⟩
  unfold ending
  split
  · next start =>
    have noIndent : t.token ≠ .indent := fun is => behind.2 is start
    simpa using orders_dedents last behind.1 noIndent l.indents.length
  · have newline : t.Before ⟨.newline, l.offset, []⟩ := ⟨behind.1, fun _ => by simp⟩
    refine ⟨newline, ?_⟩
    simpa using orders_dedents last (Nat.le_refl _) (by simp) l.indents.length

/-- A step that returns the next characters as one lexeme. -/
theorem orders_emit {l l' : Lexer} {t : Lexeme} (token : Token) {chars : List Char}
    (behind : t.Behind l.offset l.mode) (plain : token ≠ .indent ∧ token ≠ .dedent)
    (offset : l'.offset = l.offset + byteLength chars)
    (pending : l'.pending = [⟨token, l.offset, chars⟩]) :
      Orders l'.offset l'.mode t l'.pending := by
  rw [offset, pending]
  exact behind.orders_next plain chars

theorem Moves.orders {l l' : Lexer} {t : Lexeme} (move : l.Moves l') (owes : l.pending = [])
    (behind : t.Behind l.offset l.mode) : Orders l'.offset l'.mode t l'.pending := by
  cases move with
  | finish source closed mode =>
    simp only [owes, List.nil_append]
    exact orders_ending behind
  | blankLine mode source blank ends =>
    simp only [skip, owes]
    exact behind.of_le (Nat.le_add_right ..) id
  | @line indent cs c indents changes mode source blank ink goesOn change statement =>
    have noIndent : t.token ≠ .indent := fun is => behind.2 is mode
    have last : ∀ u : Lexeme, u.region.stop ≤ l.offset + byteLength indent →
        Orders (l.offset + byteLength indent) .statement u [] :=
          fun u stop => ⟨stop, fun _ => by simp⟩
    simpa [enterLine, skip, owes] using orders_change change last behind.1 noIndent
  | @textLine indent cs c indents changes mode source blank ink goesOn change marked =>
    have noIndent : t.token ≠ .indent := fun is => behind.2 is mode
    simp only [enterLine, emit, skip, owes, List.nil_append]
    refine orders_change change ?_ behind.1 noIndent
    intro u stop
    have last : u.Behind (l.offset + byteLength indent) .text := ⟨stop, fun _ => by simp⟩
    exact last.orders_next (by simp) [c]
  | text mode source said ends =>
    exact orders_emit .text behind (by simp) rfl (by simp [emit, owes])
  | @lineText chars cs mode source said =>
    have short := byteLength_beforeLineEnd_le chars
    simp only [skip, owes, List.nil_append]
    refine ⟨⟨behind.1, fun _ => by simp⟩, ?_, fun is => by simp at is⟩
    simp only [Lexeme.region]
    omega
  | @endTextLine chars cs mode source empty =>
    have ahead := behind.of_le (Nat.le_add_right _ (byteLength chars)) id
    exact orders_emit (l := l.skip chars ('\n' :: cs)) .newline ahead (by simp) rfl
      (by simp [emit, skip, owes])
  | openSplice mode source =>
    exact orders_emit .openSplice behind (by simp) rfl (by simp [emit, owes])
  | closeSplice mode closed source =>
    exact orders_emit .closeSplice behind (by simp) rfl (by simp [emit, owes])
  | token mode source spelling =>
    exact orders_emit _ behind spelling.plain rfl (by simp [emit, owes])
  | @openBracket b c cs mode source bracket =>
    exact orders_emit (.opening b) behind (by simp) rfl (by simp [Lexer.openBracket, emit, owes])
  | @closeBracket b c cs start outer mode source bracket nesting =>
    exact orders_emit (.closing b) behind (by simp) rfl (by simp [emit, owes])
  | joinLine mode source nested =>
    simp only [skip, owes]
    exact behind.of_le (Nat.le_add_right ..) id
  | endLine mode source closed =>
    exact orders_emit .newline behind (by simp) rfl (by simp [emit, owes])
  | gap mode source gap =>
    simp only [skip, owes]
    exact behind.of_le (Nat.le_add_right ..) id

theorem Run.isChain {l : Lexer} {found : Lexemes} (run : l.Run found) {t : Lexeme}
    (behind : t.Behind l.offset l.mode) : (t :: found.list).IsChain Lexeme.Before := by
  induction run generalizing t with
  | done => exact .singleton t
  | fault => exact .singleton t
  | step owes active step _ ih => exact ((moves_of_step active step).orders owes behind).isChain @ih

end Lexer

/-- The lexemes of a source are in order. -/
theorem Lexemes.isChain_ofSource (m : Markers) (source : List Char) :
    (ofSource m source).list.IsChain Lexeme.Before := by
  have start : Lexeme.Behind 0 .lineStart ⟨.newline, 0, []⟩ := ⟨Nat.le_refl _, by simp⟩
  have run : Lexer.Run { markers := m, rest := source } (ofSource m source) := Lexer.run_lexemes rfl
  exact (run.isChain start).tail

end HtmlTemplate
