import HtmlTemplate.Proofs.Lexing.Order

/-!
# Spelling of lexemes

A lexeme either belongs to the structure of its source or is spelled as its token demands. So the
lexemes that are identifiers begin and go on with the characters of identifiers and are none of the
reserved words.
-/

namespace HtmlTemplate

/-- Lines, blocks, brackets and the parts of text lines. -/
def Token.isStructural : Token → Bool
  | .text | .marker | .openSplice | .closeSplice | .newline | .indent | .dedent | .opening _
  | .closing _ => true
  | _ => false

def Lexeme.Spelled (t : Lexeme) : Prop :=
  t.token.isStructural = true ∨ Lexer.Spelling t.token t.chars

namespace Lexer

theorem spelled_change {start : Nat} {indent : List Char} {blocks blocks' : Indents}
    {changes : List Lexeme} (change : blocks.change? start indent = some (blocks', changes)) :
    ∀ t ∈ changes, t.Spelled := by
  intro t mem
  rcases token_of_mem_changes change mem with is | is <;> exact .inl (by rw [is]; rfl)

theorem spelled_ending {l : Lexer} : ∀ t ∈ l.ending, t.Spelled := by
  intro t mem
  rcases token_of_mem_ending mem with is | is <;> exact .inl (by rw [is]; rfl)

theorem Moves.spelled {l l' : Lexer} (move : l.Moves l') (spelled : ∀ t ∈ l.pending, t.Spelled) :
    ∀ t ∈ l'.pending, t.Spelled := by
  have further {ts : List Lexeme} {u : Lexeme} (old : ∀ t ∈ ts, t.Spelled) (new : u.Spelled) :
      ∀ t ∈ ts ++ [u], t.Spelled :=
    List.forall_mem_append.mpr ⟨old, List.forall_mem_singleton.mpr new⟩
  cases move with
  | finish source closed mode => exact List.forall_mem_append.mpr ⟨spelled, spelled_ending⟩
  | line mode source blank ink goesOn change statement =>
    exact List.forall_mem_append.mpr ⟨spelled, spelled_change change⟩
  | textLine mode source blank ink goesOn change marked =>
    exact further (List.forall_mem_append.mpr ⟨spelled, spelled_change change⟩) (.inl rfl)
  | token mode source spelling => exact further spelled (.inr spelling)
  | blankLine | joinLine | gap => exact spelled
  | text | lineText | endTextLine | openSplice | closeSplice | openBracket | closeBracket |
      endLine =>
    exact further spelled (.inl rfl)

theorem Run.spelled {l : Lexer} {found : Lexemes} (run : l.Run found) :
    ∀ t ∈ found.list, t.Spelled := by
  induction run with
  | done => simp
  | fault => simp
  | step owes active step _ ih =>
    refine List.forall_mem_append.mpr ⟨?_, ih⟩
    exact (moves_of_step active step).spelled (by simp [owes])

end Lexer

theorem Lexemes.spelled_ofSource (m : Markers) (source : List Char) :
    ∀ t ∈ (ofSource m source).list, t.Spelled :=
  Lexer.Run.spelled (Lexer.run_lexemes rfl : Lexer.Run { markers := m, rest := source } _)

/-- May be a name in a source. -/
structure IsIdentifier (name : List Char) : Prop where
  starts : ∃ c ∈ name.head?, Unicode.isIdentStart c = true
  continues : ∀ c ∈ name, Unicode.isIdentContinue c = true
  free : Token.ofWord (String.ofList name) = .identifier

def IsName (name : String) : Prop := IsIdentifier name.toList

theorem Lexer.Spelling.isIdentifier {chars : List Char} (spelling : Spelling .identifier chars) :
    IsIdentifier chars := by
  generalize identifier : Token.identifier = token at spelling
  cases spelling with
  | punctuation is =>
    simp only [Lexer.punctuation] at is
    split at is <;> cases is <;> cases identifier
  | string closed => cases identifier
  | number digit numeral => cases identifier
  | @word c cs start continues =>
    refine ⟨⟨c, rfl, start⟩, ?_, identifier.symm⟩
    exact List.forall_mem_cons.mpr ⟨Unicode.isIdentContinue_of_isIdentStart start, continues⟩

theorem Lexeme.Spelled.isIdentifier {t : Lexeme} (spelled : t.Spelled)
    (identifier : t.token = .identifier) : IsIdentifier t.chars := by
  rcases spelled with structural | spelling
  · rw [identifier] at structural
    cases structural
  · rw [identifier] at spelling
    exact spelling.isIdentifier

end HtmlTemplate
