import HtmlTemplate.Proofs.Lexing.Order

/-!
# Places of lexemes

A lexer stands in its source behind what it has passed. So every lexeme is a piece of the source,
and every fault begins between two of its characters: where the lexer stands, or where a bracket
was opened.
-/

namespace HtmlTemplate

/-- The characters stand in the source from the offset on. -/
def StandsAt (source : List Char) (offset : Nat) (chars : List Char) : Prop :=
  ∃ before after, source = before ++ chars ++ after ∧ offset = byteLength before

/-- The offset lies between two characters of the source or at one of its ends. -/
def Boundary (source : List Char) (offset : Nat) : Prop :=
  ∃ before after, source = before ++ after ∧ offset = byteLength before

theorem StandsAt.boundary {source chars : List Char} {offset : Nat}
    (stands : StandsAt source offset chars) : Boundary source offset := by
  obtain ⟨before, after, rfl, rfl⟩ := stands
  exact ⟨before, chars ++ after, List.append_assoc .., rfl⟩

theorem StandsAt.take {source xs ys : List Char} {offset : Nat}
    (stands : StandsAt source offset (xs ++ ys)) : StandsAt source offset xs := by
  obtain ⟨before, after, rfl, rfl⟩ := stands
  exact ⟨before, ys ++ after, by simp, rfl⟩

theorem StandsAt.drop {source xs ys : List Char} {offset : Nat}
    (stands : StandsAt source offset (xs ++ ys)) :
    StandsAt source (offset + byteLength xs) ys := by
  obtain ⟨before, after, rfl, rfl⟩ := stands
  exact ⟨before ++ xs, after, by simp, by simp⟩

theorem Boundary.le {source : List Char} {offset : Nat} (boundary : Boundary source offset) :
    offset ≤ byteLength source := by
  obtain ⟨before, after, rfl, rfl⟩ := boundary
  simp

theorem boundary_end (source : List Char) : Boundary source (byteLength source) :=
  ⟨source, [], by simp, rfl⟩

def Lexeme.StandsIn (source : List Char) (t : Lexeme) : Prop := StandsAt source t.start t.chars

namespace Lexer

/-- The lexer stands in the source, and so does all it remembers of it. -/
structure Placed (source : List Char) (l : Lexer) : Prop where
  ahead : ∃ before, source = before ++ l.rest ∧ l.offset = byteLength before
  brackets : ∀ b ∈ l.nesting, Boundary source b.2
  lexemes : ∀ t ∈ l.pending, t.StandsIn source

namespace Placed

variable {source : List Char} {l : Lexer}

theorem standsAt (placed : l.Placed source) : StandsAt source l.offset l.rest := by
  obtain ⟨before, rfl, offset⟩ := placed.ahead
  exact ⟨before, [], by simp, offset⟩

theorem here (placed : l.Placed source) : Boundary source l.offset := placed.standsAt.boundary

/-- The characters that come next stand where the lexer does. -/
theorem next {chars cs : List Char} (placed : l.Placed source) (rest : l.rest = chars ++ cs) :
    StandsAt source l.offset chars := by
  have stands := placed.standsAt
  rw [rest] at stands
  exact stands.take

theorem idle (placed : l.Placed source) : l.idle.Placed source := { placed with lexemes := nofun }

theorem skip {chars cs : List Char} (placed : l.Placed source) (rest : l.rest = chars ++ cs) :
    (l.skip chars cs).Placed source := by
  obtain ⟨before, rfl, offset⟩ := placed.ahead
  exact { placed with ahead := ⟨before ++ chars, by simp [Lexer.skip, rest],
    by simp [Lexer.skip, offset]⟩ }

theorem withPending {ts : List Lexeme} (placed : l.Placed source)
    (stand : ∀ t ∈ ts, t.StandsIn source) :
    { l with pending := l.pending ++ ts : Lexer }.Placed source :=
  { placed with lexemes := List.forall_mem_append.mpr ⟨placed.lexemes, stand⟩ }

theorem emit {token : Token} {chars cs : List Char} (placed : l.Placed source)
    (rest : l.rest = chars ++ cs) : (l.emit token chars cs).Placed source :=
  { placed.skip rest with
    lexemes := List.forall_mem_append.mpr
      ⟨placed.lexemes, List.forall_mem_singleton.mpr (placed.next rest)⟩ }

/-- What is read next and which blocks are open says nothing about places. -/
theorem withMode {mode : Mode} {indents : Indents} (placed : l.Placed source) :
    { l with mode, indents : Lexer }.Placed source := { placed with }

end Placed

theorem standsIn_change {source indent : List Char} {start : Nat} {blocks blocks' : Indents}
    {changes : List Lexeme} (stands : StandsAt source start indent)
    (change : blocks.change? start indent = some (blocks', changes)) :
    ∀ t ∈ changes, t.StandsIn source := by
  simp only [Indents.change?] at change
  split at change
  · cases change
    simp
  · split at change
    · cases change
      exact List.forall_mem_singleton.mpr stands
    · obtain ⟨r, -, eq⟩ := Option.map_eq_some_iff.mp change
      cases eq
      intro t mem
      rw [List.eq_of_mem_replicate mem]
      have whole : StandsAt source start (indent ++ []) := by simpa using stands
      exact whole.drop

theorem standsIn_ending {source : List Char} {l : Lexer} (placed : l.Placed source) :
    ∀ t ∈ l.ending, t.StandsIn source := by
  have here : StandsAt source l.offset [] := placed.next rfl
  intro t mem
  unfold ending at mem
  rcases List.mem_append.mp mem with newline | dedent
  · split at newline
    · cases newline
    · rw [List.mem_singleton.mp newline]
      exact here
  · rw [List.eq_of_mem_replicate dedent]
    exact here

theorem Placed.enterLine {source indent cs : List Char} {l : Lexer} {indents : Indents}
    {changes : List Lexeme} (placed : l.Placed source) (rest : l.rest = indent ++ cs)
    (change : l.indents.change? l.offset indent = some (indents, changes)) :
    (l.enterLine indent cs indents changes).Placed source :=
  ((placed.skip rest).withPending (standsIn_change (placed.next rest) change)).withMode

theorem Moves.placed {source : List Char} {l l' : Lexer} (move : l.Moves l')
    (placed : l.Placed source) : l'.Placed source := by
  cases move with
  | finish rest closed mode => exact (placed.withPending (standsIn_ending placed)).withMode
  | blankLine mode rest blank ends => exact placed.skip rest
  | line mode rest blank ink goesOn change statement =>
    exact (placed.enterLine rest change).withMode
  | textLine mode rest blank ink goesOn change marked =>
    exact ((placed.enterLine rest change).emit rfl).withMode
  | @text run mode read said ends =>
    subst read
    exact placed.emit (Run.text_append ..).symm
  | @lineText chars cs mode read said =>
    have rest := Run.text_append l.markers l.rest
    rw [read] at rest
    obtain ⟨ending, whole⟩ := beforeLineEnd_prefix chars
    have stands : StandsAt source l.offset (beforeLineEnd chars ++ ending) := by
      rw [whole]
      exact placed.next rest.symm
    exact (placed.skip rest.symm).withPending (List.forall_mem_singleton.mpr stands.take)
  | @endTextLine chars cs mode read empty =>
    have rest := Run.text_append l.markers l.rest
    rw [read] at rest
    exact ((placed.skip rest.symm).emit rfl).withMode
  | openSplice mode rest => exact (placed.emit rest).withMode
  | closeSplice mode closed rest => exact (placed.emit rest).withMode
  | token mode rest spelling => exact placed.emit rest
  | openBracket mode rest bracket =>
    exact { placed.emit rest with
      brackets := List.forall_mem_cons.mpr ⟨placed.here, placed.brackets⟩ }
  | closeBracket mode rest bracket nesting =>
    have brackets := placed.brackets
    rw [nesting] at brackets
    exact { placed.emit rest with brackets := (List.forall_mem_cons.mp brackets).2 }
  | joinLine mode rest nested => exact placed.skip rest
  | endLine mode rest closed => exact (placed.emit rest).withMode
  | gap mode rest gap => exact placed.skip rest

/-! ## Faults -/

/-- The place of a fault: the lexer's own, or that of a bracket which is still open. -/
def Blames (l : Lexer) (f : Fault) : Prop :=
  f.region.start = l.offset ∨ ∃ b ∈ l.nesting, f.region.start = b.2

variable {l : Lexer} {f : Fault}

theorem Placed.boundary {source : List Char} (placed : l.Placed source) (blames : l.Blames f) :
    Boundary source f.region.start := by
  rcases blames with here | ⟨b, mem, there⟩
  · rw [here]
    exact placed.here
  · rw [there]
    exact placed.brackets b mem

theorem blames_of_finish (h : l.finish = .error f) : l.Blames f := by
  simp only [finish] at h
  split at h
  · next b start outer nesting =>
    cases h
    exact .inr ⟨(b, start), by simp [nesting], rfl⟩
  · split at h
    · cases h
      exact .inl rfl
    · cases h

theorem start_of_startLine (h : l.startLine = .error f) : f.region.start = l.offset := by
  simp only [startLine] at h
  split at h
  · cases h
  · cases h
  · cases h
  · split at h
    · cases h
      rfl
    · split at h <;> cases h

theorem start_of_closeBracket {b : Bracket} {c : Char} {cs : List Char}
    (h : l.closeBracket b c cs = .error f) : f.region.start = l.offset := by
  simp only [closeBracket] at h
  split at h
  · cases h
    rfl
  · split at h
    · cases h
    · cases h
      rfl

theorem start_of_readString {cs : List Char} (h : l.readString cs = .error f) :
    f.region.start = l.offset := by
  simp only [readString] at h
  split at h
  · cases h
  · cases h
    rfl

theorem start_of_endLine {cs : List Char} (h : l.endLine cs = .error f) :
    f.region.start = l.offset := by
  simp only [endLine] at h
  split at h
  · cases h
  · split at h
    · cases h
      rfl
    · cases h

theorem start_of_readExpression {c : Char} {cs : List Char}
    (h : l.readExpression c cs = .error f) : f.region.start = l.offset := by
  simp only [readExpression] at h
  split at h
  · cases h
  · split at h
    · cases h
    · cases h
    · exact start_of_closeBracket h
    · split at h
      · exact start_of_readString h
      · split at h
        · exact start_of_endLine h
        · split at h
          · cases h
          · split at h
            · cases h
            · split at h
              · cases h
              · cases h
                rfl

/-- Before the end of its source a lexer blames the place where it stands. -/
theorem start_of_step (more : l.rest ≠ []) (h : l.step = .error f) :
    f.region.start = l.offset := by
  simp only [step] at h
  split at h
  · next none => exact absurd none more
  · split at h
    · exact start_of_startLine h
    · cases h
    · exact start_of_readExpression h
    · exact start_of_readExpression h
    · exact start_of_readExpression h

theorem blames_of_step (h : l.step = .error f) : l.Blames f := by
  by_cases rest : l.rest = []
  · rw [step, rest] at h
    exact blames_of_finish h
  · exact .inl (start_of_step rest h)

/-- All lexemes stand in the source, and the fault behind them, if there is one, begins in it. -/
theorem Run.places {source : List Char} {found : Lexemes} (run : l.Run found)
    (placed : l.Placed source) :
    (∀ t ∈ found.list, t.StandsIn source) ∧
      ∀ f ∈ found.fault, Boundary source f.region.start := by
  induction run with
  | done => simp
  | fault owes active step =>
    refine ⟨by simp, ?_⟩
    rintro _ ⟨⟩
    exact placed.boundary (blames_of_step step)
  | step owes active step _ ih =>
    have placed' := (moves_of_step active step).placed placed
    obtain ⟨later, behind⟩ := ih placed'.idle
    exact ⟨List.forall_mem_append.mpr ⟨placed'.lexemes, later⟩, behind⟩

end Lexer

theorem Lexemes.places_ofSource (m : Markers) (source : List Char) :
    (∀ t ∈ (ofSource m source).list, t.StandsIn source) ∧
      ∀ f ∈ (ofSource m source).fault, Boundary source f.region.start := by
  have start : Lexer.Placed source { markers := m, rest := source } :=
    ⟨⟨[], rfl, rfl⟩, nofun, nofun⟩
  have run : Lexer.Run { markers := m, rest := source } (ofSource m source) := Lexer.run_lexemes rfl
  exact run.places start

end HtmlTemplate
