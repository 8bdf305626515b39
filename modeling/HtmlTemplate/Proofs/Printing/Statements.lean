import HtmlTemplate.Proofs.Printing.TextLines

/-!
# Printed statements

The lines of a statement spell lexemes that derive it again, whatever blocks are open around it and
whichever way its own blocks are printed.
-/

namespace HtmlTemplate

open Grammar Lexer

/-! ## First lines -/

def AttributesRead (attributes : List (Ident × Expr)) (ts : List Lexeme) : Prop :=
  ∃ attributes', Grammar.Attributes ts attributes' ∧
    relocateAttributes Region.forget attributes' = relocateAttributes Region.forget attributes

/-- A name and perhaps attributes in parentheses. -/
def TagReads (name : Ident) (attributes : List (Ident × Expr)) (ts : List Lexeme) : Prop :=
  ∃ t us attributes', ts = t :: us ∧ t.token = .identifier ∧ t.chars = name.name.toList ∧
    Head us attributes' ∧
    relocateAttributes Region.forget attributes' = relocateAttributes Region.forget attributes

section

variable {fits : List Char → Prop} {cs : List Char} {good : List Lexeme → Prop}

theorem Spells.assigned {name : Ident} (is : IsName name.name) (value : Spells fits cs good) :
    Spells fits (name.name.toList ++ ([' ', '=', ' '] ++ cs)) fun ts =>
      ∃ t u us, ts = t :: u :: us ∧ t.token = .identifier ∧ t.chars = name.name.toList ∧
        u.token = .assign ∧ good us := by
  have assign : Spells Anything ['='] (Single .assign ['=']) := .punctuation rfl
  refine ((Spells.identifier is).before (by decide)
    (assign.andThen value.behindGap).behindGap).mono ?_
  rintro _ ⟨_, _, rfl, ⟨t, rfl, identifier, chars⟩, _, us, rfl, ⟨u, rfl, assign, -⟩, value⟩
  exact ⟨t, u, us, rfl, identifier, chars, assign, value⟩

theorem Spells.behindKeyword (k : Keyword) (spells : Spells fits cs good) :
    Spells fits (k.print cs) (Joined (Single (.keyword k) k.text.toList) good) :=
  (Spells.keyword k).before (by decide) spells.behindGap

theorem spells_attributes : ∀ attributes : List (Ident × Expr), PrintableAttributes attributes →
    Spells Breaks (printAttributes attributes) (AttributesRead attributes)
  | [], _ => Spells.nil.mono fun _ none => ⟨[], none ▸ .nil, rfl⟩
  | [(name, e)], printable => by
    obtain ⟨is, printable⟩ := printable (name, e) List.mem_cons_self
    have single : printAttributes [(name, e)] = name.name.toList ++
        ([' ', '=', ' '] ++ e.print .sum) := by
      simp [printAttributes]
    rw [single]
    refine (Spells.assigned is (e.spells .sum printable)).mono ?_
    rintro _ ⟨t, u, us, rfl, identifier, chars, assign, e', derived, same⟩
    exact ⟨_, .last identifier assign derived, by simp [relocateAttributes, bare_ident chars, same]⟩
  | (name, e) :: a :: later, printable => by
    obtain ⟨is, printable'⟩ := printable (name, e) List.mem_cons_self
    have printable'' : PrintableAttributes (a :: later) :=
      fun b mem => printable b (List.mem_cons_of_mem _ mem)
    have later := spells_attributes (a :: later) printable''
    refine ((Spells.assigned is (e.spells .sum printable')).listed later).mono ?_
    rintro _ ⟨_, _, rfl, ⟨t, u, us, rfl, identifier, chars, assign, e', derived, same⟩, _, vs, rfl,
      ⟨v, rfl, comma, -⟩, attributes', derived', same'⟩
    have first : (t.ident.relocate Region.forget, e'.bare) =
        (name.relocate Region.forget, e.bare) := Prod.ext (bare_ident chars) same
    exact ⟨_, .cons identifier assign derived comma derived', congrArg₂ List.cons first same'⟩

theorem spells_tag {name : Ident} {attributes : List (Ident × Expr)} (is : IsName name.name)
    (printable : PrintableAttributes attributes) :
    Spells Breaks
      (name.name.toList ++ if attributes.isEmpty then []
        else '(' :: printAttributes attributes ++ [')'])
      (TagReads name attributes) := by
  cases attributes with
  | nil =>
    simp only [List.isEmpty_nil, if_true, List.append_nil]
    refine (Spells.identifier is).mono ?_
    rintro _ ⟨t, rfl, identifier, chars⟩
    exact ⟨t, [], [], rfl, identifier, chars, .bare, rfl⟩
  | cons a later =>
    have attributes : Spells Breaks ('(' :: printAttributes (a :: later) ++ [')'])
        (Enclosed .round (AttributesRead (a :: later))) :=
      .bracketed rfl rfl (spells_attributes (a :: later) printable)
    refine ((Spells.identifier is).before (by decide) attributes).mono ?_
    rintro _ ⟨_, _, rfl, ⟨t, rfl, identifier, chars⟩, _, _, _, rfl, opens,
      ⟨attributes', derived, same⟩, closes⟩
    exact ⟨t, _, attributes', rfl, identifier, chars, .listed opens derived closes, same⟩

end

theorem Statement.inked_head {s : Statement} (word : Keyword) (printable : s.Printable) :
    ∃ c cs, s.head word = c :: cs ∧ Inked c := by
  have worded {cs : List Char} (worded : Worded cs) : ∃ c ds, cs = c :: ds ∧ Inked c := by
    obtain ⟨c, ds, rfl, start⟩ := worded
    exact ⟨c, ds, rfl, inked_of_isIdentStart start⟩
  cases s with
  | tag name attributes body =>
    have is : IsName name.name := printable.1
    exact worded (((Worded.of_head is.starts).append _).append _)
  | text parts => exact ⟨'-', _, rfl, by constructor <;> decide⟩
  | choice condition body otherwise => exact worded ((word.worded.append _).append _)
  | loop name iterable body => exact worded (((Keyword.worded .forKw).append _).append _)
  | assign name value => exact worded ((Keyword.worded .varKw).append _)

/-! ## Statements -/

/-- The lexemes of a block say the same as some statements. -/
def BlockReads (ss : List Statement) (ts : List Lexeme) : Prop :=
  ∃ ss', Block .standard ts ss' ∧ bareAll ss' = bareAll ss

def LinesRead (ss : List Statement) (ts : List Lexeme) : Prop :=
  ∃ ss', Lines .standard ts ss' ∧ bareAll ss' = bareAll ss

/-- The lexemes of a line say the same as a statement. Those of a choice begin with its word. -/
def StatementReads (word : Keyword) (s : Statement) (ts : List Lexeme) : Prop :=
  ∃ s', s'.bare = s.bare ∧
    match s with
    | .choice _ _ _ => ∃ t us, ts = t :: us ∧ t.token = .keyword word ∧ Branches .standard us s'
    | _ => Line .standard ts s'

/-- Behind a condition and its block, the lexemes complete a choice. -/
def OtherwiseReads (otherwise : List Statement) (ts : List Lexeme) : Prop :=
  ∃ otherwise', bareAll otherwise' = bareAll otherwise ∧
    ∀ us vs e body, Grammar.Sum us e → Block .standard vs body →
      Branches .standard (us ++ vs ++ ts) (.choice e body otherwise')

theorem line_of_reads {s : Statement} {ts : List Lexeme} (reads : StatementReads .ifKw s ts) :
    ∃ s', Line .standard ts s' ∧ s'.bare = s.bare := by
  obtain ⟨s', same, reads⟩ := reads
  cases s with
  | choice =>
    obtain ⟨t, us, rfl, word, branches⟩ := reads
    exact ⟨s', .choice word branches, same⟩
  | _ => exact ⟨s', reads, same⟩

section

variable {blocks : Indents} {style : Style} {s : Statement} {ss : List Statement}
  {good : List Lexeme → Prop}

theorem Statement.begins {word : Keyword} {indent : List Char} (printable : s.Printable) :
    Begins indent (s.print word style indent) := by
  obtain ⟨c, cs, head, ink⟩ := s.inked_head word printable
  have begins : Begins indent (indent ++ c :: cs) := ⟨c, cs, rfl, ink⟩
  rw [Statement.print.eq_def, head]
  exact (begins.append _).append _

theorem begins_printLines {indent : List Char} (some : ss ≠ []) (printable : PrintableAll ss) :
    Begins indent (printLines style indent ss) := by
  cases ss with
  | nil => exact absurd rfl some
  | cons s ss => exact (Statement.begins printable.1).append _

theorem begins_printOtherwise {indent : List Char} (printable : PrintableAll ss) :
    printOtherwise style indent ss = [] ∨ Begins indent (printOtherwise style indent ss) := by
  cases ss with
  | nil => exact .inl (by rw [printOtherwise])
  | cons s ss =>
    right
    rw [printOtherwise]
    split
    · exact Statement.begins printable.1
    · have begins : Begins indent (indent ++ (Keyword.elseKw.text.toList ++ [':'])) :=
        ⟨'e', _, rfl, by constructor <;> decide⟩
      exact (begins.append _).append _

/-- A statement in front of others. -/
theorem SpellsLines.cons (proper : blocks.Proper) (printable : PrintableAll ss)
    (first : SpellsLines blocks (s.print .ifKw (style.down false) blocks.innermost)
      (StatementReads .ifKw s))
    (later : SpellsLines blocks (printLines (style.down true) blocks.innermost ss) (LinesRead ss)) :
    SpellsLines blocks (printLines style blocks.innermost (s :: ss)) (LinesRead (s :: ss)) := by
  have begins : printLines (style.down true) blocks.innermost ss = [] ∨
      Begins blocks.innermost (printLines (style.down true) blocks.innermost ss) := by
    by_cases none : ss = []
    · exact .inl (by rw [none, printLines])
    · exact .inr (begins_printLines none printable)
  refine (first.append proper later begins).mono ?_
  rintro _ ⟨ts, us, rfl, reads, ss', derived, same⟩
  obtain ⟨s', line, same'⟩ := line_of_reads reads
  exact ⟨s' :: ss', .cons line derived, by simp [relocateAll, same, same']⟩

/-- The first line of a block with the block behind it. -/
theorem SpellsLines.headed {head : List Char} (proper : blocks.Proper) (worded : Worded head)
    (spells : Spells Breaks head good) (some : ss ≠ []) (printable : PrintableAll ss)
    (inside : SpellsLines (style.within blocks.innermost :: blocks)
      (printLines style (style.within blocks.innermost) ss) (LinesRead ss)) :
    SpellsLines blocks
      (blocks.innermost ++ (head ++ [':']) ++ ['\n'] ++
        printLines style (style.within blocks.innermost) ss)
      (Joined good (BlockReads ss)) := by
  have colon : Spells Breaks [':'] (Single .colon [':']) := .punctuation rfl
  have begins : Begins (style.within blocks.innermost)
      (printLines style (style.within blocks.innermost) ss) := begins_printLines some printable
  refine (SpellsLines.behindLine proper (worded.append [':']) (spells.before (by decide) colon)
    (.block proper begins inside)).mono ?_
  rintro _ ⟨_, _, rfl, ⟨ts, _, rfl, head, t, rfl, colon, -⟩, _, _, rfl, ⟨u, rfl, newline, -⟩,
    v, us, w, rfl, indent, ⟨ss', derived, same⟩, dedent⟩
  have said : ss' ≠ [] := by
    rintro rfl
    cases ss with
    | nil => exact some rfl
    | cons => cases same
  exact ⟨ts, _, by simp, head, ss', .mk colon newline indent derived said dedent, same⟩

end

mutual

-- By recursion on the tree. The open blocks vary, since a body stands in one more of them.
theorem Statement.spells : ∀ (s : Statement) (word : Keyword) (style : Style) (blocks : Indents),
    blocks.Proper → s.Printable →
    SpellsLines blocks (s.print word style blocks.innermost) (StatementReads word s)
  | .tag name attributes [], word, style, blocks, proper, ⟨is, printable, _⟩ => by
    have worded : Worded name.name.toList := .of_head is.starts
    have shape : (Statement.tag name attributes []).print word style blocks.innermost =
        blocks.innermost ++ (name.name.toList ++
          if attributes.isEmpty then [] else '(' :: printAttributes attributes ++ [')']) ++
            ['\n'] ++ [] := by
      simp [Statement.print, Statement.head, printLines]
    rw [shape]
    refine (SpellsLines.behindLine proper (worded.append _) (spells_tag is printable) .nil).mono ?_
    rintro _ ⟨_, _, rfl, ⟨t, us, attributes', rfl, identifier, chars, head, same⟩, _, _, rfl,
      ⟨u, rfl, newline, -⟩, rfl⟩
    refine ⟨_, ?_, .emptyTag identifier head newline⟩
    simp [Statement.relocate, bare_ident chars, same]
  | .tag name attributes (s :: ss), word, style, blocks, proper, ⟨is, printable, printable'⟩ => by
    have inside := spells_lines (s :: ss) style (style.within blocks.innermost :: blocks)
      (proper.within _) printable'
    have worded : Worded name.name.toList := .of_head is.starts
    have said : s :: ss ≠ [] := List.cons_ne_nil s ss
    refine (SpellsLines.headed proper (worded.append _) (spells_tag is printable) said printable'
      inside).mono ?_
    rintro _ ⟨_, vs, rfl, ⟨t, us, attributes', rfl, identifier, chars, head, same⟩,
      body', block, same'⟩
    refine ⟨_, ?_, .tag identifier head block⟩
    simp [Statement.relocate, bare_ident chars, same, same']
  | .text parts, word, style, blocks, proper, ⟨said, printable⟩ => by
    have shape : (Statement.text parts).print word style blocks.innermost =
        blocks.innermost ++ '-' :: printParts parts ++ ['\n'] := by
      simp [Statement.print, Statement.head]
    rw [shape]
    refine (SpellsLines.text proper printable).mono ?_
    rintro _ ⟨_, _, rfl, ⟨t, rfl, marker, -⟩, ts, _, rfl, ⟨parts', derived, same⟩,
      u, rfl, newline, -⟩
    have said' : parts' ≠ [] := by
      rintro rfl
      exact said (List.map_eq_nil_iff.mp same.symm)
    refine ⟨_, ?_, .text marker derived said' newline⟩
    simp [Statement.relocate, same]
  | .choice condition body otherwise, word, style, blocks, proper,
      ⟨printable, said, printable', printable''⟩ => by
    have inside := spells_lines body (style.down false)
      ((style.down false).within blocks.innermost :: blocks) (proper.within _) printable'
    have later := spells_otherwise otherwise (style.down true) blocks proper printable''
    have first := SpellsLines.headed proper (word.worded.append _)
      ((condition.spells .sum printable).behindKeyword word) said printable' inside
    rw [Statement.print, Statement.head, ← List.append_assoc]
    refine (first.append proper later (begins_printOtherwise printable'')).mono ?_
    rintro _ ⟨_, vs, rfl, ⟨_, us, rfl, ⟨_, ts, rfl, ⟨t, rfl, keyword, -⟩, e', derived, same⟩,
      body', block, same'⟩, otherwise', same'', completes⟩
    refine ⟨_, ?_, t, _, rfl, keyword, completes ts us e' body' derived block⟩
    simp [Statement.relocate, same, same', same'']
  | .loop name iterable body, word, style, blocks, proper, ⟨is, printable, said, printable'⟩ => by
    have inside := spells_lines body style (style.within blocks.innermost :: blocks)
      (proper.within _) printable'
    have source := ((iterable.spells .sum printable).behindKeyword .inKw).behindGap
    have head := ((Spells.identifier is).before (by decide) source).behindKeyword .forKw
    have worded : Worded Keyword.forKw.text.toList := Keyword.worded .forKw
    refine (SpellsLines.headed proper (worded.append _) head said printable' inside).mono ?_
    rintro _ ⟨_, vs, rfl, ⟨_, _, rfl, ⟨t, rfl, forKw, -⟩, _, _, rfl,
      ⟨u, rfl, identifier, chars⟩, _, us, rfl, ⟨v, rfl, inKw, -⟩, e', derived, same⟩,
      body', block, same'⟩
    refine ⟨_, ?_, .loop forKw identifier inKw derived block⟩
    simp [Statement.relocate, bare_ident chars, same, same']
  | .assign name value, word, style, blocks, proper, ⟨is, printable⟩ => by
    have head := (Spells.assigned is (value.spells .sum printable)).behindKeyword .varKw
    have worded : Worded Keyword.varKw.text.toList := Keyword.worded .varKw
    refine (SpellsLines.behindLine proper (worded.append _) head .nil).mono ?_
    rintro _ ⟨_, _, rfl, ⟨_, _, rfl, ⟨t, rfl, varKw, -⟩, u, v, us, rfl, identifier, chars,
      assign, e', derived, same⟩, _, _, rfl, ⟨w, rfl, newline, -⟩, rfl⟩
    refine ⟨_, ?_, .assign varKw identifier assign derived newline⟩
    simp [Statement.relocate, bare_ident chars, same]

theorem spells_otherwise : ∀ (ss : List Statement) (style : Style) (blocks : Indents),
    blocks.Proper → PrintableAll ss →
    SpellsLines blocks (printOtherwise style blocks.innermost ss) (OtherwiseReads ss)
  | [], style, blocks, _, _ => by
    rw [printOtherwise]
    refine SpellsLines.nil.mono ?_
    rintro _ rfl
    refine ⟨[], rfl, ?_⟩
    intro us vs e body condition block
    rw [List.append_nil]
    exact .alone condition block
  | s :: ss, style, blocks, proper, ⟨printable, printable'⟩ => by
    have branches := s.spells .elifKw (style.down false) blocks proper printable
    have first := s.spells .ifKw (style.down false) (style.within blocks.innermost :: blocks)
      (proper.within _) printable
    have later := spells_lines ss (style.down true) (style.within blocks.innermost :: blocks)
      (proper.within _) printable'
    rw [printOtherwise]
    by_cases joins : (ss.isEmpty && s.isChoice && style.joins []) = true
    · rw [if_pos joins]
      simp only [Bool.and_eq_true, List.isEmpty_iff] at joins
      obtain ⟨⟨rfl, choice⟩, -⟩ := joins
      refine branches.mono ?_
      rintro ts ⟨s', same, reads⟩
      refine ⟨[s'], by simp [relocateAll, same], ?_⟩
      intro us vs e body condition block
      cases s with
      | choice =>
        obtain ⟨t, ws, rfl, elifKw, branches⟩ := reads
        exact .elif condition block elifKw branches
      | _ => cases choice
    · rw [if_neg joins]
      have inside : SpellsLines (style.within blocks.innermost :: blocks)
          (printLines style (style.within blocks.innermost) (s :: ss)) (LinesRead (s :: ss)) :=
        .cons (proper.within _) printable' first later
      have said : s :: ss ≠ [] := List.cons_ne_nil s ss
      refine (SpellsLines.headed proper (Keyword.worded .elseKw) (Spells.keyword .elseKw) said
        ⟨printable, printable'⟩ inside).mono ?_
      rintro _ ⟨_, ws, rfl, ⟨t, rfl, elseKw, -⟩, otherwise', block', same⟩
      refine ⟨otherwise', same, ?_⟩
      intro us vs e body condition block
      exact .otherwise condition block elseKw block'

theorem spells_lines : ∀ (ss : List Statement) (style : Style) (blocks : Indents),
    blocks.Proper → PrintableAll ss →
    SpellsLines blocks (printLines style blocks.innermost ss) (LinesRead ss)
  | [], style, blocks, _, _ => by
    rw [printLines]
    refine SpellsLines.nil.mono ?_
    rintro _ rfl
    exact ⟨[], .nil, rfl⟩
  | s :: ss, style, blocks, proper, ⟨printable, printable'⟩ => by
    have first := s.spells .ifKw (style.down false) blocks proper printable
    have later := spells_lines ss (style.down true) blocks proper printable'
    exact .cons proper printable' first later

end

end HtmlTemplate
