import HtmlTemplate.Proofs.Grammar.Completeness
import HtmlTemplate.Proofs.Grammar.Soundness
import HtmlTemplate.Proofs.Lexing.Runs
import HtmlTemplate.Template.Basic

/-!
# The language of templates

A source whose lexemes end without a fault compiles if and only if its lexemes derive a list of
statements from the grammar, and this list is the compiled template. So no lexeme is skipped, none
is left over, and no list of lexemes has two trees.
-/

namespace HtmlTemplate

variable {m : Markers}

/-- The grammar is not ambiguous. -/
theorem Grammar.Lines.unique {ts : List Lexeme} {ss ss' : List Statement}
    (derived : Grammar.Lines m ts ss) (derived' : Grammar.Lines m ts ss') : ss = ss' := by
  have reads := derived.parseStatements
  rw [derived'.parseStatements] at reads
  cases reads
  rfl

theorem parseSource_eq_ok_iff {source : List Char} {ss : List Statement} :
    parseSource m source = .ok ss ↔
      (Lexemes.ofSource m source).fault = none ∧
        Grammar.Lines m (Lexemes.ofSource m source).list ss := by
  have chain := Lexemes.isChain_ofSource m source
  unfold parseSource Lexemes.parse
  constructor
  · intro reads
    split at reads
    · cases reads
    · cases reads
    · cases reads
    · cases reads
    · next statements faultless =>
      cases reads
      exact ⟨faultless, parseStatements_sound chain statements⟩
  · rintro ⟨faultless, derived⟩
    rw [derived.parseStatements, faultless]

theorem Template.compile_eq_ok_iff {name : Option String} {source : String} {t : Template} :
    compile m name source = .ok t ↔
      parseSource m source.toList = .ok t.statements ∧ t.name = name ∧ t.source = source := by
  obtain ⟨_, _, _⟩ := t
  unfold compile
  split
  · next statements reads =>
    simp only [reads, Except.ok.injEq, Template.mk.injEq]
    grind
  · next f reads => simp [reads]

/-- The parser accepts exactly its grammar and returns the tree of the derivation. -/
theorem Template.compile_iff_derivable {name : Option String} {source : String}
    (faultless : (Lexemes.ofSource m source.toList).fault = none) :
    ((∃ t, compile m name source = .ok t) ↔
        ∃ ss, Grammar.Lines m (Lexemes.ofSource m source.toList).list ss) ∧
      ∀ t, compile m name source = .ok t ↔
        Grammar.Lines m (Lexemes.ofSource m source.toList).list t.statements ∧
          t.name = name ∧ t.source = source := by
  have exact_tree (t : Template) : compile m name source = .ok t ↔
      Grammar.Lines m (Lexemes.ofSource m source.toList).list t.statements ∧
        t.name = name ∧ t.source = source := by
    rw [compile_eq_ok_iff, parseSource_eq_ok_iff, and_iff_right faultless]
  refine ⟨?_, exact_tree⟩
  constructor
  · rintro ⟨t, compiles⟩
    exact ⟨t.statements, ((exact_tree t).mp compiles).1⟩
  · rintro ⟨ss, derived⟩
    exact ⟨⟨name, source, ss⟩, (exact_tree ⟨name, source, ss⟩).mpr ⟨derived, rfl, rfl⟩⟩

/-- A text line with a sum in a tag. -/
theorem Template.compile_nested_sum :
    (Lexemes.ofSource .standard "p:\n\t-a\x7bx+y\x7d".toList).fault = none ∧
      ∃ t, compile .standard none "p:\n\t-a\x7bx+y\x7d" = .ok t := by
  have lexemes : Lexemes.ofSource .standard "p:\n\t-a\x7bx+y\x7d".toList =
      ⟨[⟨.identifier, 0, ['p']⟩, ⟨.colon, 1, [':']⟩, ⟨.newline, 2, ['\n']⟩, ⟨.indent, 3, ['\t']⟩,
        ⟨.marker, 4, ['-']⟩, ⟨.text, 5, ['a']⟩, ⟨.openSplice, 6, ['{']⟩, ⟨.identifier, 7, ['x']⟩,
        ⟨.operator .add, 8, ['+']⟩, ⟨.identifier, 9, ['y']⟩, ⟨.closeSplice, 10, ['}']⟩,
        ⟨.newline, 11, []⟩, ⟨.dedent, 11, []⟩], none⟩ :=
    Lexemes.ofSource_of_within (n := 20) (by decide +kernel)
  have faultless := congrArg Lexemes.fault lexemes
  have sum : Grammar.Sum [⟨.identifier, 7, ['x']⟩, ⟨.operator .add, 8, ['+']⟩,
      ⟨.identifier, 9, ['y']⟩]
      (.binary .add (.var ⟨"x", ⟨7, 8⟩⟩) (.var ⟨"y", ⟨9, 10⟩⟩)) :=
    .binary (.product (.atom (.var rfl))) rfl rfl (.atom (.var rfl))
  have line : Grammar.Line .standard [⟨.marker, 4, ['-']⟩, ⟨.text, 5, ['a']⟩,
      ⟨.openSplice, 6, ['{']⟩, ⟨.identifier, 7, ['x']⟩, ⟨.operator .add, 8, ['+']⟩,
      ⟨.identifier, 9, ['y']⟩, ⟨.closeSplice, 10, ['}']⟩, ⟨.newline, 11, []⟩] _ :=
    .text rfl (.text rfl (.splice rfl sum rfl .nil)) nofun rfl
  refine ⟨faultless, (compile_iff_derivable faultless).1.mpr ?_⟩
  rw [lexemes]
  exact ⟨_, .cons (.tag rfl .bare (.mk rfl rfl rfl (.cons line .nil) nofun rfl)) .nil⟩

end HtmlTemplate
