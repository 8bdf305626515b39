import HtmlTemplate.Proofs.Grammar.Exact
import HtmlTemplate.Proofs.Printing.Statements

/-!
# Round trip

A printed tree compiles, and the compiled tree differs from it at most in where it stands.
-/

namespace HtmlTemplate

/-- A source that a lexer reads to its end line by line has no fault. -/
theorem Lexemes.ofSource_of_spells {source : List Char} {good : List Lexeme → Prop}
    (spells : SpellsLines [] source good) :
    ∃ ts, good ts ∧ ofSource .standard source = ⟨ts, none⟩ := by
  have line : ({ markers := .standard, rest := source } : Lexer).AtLine [] (source ++ []) :=
    ⟨rfl, rfl, rfl, rfl, rfl, (List.append_nil source).symm⟩
  obtain ⟨ts, is, leads⟩ := spells line .source
  refine ⟨ts, is, ?_⟩
  have line' : (({ markers := .standard, rest := source } : Lexer).skip source []).AtLine [] [] :=
    line.skip
  unfold Lexer.Leads at leads
  rw [ofSource, leads, line'.lexemes_nil]
  simp [Lexemes.after]

theorem parseSource_printed {ss : List Statement} (printable : PrintableAll ss) (style : Style) :
    ∃ ss', parseSource .standard (printLines style [] ss) = .ok ss' ∧ bareAll ss' = bareAll ss := by
  have proper : Indents.Proper [] := ⟨trivial, nofun⟩
  obtain ⟨ts, ⟨ss', derived, same⟩, lexemes⟩ :=
    Lexemes.ofSource_of_spells (spells_lines ss style [] proper printable)
  refine ⟨ss', parseSource_eq_ok_iff.mpr ?_, same⟩
  rw [Indents.innermost, List.headD_nil] at lexemes
  rw [lexemes]
  exact ⟨rfl, derived⟩

/-- Blocks go in by a tab, and conditions are branches wherever they can be. -/
def Style.tabs : Style :=
  ⟨fun _ => ⟨['\t'], List.cons_ne_nil _ _, List.forall_mem_singleton.mpr rfl⟩, fun _ => true⟩

namespace Template

/-- Printing and compiling gives the same tree, however it is printed. -/
theorem compile_printed {ss : List Statement} (printable : PrintableAll ss) (style : Style)
    (name : Option String) :
    ∃ t, compile .standard name (String.ofList (printLines style [] ss)) = .ok t ∧
      bareAll t.statements = bareAll ss := by
  obtain ⟨ss', reads, same⟩ := parseSource_printed printable style
  refine ⟨⟨name, String.ofList (printLines style [] ss), ss'⟩, compile_eq_ok_iff.mpr ?_, same⟩
  rw [String.toList_ofList]
  exact ⟨reads, rfl, rfl⟩

/-- A product of a difference, a negative integer, an attribute, a further condition, a brace in a
text and a quote in a splice. -/
def branching : List Statement :=
  let x : Ident := ⟨"x", ⟨0, 0⟩⟩
  let one : Expr := .literal (.number (.int ⟨-1, by decide, by decide⟩)) ⟨0, 0⟩
  [.choice (.binary .multiply (.binary .subtract (.var x) one) (.var x))
    [.tag x [(x, .array [.var x] ⟨0, 0⟩)] []]
    [.choice (.var x) [.text [.text ['{'], .splice (.literal (.string "\"") ⟨0, 0⟩)]] []]]

theorem compile_branching :
    PrintableAll branching ∧
      String.ofList (printLines .tabs [] branching) =
        "if (x - -1) * x:\n\tx(x = [x])\nelif x:\n\t-\\\x7b\x7b\"\\\"\"\x7d\n" ∧
      ∃ t, compile .standard none (String.ofList (printLines .tabs [] branching)) = .ok t ∧
        bareAll t.statements = bareAll branching := by
  have is : IsName "x" := ⟨⟨'x', rfl, by decide⟩, List.all_eq_true.mp rfl, by decide⟩
  have tag : Statement.Printable (.tag ⟨"x", ⟨0, 0⟩⟩
      [(⟨"x", ⟨0, 0⟩⟩, .array [.var ⟨"x", ⟨0, 0⟩⟩] ⟨0, 0⟩)] []) :=
    ⟨is, by simpa [PrintableAttributes, Expr.Printable, PrintableItems] using is, trivial⟩
  have parts : PrintableParts [.text ['{'], .splice (.literal (.string "\"") ⟨0, 0⟩)] := by
    constructor <;> simp [Expr.Printable, Value.IsLiteral, Part.isText]
  have printable : PrintableAll branching :=
    ⟨⟨⟨⟨is, trivial⟩, is⟩, nofun, ⟨tag, trivial⟩, ⟨is, nofun, ⟨⟨nofun, parts⟩, trivial⟩, trivial⟩,
      trivial⟩, trivial⟩
  exact ⟨printable, by decide +kernel, compile_printed printable .tabs none⟩

end Template

end HtmlTemplate
