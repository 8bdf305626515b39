import HtmlTemplate.Proofs.Grammar.Basic
import HtmlTemplate.Proofs.Printing.Basic
import HtmlTemplate.Proofs.Printing.Spelling
import HtmlTemplate.Proofs.Trees.Relocation

/-!
# Printed expressions

A printed expression spells lexemes that derive it again, on the level of the grammar for which it
was printed.
-/

namespace HtmlTemplate

open Grammar

def Level.Derives : Level → List Lexeme → Expr → Prop
  | .sum => Sum
  | .product => Product
  | .atom => Atom

section

variable {level : Level} {ts us : List Lexeme} {t : Lexeme} {op : Operator} {e left right : Expr}

theorem Level.derives_of_atom (atom : Atom ts e) : level.Derives ts e := by
  cases level with
  | sum => exact .product (.atom atom)
  | product => exact .atom atom
  | atom => exact atom

/-- Operators of one level group to the left. -/
theorem Level.derives_binary (first : op.level.Derives ts left) (operator : t.token = .operator op)
    (later : op.level.tighter.Derives us right) :
    op.level.Derives (ts ++ t :: us) (.binary op left right) := by
  unfold Operator.level at *
  by_cases product : op.isProduct = true
  · rw [if_pos product] at *
    exact .binary first operator product later
  · rw [if_neg product] at *
    exact .binary first operator (Bool.eq_false_iff.mpr product) later

theorem Level.derives_admitted (admits : level.admits op = true) (derived : op.level.Derives ts e) :
    level.Derives ts e := by
  unfold Operator.level at derived
  cases level with
  | sum =>
    by_cases product : op.isProduct = true
    · rw [if_pos product] at derived
      exact .product derived
    · rw [if_neg product] at derived
      exact derived
  | product =>
    have product : op.isProduct = true := admits
    rw [if_pos product] at derived
    exact derived
  | atom => cases admits

theorem Level.sum_of_derives (derived : level.Derives ts e) : Sum ts e := by
  cases level with
  | sum => exact derived
  | product => exact .product derived
  | atom => exact .product (.atom derived)

end

/-- The lexemes say the same as the expression. -/
def Level.Reads (level : Level) (e : Expr) (ts : List Lexeme) : Prop :=
  ∃ e', level.Derives ts e' ∧ e'.bare = e.bare

def ItemsRead (items : List Expr) (ts : List Lexeme) : Prop :=
  ∃ items', Items ts items' ∧ relocateItems Region.forget items' = relocateItems Region.forget items

def EntriesRead (entries : List (Expr × Expr)) (ts : List Lexeme) : Prop :=
  ∃ entries', Grammar.Entries ts entries' ∧
    relocateEntries Region.forget entries' = relocateEntries Region.forget entries

theorem bare_ident {t : Lexeme} {name : Ident} (chars : t.chars = name.name.toList) :
    t.ident.relocate Region.forget = name.relocate Region.forget := by
  simp [Ident.relocate, Lexeme.ident, Lexeme.word, chars, Region.forget]

/-! ## Literals and operators -/

section

variable {level : Level} {fits : List Char → Prop} {region : Region}

theorem Operator.spells (op : Operator) :
    Spells fits op.spaced (Single (.operator op) op.text.toList) := by
  have sign : Spells Anything op.text.toList (Single (.operator op) op.text.toList) := by
    cases op <;> exact Spells.punctuation rfl
  refine (sign.andThen .gap).behindGap.mono ?_
  rintro _ ⟨ts, _, rfl, is, rfl⟩
  rwa [List.append_nil]

theorem spells_int (i : Integer) :
    Spells Breaks (intText i.val) (level.Reads (.literal (.number (.int i)) region)) := by
  have some := NumberLiteral.decimalDigits_ne_nil i.val.natAbs
  have digits := NumberLiteral.isDigit_decimalDigits i.val.natAbs
  unfold intText
  by_cases negative : i.val < 0
  · rw [if_pos negative]
    refine (Spells.negative some digits).mono ?_
    rintro _ ⟨t, u, rfl, minus, number, chars, touches⟩
    have reads := NumberLiteral.read?_negative negative
    rw [← chars] at reads
    exact ⟨_, Level.derives_of_atom (.minus minus number touches reads), rfl⟩
  · rw [if_neg negative]
    refine (Spells.digits some digits).mono ?_
    rintro _ ⟨t, rfl, number, chars⟩
    have reads := NumberLiteral.read?_nonneg (i := i) (by omega)
    rw [← chars] at reads
    exact ⟨_, Level.derives_of_atom (.number number reads), rfl⟩

theorem Value.spells {v : Value} (literal : v.IsLiteral) :
    Spells Breaks v.print (level.Reads (.literal v region)) := by
  have word {name : String} {v : Value} (worded : Worded name.toList)
      (continues : name.toList.all Unicode.isIdentContinue = true)
      (value : (Token.ofWord name).value? = some v) :
      Spells Breaks name.toList (level.Reads (.literal v region)) := by
    refine (Spells.word worded (List.all_eq_true.mp continues)).mono ?_
    rintro _ ⟨t, rfl, token, -⟩
    rw [String.ofList_toList] at token
    exact ⟨_, Level.derives_of_atom (.word (token ▸ value)), rfl⟩
  cases v with
  | nothing => exact word ⟨_, _, rfl, by decide⟩ (by decide) rfl
  | bool b =>
    cases b with
    | true => exact word ⟨_, _, rfl, by decide⟩ (by decide) rfl
    | false => exact word ⟨_, _, rfl, by decide⟩ (by decide) rfl
  | number n =>
    cases n with
    | int i => exact spells_int i
    | float x => cases literal
  | string s =>
    refine (Spells.string s.toList).mono ?_
    rintro _ ⟨t, rfl, string, chars⟩
    have text : decodeString? (insideQuotes t.chars) = some s.toList := by
      rw [chars, quoted, insideQuotes_quoted, decodeString?_quoted]
    refine ⟨_, Level.derives_of_atom (.string string text), ?_⟩
    rw [String.ofList_toList]
    rfl
  | array | dict => cases literal

end

/-! ## Expressions -/

/-- An operator between its operands. -/
theorem spells_binary {level : Level} {op : Operator} {left right : Expr}
    (first : Spells Breaks (left.print op.level) (op.level.Reads left))
    (later : Spells Breaks (right.print op.level.tighter) (op.level.tighter.Reads right)) :
    Spells Breaks ((Expr.binary op left right).print level)
      (level.Reads (.binary op left right)) := by
  have whole : Spells Breaks (left.print op.level ++ op.spaced ++ right.print op.level.tighter)
      (op.level.Reads (.binary op left right)) := by
    rw [List.append_assoc]
    refine (first.before (by decide) (op.spells.andThen later)).mono ?_
    rintro _ ⟨ts, _, rfl, ⟨left', derived, same⟩, _, us, rfl, ⟨t, rfl, operator, -⟩,
      right', derived', same'⟩
    exact ⟨_, Level.derives_binary derived operator derived', by simp [Expr.relocate, same, same']⟩
  rw [Expr.print]
  by_cases admits : level.admits op = true
  · rw [if_pos admits]
    refine whole.mono ?_
    rintro ts ⟨e', derived, same⟩
    exact ⟨e', Level.derives_admitted admits derived, same⟩
  · rw [if_neg admits]
    refine (Spells.bracketed rfl rfl whole).mono ?_
    rintro _ ⟨_, _, _, rfl, opens, ⟨e', derived, same⟩, closes⟩
    have parens := Atom.parens opens (Level.sum_of_derives derived) closes
    exact ⟨e', Level.derives_of_atom parens, same⟩

theorem spells_entry {key value : Expr}
    (first : Spells Breaks (key.print .sum) (Level.sum.Reads key))
    (later : Spells Breaks (value.print .sum) (Level.sum.Reads value)) :
    Spells Breaks (key.print .sum ++ ([':', ' '] ++ value.print .sum)) fun ts =>
      ∃ us t vs key' value', ts = us ++ t :: vs ∧ Sum us key' ∧ t.token = .colon ∧ Sum vs value' ∧
        key'.bare = key.bare ∧ value'.bare = value.bare := by
  have colon : Spells Anything [':'] (Single .colon [':']) := .punctuation rfl
  refine (first.before (by decide) (colon.andThen later.behindGap)).mono ?_
  rintro _ ⟨ts, _, rfl, ⟨key', derived, same⟩, _, us, rfl, ⟨t, rfl, colon, -⟩, value',
    derived', same'⟩
  exact ⟨ts, t, us, key', value', rfl, derived, colon, derived', same, same'⟩

mutual

theorem Expr.spells : ∀ (e : Expr) (level : Level), e.Printable →
    Spells Breaks (e.print level) (level.Reads e)
  | .literal v _, _, literal => Value.spells literal
  | .var name, _, is => by
    refine (Spells.identifier is).mono ?_
    rintro _ ⟨t, rfl, identifier, chars⟩
    exact ⟨_, Level.derives_of_atom (.var identifier), by simp [Expr.relocate, bare_ident chars]⟩
  | .array items _, _, printable => by
    refine (Spells.bracketed rfl rfl (spells_items items printable)).mono ?_
    rintro _ ⟨_, _, _, rfl, opens, ⟨items', derived, same⟩, closes⟩
    have array := Atom.array opens derived closes
    exact ⟨_, Level.derives_of_atom array, by simp [Expr.relocate, same, Region.forget]⟩
  | .dict entries _, _, printable => by
    refine (Spells.bracketed rfl rfl (spells_entries entries printable)).mono ?_
    rintro _ ⟨_, _, _, rfl, opens, ⟨entries', derived, same⟩, closes⟩
    have dict := Atom.dict opens derived closes
    exact ⟨_, Level.derives_of_atom dict, by simp [Expr.relocate, same, Region.forget]⟩
  | .binary op left right, _, ⟨printable, printable'⟩ =>
    spells_binary (left.spells op.level printable) (right.spells op.level.tighter printable')
  | .call function arguments _, _, ⟨is, printable⟩ => by
    have arguments : Spells Breaks ('(' :: printItems arguments ++ [')'])
      (Enclosed .round (ItemsRead arguments)) :=
        .bracketed rfl rfl (spells_items arguments printable)
    refine ((Spells.identifier is).before (by decide) arguments).mono ?_
    rintro _ ⟨_, _, rfl, ⟨t, rfl, identifier, chars⟩, _, _, _, rfl, opens,
      ⟨items', derived, same⟩, closes⟩
    have call := Atom.call identifier opens derived closes
    exact ⟨_, Level.derives_of_atom call,
      by simp [Expr.relocate, bare_ident chars, same, Region.forget]⟩

theorem spells_items : ∀ items : List Expr, PrintableItems items →
    Spells Breaks (printItems items) (ItemsRead items)
  | [], _ => Spells.nil.mono fun _ none => ⟨[], none ▸ .nil, rfl⟩
  | [e], ⟨printable, _⟩ => by
    have single : printItems [e] = e.print .sum := by simp [printItems]
    rw [single]
    refine (e.spells .sum printable).mono ?_
    rintro ts ⟨e', derived, same⟩
    exact ⟨[e'], .last derived, by simp [relocateItems, same]⟩
  | e :: e₂ :: es, ⟨printable, later⟩ => by
    refine ((e.spells .sum printable).listed (spells_items (e₂ :: es) later)).mono ?_
    rintro _ ⟨ts, _, rfl, ⟨e', derived, same⟩, _, us, rfl, ⟨t, rfl, comma, -⟩, items',
      derived', same'⟩
    exact ⟨e' :: items', .cons derived comma derived', by simp [relocateItems, same, same']⟩

theorem spells_entries : ∀ entries : List (Expr × Expr), PrintableEntries entries →
    Spells Breaks (printEntries entries) (EntriesRead entries)
  | [], _ => Spells.nil.mono fun _ none => ⟨[], none ▸ .nil, rfl⟩
  | [(key, value)], ⟨printable, printable', _⟩ => by
    have single : printEntries [(key, value)] = key.print .sum ++
        ([':', ' '] ++ value.print .sum) := by
      simp [printEntries]
    rw [single]
    refine (spells_entry (key.spells .sum printable) (value.spells .sum printable')).mono ?_
    rintro _ ⟨ts, t, us, key', value', rfl, derived, colon, derived', same, same'⟩
    exact ⟨_, .last derived colon derived', by simp [relocateEntries, same, same']⟩
  | (key, value) :: e :: es, ⟨printable, printable', later⟩ => by
    have entry := spells_entry (key.spells .sum printable) (value.spells .sum printable')
    refine (entry.listed (spells_entries (e :: es) later)).mono ?_
    rintro _ ⟨_, _, rfl, ⟨ts, t, us, key', value', rfl, derived, colon, derived', same, same'⟩,
      _, vs, rfl, ⟨u, rfl, comma, -⟩, entries', derived'', same''⟩
    exact ⟨_, .cons derived colon derived' comma derived'',
      by simp [relocateEntries, same, same', same'']⟩

end

end HtmlTemplate
