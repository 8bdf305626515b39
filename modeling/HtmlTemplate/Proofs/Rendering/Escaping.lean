import HtmlTemplate.Value.Text

/-!
# Escaping of values

Whatever a value holds, what it writes has none of the characters that begin or end a tag or the
value of an attribute.
-/

namespace HtmlTemplate

/-- Begins or ends neither a tag nor the value of an attribute. -/
def isInert : Char → Bool
  | '<' | '>' | '"' | '\'' => false
  | _ => true

def Inert (cs : List Char) : Prop := ∀ c ∈ cs, isInert c = true

instance (cs : List Char) : Decidable (Inert cs) :=
  decidable_of_iff (cs.all isInert = true) List.all_eq_true

theorem Inert.nil : Inert [] := by
  intro c mem
  cases mem

theorem Inert.append {xs ys : List Char} (first : Inert xs) (later : Inert ys) : Inert (xs ++ ys) :=
  List.forall_mem_append.mpr ⟨first, later⟩

theorem Inert.cons {c : Char} {cs : List Char} (first : isInert c = true) (later : Inert cs) :
    Inert (c :: cs) := List.forall_mem_cons.mpr ⟨first, later⟩

/-! ## Texts of numbers -/

/-- Occurs in the text of a number. -/
def isFigure (c : Char) : Bool := c.isDigit || c == '.' || c == 'e' || c == '-' || c == '+'

def Figures (cs : List Char) : Prop := ∀ c ∈ cs, isFigure c = true

instance (cs : List Char) : Decidable (Figures cs) :=
  decidable_of_iff (cs.all isFigure = true) List.all_eq_true

theorem Figures.nil : Figures [] := List.forall_mem_nil _

theorem Figures.append {xs ys : List Char} (first : Figures xs) (later : Figures ys) :
    Figures (xs ++ ys) := List.forall_mem_append.mpr ⟨first, later⟩

theorem Figures.cons {c : Char} {cs : List Char} (first : isFigure c = true) (later : Figures cs) :
    Figures (c :: cs) := List.forall_mem_cons.mpr ⟨first, later⟩

theorem Figures.of_subset {xs ys : List Char} (figures : Figures ys) (sub : xs ⊆ ys) : Figures xs :=
  fun c mem => figures c (sub mem)

theorem figures_decimalDigits (n : Nat) : Figures (decimalDigits n) := by
  intro c mem
  have digit := Nat.isDigit_of_mem_toDigits (by decide) (by decide) mem
  simp [isFigure, digit]

theorem figures_zeros (n : Nat) : Figures (zeros n) := by
  intro c mem
  rw [List.eq_of_mem_replicate mem]
  rfl

theorem figures_positional {digits : List Char} (figures : Figures digits) (e : Int) :
    Figures (positional digits e) := by
  have point : Figures ['0', '.'] := by decide
  have ending : Figures ['.', '0'] := by decide
  simp only [positional]
  split
  · exact (point.append (figures_zeros _)).append figures
  · split
    · exact (figures.append (figures_zeros _)).append ending
    · refine (figures.of_subset (List.take_subset ..)).append (.cons rfl ?_)
      exact figures.of_subset (List.drop_subset ..)

theorem figures_scientific {digits : List Char} (figures : Figures digits) (e : Int) :
    Figures (scientific digits e) := by
  have exponent : Figures ['e', if e < 0 then '-' else '+'] := by
    split <;> decide
  have fraction : Figures (if (digits.drop 1).isEmpty then [] else '.' :: digits.drop 1) := by
    split
    · exact .nil
    · exact .cons rfl (figures.of_subset (List.drop_subset ..))
  have first : Figures (digits.take 1) := figures.of_subset (List.take_subset ..)
  exact ((first.append fraction).append exponent).append (figures_decimalDigits _)

theorem figures_decimal (layout : Layout) (d : Decimal) : Figures (d.text layout) := by
  simp only [Decimal.text]
  split
  · exact figures_positional (figures_decimalDigits _) _
  · exact figures_scientific (figures_decimalDigits _) _

theorem figures_number (n : Number) : Figures n.text := by
  have sign (p : Prop) [Decidable p] : Figures (if p then ['-'] else []) := by
    split <;> decide
  have noSign (p : Prop) [Decidable p] : Figures (if p then [] else ['-']) := by
    split <;> decide
  cases n with
  | int i => exact (sign _).append (figures_decimalDigits _)
  | float x =>
    simp only [Number.text, floatText]
    refine (noSign _).append ?_
    split
    · exact figures_positional (by decide) 0
    · exact figures_decimal _ _

theorem isInert_of_isFigure {c : Char} (figure : isFigure c = true) : isInert c = true := by
  unfold isInert
  split
  · cases figure
  · cases figure
  · cases figure
  · cases figure
  · rfl

theorem inert_number (n : Number) : Inert n.text :=
  fun c mem => isInert_of_isFigure (figures_number n c mem)

/-! ## Values -/

theorem inert_entity (c : Char) : Inert (entity c) := by
  unfold entity
  split
  · decide
  · decide
  · decide
  · decide
  · decide
  · next notAmp notLess notGreater notQuote notApostrophe =>
    refine .cons ?_ .nil
    unfold isInert
    split <;> simp_all

theorem inert_escape (text : List Char) : Inert (escape text) := by
  intro c mem
  obtain ⟨d, -, mem⟩ := List.mem_flatMap.mp mem
  exact inert_entity d c mem

namespace Value

theorem inert_boolText (b : Bool) : Inert (boolText b) := by
  cases b <;> decide

mutual

theorem inert_writeItem : ∀ v : Value, Inert v.writeItem
  | .nothing => by
    rw [writeItem]
    decide
  | .bool b => by
    rw [writeItem]
    exact inert_boolText b
  | .number n => by
    rw [writeItem]
    exact inert_number n
  | .string s => by
    rw [writeItem]
    exact inert_escape _
  | .array items => by
    rw [writeItem]
    exact .append (.cons rfl (inert_writeItems items)) (.cons rfl .nil)
  | .dict entries => by
    rw [writeItem]
    exact .append (.cons rfl (inert_writeEntries entries)) (.cons rfl .nil)

theorem inert_writeItems : ∀ vs : List Value, Inert (writeItems vs)
  | [] => by
    rw [writeItems]
    exact .nil
  | [v] => by
    rw [writeItems]
    exact inert_writeItem v
  | v :: w :: vs => by
    have comma : Inert [',', ' '] := by decide
    rw [writeItems]
    · exact ((inert_writeItem v).append comma).append (inert_writeItems (w :: vs))
    · simp

theorem inert_writeEntries : ∀ es : List (String × Value), Inert (writeEntries es)
  | [] => by
    rw [writeEntries]
    exact .nil
  | [(k, v)] => by
    have colon : Inert [':', ' '] := by decide
    rw [writeEntries]
    exact ((inert_escape _).append colon).append (inert_writeItem v)
  | (k, v) :: e :: es => by
    have colon : Inert [':', ' '] := by decide
    have comma : Inert [',', ' '] := by decide
    have entry := ((inert_escape k.toList).append colon).append (inert_writeItem v)
    rw [writeEntries]
    · exact (entry.append comma).append (inert_writeEntries (e :: es))
    · simp

end

theorem inert_write (v : Value) : Inert v.write := by
  unfold write
  split
  · exact .nil
  · exact inert_writeItem _

end Value

end HtmlTemplate
