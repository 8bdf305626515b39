import HtmlTemplate.Token.Indentation
import Mathlib.Data.List.Basic

/-!
# Open blocks

Each open block extends the indentation of the one around it, and a change of blocks keeps it so. A
line returns to a block that is open around the innermost one exactly as it would from there.
-/

namespace HtmlTemplate.Indents

variable {blocks outer : Indents} {top indent : List Char} {r : Indents × Nat}

theorem isPrefix_of_returnTo? (returns : returnTo? indent blocks = some r) :
    indent <+: blocks.innermost := by
  cases blocks with
  | nil =>
    simp only [returnTo?] at returns
    split at returns
    · next none => simp [none]
    · cases returns
  | cons top outer =>
    simp only [returnTo?] at returns
    split at returns
    · next same => simp [innermost, same]
    · split at returns
      · next further => exact List.isPrefixOf_iff_prefix.mp further
      · cases returns

/-- A line that returns to a block opens none. -/
theorem change?_of_returnTo? (start : Nat) (returns : returnTo? indent blocks = some r) :
    blocks.change? start indent =
      some (r.1, List.replicate r.2 ⟨.dedent, start + byteLength indent, []⟩) := by
  have further := isPrefix_of_returnTo? returns
  unfold change?
  by_cases same : indent = blocks.innermost
  · rw [if_pos same]
    cases blocks with
    | nil =>
      cases same
      cases returns
      rfl
    | cons top outer =>
      cases same
      simp only [returnTo?, innermost, List.headD_cons, if_true, Option.some.injEq] at returns
      cases returns
      rfl
  · have deeper : ¬ blocks.innermost.isPrefixOf indent = true := by
      intro deeper
      have back := List.isPrefixOf_iff_prefix.mp deeper
      exact same (further.eq_of_length (Nat.le_antisymm further.length_le back.length_le))
    rw [if_neg same, if_neg deeper, returns]
    rfl

theorem returnTo?_cons (nested : Nested (top :: outer))
    (returns : returnTo? indent outer = some r) :
    returnTo? indent (top :: outer) = some (r.1, r.2 + 1) := by
  have further := isPrefix_of_returnTo? returns
  have shorter : outer.innermost <+: top ∧ outer.innermost ≠ top := by
    cases outer with
    | nil => exact ⟨List.nil_prefix, fun none => nested none.symm⟩
    | cons next outer => exact ⟨nested.1, nested.2.1⟩
  have other : top ≠ indent := by
    rintro rfl
    exact shorter.2 (shorter.1.eq_of_length (Nat.le_antisymm shorter.1.length_le further.length_le))
  have inner := List.isPrefixOf_iff_prefix.mpr (further.trans shorter.1)
  rw [returnTo?, if_neg other, if_pos inner, returns]
  rfl

theorem returnTo?_innermost (blocks : Indents) :
    returnTo? blocks.innermost blocks = some (blocks, 0) := by
  cases blocks with
  | nil => rfl
  | cons top outer => simp [returnTo?, innermost]

theorem Nested.tail (nested : Nested (top :: outer)) : Nested outer := by
  cases outer with
  | nil => trivial
  | cons next outer => exact nested.2.2

theorem Nested.of_suffix (nested : Nested blocks) (suffix : outer <:+ blocks) : Nested outer := by
  induction blocks with
  | nil =>
    rw [List.suffix_nil.mp suffix]
    trivial
  | cons top blocks ih =>
    rcases List.suffix_cons_iff.mp suffix with rfl | suffix
    · exact nested
    · exact ih nested.tail suffix

/-- A block further in. -/
theorem Nested.within (nested : Nested blocks) (further : blocks.innermost <+: indent)
    (other : indent ≠ blocks.innermost) : Nested (indent :: blocks) := by
  cases blocks with
  | nil => exact other
  | cons next outer => exact ⟨further, other.symm, nested⟩

theorem suffix_of_returnTo? (returns : returnTo? indent blocks = some r) : r.1 <:+ blocks := by
  induction blocks generalizing r with
  | nil =>
    simp only [returnTo?] at returns
    split at returns <;> cases returns
    exact List.nil_suffix
  | cons top outer ih =>
    simp only [returnTo?] at returns
    split at returns
    · cases returns
      exact List.suffix_refl _
    · split at returns
      · obtain ⟨r', inner, rfl⟩ := Option.map_eq_some_iff.mp returns
        exact (ih inner).trans (List.suffix_cons ..)
      · cases returns

theorem Nested.change? {start : Nat} {blocks' : Indents} {changes : List Lexeme}
    (nested : Nested blocks) (change : blocks.change? start indent = some (blocks', changes)) :
    Nested blocks' := by
  simp only [Indents.change?] at change
  split at change
  · cases change
    exact nested
  · next other =>
    split at change
    · next further =>
      cases change
      exact nested.within (List.isPrefixOf_iff_prefix.mp further) other
    · obtain ⟨r, returns, eq⟩ := Option.map_eq_some_iff.mp change
      cases eq
      exact nested.of_suffix (suffix_of_returnTo? returns)

/-- A line without indentation leaves every block. -/
theorem Nested.returnTo?_nil (nested : Nested blocks) :
    returnTo? [] blocks = some ([], blocks.length) := by
  induction blocks with
  | nil => rfl
  | cons top outer ih => exact returnTo?_cons nested (ih nested.tail)

/-- A line that returns through some blocks to the innermost of the others. -/
theorem Nested.returnTo?_append {inner : Indents} (nested : Nested (inner ++ blocks)) :
    returnTo? blocks.innermost (inner ++ blocks) = some (blocks, inner.length) := by
  induction inner with
  | nil => exact blocks.returnTo?_innermost
  | cons top inner ih => exact returnTo?_cons nested (ih nested.tail)

/-! ## Lines and the blocks they belong to -/

theorem innermost_of_returnTo? (returns : returnTo? indent blocks = some r) :
    r.1.innermost = indent := by
  induction blocks generalizing r with
  | nil =>
    simp only [returnTo?] at returns
    split at returns
    · next none =>
      cases returns
      exact none.symm
    · cases returns
  | cons top outer ih =>
    simp only [returnTo?] at returns
    split at returns
    · next same =>
      cases returns
      exact same
    · split at returns
      · obtain ⟨r', inner, rfl⟩ := Option.map_eq_some_iff.mp returns
        exact ih (r := r') inner
      · cases returns

/-- The blocks that are open in front of a line and in it, and the tokens of the change. -/
inductive Change (indent : List Char) : Indents → Indents → List Token → Prop where
  | same {blocks : Indents} (equal : indent = blocks.innermost) : Change indent blocks blocks []
  | deeper {blocks : Indents} (further : blocks.innermost <+: indent)
      (other : indent ≠ blocks.innermost) : Change indent blocks (indent :: blocks) [.indent]
  | back {left blocks : Indents} (some : left ≠ []) (equal : indent = blocks.innermost) :
      Change indent (left ++ blocks) blocks (List.replicate left.length .dedent)

/-- Each block extends the one around it, the outermost one the empty indentation. -/
theorem Nested.isChain (nested : Nested blocks) :
    (blocks ++ [[]]).IsChain fun inner outer => outer <+: inner ∧ outer.length < inner.length := by
  induction blocks with
  | nil => exact .singleton _
  | cons top outer ih =>
    have chain := ih nested.tail
    cases outer with
    | nil =>
      exact .cons_cons ⟨List.nil_prefix, List.length_pos_iff.mpr nested⟩ chain
    | cons next outer =>
      obtain ⟨further, other, -⟩ := nested
      refine .cons_cons ⟨further, Nat.lt_of_le_of_ne further.length_le fun same => ?_⟩ chain
      exact other (further.eq_of_length same)

theorem Nested.change?_iff (start : Nat) {blocks' : Indents} {tokens : List Token}
    (nested : Nested blocks) : Change indent blocks blocks' tokens ↔
      ∃ changes, blocks.change? start indent = some (blocks', changes) ∧
        changes.map (·.token) = tokens := by
  constructor
  · intro change
    cases change with
    | same equal => exact ⟨[], by rw [Indents.change?, if_pos equal], rfl⟩
    | deeper further other =>
      refine ⟨[⟨.indent, start, indent⟩], ?_, rfl⟩
      rw [Indents.change?, if_neg other, if_pos (List.isPrefixOf_iff_prefix.mpr further)]
    | back some equal =>
      subst equal
      exact ⟨_, change?_of_returnTo? start nested.returnTo?_append, List.map_replicate⟩
  · rintro ⟨changes, change, rfl⟩
    simp only [Indents.change?] at change
    split at change
    · next equal =>
      cases change
      exact .same equal
    · next other =>
      split at change
      · next further =>
        cases change
        exact .deeper (List.isPrefixOf_iff_prefix.mp further) other
      · obtain ⟨⟨blocks', number⟩, returns, eq⟩ := Option.map_eq_some_iff.mp change
        cases eq
        obtain ⟨left, rfl⟩ := suffix_of_returnTo? returns
        have total := length_returnTo? returns
        rw [List.length_append, Nat.add_comm] at total
        rw [List.map_replicate, Nat.add_right_cancel total]
        refine .back ?_ (innermost_of_returnTo? returns).symm
        rintro rfl
        exact other (innermost_of_returnTo? returns).symm

end HtmlTemplate.Indents
