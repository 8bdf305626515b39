import HtmlTemplate.Token.Basic

/-!
# Indentation

The indentations of the open blocks, innermost first; below them lies the empty one. A line belongs
to the innermost block, opens a deeper one, or returns to one further out.
-/

namespace HtmlTemplate

abbrev Indents := List (List Char)

namespace Indents

def innermost (blocks : Indents) : List Char := blocks.headD []

/-- The blocks that remain open when a line returns to `indent`, and how many it leaves. -/
def returnTo? (indent : List Char) : Indents → Option (Indents × Nat)
  | [] => if indent = [] then some ([], 0) else none
  | top :: outer =>
    if top = indent then some (top :: outer, 0)
    else if indent.isPrefixOf top then (returnTo? indent outer).map fun r => (r.1, r.2 + 1)
    else none

/-- The blocks that are open in a line with the given indentation, and the tokens of the change.
The indentation begins at offset `start`. -/
def change? (start : Nat) (indent : List Char) (blocks : Indents) :
    Option (Indents × List Lexeme) :=
  if indent = blocks.innermost then some (blocks, [])
  else if blocks.innermost.isPrefixOf indent then
    some (indent :: blocks, [⟨.indent, start, indent⟩])
  else (returnTo? indent blocks).map fun r =>
    (r.1, List.replicate r.2 ⟨.dedent, start + byteLength indent, []⟩)

theorem length_returnTo? {indent : List Char} {blocks : Indents} {r : Indents × Nat}
    (h : returnTo? indent blocks = some r) : r.1.length + r.2 = blocks.length := by
  induction blocks generalizing r with
  | nil =>
    simp only [returnTo?] at h
    split at h <;> cases h
    rfl
  | cons top outer ih =>
    simp only [returnTo?] at h
    split at h
    · cases h; rfl
    · split at h
      · obtain ⟨r', inner, rfl⟩ := Option.map_eq_some_iff.mp h
        have := ih inner
        simp only [List.length_cons]
        omega
      · cases h

/-- A change makes no more lexemes and levels than there were levels and new characters. -/
theorem length_change? {start : Nat} {indent : List Char} {blocks : Indents}
    {r : Indents × List Lexeme} (h : blocks.change? start indent = some r) :
    r.1.length + r.2.length ≤ blocks.length + 2 * indent.length := by
  simp only [change?] at h
  split at h
  · cases h; simp
  · next other =>
    split at h
    · have : indent ≠ [] := by
        rintro rfl
        next deeper =>
          simp only [List.isPrefixOf_iff_prefix, List.prefix_nil] at deeper
          exact other deeper.symm
      have := List.length_pos_iff.mpr this
      cases h
      simp only [List.length_cons, List.length_nil]
      omega
    · obtain ⟨r', inner, rfl⟩ := Option.map_eq_some_iff.mp h
      have := length_returnTo? inner
      simp only [List.length_replicate]
      omega

/-- Each block extends the indentation of the next one further out. -/
def Nested : Indents → Prop
  | [] => True
  | [top] => top ≠ []
  | top :: next :: outer => next <+: top ∧ next ≠ top ∧ Nested (next :: outer)

end Indents

end HtmlTemplate
