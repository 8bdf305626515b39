import HtmlTemplate.Proofs.Lexing.Levels
import HtmlTemplate.Proofs.Printing.Blocks
import HtmlTemplate.Proofs.Rendering.Concatenation

/-!
# Sources within blocks

A source can stand within blocks that were opened before it and are closed behind it. There it is
read as it would be anywhere else within them, and another source that begins in the innermost of
the blocks can follow where its last line has ended.
-/

namespace HtmlTemplate

namespace Lexer

/-- A lexer that begins to read within open blocks. -/
def inBlock (mode : Mode) (m : Markers) (blocks : Indents) (n : Nat) (source : List Char) :
    Lexer where
  markers := m
  rest := source
  offset := n
  mode := mode
  indents := blocks

/-- Reads such lexemes and then closes the blocks that were open from the start. -/
def Fills (l : Lexer) (ts : List Lexeme) : Prop :=
  ∃ dedents, (∀ t ∈ dedents, t.token = .dedent) ∧ dedents.length = l.indents.length ∧
    l.lexemes = ⟨ts ++ dedents, none⟩

variable {l l' : Lexer} {m : Markers} {mode : Mode} {blocks inner : Indents} {n k : Nat}
  {ts us : List Lexeme} {a b : List Char}

theorem Fills.behind (fills : l'.Fills us) (leads : l.Leads ts l') (same : l.indents = l'.indents) :
    l.Fills (ts ++ us) := by
  obtain ⟨dedents, closing, number, whole⟩ := fills
  refine ⟨dedents, closing, number.trans (same ▸ rfl), ?_⟩
  unfold Leads at leads
  rw [leads, whole]
  simp [Lexemes.after]

/-- What remains behind lexemes that are read first and close no block. -/
theorem Fills.split (fills : l.Fills ts) (leads : l.Leads us l') (same : l.indents = l'.indents)
    (stays : ∀ u ∈ us, u.token ≠ .dedent) : ∃ vs, ts = us ++ vs ∧ l'.Fills vs := by
  obtain ⟨dedents, closing, number, whole⟩ := fills
  unfold Leads at leads
  rw [leads, Lexemes.after, Lexemes.mk.injEq] at whole
  obtain ⟨vs, shape, later⟩ : ∃ vs, ts = us ++ vs ∧ l'.lexemes.list = vs ++ dedents := by
    rcases List.append_eq_append_iff.mp whole.1 with ⟨vs, shape, later⟩ | ⟨vs, rfl, rfl⟩
    · exact ⟨vs, shape, later⟩
    · obtain rfl : vs = [] := List.eq_nil_iff_forall_not_mem.mpr fun v mem =>
        stays v (List.mem_append_right _ mem) (closing v (List.mem_append_left _ mem))
      exact ⟨[], by simp, rfl⟩
  exact ⟨vs, shape, dedents, closing, number.trans (same ▸ rfl),
    congrArg₂ Lexemes.mk later whole.2⟩

theorem Fills.shift (fills : (inBlock mode m blocks n a).Fills ts) (k : Nat) :
    (inBlock mode m blocks (n + k) a).Fills (ts.map (Lexeme.shift k)) := by
  obtain ⟨dedents, closing, number, whole⟩ := fills
  have further := (run_lexemes (l := inBlock mode m blocks n a) rfl).lexemes_within k
  have source : (inBlock mode m blocks n a).within k [] = inBlock mode m blocks (n + k) a := by
    simp [within, inBlock]
  rw [source, whole] at further
  refine ⟨dedents.map (Lexeme.shift k), List.forall_mem_map.mpr closing, ?_, ?_⟩
  · rwa [List.length_map]
  · rw [further]
    simp [Lexemes.shift]

/-- Nothing more stands within the blocks. -/
theorem fills_nil (m : Markers) (blocks : Indents) (n : Nat) :
    (inBlock .lineStart m blocks n []).Fills [] :=
  ⟨_, fun _ mem => List.eq_of_mem_replicate mem ▸ rfl, List.length_replicate ..,
    AtEnd.lexemes ⟨rfl, rfl, rfl, rfl⟩⟩

theorem Fills.eq_nil (fills : (inBlock .lineStart m blocks n []).Fills ts) : ts = [] := by
  obtain ⟨dedents, closing, number, whole⟩ := fills
  rw [AtEnd.lexemes ⟨rfl, rfl, rfl, rfl⟩, Lexemes.mk.injEq] at whole
  have length := congrArg List.length whole.1
  rw [List.length_replicate, List.length_append, number] at length
  exact List.length_eq_zero_iff.mp (by omega)

/-- The first line of what follows closes the blocks within. -/
theorem leads_returning (nested : (inner ++ blocks).Nested) (proper : blocks.Proper)
    (begins : Begins blocks.innermost b) :
    (inBlock .lineStart m (inner ++ blocks) n b).Leads
      (List.replicate inner.length ⟨.dedent, n + byteLength blocks.innermost, []⟩)
      (inBlock .lineStart m blocks n b) := by
  obtain ⟨c, cs, rfl, ink⟩ := begins
  have before := Indents.change?_of_returnTo? n nested.returnTo?_append
  rw [← List.append_nil (List.replicate ..)] at before
  exact leads_change rfl rfl rfl proper.innermost ink before (if_pos rfl)

/-- The lexer at the end of a source is the one that begins to read what follows. -/
theorem Steps.reached (steps : Steps (inBlock mode m blocks n a) ts l) (atEnd : l.AtEnd) (k : Nat)
    (b : List Char) :
    l.within k b = inBlock .lineStart m l.indents (n + k + byteLength a) b := by
  have ⟨owes, rest, mode, closed⟩ := atEnd
  have offset : l.offset = n + byteLength a := by
    have sum := steps.offset
    rwa [rest, byteLength_nil, Nat.add_zero] at sum
  rw [Lexer.within, steps.markers, rest, offset, mode, closed, owes, Nat.add_right_comm]
  rfl

/-- A source that stands further on, in front of another one. It ends its last line. -/
theorem Fills.append (first : (inBlock mode m blocks n a).Fills ts) (balanced : Balanced ts)
    (active : mode ≠ .done) (landed : a = [] → mode = .lineStart) (proper : blocks.Proper)
    (ends : EndsLine a) (begins : Begins blocks.innermost b)
    (later : (inBlock .lineStart m blocks (n + k + byteLength a) b).Fills us) :
    ∃ ts', Carries (· + k) ts ts' ∧ (inBlock mode m blocks (n + k) (a ++ b)).Fills (ts' ++ us) := by
  obtain ⟨dedents, closing, number, whole⟩ := first
  have run : Run (inBlock mode m blocks n a) _ := run_lexemes rfl
  obtain ⟨l, vs, steps, atEnd⟩ :=
    run.steps_to_end (by rw [whole]) active ends fun none => .inl (landed none)
  have nested := steps.nested proper.nested
  have all := steps.leads
  unfold Leads at all
  rw [whole, atEnd.lexemes, Lexemes.after, Lexemes.mk.injEq] at all
  obtain ⟨inner, open', rfl⟩ := steps.ends_within atEnd balanced closing number all.1.symm
  rw [open'] at nested
  have through := (steps.within ends k b).leads
  rw [steps.reached atEnd, open'] at through
  have leads := through.trans (leads_returning (n := n + k + byteLength a) nested proper begins)
  exact ⟨_, List.rel_append (carries_shift k vs) (carries_dedents (· + k) _ l.offset _),
    later.behind leads rfl⟩

/-- Nothing follows, or else lines of the innermost block do. -/
def Follows (mode : Mode) (blocks : Indents) (a b : List Char) : Prop :=
  b = [] ∨ EndsLine a ∧ (a = [] → mode = .lineStart) ∧ Begins blocks.innermost b

theorem Fills.followed (first : (inBlock mode m blocks n a).Fills ts) (balanced : Balanced ts)
    (active : mode ≠ .done) (proper : blocks.Proper) (follows : Follows mode blocks a b)
    (later : (inBlock .lineStart m blocks (n + k + byteLength a) b).Fills us) :
    ∃ ts', Carries (· + k) ts ts' ∧ (inBlock mode m blocks (n + k) (a ++ b)).Fills (ts' ++ us) := by
  rcases follows with rfl | ⟨ends, landed, begins⟩
  · rw [later.eq_nil, List.append_nil]
    refine ⟨_, carries_shift k ts, ?_⟩
    rw [List.append_nil]
    exact first.shift k
  · exact first.append balanced active landed proper ends begins later

end Lexer

end HtmlTemplate
