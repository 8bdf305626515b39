import HtmlTemplate.Proofs.Chains.Blocks
import HtmlTemplate.Proofs.Grammar.Exact

/-!
# Lines that open blocks

Whether a line opens a block can be seen from any block behind it. Where it opens one, it opens
every other block as well, and the lines of the block are read as they would be within any other.
-/

namespace HtmlTemplate

/-- A line and how much further in than the line those of its block stand. -/
structure Opener where
  header : List Char
  margin : Margin
  begins : Begins [] header
  single : '\n' ∉ header

def Opener.line (opener : Opener) (indent : List Char) : List Char :=
  indent ++ (opener.header ++ ['\n'])

/-- A statement that is one line and a block. A tag without content has no block. -/
inductive Encloses (body : List Statement) : Statement → Prop where
  | tag (name : Ident) (attributes : List (Ident × Expr)) (said : body ≠ []) :
      Encloses body (.tag name attributes body)
  | choice (condition : Expr) : Encloses body (.choice condition body [])
  | loop (name : Ident) (iterable : Expr) : Encloses body (.loop name iterable body)

variable {m : Markers} {ts us hs : List Lexeme} {s : Statement} {body ss : List Statement}

/-! ## Derivations -/

/-- Where the first block is opened. -/
theorem Flat.eq_of_append {t u : Lexeme} {ts ts' : List Lexeme} (flat : Flat hs) (flat' : Flat us)
    (indent : t.token = .indent) (indent' : u.token = .indent)
    (whole : hs ++ t :: ts = us ++ u :: ts') : hs = us ∧ t :: ts = u :: ts' :=
  eq_of_append_of_stops flat flat' (by rw [indent]; rfl) (by rw [indent']; rfl) whole

namespace Grammar

theorem Block.ne_nil (derived : Block m ts ss) : ss ≠ [] := by
  cases derived with
  | mk _ _ _ _ said => exact said

theorem Lines.of_single (derived : Lines m ts [s]) : Line m ts s := by
  generalize one : [s] = ss at derived
  cases derived with
  | nil => cases one
  | cons line later =>
    cases one
    cases later
    rwa [List.append_nil]

/-- Lexemes that make a statement of any block behind them. -/
structure Opens (m : Markers) (hs : List Lexeme) : Prop where
  flat : Flat hs
  opens {t u : Lexeme} {ts : List Lexeme} {body : List Statement} : t.token = .indent →
    u.token = .dedent → Lines m ts body → body ≠ [] →
      ∃ s, Encloses body s ∧ Line m (hs ++ t :: (ts ++ [u])) s

/-- What stands in front of the block, colon and line end included, opens it. -/
theorem Block.opens {bs : List Lexeme} (derived : Block m bs body) (flat : Flat us)
    (line : ∀ {bs : List Lexeme} {body : List Statement}, Block m bs body →
      ∃ s, Encloses body s ∧ Line m (us ++ bs) s) :
    ∃ hs t u ts, us ++ bs = hs ++ t :: (ts ++ [u]) ∧ t.token = .indent ∧ u.token = .dedent ∧
      Lines m ts body ∧ Opens m hs := by
  cases derived with
  | @mk ts t u v w ss colon newline indent derived said dedent =>
    have flat' : Flat (us ++ [t, u]) :=
      flat_append flat (flat_cons colon rfl (flat_cons newline rfl flat_nil))
    refine ⟨us ++ [t, u], v, w, ts, by simp, indent, dedent, derived, flat', ?_⟩
    intro v' w' ts' body indent' dedent' derived' said'
    have block := line (.mk colon newline indent' derived' said' dedent')
    rwa [List.append_assoc]

/-- The line of a statement and its block. -/
theorem Line.opens (derived : Line m ts s) (encloses : Encloses body s) :
    ∃ hs t u us, ts = hs ++ t :: (us ++ [u]) ∧ t.token = .indent ∧ u.token = .dedent ∧
      Lines m us body ∧ Opens m hs := by
  cases derived with
  | assign | text => cases encloses
  | @choice ts t s keyword branches =>
    cases branches with
    | alone condition block =>
      cases encloses
      exact block.opens (flat_cons keyword rfl condition.flat) fun block =>
        ⟨_, .choice _, .choice keyword (.alone condition block)⟩
    | elif => cases encloses
    | otherwise _ _ _ other =>
      cases encloses
      exact absurd rfl other.ne_nil
  | loop keyword name inKw iterable block =>
    cases encloses
    have flat := flat_cons keyword rfl (flat_cons name rfl (flat_cons inKw rfl iterable.flat))
    exact block.opens flat fun block => ⟨_, .loop .., .loop keyword name inKw iterable block⟩
  | tag name head block =>
    cases encloses
    exact block.opens (flat_cons name rfl head.flat) fun block =>
      ⟨_, .tag _ _ block.ne_nil, .tag name head block⟩
  | emptyTag =>
    cases encloses with
    | tag _ _ said => exact absurd rfl said

end Grammar

/-! ## Lexemes -/

namespace Lexer

section

variable {l l' : Lexer} {found : Lexemes}

/-- Where nothing closes a bracket, it stays open. -/
theorem Run.fault_of_unclosed (run : l.Run found) (active : l.mode ≠ .done)
    (unclosed : l.nesting ≠ []) (noClosing : ∀ c ∈ l.rest, closing c = none) :
    found.fault ≠ none := by
  -- At its end the source would have to be closed, and no step closes it.
  induction run with
  | done _ mode => exact absurd mode active
  | fault => simp
  | @step l l' later owes _ step _ ih =>
    have move := moves_of_step active step
    have more : l.rest ≠ [] := by
      intro source
      obtain ⟨f, fails⟩ : ∃ f, l.step = .error f := by
        cases nesting : l.nesting with
        | nil => exact absurd nesting unclosed
        | cons b outer => simp [Lexer.step, source, finish, nesting]
      rw [step] at fails
      cases fails
    obtain ⟨passed, passes⟩ := move.passes
    have behind : ∀ c ∈ l'.rest, closing c = none := fun c mem =>
      noClosing c (passes.rest ▸ List.mem_append_right passed mem)
    refine ih (move.active active more) ?_ behind
    cases move with
    | finish source => exact absurd source more
    | openBracket => exact List.cons_ne_nil _ _
    | @closeBracket b c cs start outer mode source bracket =>
      have open' := noClosing c (source ▸ List.mem_cons_self)
      rw [bracket] at open'
      cases open'
    | _ => exact unclosed

/-- Within a line nothing is opened or closed. -/
theorem Moves.in_line (move : l.Moves l') (owes : l.pending = []) (more : l.rest ≠ [])
    (within : l.mode ≠ .lineStart) :
    Flat l'.pending ∧ l'.indents = l.indents ∧
      (l'.mode = .lineStart → ∃ before, l.rest = before ++ '\n' :: l'.rest) := by
  have stays (same : l'.mode = l.mode) (lands : l'.mode = .lineStart) :
      ∃ before, l.rest = before ++ '\n' :: l'.rest := absurd (same.symm.trans lands) within
  cases move with
  | finish source => exact absurd source more
  | blankLine mode | line mode | textLine mode => exact absurd mode within
  | text | lineText => exact ⟨by simp [Flat, emit, skip, owes, Token.isFlat], rfl, stays rfl⟩
  | openSplice | closeSplice =>
    exact ⟨by simp [Flat, emit, skip, owes, Token.isFlat], rfl, by simp⟩
  | @endTextLine chars cs mode source =>
    have whole := Run.text_append l.markers l.rest
    rw [source] at whole
    exact ⟨by simp [Flat, emit, skip, owes, Token.isFlat], rfl, fun _ => ⟨chars, whole.symm⟩⟩
  | token mode source spelling =>
    exact ⟨by simp [Flat, emit, skip, owes, spelling.isFlat], rfl, stays rfl⟩
  | openBracket | closeBracket =>
    exact ⟨by simp [Flat, Lexer.openBracket, emit, skip, owes, Token.isFlat], rfl, stays rfl⟩
  | joinLine | gap => exact ⟨by simp [Flat, skip, owes], rfl, stays rfl⟩
  | @endLine cs mode source =>
    exact ⟨by simp [Flat, emit, skip, owes, Token.isFlat], rfl, fun _ => ⟨[], source⟩⟩

theorem Steps.in_line (steps : Steps l hs l') (within : l.mode ≠ .lineStart)
    (line : ∀ before behind, l.rest = before ++ '\n' :: behind → behind = []) :
    Flat hs ∧ l'.indents = l.indents := by
  induction steps with
  | refl => exact ⟨flat_nil, rfl⟩
  | @step l l' l'' ts owes active more step later ih =>
    have move := moves_of_step active step
    obtain ⟨flat, same, lands⟩ := move.in_line owes more within
    by_cases ended : l'.mode = .lineStart
    · obtain ⟨before, source⟩ := lands ended
      have none := line _ _ source
      -- Behind the line feed nothing is left to read.
      cases later with
      | refl => exact ⟨flat_append flat flat_nil, same⟩
      | step _ _ more => exact absurd none more
    · obtain ⟨passed, passes⟩ := move.passes
      have further := ih ended fun before behind (source : l'.rest = _) =>
        line (passed ++ before) behind (by rw [passes.rest, source, List.append_assoc])
      exact ⟨flat_append flat further.1, further.2.trans same⟩

end

variable {blocks : Indents} {n : Nat} {opener : Opener} {rest : List Char} {margin : Margin}

/-- A single line within the innermost block. -/
theorem Steps.of_line {l : Lexer} (proper : blocks.Proper)
    (steps : Steps (inBlock .lineStart m blocks n (opener.line blocks.innermost)) hs l)
    (ended : l.rest = []) : Flat hs ∧ l.indents = blocks := by
  obtain ⟨c, cs, shape, ink⟩ := opener.begins
  have single := opener.single
  have source : opener.line blocks.innermost = blocks.innermost ++ c :: (cs ++ ['\n']) := by
    rw [Opener.line, shape]
    rfl
  rw [shape, List.nil_append] at single
  -- The first step enters the line, whether it is a statement or a text.
  have step₁ : (inBlock .lineStart m blocks n (opener.line blocks.innermost)).step =
      .ok _ := (step_of_lineStart rfl (by simp [inBlock, source])).trans
    (startLine_of_ink source proper.innermost ink (if_pos rfl))
  cases steps with
  | refl => simp [inBlock, source] at ended
  | @step _ l₁ _ ts owes active more step later =>
    rw [step₁] at step
    obtain ⟨flat, same, mode, rest⟩ : Flat l₁.pending ∧ l₁.indents = blocks ∧
        l₁.mode ≠ .lineStart ∧ l₁.rest <:+ c :: (cs ++ ['\n']) := by
      split at step
      · cases step
        exact ⟨by simp [Flat, enterLine, emit, skip, inBlock, Token.isFlat], rfl, by simp,
          List.suffix_cons ..⟩
      · cases step
        exact ⟨by simp [Flat, enterLine, skip, inBlock], rfl, by simp, List.suffix_rfl⟩
    have further := later.in_line mode fun before behind (line : l₁.rest = _) => by
      obtain ⟨passed, whole⟩ := rest
      rw [line, ← List.append_assoc] at whole
      have feeds := (List.append_cons_inj_of_notMem single List.not_mem_nil).mp whole.symm
      exact feeds.2.2.symm
    exact ⟨flat_append flat further.1, further.2.trans same⟩

/-- A source that is read in front of something without brackets is read up to its end. -/
theorem steps_to_end {l : Lexer} (owes : l.pending = []) (active : l.mode ≠ .done)
    (ends : EndsLine l.rest) (some : l.rest ≠ [])
    (faultless : (l.within 0 rest).lexemes.fault = none)
    (noClosing : ∀ c ∈ rest, closing c = none) : ∃ l' hs, Steps l hs l' ∧ l'.AtEnd := by
  obtain ⟨l', hs, steps, owes', active', stuck⟩ := (run_lexemes owes).steps_ahead active
  have owes'' : (l'.within 0 rest).pending = [] := pending_within owes'
  have faultless' : (l'.within 0 rest).lexemes.fault = none := by
    have leads := (steps.within ends 0 rest).leads
    unfold Leads at leads
    rwa [leads] at faultless
  have ended : l'.rest = [] := by
    by_contra more
    obtain ⟨f, fails⟩ := stuck more
    have step : (l'.within 0 rest).step = _ :=
      step_within (.inr ((steps.endsLine ends).feed_mem more))
    rw [fails] at step
    rw [lexemes_of_fault owes'' (active_within active') step] at faultless'
    cases faultless'
  -- A bracket that is open here could not be closed behind.
  have closed : l'.nesting = [] := by
    by_contra unclosed
    refine (run_lexemes owes'').fault_of_unclosed (active_within active') ?_ ?_ faultless'
    · simpa [Lexer.within] using unclosed
    · simpa [Lexer.within, ended] using noClosing
  have landed := steps.landed ends (fun none => absurd none some) ended
  exact ⟨l', hs, steps, owes', ended, landed.resolve_right (not_not_intro closed), closed⟩

/-- A line is read in the same way whatever stands behind it. -/
theorem leads_line (proper : blocks.Proper)
    (faultless : (inBlock .lineStart m blocks n
      (opener.line blocks.innermost ++ rest)).lexemes.fault = none)
    (noClosing : ∀ c ∈ rest, closing c = none) :
    ∃ hs, Flat hs ∧ ∀ rest,
      (inBlock .lineStart m blocks n (opener.line blocks.innermost ++ rest)).Leads hs
        (inBlock .lineStart m blocks (n + byteLength (opener.line blocks.innermost)) rest) := by
  have ends : EndsLine (opener.line blocks.innermost) :=
    .inr (by rw [Opener.line, ← List.append_assoc, List.getLast?_concat])
  have some : opener.line blocks.innermost ≠ [] := by simp [Opener.line]
  obtain ⟨l, hs, steps, atEnd⟩ :=
    steps_to_end (l := inBlock .lineStart m blocks n (opener.line blocks.innermost)) rfl
      (by simp [inBlock]) ends some faultless noClosing
  obtain ⟨flat, same⟩ := steps.of_line proper atEnd.rest
  refine ⟨hs, flat, fun rest => ?_⟩
  have leads := (steps.within ends 0 rest).leads
  rwa [Lexeme.shift_zero, List.map_id, steps.reached atEnd, same] at leads

theorem leads_indent (proper : blocks.Proper)
    (begins : Begins (blocks.innermost ++ margin.chars) rest) :
    (inBlock .lineStart m blocks n rest).Leads
      [⟨.indent, n, blocks.innermost ++ margin.chars⟩]
      (inBlock .lineStart m ((blocks.innermost ++ margin.chars) :: blocks) n rest) := by
  obtain ⟨c, cs, rfl, ink⟩ := begins
  have before := blocks.change?_deeper margin n
  rw [← List.singleton_append (l := [])] at before
  exact leads_change rfl rfl rfl (proper.within margin).innermost ink before (if_pos rfl)

/-- Lexemes that open and close a block, and those between them. -/
theorem fills_block_iff (proper : blocks.Proper)
    (begins : Begins (blocks.innermost ++ margin.chars) rest) :
    (inBlock .lineStart m ((blocks.innermost ++ margin.chars) :: blocks) n rest).Fills ts ↔
      ∃ t u, t.token = .indent ∧ u.token = .dedent ∧
        (inBlock .lineStart m blocks n rest).Fills (t :: (ts ++ [u])) := by
  have opens := leads_indent (m := m) (n := n) proper begins
  unfold Leads at opens
  constructor
  · rintro ⟨_ | ⟨u, dedents⟩, closing, number, whole⟩
    · cases number
    · obtain ⟨dedent, closing⟩ := List.forall_mem_cons.mp closing
      refine ⟨⟨.indent, n, blocks.innermost ++ margin.chars⟩, u, rfl, dedent, dedents, closing,
        Nat.succ.inj number, ?_⟩
      rw [opens, whole]
      simp [Lexemes.after]
  · rintro ⟨t, u, -, dedent, dedents, closing, number, whole⟩
    rw [opens, Lexemes.after, Lexemes.mk.injEq] at whole
    refine ⟨u :: dedents, List.forall_mem_cons.mpr ⟨dedent, closing⟩, congrArg Nat.succ number, ?_⟩
    have later := (List.cons.inj whole.1).2.trans (List.append_assoc ts [u] dedents)
    exact congrArg₂ Lexemes.mk later whole.2

/-- A source that stands within blocks means these statements there. -/
def Means (m : Markers) (blocks : Indents) (n : Nat) (source : List Char) (ss : List Statement) :
    Prop :=
  ∃ ts, (inBlock .lineStart m blocks n source).Fills ts ∧ Grammar.Lines m ts ss

end Lexer

open Lexer

/-- A line that opens a block here, whatever stands in it. -/
def Opener.Opens (opener : Opener) (m : Markers) (blocks : Indents) (n : Nat) : Prop :=
  ∃ hs, Grammar.Opens m hs ∧ ∀ rest,
    (inBlock .lineStart m blocks n (opener.line blocks.innermost ++ rest)).Leads hs
      (inBlock .lineStart m blocks (n + byteLength (opener.line blocks.innermost)) rest)

variable {blocks : Indents} {n : Nat} {opener : Opener} {rest : List Char}

/-- A line and its block, if that is how they are read. -/
theorem block_of_means (proper : blocks.Proper) (flat : Flat hs)
    (leads : (inBlock .lineStart m blocks n (opener.line blocks.innermost ++ rest)).Leads hs
      (inBlock .lineStart m blocks (n + byteLength (opener.line blocks.innermost)) rest))
    (begins : Begins (blocks.innermost ++ opener.margin.chars) rest)
    (reads : Means m blocks n (opener.line blocks.innermost ++ rest) [s])
    (encloses : Encloses ss s) :
    Grammar.Opens m hs ∧ Means m ((blocks.innermost ++ opener.margin.chars) :: blocks)
      (n + byteLength (opener.line blocks.innermost)) rest ss := by
  obtain ⟨ts, fills, derived⟩ := reads
  obtain ⟨hs', t, u, us, rfl, indent, dedent, lines, opens⟩ := derived.of_single.opens encloses
  -- Both end in front of the first indent: one by the lexer, the other by the grammar.
  obtain rfl : hs = hs' := by
    obtain ⟨dedents, -, -, whole⟩ := fills
    have front := leads.trans (leads_indent proper begins)
    unfold Leads at front
    rw [front, Lexemes.after, Lexemes.mk.injEq, List.append_assoc, List.append_assoc] at whole
    exact (flat.eq_of_append opens.flat rfl indent whole.1).1
  have noDedent : ∀ t ∈ hs, t.token ≠ .dedent := by
    intro t mem dedent
    have flat := flat t mem
    rw [dedent] at flat
    cases flat
  obtain ⟨vs, shape, behind⟩ := fills.split leads rfl noDedent
  obtain rfl := List.append_cancel_left shape
  exact ⟨opens, us, (fills_block_iff proper begins).mpr ⟨t, u, indent, dedent, behind⟩, lines⟩

/-- One block is enough to tell that a line opens any. -/
theorem Opener.opens_of_means (proper : blocks.Proper)
    (begins : Begins (blocks.innermost ++ opener.margin.chars) rest)
    (noClosing : ∀ c ∈ rest, closing c = none)
    (reads : Means m blocks n (opener.line blocks.innermost ++ rest) [s])
    (encloses : Encloses ss s) : opener.Opens m blocks n := by
  have faultless : (inBlock .lineStart m blocks n
      (opener.line blocks.innermost ++ rest)).lexemes.fault = none := by
    obtain ⟨ts, ⟨dedents, -, -, whole⟩, -⟩ := reads
    rw [whole]
  obtain ⟨hs, flat, leads⟩ := leads_line proper faultless noClosing
  exact ⟨hs, (block_of_means proper flat (leads rest) begins reads encloses).1, leads⟩

namespace Opener.Opens

theorem means_of_block (opens : opener.Opens m blocks n) (proper : blocks.Proper)
    (begins : Begins (blocks.innermost ++ opener.margin.chars) rest)
    (reads : Means m blocks n (opener.line blocks.innermost ++ rest) [s])
    (encloses : Encloses ss s) :
    Means m ((blocks.innermost ++ opener.margin.chars) :: blocks)
      (n + byteLength (opener.line blocks.innermost)) rest ss := by
  obtain ⟨hs, ⟨flat, -⟩, leads⟩ := opens
  exact (block_of_means proper flat (leads rest) begins reads encloses).2

theorem means_block (opens : opener.Opens m blocks n) (proper : blocks.Proper)
    (begins : Begins (blocks.innermost ++ opener.margin.chars) rest)
    (reads : Means m ((blocks.innermost ++ opener.margin.chars) :: blocks)
      (n + byteLength (opener.line blocks.innermost)) rest ss) (said : ss ≠ []) :
    ∃ s, Encloses ss s ∧ Means m blocks n (opener.line blocks.innermost ++ rest) [s] := by
  obtain ⟨hs, ⟨-, opens⟩, leads⟩ := opens
  obtain ⟨ts, fills, derived⟩ := reads
  obtain ⟨t, u, indent, dedent, outer⟩ := (fills_block_iff proper begins).mp fills
  obtain ⟨s, encloses, line⟩ := opens indent dedent derived said
  have lines : Grammar.Lines m (hs ++ t :: (ts ++ [u]) ++ []) [s] := .cons line .nil
  rw [List.append_nil] at lines
  exact ⟨s, encloses, _, outer.behind (leads rest) rfl, lines⟩

end Opener.Opens

end HtmlTemplate
