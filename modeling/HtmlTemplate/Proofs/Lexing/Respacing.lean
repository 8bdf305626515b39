import HtmlTemplate.Proofs.Grammar.Relocation
import HtmlTemplate.Proofs.Lexing.LineEnds
import HtmlTemplate.Proofs.Lexing.Offsets

/-!
# Blank lines and line ends

A carriage return in front of a line feed, a blank line between two lines and a line feed behind the
last one make no lexeme of their own. A lexer comes to such a place in the same way with and without
them, and goes on behind them from the same state, only further on in its source.
-/

namespace HtmlTemplate

/-! ## Lexemes within a line -/

/-- Layout aside, a lexeme has characters and ends with its line. -/
def Lexeme.InLine (t : Lexeme) : Prop :=
  t.token.isLayout = false → t.chars ≠ [] ∧ '\n' ∉ t.chars

theorem Lexeme.inLine_of_isLayout {t : Lexeme} (layout : t.token.isLayout = true) : t.InLine := by
  intro plain
  rw [layout] at plain
  cases plain

/-- A lexeme lies on one side of each line feed. -/
theorem Lexeme.InLine.beside {t : Lexeme} {a b : List Char} (inLine : t.InLine)
    (plain : t.token.isLayout = false) (stands : t.StandsIn (a ++ '\n' :: b)) :
    t.region.stop ≤ byteLength a ∨ byteLength a < t.region.start := by
  obtain ⟨said, clean⟩ := inLine plain
  obtain ⟨before, after, source, start⟩ := stands
  rw [List.append_assoc] at source
  simp only [region, start]
  rcases List.append_eq_append_iff.mp source with ⟨between, rfl, later⟩ | ⟨between, rfl, later⟩
  · right
    cases between with
    | nil =>
      obtain ⟨c, chars, eq⟩ := List.exists_cons_of_ne_nil said
      rw [List.nil_append, eq, List.cons_append, List.cons.injEq] at later
      rw [eq, ← later.1] at clean
      exact absurd List.mem_cons_self clean
    | cons c between =>
      have := c.utf8Size_pos
      simp only [byteLength_append, byteLength_cons]
      omega
  · left
    rcases List.append_eq_append_iff.mp later with ⟨rest, rfl, -⟩ | ⟨rest, eq, later⟩
    · simp only [byteLength_append]
      omega
    · cases rest with
      | nil => simp [eq]
      | cons c rest =>
        rw [List.cons_append, List.cons.injEq] at later
        rw [eq, ← later.1] at clean
        simp at clean

theorem Lexeme.StandsIn.stop_le {source : List Char} {t : Lexeme} (stands : t.StandsIn source) :
    t.region.stop ≤ byteLength source := by
  have whole : StandsAt source t.start (t.chars ++ []) := by
    rw [List.append_nil]
    exact stands
  exact whole.drop.boundary.le

/-- The line feed at the end of a source belongs to the layout. -/
theorem Lexeme.InLine.stop_lt {source : List Char} {t : Lexeme} (inLine : t.InLine)
    (plain : t.token.isLayout = false) (stands : t.StandsIn source) (ends : EndsLine source) :
    t.region.stop < byteLength source := by
  have least := stands.stop_le
  have width := Nat.le_trans (List.length_pos_iff.mpr (inLine plain).1)
    (length_le_byteLength t.chars)
  rcases ends with rfl | last
  · simp only [region, byteLength_nil] at least
    omega
  · obtain ⟨front, rfl⟩ := List.getLast?_eq_some_iff.mp last
    have beside := inLine.beside plain stands
    have feed : byteLength ['\n'] = 1 := by decide
    simp only [region, byteLength_append, feed] at least beside ⊢
    omega

namespace Lexer

theorem Moves.inLine {l l' : Lexer} (move : l.Moves l') (old : ∀ t ∈ l.pending, t.InLine) :
    ∀ t ∈ l'.pending, t.InLine := by
  have further {ts : List Lexeme} {u : Lexeme} (old : ∀ t ∈ ts, t.InLine) (new : u.InLine) :
      ∀ t ∈ ts ++ [u], t.InLine :=
    List.forall_mem_append.mpr ⟨old, List.forall_mem_singleton.mpr new⟩
  have single {token : Token} {start : Nat} {c : Char} (other : c ≠ '\n') :
      Lexeme.InLine ⟨token, start, [c]⟩ := fun _ => ⟨by simp, by simpa using other.symm⟩
  have changed {indents indents' : Indents} {start : Nat} {indent : List Char}
      {changes : List Lexeme} (change : indents.change? start indent = some (indents', changes)) :
      ∀ t ∈ changes, t.InLine := by
    intro t mem
    rcases token_of_mem_changes change mem with is | is <;>
      exact Lexeme.inLine_of_isLayout (by rw [is]; rfl)
  cases move with
  | finish source closed mode =>
    refine List.forall_mem_append.mpr ⟨old, fun t mem => ?_⟩
    rcases token_of_mem_ending mem with is | is <;>
      exact Lexeme.inLine_of_isLayout (by rw [is]; rfl)
  | blankLine | joinLine | gap => exact old
  | line mode source blank ink goesOn change statement =>
    exact List.forall_mem_append.mpr ⟨old, changed change⟩
  | textLine mode source blank ink goesOn change marked =>
    exact further (List.forall_mem_append.mpr ⟨old, changed change⟩)
      (single (marked ▸ Markers.ne_feed l.markers.text_isMarker))
  | @text run mode read said ends =>
    subst read
    exact further old fun _ => ⟨said, Run.feed_not_mem_text l.markers l.rest⟩
  | @lineText chars cs mode read said =>
    have clean := Run.feed_not_mem_text l.markers l.rest
    rw [read] at clean
    have start := beforeLineEnd_prefix chars
    exact further old fun _ => ⟨said, fun feed => clean (start.mem feed)⟩
  | endTextLine | endLine => exact further old (Lexeme.inLine_of_isLayout rfl)
  | openSplice => exact further old (single (Markers.ne_feed l.markers.opening_isMarker))
  | closeSplice => exact further old (single (Markers.ne_feed l.markers.closing_isMarker))
  | token mode source spelling =>
    exact further old fun _ => ⟨spelling.ne_nil, spelling.feed_not_mem⟩
  | openBracket mode source bracket =>
    refine further old (single ?_)
    rintro rfl
    cases bracket
  | closeBracket mode source bracket nesting =>
    refine further old (single ?_)
    rintro rfl
    cases bracket

theorem Run.inLine {l : Lexer} {found : Lexemes} (run : l.Run found) :
    ∀ t ∈ found.list, t.InLine := by
  induction run with
  | done => simp
  | fault => simp
  | step owes active step _ ih =>
    refine List.forall_mem_append.mpr ⟨?_, ih⟩
    exact (moves_of_step active step).inLine (by simp [owes])

end Lexer

/-! ## Lexemes further on -/

/-- Makes room in front of an offset for more bytes. -/
def spread (place more n : Nat) : Nat := if n < place then n else n + more

/-- Closes the gap. -/
def gather (place more n : Nat) : Nat := if n < place then n else max place (n - more)

theorem spread_of_lt {place more n : Nat} (before : n < place) : spread place more n = n :=
  if_pos before

theorem spread_of_le {place more n : Nat} (behind : place ≤ n) : spread place more n = n + more :=
  if_neg (Nat.not_lt.mpr behind)

theorem Region.along_spread_of_lt {place more : Nat} {r : Region} (before : r.stop < place)
    (ordered : r.start ≤ r.stop) : r = r.along (spread place more) := by
  rw [along, spread_of_lt before, spread_of_lt (Nat.lt_of_le_of_lt ordered before)]

theorem gather_spread (place more n : Nat) : gather place more (spread place more n) = n := by
  unfold gather
  rcases Nat.lt_or_ge n place with before | behind
  · rw [spread_of_lt before, if_pos before]
  · rw [spread_of_le behind, if_neg (by omega)]
    omega

theorem monotone_spread (place more : Nat) : Monotone (spread place more) := by
  intro n n' le
  unfold spread
  split <;> split <;> omega

theorem monotone_gather (place more : Nat) : Monotone (gather place more) := by
  intro n n' le
  unfold gather
  split <;> split <;> omega

/-- The same lexemes in other places, and a fault behind both or neither of them. -/
structure Lexemes.Mirrors (φ : Nat → Nat) (found found' : Lexemes) : Prop where
  fault : found'.fault.isSome = found.fault.isSome
  list : Carries φ found.list found'.list

variable {φ : Nat → Nat}

theorem Lexemes.Mirrors.after {found found' : Lexemes} {ts : List Lexeme}
    (mirrors : found.Mirrors φ found') (front : Carries φ ts ts) :
    (found.after ts).Mirrors φ (found'.after ts) :=
  ⟨mirrors.fault, List.rel_append front mirrors.list⟩

namespace Lexer

theorem placed_atStart {l : Lexer} (owes : l.pending = []) : l.atStart.Placed l.rest where
  ahead := ⟨[], rfl, rfl⟩
  brackets := by
    intro b mem
    obtain ⟨_, _, rfl⟩ := List.mem_map.mp mem
    exact ⟨[], l.rest, rfl, rfl⟩
  lexemes := by simp [atStart, owes]

/-- Two lexers in the same state, of which the second stands further on. -/
theorem mirrors_of_atStart {l l' : Lexer} {place more : Nat} (owes : l.pending = [])
    (same : l'.atStart = l.atStart) (offset : l'.offset = l.offset + more)
    (beyond : ∀ t : Lexeme, t.token.isLayout = false → t.InLine → t.StandsIn l.rest →
      place ≤ t.start + l.offset) :
    l.lexemes.Mirrors (spread place more) l'.lexemes := by
  have owes' : l'.pending = [] := (congrArg pending same).trans owes
  obtain ⟨list, fault⟩ := lexemes_eq_atStart owes
  obtain ⟨list', fault'⟩ := lexemes_eq_atStart owes'
  have run : l.atStart.Run l.atStart.lexemes := run_lexemes owes
  refine ⟨by rw [fault, fault', same], ?_⟩
  rw [list, list', same, offset, Carries, List.forall₂_map_left_iff, List.forall₂_map_right_iff]
  refine List.forall₂_same.mpr fun t mem => ⟨rfl, fun plain => ⟨rfl, ?_⟩⟩
  have least := beyond t plain (run.inLine t mem) ((run.places (placed_atStart owes)).1 t mem)
  have later : place ≤ t.region.stop + l.offset :=
    Nat.le_trans least (Nat.add_le_add_right t.region_start_le_stop _)
  rw [Lexeme.region_shift, Lexeme.region_shift]
  simp only [Region.along, Region.shift, Lexeme.region, Region.mk.injEq] at later ⊢
  rw [spread_of_le least, spread_of_le later]
  exact ⟨(Nat.add_assoc ..).symm, (Nat.add_assoc ..).symm⟩

/-! ## The end of a source and what may stand there instead -/

/-- At the end of a source that has been read without a fault. -/
structure Halts (front : List Char) (l : Lexer) : Prop where
  owes : l.pending = []
  active : l.mode ≠ .done
  rest : l.rest = []
  offset : l.offset = byteLength front
  /-- Brackets open in statements and splices only. -/
  closed : l.mode = .lineStart ∨ l.mode = .text → l.nesting = []
  landed : EndsLine front → l.mode = .lineStart ∨ l.nesting ≠ []

theorem Moves.closed {l l' : Lexer} (move : l.Moves l')
    (closed : l.mode = .lineStart ∨ l.mode = .text → l.nesting = []) :
    l'.mode = .lineStart ∨ l'.mode = .text → l'.nesting = [] := by
  cases move with
  | finish => simp
  | line => simp
  | textLine mode => exact fun _ => closed (.inl mode)
  | endTextLine mode => exact fun _ => closed (.inr mode)
  | openSplice => simp
  | closeSplice mode nesting => exact fun _ => nesting
  | openBracket mode | closeBracket mode =>
    rintro (is | is) <;> rcases mode with mode | mode <;> exact nomatch is.symm.trans mode
  | endLine mode source nesting => exact fun _ => nesting
  | blankLine | text | lineText | token | joinLine | gap => exact closed

theorem mirrors_of_fault {f : Fault} {cs cs' : List Char} {l : Lexer} (owes : l.pending = [])
    (active : l.mode ≠ .done) (more : l.rest ≠ []) (step : l.step = .error f)
    (cut : CutAtLine l.rest cs) (cut' : CutAtLine l.rest cs') :
    (l.within 0 cs).lexemes.Mirrors φ (l.within 0 cs').lexemes := by
  have fails {cs : List Char} (cut : CutAtLine l.rest cs) :
      ∃ f, (l.within 0 cs).lexemes = ⟨[], some f⟩ := by
    have goesOn := goesOnWith owes active more cut
    simp only [GoesOnWith, step] at goesOn
    obtain ⟨f, step'⟩ := goesOn
    exact ⟨f, lexemes_of_fault (pending_within owes) (active_within active) step'⟩
  obtain ⟨f, lexemes⟩ := fails cut
  obtain ⟨f', lexemes'⟩ := fails cut'
  rw [lexemes, lexemes']
  exact ⟨rfl, .nil⟩

/-- Two sources with the same front have the same lexemes, up to places, if so has whatever follows
where the front has been read. -/
theorem mirrors_of_front {m : Markers} {front cs cs' : List Char} (cut : CutAtLine front cs)
    (cut' : CutAtLine front cs')
    (stays : ∀ t : Lexeme, t.token.isLayout = false → t.InLine → t.StandsIn front →
      t.region = t.region.along φ)
    (ends : ∀ l : Lexer, l.Halts front →
      (l.within 0 cs).lexemes.Mirrors φ (l.within 0 cs').lexemes) :
    (Lexemes.ofSource m (front ++ cs)).Mirrors φ (Lexemes.ofSource m (front ++ cs')) := by
  have run : Run { markers := m, rest := front } (Lexemes.ofSource m front) := run_lexemes rfl
  obtain ⟨l, ts, steps, owes, active, stuck⟩ := run.steps_ahead (by simp)
  have read : Lexemes.ofSource m front = l.lexemes.after ts := steps.leads
  have read' {cs : List Char} (cut : CutAtLine front cs) :
      Lexemes.ofSource m (front ++ cs) = (l.within 0 cs).lexemes.after ts :=
    steps.leads_within cut
  have placed : l.Placed front :=
    steps.keeps ⟨⟨[], rfl, rfl⟩, nofun, nofun⟩ fun move placed => (move.placed placed).idle
  obtain ⟨before, source, offset⟩ := placed.ahead
  have stay : Carries φ ts ts := by
    refine List.forall₂_same.mpr fun t mem => ⟨rfl, fun plain => ⟨rfl, ?_⟩⟩
    have found : t ∈ (Lexemes.ofSource m front).list := by
      rw [read]
      exact List.mem_append_left _ mem
    exact stays t plain (run.inLine t found) ((Lexemes.places_ofSource m front).1 t found)
  rw [read' cut, read' cut']
  refine Lexemes.Mirrors.after ?_ stay
  by_cases rest : l.rest = []
  · rw [rest, List.append_nil] at source
    refine ends l ⟨owes, active, rest, source ▸ offset, ?_, ?_⟩
    · exact steps.keeps (P := fun l => l.mode = .lineStart ∨ l.mode = .text → l.nesting = [])
        (fun _ => rfl) fun move closed => move.closed closed
    · exact fun ends => steps.landed ends (fun _ => .inl rfl) rest
  · obtain ⟨f, step⟩ := stuck rest
    have suffix : l.rest <:+ front := ⟨before, source.symm⟩
    exact mirrors_of_fault owes active rest step (cut.of_suffix suffix) (cut'.of_suffix suffix)

/-! ## A blank line -/

/-- A blank line is passed where a line begins and where brackets join one to the next. -/
theorem leads_blankLine {l : Lexer} {blanks ret cs : List Char} (owes : l.pending = [])
    (active : l.mode ≠ .done) (closed : l.mode = .lineStart ∨ l.mode = .text → l.nesting = [])
    (landed : l.mode = .lineStart ∨ l.nesting ≠ []) (blank : ∀ c ∈ blanks, isBlank c = true)
    (isReturn : IsReturn ret) (rest : l.rest = blanks ++ (ret ++ '\n' :: cs)) :
    l.Leads [] (l.skip (blanks ++ (ret ++ ['\n'])) cs) := by
  have inside (mode : l.mode = .statement ∨ l.mode = .splice) :
      l.Leads [] (l.skip (blanks ++ (ret ++ ['\n'])) cs) := by
    have nested : l.nesting ≠ [] := by
      refine landed.resolve_left fun start => ?_
      rcases mode with mode | mode <;> exact nomatch start.symm.trans mode
    have gap : ∀ c ∈ blanks ++ ret, isGap c = true :=
      List.forall_mem_append.mpr ⟨fun c mem => by simp [isGap, blank c mem], isReturn.isGap⟩
    have first := leads_gaps owes mode gap (rest.trans (List.append_assoc ..).symm)
    have later : (l.skip (blanks ++ ret) ('\n' :: cs)).Leads [] _ :=
      leads_joinLine owes mode nested rfl
    have whole := first.trans later
    rwa [skip_skip, List.append_assoc] at whole
  cases mode : l.mode with
  | done => exact absurd mode active
  | statement => exact inside (.inl mode)
  | splice => exact inside (.inr mode)
  | lineStart => exact leads_blank owes mode blank isReturn rest
  | text =>
    rcases landed with start | nested
    · cases start.symm.trans mode
    · exact absurd (closed (.inr mode)) nested

end Lexer

/-- A blank line in front of a source or behind a line feed. -/
theorem Lexemes.ofSource_blankLine {m : Markers} {a b blanks ret : List Char} (ends : EndsLine a)
    (blank : ∀ c ∈ blanks, isBlank c = true) (isReturn : IsReturn ret) :
    (ofSource m (a ++ b)).Mirrors
      (spread (byteLength a) (byteLength (blanks ++ (ret ++ ['\n']))))
      (ofSource m (a ++ (blanks ++ (ret ++ '\n' :: b)))) := by
  refine Lexer.mirrors_of_front (.inl ends) (.inl ends) ?_ ?_
  · intro t plain inLine stands
    exact Region.along_spread_of_lt (inLine.stop_lt plain stands ends) t.region_start_le_stop
  · intro l halts
    have owes : (l.within 0 (blanks ++ (ret ++ '\n' :: b))).pending = [] :=
      Lexer.pending_within halts.owes
    have leads : (l.within 0 (blanks ++ (ret ++ '\n' :: b))).Leads []
        ((l.within 0 (blanks ++ (ret ++ '\n' :: b))).skip (blanks ++ (ret ++ ['\n'])) b) :=
      Lexer.leads_blankLine owes halts.active (by simpa [Lexer.within] using halts.closed)
        (by simpa [Lexer.within] using halts.landed ends) blank isReturn
        (by simp [Lexer.within, halts.rest])
    unfold Lexer.Leads at leads
    rw [leads, Lexemes.after_nil]
    refine Lexer.mirrors_of_atStart (Lexer.pending_within halts.owes) ?_ rfl ?_
    · simp [Lexer.atStart, Lexer.within, Lexer.skip, halts.rest]
    · intro t _ _ _
      simp [Lexer.within, halts.offset]

/-- A carriage return in front of a line feed. -/
theorem Lexemes.ofSource_return {m : Markers} {a b : List Char}
    (noReturn : a.getLast? ≠ some '\r') :
    (ofSource m (a ++ '\n' :: b)).Mirrors (spread (byteLength a + 1) 1)
      (ofSource m (a ++ '\r' :: '\n' :: b)) := by
  refine Lexer.mirrors_of_front (.inr ⟨.feed b, noReturn⟩) (.inr ⟨.returnFeed b, noReturn⟩) ?_ ?_
  · intro t plain inLine stands
    exact Region.along_spread_of_lt (Nat.lt_succ_of_le stands.stop_le) t.region_start_le_stop
  · intro l halts
    have owes : (l.within 0 ('\r' :: '\n' :: b)).pending = [] := Lexer.pending_within halts.owes
    have leads : (l.within 0 ('\r' :: '\n' :: b)).Leads []
        ((l.within 0 ('\r' :: '\n' :: b)).skip ['\r'] ('\n' :: b)) :=
      Lexer.leads_return owes halts.active (.inr rfl) (by simp [Lexer.within, halts.rest])
    unfold Lexer.Leads at leads
    rw [leads, Lexemes.after_nil]
    refine Lexer.mirrors_of_atStart (Lexer.pending_within halts.owes) ?_ rfl ?_
    · simp [Lexer.atStart, Lexer.within, Lexer.skip, halts.rest]
    · intro t plain inLine stands
      have source : (l.within 0 ('\n' :: b)).rest = [] ++ '\n' :: b := by
        simp [Lexer.within, halts.rest]
      rw [source] at stands
      have beside := inLine.beside plain stands
      have width := Nat.le_trans (List.length_pos_iff.mpr (inLine plain).1)
        (length_le_byteLength t.chars)
      simp only [Lexeme.region, byteLength_nil, Lexer.within, halts.offset] at beside ⊢
      omega

namespace Lexer

section

variable {l l' : Lexer} (owes : l.pending = []) (active : l.mode ≠ .done) (rest : l.rest = [])

include owes active rest

/-- The line end that stands at the end of a source anyway. -/
theorem mirrors_endLine (closed : l.nesting = []) (start : l.mode ≠ .lineStart)
    (splice : l.mode ≠ .splice)
    (leads : l'.Leads [⟨.newline, l.offset, ['\n']⟩] { l.skip ['\n'] [] with mode := .lineStart }) :
    l.lexemes.Mirrors id l'.lexemes := by
  have ends : AtEnd { l.skip ['\n'] [] with mode := .lineStart } := ⟨owes, rfl, rfl, closed⟩
  unfold Leads at leads
  rw [leads, lexemes_of_closed owes active rest closed splice, ends.lexemes, ending, if_neg start]
  exact ⟨rfl, .cons ⟨rfl, fun plain => Bool.noConfusion plain⟩ (carries_dedents ..)⟩

theorem mirrors_unclosed (unclosed : l.nesting ≠ [] ∨ l.mode = .splice)
    (fails : ∃ f, l'.lexemes = ⟨[], some f⟩) : l.lexemes.Mirrors id l'.lexemes := by
  obtain ⟨f, lexemes⟩ := lexemes_of_unclosed owes active rest unclosed
  obtain ⟨f', lexemes'⟩ := fails
  rw [lexemes, lexemes']
  exact ⟨rfl, .nil⟩

/-- The line feed that a last line lacks. -/
theorem mirrors_lastFeed (closed : l.mode = .lineStart ∨ l.mode = .text → l.nesting = [])
    (feed : l' = { l with rest := ['\n'] }) : l.lexemes.Mirrors id l'.lexemes := by
  have owes' : l'.pending = [] := by rw [feed, owes]
  have rest' : l'.rest = [] ++ '\n' :: [] := by rw [feed, List.nil_append]
  have mode' : l'.mode = l.mode := by rw [feed]
  have nesting' : l'.nesting = l.nesting := by rw [feed]
  have active' : l'.mode ≠ .done := mode' ▸ active
  have skip' : l'.skip ['\n'] [] = l.skip ['\n'] [] := by simp [feed, skip]
  by_cases nested : l.nesting = []
  · cases mode : l.mode with
    | done => exact absurd mode active
    | lineStart =>
      have ends : l.AtEnd := ⟨owes, rest, mode, nested⟩
      have ends' : (l.skip ['\n'] []).AtEnd := ⟨owes, rfl, mode, nested⟩
      have leads := leads_blank owes' (mode'.trans mode) (List.forall_mem_nil _) (.inl rfl) rest'
      unfold Leads at leads
      rw [leads, List.nil_append, List.nil_append, skip', Lexemes.after_nil, ends.lexemes,
        ends'.lexemes]
      exact ⟨rfl, carries_dedents ..⟩
    | text =>
      refine mirrors_endLine owes active rest nested (by simp [mode]) (by simp [mode]) ?_
      have leads := leads_endTextLine owes' (mode'.trans mode) (.inl rfl) rest'
      simpa [feed, skip] using leads
    | statement =>
      refine mirrors_endLine owes active rest nested (by simp [mode]) (by simp [mode]) ?_
      have leads := leads_endLine owes' (mode'.trans mode) (nesting'.trans nested) rest'
      simpa [feed, skip] using leads
    | splice =>
      refine mirrors_unclosed owes active rest (.inr mode) ?_
      have step : ∃ f, l'.step = .error f := by
        rw [step_of_expression (.inr (mode'.trans mode)) rest', readExpression_feed]
        simp [endLine, nesting', nested, mode', mode]
      obtain ⟨f, step⟩ := step
      exact ⟨f, lexemes_of_fault owes' active' step⟩
  · refine mirrors_unclosed owes active rest (.inl nested) ?_
    have mode : l'.mode = .statement ∨ l'.mode = .splice := by
      rw [mode']
      cases mode : l.mode with
      | done => exact absurd mode active
      | lineStart => exact absurd (closed (.inl mode)) nested
      | text => exact absurd (closed (.inr mode)) nested
      | statement => exact .inl rfl
      | splice => exact .inr rfl
    have leads := leads_joinLine owes' mode (nesting' ▸ nested) rest'
    unfold Leads at leads
    rw [leads, skip', Lexemes.after_nil]
    exact lexemes_of_unclosed owes active rfl (.inl nested)

end

end Lexer

/-- A line feed behind the last line. -/
theorem Lexemes.ofSource_lastFeed {m : Markers} {a : List Char}
    (noReturn : a.getLast? ≠ some '\r') :
    (ofSource m a).Mirrors id (ofSource m (a ++ ['\n'])) := by
  have whole : (ofSource m (a ++ [])).Mirrors id (ofSource m (a ++ ['\n'])) := by
    refine Lexer.mirrors_of_front (.inr ⟨.source, noReturn⟩) (.inr ⟨.feed [], noReturn⟩)
      (fun _ _ _ _ => rfl) fun l halts => ?_
    have feed : l.within 0 ['\n'] = { l.within 0 [] with rest := ['\n'] } := by
      simp [Lexer.within, halts.rest]
    exact Lexer.mirrors_lastFeed (Lexer.pending_within halts.owes) halts.active
      (by simp [Lexer.within, halts.rest]) (by simpa [Lexer.within] using halts.closed) feed
  rwa [List.append_nil] at whole

end HtmlTemplate
