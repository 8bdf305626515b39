import HtmlTemplate.Proofs.Grammar.Soundness
import HtmlTemplate.Proofs.Lexing.States
import HtmlTemplate.Proofs.Lexing.Words

/-!
# Coverage of a source

Nothing of a source is lost: between two lexemes there is only spacing, up to the place where the
lexer stops. And wherever a piece of the source is cut out by offsets, these lie between two
characters.
-/

namespace HtmlTemplate

/-! ## Slices -/

/-- The text between the two offsets, none unless they are in order and between characters. -/
def Region.slice? (r : Region) (source : List Char) : Option (List Char) :=
  if r.start ≤ r.stop then
    (cutAt r.start source).bind fun p => (cutAt (r.stop - r.start) p.2).map (·.1)
  else none

theorem Region.slice?_append (xs ys zs : List Char) :
    slice? ⟨byteLength xs, byteLength xs + byteLength ys⟩ (xs ++ ys ++ zs) = some ys := by
  simp [slice?, List.append_assoc, cutAt_byteLength_append]

theorem StandsAt.boundary_stop {source chars : List Char} {offset : Nat}
    (stands : StandsAt source offset chars) : Boundary source (offset + byteLength chars) := by
  have stands' : StandsAt source offset (chars ++ []) := by rwa [List.append_nil]
  exact stands'.drop.boundary

theorem StandsAt.slice? {source chars : List Char} {offset : Nat}
    (stands : StandsAt source offset chars) :
    Region.slice? ⟨offset, offset + byteLength chars⟩ source = some chars := by
  obtain ⟨before, after, rfl, rfl⟩ := stands
  exact Region.slice?_append before chars after

/-- Pieces of the source side by side are one piece. -/
theorem StandsAt.append {source xs ys : List Char} {offset : Nat}
    (first : StandsAt source offset xs) (later : StandsAt source (offset + byteLength xs) ys) :
    StandsAt source offset (xs ++ ys) := by
  obtain ⟨before, after, rfl, rfl⟩ := first
  obtain ⟨before', after', whole, eq⟩ := later
  have cut : cutAt (byteLength before + byteLength xs) (before ++ xs ++ after) =
      some (before ++ xs, after) := by
    rw [← byteLength_append]
    exact cutAt_byteLength_append _ _
  have cut' : cutAt (byteLength before + byteLength xs) (before ++ xs ++ after) =
      some (before', ys ++ after') := by
    rw [eq, whole, List.append_assoc]
    exact cutAt_byteLength_append _ _
  rw [cut] at cut'
  cases cut'
  exact ⟨before, after', by simp, rfl⟩

/-! ## Spacing -/

/-- Belongs to no lexeme. -/
def isSpacing (c : Char) : Bool := isGap c || c == '\n'

theorem isSpacing_iff {c : Char} :
    isSpacing c = true ↔ c = ' ' ∨ c = '\t' ∨ c = '\r' ∨ c = '\n' := by
  simp [isSpacing, isGap, isBlank, or_assoc]

def Spacing (cs : List Char) : Prop := ∀ c ∈ cs, isSpacing c = true

theorem Spacing.append {xs ys : List Char} (first : Spacing xs) (later : Spacing ys) :
    Spacing (xs ++ ys) := List.forall_mem_append.mpr ⟨first, later⟩

theorem spacing_of_isGap {cs : List Char} (gap : ∀ c ∈ cs, isGap c = true) : Spacing cs :=
  fun c mem => by simp [isSpacing, gap c mem]

theorem spacing_of_isBlank {cs : List Char} (blank : ∀ c ∈ cs, isBlank c = true) : Spacing cs :=
  spacing_of_isGap fun c mem => by simp [isGap, blank c mem]

/-- The lexemes stand one behind the other in the characters, which begin at the offset, and all
else is spacing. -/
inductive Covers : Nat → List Char → List Lexeme → Prop where
  | spacing {n : Nat} {cs : List Char} (spacing : Spacing cs) : Covers n cs []
  | lexeme {n : Nat} {gap cs : List Char} {t : Lexeme} {ts : List Lexeme} (spacing : Spacing gap)
      (start : t.start = n + byteLength gap) (later : Covers t.region.stop cs ts) :
      Covers n (gap ++ t.chars ++ cs) (t :: ts)

namespace Covers

variable {n : Nat} {cs ds chars gap : List Char} {t : Lexeme} {ts us : List Lexeme}

theorem nil (n : Nat) : Covers n [] [] := .spacing (List.forall_mem_nil _)

theorem behind (spacing : Spacing gap) (covers : Covers (n + byteLength gap) cs ts) :
    Covers n (gap ++ cs) ts := by
  cases covers with
  | spacing later => exact .spacing (Spacing.append spacing later)
  | @lexeme _ gap' cs t ts spacing' start later =>
    rw [Nat.add_assoc, ← byteLength_append] at start
    have covers := Covers.lexeme (Spacing.append spacing spacing') start later
    simpa using covers

theorem append (first : Covers n cs ts) (later : Covers (n + byteLength cs) ds us) :
    Covers n (cs ++ ds) (ts ++ us) := by
  induction first with
  | spacing spacing => exact later.behind spacing
  | @lexeme n gap cs t ts spacing start _ ih =>
    have stop : n + byteLength (gap ++ t.chars ++ cs) = t.region.stop + byteLength cs := by
      simp only [byteLength_append, Lexeme.region, start, Nat.add_assoc]
    rw [stop] at later
    have covers := Covers.lexeme spacing start (ih later)
    simpa using covers

theorem single (n : Nat) (token : Token) (chars : List Char) :
    Covers n chars [⟨token, n, chars⟩] := by
  have covers : Covers n ([] ++ chars ++ []) [⟨token, n, chars⟩] :=
    .lexeme (t := ⟨token, n, chars⟩) (List.forall_mem_nil _) rfl (.nil _)
  simpa using covers

theorem dedents (n k : Nat) : Covers n [] (List.replicate k ⟨.dedent, n, []⟩) := by
  induction k with
  | zero => exact .nil n
  | succ k ih => exact (Covers.single n .dedent []).append ih

/-- No lexeme goes beyond what is covered. -/
theorem stop_le (covers : Covers n cs ts) (mem : t ∈ ts) :
    t.region.stop ≤ n + byteLength cs := by
  induction covers with
  | spacing => cases mem
  | @lexeme n gap cs u us spacing start later ih =>
    have whole : n + byteLength (gap ++ u.chars ++ cs) = u.region.stop + byteLength cs := by
      simp only [byteLength_append, Lexeme.region, start, Nat.add_assoc]
    rw [whole]
    rcases List.mem_cons.mp mem with rfl | mem
    · exact Nat.le_add_right ..
    · exact ih mem

/-- A character is spacing or lies within a lexeme. -/
theorem covered (covers : Covers n cs ts) {before after : List Char} {c : Char}
    (source : cs = before ++ c :: after) :
    (∃ t ∈ ts, t.region.start ≤ n + byteLength before ∧
      n + byteLength before + c.utf8Size ≤ t.region.stop) ∨ isSpacing c = true := by
  induction covers generalizing before with
  | spacing spacing => exact .inr (spacing c (by simp [source]))
  | @lexeme n gap cs t ts spacing start _ ih =>
    rcases split_of_append source with ⟨back, inside, rfl⟩ | ⟨front, rfl, later⟩
    · rcases split_of_append inside with ⟨back', rfl, -⟩ | ⟨front, rfl, said⟩
      · exact .inr (spacing c (by simp))
      · refine .inl ⟨t, List.mem_cons_self, ?_⟩
        simp only [byteLength_append, byteLength_cons, Lexeme.region, start, said]
        omega
    · have offset :
          t.region.stop + byteLength front = n + byteLength (gap ++ t.chars ++ front) := by
        simp only [byteLength_append, Lexeme.region, start, Nat.add_assoc]
      have rest := ih later
      rw [offset] at rest
      rcases rest with ⟨u, mem, bounds⟩ | spacing
      · exact .inl ⟨u, List.mem_cons_of_mem _ mem, bounds⟩
      · exact .inr spacing

end Covers

namespace Lexer

variable {l l' : Lexer} {found : Lexemes}

theorem covers_changes {start : Nat} {indent : List Char} {blocks blocks' : Indents}
    {changes : List Lexeme} (blank : ∀ c ∈ indent, isBlank c = true)
    (change : blocks.change? start indent = some (blocks', changes)) :
    Covers start indent changes := by
  simp only [Indents.change?] at change
  split at change
  · cases change
    exact .spacing (spacing_of_isBlank blank)
  · split at change
    · cases change
      exact .single start .indent indent
    · obtain ⟨r, -, eq⟩ := Option.map_eq_some_iff.mp change
      cases eq
      have covers := Covers.behind (spacing_of_isBlank blank)
        (Covers.dedents (start + byteLength indent) r.2)
      rwa [List.append_nil] at covers

theorem covers_ending (l : Lexer) : Covers l.offset [] l.ending := by
  unfold ending
  split
  · exact .dedents l.offset l.indents.length
  · exact (Covers.single l.offset .newline []).append (.dedents l.offset l.indents.length)

theorem spacing_of_beforeLineEnd (chars : List Char) :
    ∃ ending, chars = beforeLineEnd chars ++ ending ∧ Spacing ending := by
  unfold beforeLineEnd
  split
  · next last =>
    refine ⟨['\r'], ?_, List.forall_mem_singleton.mpr rfl⟩
    obtain ⟨front, rfl⟩ := List.getLast?_eq_some_iff.mp last
    simp
  · exact ⟨[], (List.append_nil _).symm, List.forall_mem_nil _⟩

/-- What a move passes is covered by what it finds. -/
theorem Moves.covers (move : l.Moves l') (owes : l.pending = []) {passed : List Char}
    (source : l.rest = passed ++ l'.rest) : Covers l.offset passed l'.pending := by
  have passes (chars : List Char) (rest : l.rest = chars ++ l'.rest)
      (covers : Covers l.offset chars l'.pending) : Covers l.offset passed l'.pending := by
    rwa [← List.append_cancel_right (source.symm.trans rest)] at covers
  have skips {chars : List Char} (rest : l.rest = chars ++ l'.rest) (none : l'.pending = [])
      (spacing : Spacing chars) : Covers l.offset passed l'.pending :=
    passes _ rest (none ▸ .spacing spacing)
  have emits (token : Token) (chars : List Char) (rest : l.rest = chars ++ l'.rest)
      (one : l'.pending = [⟨token, l.offset, chars⟩]) : Covers l.offset passed l'.pending :=
    passes _ rest (one ▸ .single l.offset token chars)
  cases move with
  | finish =>
    refine passes [] rfl ?_
    simp only [owes, List.nil_append]
    exact l.covers_ending
  | blankLine mode rest blank ends =>
    refine skips rest owes ((spacing_of_isBlank blank).append ?_)
    rcases ends with ⟨rfl, -⟩ | rfl | rfl
    · exact List.forall_mem_nil _
    · exact List.forall_mem_singleton.mpr rfl
    · exact List.forall_mem_cons.mpr ⟨rfl, List.forall_mem_singleton.mpr rfl⟩
  | line mode rest blank ink goesOn change =>
    refine passes _ rest ?_
    simp only [enterLine, owes, List.nil_append]
    exact covers_changes blank change
  | @textLine indent cs c indents changes mode rest blank ink goesOn change =>
    refine passes (indent ++ [c]) (by simpa [emit, enterLine, skip] using rest) ?_
    simp only [emit, enterLine, skip, owes, List.nil_append]
    exact (covers_changes blank change).append (.single _ .marker [c])
  | @text run mode read =>
    subst read
    exact emits .text _ (Run.text_append ..).symm (pending_append owes _)
  | @lineText chars cs mode read =>
    have rest := Run.text_append l.markers l.rest
    rw [read] at rest
    obtain ⟨ending, whole, spacing⟩ := spacing_of_beforeLineEnd chars
    refine passes (beforeLineEnd chars ++ ending) (whole ▸ rest.symm) ?_
    simp only [owes, List.nil_append]
    exact (Covers.single l.offset .text (beforeLineEnd chars)).append (.spacing spacing)
  | @endTextLine chars cs mode read empty =>
    have rest := Run.text_append l.markers l.rest
    rw [read] at rest
    obtain ⟨ending, whole, spacing⟩ := spacing_of_beforeLineEnd chars
    rw [empty, List.nil_append] at whole
    subst whole
    refine passes (chars ++ ['\n']) (by simpa [emit, skip] using rest.symm) ?_
    simp only [emit, skip, owes, List.nil_append]
    exact (Covers.single _ .newline ['\n']).behind spacing
  | openSplice mode rest =>
    exact emits .openSplice [_] rest (pending_append owes _)
  | closeSplice mode closed rest =>
    exact emits .closeSplice [_] rest (pending_append owes _)
  | @token token chars cs mode rest =>
    exact emits token chars rest (pending_append owes _)
  | @openBracket b c cs mode rest =>
    exact emits (.opening b) [c] rest (pending_append owes _)
  | @closeBracket b c cs start outer mode rest =>
    exact emits (.closing b) [c] rest (pending_append owes _)
  | joinLine mode rest => exact skips rest owes (List.forall_mem_singleton.mpr rfl)
  | endLine mode rest =>
    exact emits .newline ['\n'] rest (pending_append owes _)
  | gap mode rest gap => exact skips rest owes (spacing_of_isGap gap)

/-- A lexer that has stopped stands at the end of its source. -/
def StopsAtEnd (l : Lexer) : Prop := l.mode = .done → l.rest = []

theorem Moves.stopsAtEnd (move : l.Moves l') (active : l.mode ≠ .done) : l'.StopsAtEnd := by
  obtain ⟨passed, passes⟩ := move.passes
  intro stopped
  by_contra more
  exact move.active active (by simp [passes.rest, more]) stopped

/-- What a run has read of its source when it comes to the end or to a fault. -/
theorem Run.covers (run : l.Run found) (stops : l.StopsAtEnd) :
    ∃ read ahead, l.rest = read ++ ahead ∧ Covers l.offset read found.list ∧
      (found.fault = none → ahead = []) ∧
      (ahead ≠ [] → ∀ f ∈ found.fault, f.region.start = l.offset + byteLength read) := by
  induction run with
  | @done l owes mode =>
    exact ⟨[], [], stops mode, .nil _, fun _ => rfl, fun more => absurd rfl more⟩
  | @fault l f owes active step =>
    refine ⟨[], l.rest, rfl, .nil _, nofun, ?_⟩
    rintro more _ ⟨⟩
    exact start_of_step more step
  | @step l l' later owes active step _ ih =>
    have move := moves_of_step active step
    obtain ⟨read, ahead, rest, covers, ended, stopped⟩ := ih (move.stopsAtEnd active)
    obtain ⟨passed, passes⟩ := move.passes
    have offset := passes.offset
    have source : l.rest = passed ++ (read ++ ahead) := passes.rest.trans (congrArg _ rest)
    refine ⟨passed ++ read, ahead, by rw [source, List.append_assoc], ?_, ended, ?_⟩
    · have later' : Covers (l.offset + byteLength passed) read later.list := offset ▸ covers
      exact (move.covers owes passes.rest).append later'
    · intro more f mem
      have start : f.region.start = l'.offset + byteLength read := stopped more f mem
      rw [start, offset, byteLength_append, Nat.add_assoc]

end Lexer

/-! ## Cutting the source -/

/-- Where the source is cut out by offsets while it is compiled, and the characters that are taken
from there. -/
inductive Cuts (m : Markers) (source : List Char) : Region → List Char → Prop where
  /-- What a lexer looks at or passes in one of its states. -/
  | ahead {l : Lexer} {chars cs : List Char}
      (reached : Lexer.Reaches { markers := m, rest := source } l)
      (rest : l.rest = chars ++ cs) : Cuts m source ⟨l.offset, l.offset + byteLength chars⟩ chars
  /-- Names, numbers and strings. -/
  | lexeme {t : Lexeme} (mem : t ∈ (Lexemes.ofSource m source).list) :
      Cuts m source t.region t.chars
  /-- A sign together with its number. -/
  | signed {ts us : List Lexeme} {t u : Lexeme} {op : Operator}
      (found : (Lexemes.ofSource m source).list = ts ++ t :: u :: us)
      (sign : t.token = .operator op) (number : u.token = .number)
      (touches : t.region.touches u.region = true) :
      Cuts m source (t.region.join u.region) (t.chars ++ u.chars)

theorem Lexemes.before_ofSource {m : Markers} {source : List Char} {ts us : List Lexeme}
    {t u : Lexeme} (found : (ofSource m source).list = ts ++ t :: u :: us) : t.Before u := by
  have chain := isChain_ofSource m source
  rw [found] at chain
  exact (List.isChain_cons_cons.mp (isChain_rest chain)).1

theorem Lexeme.Before.join_eq {t u : Lexeme} (before : t.Before u)
    (touches : t.region.touches u.region = true) :
    t.region.join u.region = ⟨t.start, t.start + byteLength (t.chars ++ u.chars)⟩ := by
  have adjacent := before.touches touches
  simp only [Lexeme.region] at adjacent
  simp only [Region.join, Lexeme.region, byteLength_append, Region.mk.injEq]
  omega

theorem Cuts.slice? {m : Markers} {source chars : List Char} {r : Region}
    (cuts : Cuts m source r chars) : r.slice? source = some chars := by
  have places := (Lexemes.places_ofSource m source).1
  cases cuts with
  | ahead reached rest =>
    have start : Lexer.Placed source { markers := m, rest := source } :=
      ⟨⟨[], rfl, rfl⟩, nofun, nofun⟩
    exact ((reached.placed start).next rest).slice?
  | lexeme mem => exact (places _ mem).slice?
  | @signed ts us t u op found sign number touches =>
    have before := Lexemes.before_ofSource found
    have stands : t.StandsIn source := places t (by simp [found])
    have stands' : u.StandsIn source := places u (by simp [found])
    have adjacent : t.start + byteLength t.chars = u.start := before.touches touches
    rw [before.join_eq touches]
    refine (StandsAt.append stands ?_).slice?
    rw [adjacent]
    exact stands'

theorem Lexer.Spelling.operator {op : Operator} {chars : List Char}
    (spelling : Spelling (.operator op) chars) : chars = op.text.toList := by
  generalize is : Token.operator op = token at spelling
  cases spelling with
  | punctuation spelled =>
    subst is
    simp only [Lexer.punctuation] at spelled
    split at spelled <;> cases spelled <;> rfl
  | string => cases is
  | number => cases is
  | word =>
    have others : ∀ token ∈ reservedWords.map (·.2), token ≠ .operator op := by
      simp [reservedWords, Keyword.all]
    rcases Token.ofWord_mem _ with identifier | reserved
    · rw [identifier] at is
      cases is
    · exact absurd is.symm (others _ reserved)

/-- A signed number is read from what is cut out of the source for it, behind the sign if this is a
plus. -/
theorem signedNumber_of_cut {m : Markers} {source : List Char} {ts us : List Lexeme} {t u : Lexeme}
    {op : Operator} (found : (Lexemes.ofSource m source).list = ts ++ t :: u :: us)
    (sign : t.token = .operator op) (sum : op.isProduct = false) (number : u.token = .number)
    (touches : t.region.touches u.region = true) :
    ∃ window digits, (t.region.join u.region).slice? source = some window ∧
      (if op = .add then Region.slice? ⟨1, byteLength window⟩ window else some window) =
        some digits ∧
      signedNumber t op u = numberLiteral digits (t.region.join u.region) := by
  have spelled := Lexemes.spelled_ofSource m source t (by simp [found])
  have cut := (Cuts.signed found sign number touches).slice?
  have chars : t.chars = op.text.toList := by
    rcases spelled with structural | spelling
    · rw [sign] at structural
      cases structural
    · rw [sign] at spelling
      exact spelling.operator
  rw [chars] at cut
  refine ⟨_, if op = .subtract then '-' :: u.chars else u.chars, cut, ?_, ?_⟩
  · cases op with
    | add =>
      have behind := Region.slice?_append ['+'] u.chars []
      rw [List.append_nil] at behind
      exact behind
    | subtract => rfl
    | multiply => cases sum
    | divide => cases sum
  · rw [signedNumber, if_pos touches]

/-- Lexemes lie in order between the characters of their source and leave out nothing but spacing,
up to the place where the lexer stops. All that is cut out of the source lies between characters, so
that there is something to be cut out. -/
theorem Lexemes.lossless (m : Markers) (source : List Char) :
    (∀ t ∈ (ofSource m source).list, t.region.start ≤ t.region.stop ∧
        Boundary source t.region.start ∧ Boundary source t.region.stop) ∧
      (ofSource m source).list.IsChain (fun t u => t.region.stop ≤ u.region.start) ∧
      (∃ reach, ((ofSource m source).fault = none → reach = byteLength source) ∧
        (∀ f ∈ (ofSource m source).fault, f.region.start ≤ reach) ∧
        (∀ t ∈ (ofSource m source).list, t.region.stop ≤ reach) ∧
        ∀ before c after, source = before ++ c :: after → byteLength before < reach →
          (∃ t ∈ (ofSource m source).list, t.region.start ≤ byteLength before ∧
            byteLength before + c.utf8Size ≤ t.region.stop) ∨
          c = ' ' ∨ c = '\t' ∨ c = '\r' ∨ c = '\n') ∧
      (∀ r chars, Cuts m source r chars → r.slice? source = some chars) ∧
      ∀ ts us t u op, (ofSource m source).list = ts ++ t :: u :: us → t.token = .operator op →
        op.isProduct = false → u.token = .number → t.region.touches u.region = true →
        ∃ window digits, (t.region.join u.region).slice? source = some window ∧
          (if op = .add then Region.slice? ⟨1, byteLength window⟩ window else some window) =
            some digits ∧
          signedNumber t op u = numberLiteral digits (t.region.join u.region) := by
  obtain ⟨places, blamed⟩ := places_ofSource m source
  have run : Lexer.Run { markers := m, rest := source } (ofSource m source) := Lexer.run_lexemes rfl
  obtain ⟨read, ahead, rest, covers, ended, stopped⟩ := run.covers nofun
  have source_eq : source = read ++ ahead := rest
  have inOrder := (isChain_ofSource m source).imp fun _ _ before => before.1
  refine ⟨fun t mem => ?_, inOrder, ⟨byteLength read, ?_, ?_, fun t mem => ?_, ?_⟩,
    fun r chars cuts => cuts.slice?, ?_⟩
  · exact ⟨Nat.le_add_right .., (places t mem).boundary, (places t mem).boundary_stop⟩
  · intro whole
    rw [source_eq, ended whole, List.append_nil]
  · intro f mem
    by_cases more : ahead = []
    · have within := (blamed f mem).le
      rwa [source_eq, more, List.append_nil] at within
    · exact (stopped more f mem).le.trans (Nat.zero_add _).le
  · exact (covers.stop_le mem).trans (Nat.zero_add _).le
  · intro before c after split within
    rw [source_eq] at split
    rcases split_of_append split with ⟨back, inside, -⟩ | ⟨front, rfl, -⟩
    · have covered := covers.covered inside
      simpa only [isSpacing_iff, Nat.zero_add] using covered
    · rw [byteLength_append] at within
      omega
  · exact fun ts us t u op found sign sum number touches =>
      signedNumber_of_cut found sign sum number touches

/-- A plus and its number are cut out behind a name of two bytes. -/
theorem Lexemes.lossless_signed :
    ∃ window digits, Region.slice? ⟨5, 7⟩ "p(é=+1)".toList = some window ∧
      Region.slice? ⟨1, byteLength window⟩ window = some digits ∧
      signedNumber ⟨.operator .add, 5, ['+']⟩ .add ⟨.number, 6, ['1']⟩ =
        numberLiteral digits ⟨5, 7⟩ := by
  have lexemes : ofSource .standard "p(é=+1)".toList =
      ⟨[⟨.identifier, 0, ['p']⟩, ⟨.opening .round, 1, ['(']⟩, ⟨.identifier, 2, ['é']⟩,
        ⟨.assign, 4, ['=']⟩, ⟨.operator .add, 5, ['+']⟩, ⟨.number, 6, ['1']⟩,
        ⟨.closing .round, 7, [')']⟩, ⟨.newline, 8, []⟩], none⟩ :=
    ofSource_of_within (n := 20) (by decide +kernel)
  obtain ⟨-, -, -, -, signed⟩ := lossless .standard "p(é=+1)".toList
  exact signed [_, _, _, _] [_, _] ⟨.operator .add, 5, ['+']⟩ ⟨.number, 6, ['1']⟩ .add
    (congrArg Lexemes.list lexemes) rfl rfl rfl rfl

end HtmlTemplate
