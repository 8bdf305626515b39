import HtmlTemplate.Proofs.Grammar.Readers
import HtmlTemplate.Proofs.Lexing.Places
import HtmlTemplate.Tree.Parser

/-!
# Faults of the parser

A reader finds fault only with lexemes that it was given, and it leaves only such lexemes behind.
With the faults of the lexer, and with what is wanted at the end of the source, every fault of a
source begins within it.
-/

namespace HtmlTemplate

/-- A fault begins with one of the lexemes. -/
def Stop.Among (ts : List Lexeme) : Stop → Prop
  | .fault f => ∃ t ∈ ts, f.region.start = t.start
  | .outOfLexemes _ => True

def StopsAmong {α : Type} (ts : List Lexeme) (check : Except Stop α) : Prop :=
  ∀ s, check = .error s → s.Among ts

/-- Finds fault with none but the given lexemes, and leaves none but them. -/
structure ReadsAmong {α : Type} {n : Nat} (ts : List Lexeme) (parse : Parse α n) : Prop where
  stops : StopsAmong ts parse
  leaves : ∀ p, parse = .ok p → p.rest ⊆ ts

section

variable {α β : Type} {n k : Nat} {ts us : List Lexeme}

theorem Stop.Among.mono {s : Stop} (among : s.Among us) (sub : us ⊆ ts) : s.Among ts := by
  cases s with
  | fault f =>
    obtain ⟨t, mem, start⟩ := among
    exact ⟨t, sub mem, start⟩
  | outOfLexemes cause => trivial

theorem stopsAmong_ok {a : α} : StopsAmong ts (.ok a : Except Stop α) := nofun

theorem stopsAmong_stopAt {t : Lexeme} {cause : Cause} (mem : t ∈ ts) :
    StopsAmong ts (stopAt t cause : Except Stop α) := by
  rintro _ ⟨⟩
  exact ⟨t, mem, rfl⟩

theorem StopsAmong.bind {x : Except Stop α} {next : α → Except Stop β} (stops : StopsAmong ts x)
    (later : ∀ a, x = .ok a → StopsAmong ts (next a)) : StopsAmong ts (x >>= next) := by
  cases x with
  | ok a => exact later a rfl
  | error s =>
    rintro _ ⟨⟩
    exact stops s rfl

theorem readsAmong_ok {p : Parsed α n} (sub : p.rest ⊆ ts) :
    ReadsAmong ts (.ok p : Parse α n) where
  stops := stopsAmong_ok
  leaves := by rintro _ ⟨⟩; exact sub

/-- What is left may be all that was given. -/
theorem readsAmong_end {a : α} {shorter : ts.length < n} :
    ReadsAmong ts (.ok ⟨a, ts, shorter⟩ : Parse α n) := readsAmong_ok (List.Subset.refl _)

theorem readsAmong_out (cause : Cause) :
    ReadsAmong ts (.error (.outOfLexemes cause) : Parse α n) where
  stops := by rintro _ ⟨⟩; trivial
  leaves := nofun

theorem readsAmong_stopAt {t : Lexeme} {cause : Cause} (mem : t ∈ ts) :
    ReadsAmong ts (stopAt t cause : Parse α n) where
  stops := stopsAmong_stopAt mem
  leaves := nofun

/-- A reader of lexemes that another one has left. -/
theorem ReadsAmong.mono {parse : Parse α n} (reads : ReadsAmong us parse) (sub : us ⊆ ts) :
    ReadsAmong ts parse where
  stops s eq := (reads.stops s eq).mono sub
  leaves p eq := List.Subset.trans (reads.leaves p eq) sub

theorem ReadsAmong.bind {parse : Parse α n} {next : Parsed α n → Parse β k}
    (reads : ReadsAmong ts parse)
    (later : ∀ p, parse = .ok p → p.rest ⊆ ts → ReadsAmong ts (next p)) :
    ReadsAmong ts (parse >>= next) := by
  cases parse with
  | ok p => exact later p rfl (reads.leaves p rfl)
  | error s => exact ⟨by rintro _ ⟨⟩; exact reads.stops s rfl, nofun⟩

/-- The next reader goes on with what one has left. -/
theorem ReadsAmong.then {parse : Parse α n} {next : Parsed α n → Parse β k}
    (reads : ReadsAmong ts parse) (later : ∀ p, ReadsAmong p.rest (next p)) :
    ReadsAmong ts (parse >>= next) :=
  reads.bind fun p _ left => (later p).mono left

/-- A check of what was read, which reads nothing itself. -/
theorem StopsAmong.reads {check : Except Stop α} {next : α → Parse β k}
    (stops : StopsAmong ts check) (later : ∀ a, ReadsAmong ts (next a)) :
    ReadsAmong ts (check >>= next) := by
  cases check with
  | ok a => exact later a
  | error s => exact ⟨by rintro _ ⟨⟩; exact stops s rfl, nofun⟩

theorem readsAmong_expect (token : Token) (ts : List Lexeme) :
    ReadsAmong ts (expect token ts) := by
  unfold expect
  split
  · exact readsAmong_out _
  · next t rest =>
    split
    · exact readsAmong_ok (List.subset_cons_self ..)
    · exact readsAmong_stopAt List.mem_cons_self

theorem mem_of_yields_expect {token : Token} {t : Lexeme}
    (yields : Yields (expect token ts) t us) : t ∈ ts := by
  obtain ⟨rfl, -⟩ := yields_expect.mp yields
  exact List.mem_cons_self

theorem readsAmong_parseIdent (ts : List Lexeme) : ReadsAmong ts (parseIdent ts) :=
  (readsAmong_expect .identifier ts).then fun _ => readsAmong_end

theorem stopsAmong_numberLiteral {t : Lexeme} {chars : List Char} {region : Region} (mem : t ∈ ts)
    (start : region.start = t.start) : StopsAmong ts (numberLiteral chars region) := by
  unfold numberLiteral
  split
  · exact stopsAmong_ok
  · rintro _ ⟨⟩
    exact ⟨t, mem, start⟩

theorem stopsAmong_stringLiteral {t : Lexeme} (mem : t ∈ ts) :
    StopsAmong ts (stringLiteral t) := by
  unfold stringLiteral
  split
  · exact stopsAmong_ok
  · exact stopsAmong_stopAt mem

/-- The region of a sign with its number begins with the one or the other. -/
theorem stopsAmong_signedNumber {sign number : Lexeme} {op : Operator} (mem : sign ∈ ts)
    (mem' : number ∈ ts) : StopsAmong ts (signedNumber sign op number) := by
  unfold signedNumber
  split
  · rcases Nat.le_total sign.start number.start with first | first
    · exact stopsAmong_numberLiteral mem (Nat.min_eq_left first)
    · exact stopsAmong_numberLiteral mem' (Nat.min_eq_right first)
  · exact stopsAmong_stopAt mem

end

/-! ## Expressions -/

mutual

theorem readsAmong_parseExpr (ts : List Lexeme) : ReadsAmong ts (parseExpr ts) := by
  rw [parseExpr]
  refine (readsAmong_parseProduct ts).then fun ⟨first, rest, h⟩ => ?_
  refine (readsAmong_parseSums first rest).then fun ⟨e, rest', h'⟩ => ?_
  exact readsAmong_end
termination_by 5 * ts.length + 3

theorem readsAmong_parseSums (left : Expr) (ts : List Lexeme) :
    ReadsAmong ts (parseSums left ts) := by
  cases ts with
  | nil =>
    rw [parseSums]
    exact readsAmong_end
  | cons t us =>
    rw [parseSums]
    split
    · exact readsAmong_end
    · next op is =>
      refine ReadsAmong.mono ?_ (List.subset_cons_self t us)
      refine (readsAmong_parseProduct us).then fun ⟨right, rest, h⟩ => ?_
      refine (readsAmong_parseSums (.binary op left right) rest).then fun ⟨e, rest', h'⟩ => ?_
      exact readsAmong_end
termination_by 5 * ts.length

theorem readsAmong_parseProduct (ts : List Lexeme) : ReadsAmong ts (parseProduct ts) := by
  rw [parseProduct]
  refine (readsAmong_parseAtom ts).then fun ⟨first, rest, h⟩ => ?_
  refine (readsAmong_parseFactors first rest).then fun ⟨e, rest', h'⟩ => ?_
  exact readsAmong_end
termination_by 5 * ts.length + 2

theorem readsAmong_parseFactors (left : Expr) (ts : List Lexeme) :
    ReadsAmong ts (parseFactors left ts) := by
  cases ts with
  | nil =>
    rw [parseFactors]
    exact readsAmong_end
  | cons t us =>
    rw [parseFactors]
    split
    · exact readsAmong_end
    · next op is =>
      refine ReadsAmong.mono ?_ (List.subset_cons_self t us)
      refine (readsAmong_parseAtom us).then fun ⟨right, rest, h⟩ => ?_
      refine (readsAmong_parseFactors (.binary op left right) rest).then fun ⟨e, rest', h'⟩ => ?_
      exact readsAmong_end
termination_by 5 * ts.length

theorem readsAmong_parseAtom (ts : List Lexeme) : ReadsAmong ts (parseAtom ts) := by
  cases ts with
  | nil =>
    rw [parseAtom]
    exact readsAmong_out _
  | cons t us =>
    have sub := List.subset_cons_self t us
    have mem : t ∈ t :: us := List.mem_cons_self
    rw [parseAtom]
    split
    · exact (stopsAmong_numberLiteral mem rfl).reads fun e => readsAmong_ok sub
    · exact (stopsAmong_stringLiteral mem).reads fun e => readsAmong_ok sub
    · exact readsAmong_ok sub
    · exact readsAmong_ok sub
    · exact readsAmong_ok sub
    · next op is =>
      split
      · exact readsAmong_stopAt mem
      · refine ((readsAmong_expect .number us).mono sub).bind fun ⟨number, rest, h⟩ eq left => ?_
        have mem' : number ∈ t :: us := sub (mem_of_yields_expect ⟨h, eq⟩)
        exact (stopsAmong_signedNumber mem mem').reads fun e => readsAmong_ok left
    · refine ReadsAmong.mono ?_ sub
      refine (readsAmong_parseExpr us).then fun ⟨e, rest, h⟩ => ?_
      exact (readsAmong_expect _ rest).then fun _ => readsAmong_end
    · refine ReadsAmong.mono ?_ sub
      refine (readsAmong_parseItems .square us).then fun ⟨items, rest, h⟩ => ?_
      exact (readsAmong_expect _ rest).then fun _ => readsAmong_end
    · refine ReadsAmong.mono ?_ sub
      refine (readsAmong_parseEntries us).then fun ⟨entries, rest, h⟩ => ?_
      exact (readsAmong_expect _ rest).then fun _ => readsAmong_end
    · cases us with
      | nil => exact readsAmong_ok sub
      | cons u us =>
        dsimp only
        split
        · refine ReadsAmong.mono ?_ (List.Subset.trans (List.subset_cons_self u us) sub)
          refine (readsAmong_parseItems .round us).then fun ⟨arguments, rest, h⟩ => ?_
          exact (readsAmong_expect _ rest).then fun _ => readsAmong_end
        · exact readsAmong_ok sub
    · exact readsAmong_stopAt mem
termination_by 5 * ts.length + 1

theorem readsAmong_parseItems (close : Bracket) (ts : List Lexeme) :
    ReadsAmong ts (parseItems close ts) := by
  rw [parseItems]
  split
  · exact readsAmong_end
  · refine (readsAmong_parseExpr ts).then fun ⟨e, rest, h⟩ => ?_
    cases rest with
    | nil => exact readsAmong_end
    | cons t us =>
      have : us.length + 1 < ts.length := h
      dsimp only
      split
      · refine ReadsAmong.mono ?_ (List.subset_cons_self t us)
        exact (readsAmong_parseItems close us).then fun _ => readsAmong_end
      · exact readsAmong_end
termination_by 5 * ts.length + 4

theorem readsAmong_parseEntries (ts : List Lexeme) : ReadsAmong ts (parseEntries ts) := by
  rw [parseEntries]
  split
  · exact readsAmong_end
  · refine (readsAmong_parseExpr ts).then fun ⟨key, rest, h⟩ => ?_
    refine (readsAmong_expect .colon rest).then fun ⟨_, rest', h'⟩ => ?_
    refine (readsAmong_parseExpr rest').then fun ⟨value, rest'', h''⟩ => ?_
    cases rest'' with
    | nil => exact readsAmong_end
    | cons t us =>
      have : us.length + 1 < rest'.length := h''
      dsimp only
      split
      · refine ReadsAmong.mono ?_ (List.subset_cons_self t us)
        exact (readsAmong_parseEntries us).then fun _ => readsAmong_end
      · exact readsAmong_end
termination_by 5 * ts.length + 4

end

/-! ## Statements -/

theorem readsAmong_parseAttributes (ts : List Lexeme) : ReadsAmong ts (parseAttributes ts) := by
  rw [parseAttributes]
  split
  · exact readsAmong_end
  · refine (readsAmong_parseIdent ts).then fun ⟨key, rest, h⟩ => ?_
    refine (readsAmong_expect .assign rest).then fun ⟨_, rest', h'⟩ => ?_
    refine (readsAmong_parseExpr rest').then fun ⟨value, rest'', h''⟩ => ?_
    cases rest'' with
    | nil => exact readsAmong_end
    | cons t us =>
      have : us.length + 1 < rest'.length := h''
      dsimp only
      split
      · refine ReadsAmong.mono ?_ (List.subset_cons_self t us)
        exact (readsAmong_parseAttributes us).then fun _ => readsAmong_end
      · exact readsAmong_end
termination_by ts.length

variable (m : Markers)

theorem readsAmong_parseParts (ts : List Lexeme) : ReadsAmong ts (parseParts m ts) := by
  cases ts with
  | nil =>
    rw [parseParts]
    exact readsAmong_out _
  | cons t us =>
    have sub := List.subset_cons_self t us
    rw [parseParts]
    split
    · refine ReadsAmong.mono ?_ sub
      exact (readsAmong_parseParts us).then fun _ => readsAmong_end
    · refine ReadsAmong.mono ?_ sub
      refine (readsAmong_parseExpr us).then fun ⟨e, rest, h⟩ => ?_
      refine (readsAmong_expect .closeSplice rest).then fun ⟨_, rest', h'⟩ => ?_
      exact (readsAmong_parseParts rest').then fun _ => readsAmong_end
    · exact readsAmong_ok sub
    · exact readsAmong_stopAt List.mem_cons_self
termination_by ts.length

theorem readsAmong_parseText (marker : Lexeme) (ts : List Lexeme) :
    ReadsAmong (marker :: ts) (parseText m marker ts) := by
  unfold parseText
  refine ((readsAmong_parseParts m ts).mono (List.subset_cons_self ..)).bind
    fun ⟨parts, rest, h⟩ _ left => ?_
  cases parts with
  | nil => exact readsAmong_stopAt List.mem_cons_self
  | cons part parts => exact readsAmong_ok left

theorem readsAmong_parseAssign (ts : List Lexeme) : ReadsAmong ts (parseAssign ts) := by
  unfold parseAssign
  refine (readsAmong_parseIdent ts).then fun ⟨name, rest, h⟩ => ?_
  refine (readsAmong_expect .assign rest).then fun ⟨_, rest', h'⟩ => ?_
  refine (readsAmong_parseExpr rest').then fun ⟨value, rest'', h''⟩ => ?_
  exact (readsAmong_expect .newline rest'').then fun _ => readsAmong_end

theorem readsAmong_parseHead (ts : List Lexeme) : ReadsAmong ts (parseHead ts) := by
  cases ts with
  | nil => exact readsAmong_end
  | cons t us =>
    unfold parseHead
    dsimp only
    split
    · refine ReadsAmong.mono ?_ (List.subset_cons_self t us)
      refine (readsAmong_parseAttributes us).then fun ⟨attributes, rest, h⟩ => ?_
      exact (readsAmong_expect _ rest).then fun _ => readsAmong_end
    · exact readsAmong_end

theorem readsAmong_parseIndent (ts : List Lexeme) : ReadsAmong ts (parseIndent ts) := by
  unfold parseIndent
  refine (readsAmong_expect .colon ts).then fun ⟨_, rest, h⟩ => ?_
  refine (readsAmong_expect .newline rest).then fun ⟨_, rest', h'⟩ => ?_
  cases rest' with
  | nil => exact readsAmong_out _
  | cons t us =>
    dsimp only
    split
    · exact readsAmong_ok (List.subset_cons_self t us)
    · exact readsAmong_stopAt List.mem_cons_self

mutual

theorem readsAmong_parseStatement (ts : List Lexeme) : ReadsAmong ts (parseStatement m ts) := by
  cases ts with
  | nil =>
    rw [parseStatement]
    exact readsAmong_out _
  | cons t us =>
    have sub := List.subset_cons_self t us
    have mem : t ∈ t :: us := List.mem_cons_self
    rw [parseStatement]
    split
    · refine ReadsAmong.mono ?_ sub
      exact (readsAmong_parseAssign us).then fun _ => readsAmong_end
    · refine ReadsAmong.mono ?_ sub
      exact (readsAmong_parseChoice us).then fun _ => readsAmong_end
    · refine ReadsAmong.mono ?_ sub
      refine (readsAmong_parseIdent us).then fun ⟨name, rest, h⟩ => ?_
      refine (readsAmong_expect _ rest).then fun ⟨_, rest', h'⟩ => ?_
      refine (readsAmong_parseExpr rest').then fun ⟨iterable, rest'', h''⟩ => ?_
      exact (readsAmong_parseBlock rest'').then fun _ => readsAmong_end
    · refine ReadsAmong.mono ?_ sub
      refine (readsAmong_parseHead us).then fun ⟨attributes, rest, h⟩ => ?_
      dsimp only
      split
      · exact (readsAmong_parseBlock rest).then fun _ => readsAmong_end
      · exact (readsAmong_expect .newline rest).then fun _ => readsAmong_end
    · exact (readsAmong_parseText m t us).bind fun _ _ left => readsAmong_ok left
    · exact readsAmong_stopAt mem
    · exact readsAmong_stopAt mem
    · exact readsAmong_stopAt mem
    · exact readsAmong_stopAt mem
termination_by 2 * ts.length

theorem readsAmong_parseChoice (ts : List Lexeme) : ReadsAmong ts (parseChoice m ts) := by
  rw [parseChoice]
  refine (readsAmong_parseExpr ts).then fun ⟨condition, rest, h⟩ => ?_
  refine (readsAmong_parseBlock rest).then fun ⟨body, rest', h'⟩ => ?_
  cases rest' with
  | nil => exact readsAmong_end
  | cons t us =>
    have : us.length + 1 < rest.length := h'
    have sub := List.subset_cons_self t us
    dsimp only
    split
    · refine ReadsAmong.mono ?_ sub
      exact (readsAmong_parseChoice us).then fun _ => readsAmong_end
    · split
      · refine ReadsAmong.mono ?_ sub
        exact (readsAmong_parseBlock us).then fun _ => readsAmong_end
      · exact readsAmong_end
termination_by 2 * ts.length

theorem readsAmong_parseBlock (ts : List Lexeme) : ReadsAmong ts (parseBlock m ts) := by
  rw [parseBlock]
  refine (readsAmong_parseIndent ts).then fun ⟨_, rest, h⟩ => ?_
  refine (readsAmong_parseBody rest).then fun ⟨body, rest', h'⟩ => ?_
  exact (readsAmong_expect .dedent rest').then fun _ => readsAmong_end
termination_by 2 * ts.length

theorem readsAmong_parseBody (ts : List Lexeme) : ReadsAmong ts (parseBody m ts) := by
  rw [parseBody]
  split
  · exact readsAmong_end
  · refine (readsAmong_parseStatement ts).then fun ⟨s, rest, h⟩ => ?_
    exact (readsAmong_parseBody rest).then fun _ => readsAmong_end
termination_by 2 * ts.length + 1

end

theorem stopsAmong_parseStatements (ts : List Lexeme) :
    StopsAmong ts (parseStatements m ts) := by
  cases ts with
  | nil =>
    rw [parseStatements]
    exact stopsAmong_ok
  | cons t us =>
    rw [parseStatements]
    have reads := readsAmong_parseStatement m (t :: us)
    refine reads.stops.bind fun ⟨s, rest, h⟩ eq => ?_
    refine StopsAmong.bind ?_ fun later _ => stopsAmong_ok
    exact fun s eq' => (stopsAmong_parseStatements rest s eq').mono (reads.leaves _ eq)
termination_by ts.length
decreasing_by assumption

/-- Every fault of a source begins within it, at its end at the latest. -/
theorem boundary_of_parseSource {source : List Char} {f : Fault}
    (h : parseSource m source = .error f) : Boundary source f.region.start := by
  obtain ⟨lexemes, behind⟩ := Lexemes.places_ofSource m source
  unfold parseSource Lexemes.parse at h
  split at h
  · next stops =>
    cases h
    obtain ⟨t, mem, start⟩ := stopsAmong_parseStatements m _ _ stops
    rw [start]
    exact (lexemes t mem).boundary
  · next fault =>
    cases h
    exact behind _ fault
  · cases h
    exact boundary_end source
  · next fault =>
    cases h
    exact behind _ fault
  · cases h

end HtmlTemplate
