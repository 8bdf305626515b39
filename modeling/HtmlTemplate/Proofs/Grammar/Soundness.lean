import HtmlTemplate.Proofs.Grammar.Basic
import HtmlTemplate.Proofs.Grammar.Readers
import HtmlTemplate.Proofs.Lexing.Order

/-!
# Soundness of the parser

What a reader has read derives the tree that it returns. Two facts about lexemes take part: a sign
that touches a number stands in front of it, and no block is empty.
-/

namespace HtmlTemplate

/-- The lexemes in front of the rest denote a tree. -/
def Reads {α : Type} (grammar : List Lexeme → α → Prop) (ts : List Lexeme) (a : α)
    (rest : List Lexeme) : Prop :=
  ∃ us, ts = us ++ rest ∧ grammar us a

variable {ts rest : List Lexeme}

theorem Lexeme.Before.touches {t u : Lexeme} (before : t.Before u)
    (touches : t.region.touches u.region = true) : t.region.stop = u.region.start := by
  have first := before.1
  have sign := t.region_start_le_stop
  have number := u.region_start_le_stop
  simp only [Region.touches, Bool.or_eq_true, beq_iff_eq] at touches
  omega

theorem isChain_tail {t : Lexeme} (chain : (t :: ts).IsChain Lexeme.Before) :
    ts.IsChain Lexeme.Before := chain.tail

theorem isChain_rest {us : List Lexeme} (chain : (us ++ rest).IsChain Lexeme.Before) :
    rest.IsChain Lexeme.Before := chain.right_of_append

/-- A sign and a number that it touches are an atom. -/
theorem signedNumber_sound {t u : Lexeme} {op : Operator} {e : Expr} (before : t.Before u)
    (sign : t.token = .operator op) (sum : op.isProduct = false) (number : u.token = .number)
    (reads : signedNumber t op u = .ok e) : Grammar.Atom [t, u] e := by
  unfold signedNumber at reads
  split at reads
  · next touches =>
    have adjacent := before.touches touches
    obtain ⟨n, literal, rfl⟩ := numberLiteral_eq_ok.mp reads
    cases op with
    | subtract => exact .minus sign number adjacent literal
    | add => exact .plus sign number adjacent literal
    | multiply => cases sum
    | divide => cases sum
  · cases reads

/-- The reader of expressions is sound on all lists that are short enough. -/
def SoundBelow (n : Nat) : Prop :=
  ∀ {ts rest : List Lexeme} {e : Expr}, ts.length < n → ts.IsChain Lexeme.Before →
    Yields (parseExpr ts) e rest → Reads Grammar.Sum ts e rest

section

variable {n : Nat} (sound : SoundBelow n)
include sound

theorem parseItems_sound {close : Bracket} {items : List Expr} (short : ts.length < n)
    (chain : ts.IsChain Lexeme.Before) (yields : Yields (parseItems close ts) items rest) :
    Reads Grammar.Items ts items rest := by
  induction size : ts.length using Nat.strongRecOn generalizing ts rest items with
  | ind size ih =>
    subst size
    rw [parseItems] at yields
    split at yields
    · obtain ⟨rfl, rfl⟩ := yields_ok.mp yields
      exact ⟨[], rfl, .nil⟩
    · rw [yields_bind] at yields
      obtain ⟨e, mid, shorter, expr, yields⟩ := yields
      obtain ⟨us, rfl, derived⟩ := sound short chain expr
      cases mid with
      | nil =>
        obtain ⟨rfl, rfl⟩ := yields_pure.mp yields
        exact ⟨us, rfl, .last derived⟩
      | cons t mid =>
        dsimp only at yields
        split at yields
        · next comma =>
          simp only [yields_bind, yields_pure] at yields
          obtain ⟨es, _, _, items, rfl, rfl⟩ := yields
          simp only [List.length_append, List.length_cons] at short ih
          have chain' := isChain_tail (isChain_rest chain)
          obtain ⟨vs, rfl, later⟩ := ih mid.length (by omega) (by omega) chain' items rfl
          exact ⟨us ++ t :: vs, by simp, .cons derived comma later⟩
        · obtain ⟨rfl, rfl⟩ := yields_pure.mp yields
          exact ⟨us, rfl, .last derived⟩

theorem parseEntries_sound {entries : List (Expr × Expr)} (short : ts.length < n)
    (chain : ts.IsChain Lexeme.Before) (yields : Yields (parseEntries ts) entries rest) :
    Reads Grammar.Entries ts entries rest := by
  induction size : ts.length using Nat.strongRecOn generalizing ts rest entries with
  | ind size ih =>
    subst size
    rw [parseEntries] at yields
    split at yields
    · obtain ⟨rfl, rfl⟩ := yields_ok.mp yields
      exact ⟨[], rfl, .nil⟩
    · simp only [yields_bind, yields_expect] at yields
      obtain ⟨key, _, _, keyed, t, mid, _, ⟨rfl, colon⟩, value, last, _, valued, yields⟩ := yields
      obtain ⟨us, rfl, derivedKey⟩ := sound short chain keyed
      simp only [List.length_append, List.length_cons] at short ih
      have chain' := isChain_tail (isChain_rest chain)
      obtain ⟨vs, rfl, derived⟩ := sound (by omega) chain' valued
      cases last with
      | nil =>
        obtain ⟨rfl, rfl⟩ := yields_pure.mp yields
        exact ⟨us ++ t :: vs, by simp, .last derivedKey colon derived⟩
      | cons u last =>
        dsimp only at yields
        split at yields
        · next comma =>
          simp only [yields_bind, yields_pure] at yields
          obtain ⟨es, _, _, entries, rfl, rfl⟩ := yields
          have chain'' := isChain_tail (isChain_rest chain')
          simp only [List.length_append, List.length_cons] at short ih
          obtain ⟨ws, rfl, later⟩ := ih last.length (by omega) (by omega) chain'' entries rfl
          exact ⟨us ++ t :: vs ++ u :: ws, by simp, .cons derivedKey colon derived comma later⟩
        · obtain ⟨rfl, rfl⟩ := yields_pure.mp yields
          exact ⟨us ++ t :: vs, by simp, .last derivedKey colon derived⟩

theorem parseAtom_sound {e : Expr} (short : ts.length ≤ n) (chain : ts.IsChain Lexeme.Before)
    (yields : Yields (parseAtom ts) e rest) : Reads Grammar.Atom ts e rest := by
  cases ts with
  | nil =>
    rw [parseAtom] at yields
    exact absurd yields not_yields_error
  | cons t mid =>
    have chain' := isChain_tail chain
    rw [List.length_cons] at short
    rw [parseAtom] at yields
    split at yields
    · next number =>
      simp only [yields_check, yields_pure] at yields
      obtain ⟨_, reads, rfl, rfl⟩ := yields
      obtain ⟨n, literal, rfl⟩ := numberLiteral_eq_ok.mp reads
      exact ⟨[t], rfl, .number number literal⟩
    · next string =>
      simp only [yields_check, yields_pure] at yields
      obtain ⟨_, reads, rfl, rfl⟩ := yields
      obtain ⟨s, literal, rfl⟩ := stringLiteral_eq_ok.mp reads
      exact ⟨[t], rfl, .string string literal⟩
    · next word =>
      obtain ⟨rfl, rfl⟩ := yields_ok.mp yields
      exact ⟨[t], rfl, .word (by simp [word, Token.value?])⟩
    · next word =>
      obtain ⟨rfl, rfl⟩ := yields_ok.mp yields
      exact ⟨[t], rfl, .word (by simp [word, Token.value?])⟩
    · next word =>
      obtain ⟨rfl, rfl⟩ := yields_ok.mp yields
      exact ⟨[t], rfl, .word (by simp [word, Token.value?])⟩
    · next op sign =>
      split at yields
      · exact absurd yields not_yields_stopAt
      · next sum =>
        rw [yields_bind] at yields
        obtain ⟨u, _, _, next, yields⟩ := yields
        simp only [yields_check, yields_pure] at yields
        obtain ⟨_, reads, rfl, rfl⟩ := yields
        obtain ⟨rfl, number⟩ := yields_expect.mp next
        have before := (List.isChain_cons_cons.mp chain).1
        exact ⟨[t, u], rfl, signedNumber_sound before sign (by simpa using sum) number reads⟩
    · next opens =>
      simp only [yields_bind, yields_pure, yields_expect] at yields
      obtain ⟨_, _, _, expr, u, _, _, ⟨rfl, closes⟩, rfl, rfl⟩ := yields
      obtain ⟨us, rfl, derived⟩ := sound (by omega) chain' expr
      exact ⟨t :: us ++ [u], by simp, .parens opens derived closes⟩
    · next opens =>
      simp only [yields_bind, yields_pure, yields_expect] at yields
      obtain ⟨_, _, _, items, u, _, _, ⟨rfl, closes⟩, rfl, rfl⟩ := yields
      obtain ⟨us, rfl, derived⟩ := parseItems_sound sound (by omega) chain' items
      exact ⟨t :: us ++ [u], by simp, .array opens derived closes⟩
    · next opens =>
      simp only [yields_bind, yields_pure, yields_expect] at yields
      obtain ⟨_, _, _, entries, u, _, _, ⟨rfl, closes⟩, rfl, rfl⟩ := yields
      obtain ⟨us, rfl, derived⟩ := parseEntries_sound sound (by omega) chain' entries
      exact ⟨t :: us ++ [u], by simp, .dict opens derived closes⟩
    · next name =>
      dsimp only at yields
      split at yields
      · obtain ⟨rfl, rfl⟩ := yields_ok.mp yields
        exact ⟨[t], rfl, .var name⟩
      · next p mid =>
        split at yields
        · next opens =>
          simp only [yields_bind, yields_pure, yields_expect] at yields
          obtain ⟨_, _, _, items, u, _, _, ⟨rfl, closes⟩, rfl, rfl⟩ := yields
          rw [List.length_cons] at short
          obtain ⟨us, rfl, derived⟩ := parseItems_sound sound (by omega) (isChain_tail chain') items
          exact ⟨t :: p :: us ++ [u], by simp, .call name opens derived closes⟩
        · obtain ⟨rfl, rfl⟩ := yields_ok.mp yields
          exact ⟨[t], rfl, .var name⟩
    · exact absurd yields not_yields_stopAt

/-- What is on the left has been read before. -/
theorem parseFactors_sound {us : List Lexeme} {left e : Expr} (short : ts.length ≤ n)
    (chain : ts.IsChain Lexeme.Before) (read : Grammar.Product us left)
    (yields : Yields (parseFactors left ts) e rest) :
    ∃ vs, ts = vs ++ rest ∧ Grammar.Product (us ++ vs) e := by
  induction size : ts.length using Nat.strongRecOn generalizing ts rest us left with
  | ind size ih =>
    subst size
    cases ts with
    | nil =>
      rw [parseFactors] at yields
      obtain ⟨rfl, rfl⟩ := yields_ok.mp yields
      exact ⟨[], rfl, by simpa using read⟩
    | cons t mid =>
      rw [parseFactors] at yields
      split at yields
      · obtain ⟨rfl, rfl⟩ := yields_ok.mp yields
        exact ⟨[], rfl, by simpa using read⟩
      · next op sign =>
        obtain ⟨sign, product⟩ := operator?_eq_some.mp sign
        simp only [yields_bind, yields_pure] at yields
        obtain ⟨right, mid', _, atom, _, _, _, factors, rfl, rfl⟩ := yields
        rw [List.length_cons] at short ih
        have chain' := isChain_tail chain
        obtain ⟨vs, rfl, derived⟩ := parseAtom_sound sound (by omega) chain' atom
        have further := Grammar.Product.binary read sign product derived
        rw [List.length_append] at short ih
        obtain ⟨ws, rfl, derived⟩ :=
          ih mid'.length (by omega) (by omega) (isChain_rest chain') further factors rfl
        exact ⟨t :: vs ++ ws, by simp, by simpa using derived⟩

theorem parseProduct_sound {e : Expr} (short : ts.length ≤ n) (chain : ts.IsChain Lexeme.Before)
    (yields : Yields (parseProduct ts) e rest) : Reads Grammar.Product ts e rest := by
  rw [parseProduct] at yields
  simp only [yields_bind, yields_pure] at yields
  obtain ⟨first, mid, shorter, atom, _, _, _, factors, rfl, rfl⟩ := yields
  obtain ⟨us, rfl, derived⟩ := parseAtom_sound sound short chain atom
  obtain ⟨vs, rfl, derived⟩ :=
    parseFactors_sound sound (by omega) (isChain_rest chain) (.atom derived) factors
  exact ⟨us ++ vs, by simp, derived⟩

theorem parseSums_sound {us : List Lexeme} {left e : Expr} (short : ts.length ≤ n)
    (chain : ts.IsChain Lexeme.Before) (read : Grammar.Sum us left)
    (yields : Yields (parseSums left ts) e rest) :
    ∃ vs, ts = vs ++ rest ∧ Grammar.Sum (us ++ vs) e := by
  induction size : ts.length using Nat.strongRecOn generalizing ts rest us left with
  | ind size ih =>
    subst size
    cases ts with
    | nil =>
      rw [parseSums] at yields
      obtain ⟨rfl, rfl⟩ := yields_ok.mp yields
      exact ⟨[], rfl, by simpa using read⟩
    | cons t mid =>
      rw [parseSums] at yields
      split at yields
      · obtain ⟨rfl, rfl⟩ := yields_ok.mp yields
        exact ⟨[], rfl, by simpa using read⟩
      · next op sign =>
        obtain ⟨sign, sum⟩ := operator?_eq_some.mp sign
        simp only [yields_bind, yields_pure] at yields
        obtain ⟨right, mid', _, product, _, _, _, sums, rfl, rfl⟩ := yields
        rw [List.length_cons] at short ih
        have chain' := isChain_tail chain
        obtain ⟨vs, rfl, derived⟩ := parseProduct_sound sound (by omega) chain' product
        have further := Grammar.Sum.binary read sign sum derived
        rw [List.length_append] at short ih
        obtain ⟨ws, rfl, derived⟩ :=
          ih mid'.length (by omega) (by omega) (isChain_rest chain') further sums rfl
        exact ⟨t :: vs ++ ws, by simp, by simpa using derived⟩

end

theorem soundBelow (n : Nat) : SoundBelow n := by
  induction n with
  | zero => exact fun short => absurd short (Nat.not_lt_zero _)
  | succ n ih =>
    intro ts rest e short chain yields
    rw [parseExpr] at yields
    simp only [yields_bind, yields_pure] at yields
    obtain ⟨first, mid, shorter, product, _, _, _, sums, rfl, rfl⟩ := yields
    obtain ⟨us, rfl, derived⟩ := parseProduct_sound ih (by omega) chain product
    obtain ⟨vs, rfl, derived⟩ :=
      parseSums_sound ih (by omega) (isChain_rest chain) (.product derived) sums
    exact ⟨us ++ vs, by simp, derived⟩

theorem parseExpr_sound {e : Expr} (chain : ts.IsChain Lexeme.Before)
    (yields : Yields (parseExpr ts) e rest) : Reads Grammar.Sum ts e rest :=
  soundBelow _ (Nat.lt_succ_self _) chain yields

/-! ## Statements -/

theorem parseAttributes_sound {attributes : List (Ident × Expr)}
    (chain : ts.IsChain Lexeme.Before) (yields : Yields (parseAttributes ts) attributes rest) :
    Reads Grammar.Attributes ts attributes rest := by
  induction size : ts.length using Nat.strongRecOn generalizing ts rest attributes with
  | ind size ih =>
    subst size
    rw [parseAttributes] at yields
    split at yields
    · obtain ⟨rfl, rfl⟩ := yields_ok.mp yields
      exact ⟨[], rfl, .nil⟩
    · simp only [yields_bind, yields_parseIdent, yields_expect] at yields
      obtain ⟨_, _, _, ⟨t, rfl, name, rfl⟩, u, mid, _, ⟨rfl, assign⟩, yields⟩ := yields
      obtain ⟨value, last, _, valued, yields⟩ := yields
      have chain' := isChain_tail (isChain_tail chain)
      obtain ⟨us, rfl, derived⟩ := parseExpr_sound chain' valued
      cases last with
      | nil =>
        obtain ⟨rfl, rfl⟩ := yields_pure.mp yields
        exact ⟨t :: u :: us, by simp, .last name assign derived⟩
      | cons v last =>
        dsimp only at yields
        split at yields
        · next comma =>
          simp only [yields_bind, yields_pure] at yields
          obtain ⟨later, _, _, attributes, rfl, rfl⟩ := yields
          have chain'' := isChain_tail (isChain_rest chain')
          simp only [List.length_append, List.length_cons] at ih
          obtain ⟨vs, rfl, derivedLater⟩ := ih last.length (by omega) chain'' attributes rfl
          exact ⟨t :: u :: us ++ v :: vs, by simp, .cons name assign derived comma derivedLater⟩
        · obtain ⟨rfl, rfl⟩ := yields_pure.mp yields
          exact ⟨t :: u :: us, by simp, .last name assign derived⟩

theorem parseHead_sound {attributes : List (Ident × Expr)} (chain : ts.IsChain Lexeme.Before)
    (yields : Yields (parseHead ts) attributes rest) : Reads Grammar.Head ts attributes rest := by
  unfold parseHead at yields
  split at yields
  · obtain ⟨rfl, rfl⟩ := yields_ok.mp yields
    exact ⟨[], rfl, .bare⟩
  · next t mid =>
    split at yields
    · next opens =>
      simp only [yields_bind, yields_pure, yields_expect] at yields
      obtain ⟨_, _, _, listed, u, _, _, ⟨rfl, closes⟩, rfl, rfl⟩ := yields
      obtain ⟨us, rfl, derived⟩ := parseAttributes_sound (isChain_tail chain) listed
      exact ⟨t :: us ++ [u], by simp, .listed opens derived closes⟩
    · obtain ⟨rfl, rfl⟩ := yields_ok.mp yields
      exact ⟨[], rfl, .bare⟩

variable {m : Markers}

/-- The end of the line is read with its parts. -/
theorem parseParts_sound {parts : List Part} (chain : ts.IsChain Lexeme.Before)
    (yields : Yields (parseParts m ts) parts rest) :
    ∃ us t, ts = us ++ t :: rest ∧ Grammar.Parts m us parts ∧ t.token = .newline := by
  induction size : ts.length using Nat.strongRecOn generalizing ts parts with
  | ind size ih =>
    subst size
    cases ts with
    | nil =>
      rw [parseParts] at yields
      exact absurd yields not_yields_error
    | cons t mid =>
      rw [List.length_cons] at ih
      have chain' := isChain_tail chain
      rw [parseParts] at yields
      split at yields
      · next text =>
        simp only [yields_bind, yields_pure] at yields
        obtain ⟨_, _, _, parts, rfl, rfl⟩ := yields
        obtain ⟨us, u, rfl, derived, newline⟩ := ih mid.length (by omega) chain' parts rfl
        exact ⟨t :: us, u, rfl, .text text derived, newline⟩
      · next opens =>
        simp only [yields_bind, yields_pure, yields_expect] at yields
        obtain ⟨_, _, _, expr, u, last, _, ⟨rfl, closes⟩, _, _, _, parts, rfl, rfl⟩ := yields
        obtain ⟨us, rfl, derived⟩ := parseExpr_sound chain' expr
        have chain'' := isChain_tail (isChain_rest chain')
        simp only [List.length_append, List.length_cons] at ih
        obtain ⟨vs, v, rfl, derivedLater, newline⟩ := ih last.length (by omega) chain'' parts rfl
        exact ⟨t :: us ++ u :: vs, v, by simp, .splice opens derived closes derivedLater, newline⟩
      · next newline =>
        obtain ⟨rfl, rfl⟩ := yields_ok.mp yields
        exact ⟨[], t, rfl, .nil, newline⟩
      · exact absurd yields not_yields_stopAt

/-- The reader of statements is sound on all lists that are short enough. -/
def LineSoundBelow (m : Markers) (n : Nat) : Prop :=
  ∀ {ts rest : List Lexeme} {s : Statement}, ts.length < n → ts.IsChain Lexeme.Before →
    Yields (parseStatement m ts) s rest → Reads (Grammar.Line m) ts s rest

theorem nextIs_of_parseBody_nil (yields : Yields (parseBody m ts) [] rest) :
    nextIs .dedent ts = true := by
  rw [parseBody] at yields
  split at yields
  · next dedent => exact dedent
  · simp only [yields_bind, yields_pure] at yields
    obtain ⟨_, _, _, _, _, _, _, _, eq, _⟩ := yields
    cases eq

section

variable {n : Nat} (sound : LineSoundBelow m n)
include sound

theorem parseBody_sound {body : List Statement} (short : ts.length < n)
    (chain : ts.IsChain Lexeme.Before) (yields : Yields (parseBody m ts) body rest) :
    Reads (Grammar.Lines m) ts body rest := by
  induction size : ts.length using Nat.strongRecOn generalizing ts body with
  | ind size ih =>
    subst size
    rw [parseBody] at yields
    split at yields
    · obtain ⟨rfl, rfl⟩ := yields_ok.mp yields
      exact ⟨[], rfl, .nil⟩
    · simp only [yields_bind, yields_pure] at yields
      obtain ⟨s, mid, shorter, statement, later, _, _, body, rfl, rfl⟩ := yields
      obtain ⟨us, rfl, derived⟩ := sound short chain statement
      obtain ⟨vs, rfl, derivedLater⟩ :=
        ih mid.length shorter (by omega) (isChain_rest chain) body rfl
      exact ⟨us ++ vs, by simp, .cons derived derivedLater⟩

theorem parseBlock_sound {body : List Statement} (short : ts.length ≤ n)
    (chain : ts.IsChain Lexeme.Before) (yields : Yields (parseBlock m ts) body rest) :
    Reads (Grammar.Block m) ts body rest := by
  rw [parseBlock] at yields
  simp only [yields_bind, yields_pure, yields_parseIndent, yields_expect] at yields
  obtain ⟨_, mid, _, ⟨t, u, v, rfl, colon, newline, indent⟩, yields⟩ := yields
  obtain ⟨body, _, _, lines, w, _, _, ⟨rfl, dedent⟩, rfl, rfl⟩ := yields
  have chain' := isChain_tail (isChain_tail chain)
  have said : body ≠ [] := by
    rintro rfl
    obtain ⟨x, xs, rfl, empty⟩ := nextIs_eq_true.mp (nextIs_of_parseBody_nil lines)
    exact (List.isChain_cons_cons.mp chain').1.2 indent empty
  simp only [List.length_cons] at short
  obtain ⟨us, rfl, derived⟩ := parseBody_sound sound (by omega) (isChain_tail chain') lines
  exact ⟨t :: u :: v :: us ++ [w], by simp, .mk colon newline indent derived said dedent⟩

theorem parseChoice_sound {s : Statement} (short : ts.length ≤ n)
    (chain : ts.IsChain Lexeme.Before) (yields : Yields (parseChoice m ts) s rest) :
    Reads (Grammar.Branches m) ts s rest := by
  induction size : ts.length using Nat.strongRecOn generalizing ts s with
  | ind size ih =>
    subst size
    rw [parseChoice] at yields
    simp only [yields_bind] at yields
    obtain ⟨condition, _, _, expr, body, mid, _, block, yields⟩ := yields
    obtain ⟨us, rfl, derived⟩ := parseExpr_sound chain expr
    simp only [List.length_append] at short ih
    obtain ⟨vs, rfl, derivedBlock⟩ := parseBlock_sound sound (by omega) (isChain_rest chain) block
    cases mid with
    | nil =>
      obtain ⟨rfl, rfl⟩ := yields_pure.mp yields
      exact ⟨us ++ vs, by simp, .alone derived derivedBlock⟩
    | cons t mid =>
      simp only [List.length_append, List.length_cons] at short ih
      have chain' := isChain_tail (isChain_rest (isChain_rest chain))
      dsimp only at yields
      split at yields
      · next elif =>
        simp only [yields_bind, yields_pure] at yields
        obtain ⟨s, _, _, choice, rfl, rfl⟩ := yields
        obtain ⟨ws, rfl, derivedNext⟩ := ih mid.length (by omega) (by omega) chain' choice rfl
        exact ⟨us ++ vs ++ t :: ws, by simp, .elif derived derivedBlock elif derivedNext⟩
      · split at yields
        · next otherwise =>
          simp only [yields_bind, yields_pure] at yields
          obtain ⟨other, _, _, block', rfl, rfl⟩ := yields
          obtain ⟨ws, rfl, derivedOther⟩ := parseBlock_sound sound (by omega) chain' block'
          exact ⟨us ++ vs ++ t :: ws, by simp,
            .otherwise derived derivedBlock otherwise derivedOther⟩
        · obtain ⟨rfl, rfl⟩ := yields_pure.mp yields
          exact ⟨us ++ vs, by simp, .alone derived derivedBlock⟩

end

theorem lineSoundBelow (n : Nat) : LineSoundBelow m n := by
  induction n with
  | zero => exact fun short => absurd short (Nat.not_lt_zero _)
  | succ n ih =>
    intro ts rest s short chain yields
    cases ts with
    | nil =>
      rw [parseStatement] at yields
      exact absurd yields not_yields_error
    | cons t mid =>
      rw [List.length_cons] at short
      have chain' := isChain_tail chain
      rw [parseStatement] at yields
      split at yields
      · next keyword =>
        simp only [parseAssign, yields_bind, yields_pure, yields_parseIdent,
          yields_expect] at yields
        obtain ⟨_, _, _, ⟨_, _, _, ⟨u, rfl, name, rfl⟩, v, _, _, ⟨rfl, assign⟩, yields⟩,
          rfl, rfl⟩ := yields
        obtain ⟨e, _, _, expr, w, _, _, ⟨rfl, newline⟩, rfl, rfl⟩ := yields
        obtain ⟨us, rfl, derived⟩ := parseExpr_sound (isChain_tail (isChain_tail chain')) expr
        exact ⟨t :: u :: v :: us ++ [w], by simp, .assign keyword name assign derived newline⟩
      · next keyword =>
        simp only [yields_bind, yields_pure] at yields
        obtain ⟨s, _, _, choice, rfl, rfl⟩ := yields
        obtain ⟨us, rfl, derived⟩ := parseChoice_sound ih (by omega) chain' choice
        exact ⟨t :: us, rfl, .choice keyword derived⟩
      · next keyword =>
        simp only [yields_bind, yields_pure, yields_parseIdent, yields_expect] at yields
        obtain ⟨_, _, _, ⟨u, rfl, name, rfl⟩, v, _, _, ⟨rfl, inside⟩, yields⟩ := yields
        obtain ⟨e, _, _, expr, body, _, _, block, rfl, rfl⟩ := yields
        have chain'' := isChain_tail (isChain_tail chain')
        obtain ⟨us, rfl, derived⟩ := parseExpr_sound chain'' expr
        simp only [List.length_append, List.length_cons] at short
        obtain ⟨vs, rfl, derivedBody⟩ := parseBlock_sound ih (by omega) (isChain_rest chain'') block
        exact ⟨t :: u :: v :: us ++ vs, by simp, .loop keyword name inside derived derivedBody⟩
      · next name =>
        rw [yields_bind] at yields
        obtain ⟨attributes, mid, _, head, yields⟩ := yields
        obtain ⟨us, rfl, derived⟩ := parseHead_sound chain' head
        dsimp only at yields
        split at yields
        · simp only [yields_bind, yields_pure] at yields
          obtain ⟨body, _, _, block, rfl, rfl⟩ := yields
          rw [List.length_append] at short
          obtain ⟨vs, rfl, derivedBody⟩ :=
            parseBlock_sound ih (by omega) (isChain_rest chain') block
          exact ⟨t :: us ++ vs, by simp, .tag name derived derivedBody⟩
        · simp only [yields_bind, yields_pure, yields_expect] at yields
          obtain ⟨u, _, _, ⟨rfl, newline⟩, rfl, rfl⟩ := yields
          exact ⟨t :: us ++ [u], by simp, .emptyTag name derived newline⟩
      · next marker =>
        simp only [parseText, yields_bind, yields_pure] at yields
        obtain ⟨_, _, _, ⟨parts, _, _, line, yields⟩, rfl, rfl⟩ := yields
        obtain ⟨us, u, rfl, derived, newline⟩ := parseParts_sound chain' line
        split at yields
        · exact absurd yields not_yields_stopAt
        · next said =>
          obtain ⟨rfl, rfl⟩ := yields_pure.mp yields
          exact ⟨t :: us ++ [u], by simp, .text marker derived said newline⟩
      · exact absurd yields not_yields_stopAt
      · exact absurd yields not_yields_stopAt
      · exact absurd yields not_yields_stopAt
      · exact absurd yields not_yields_stopAt

theorem parseStatement_sound {s : Statement} (chain : ts.IsChain Lexeme.Before)
    (yields : Yields (parseStatement m ts) s rest) : Reads (Grammar.Line m) ts s rest :=
  lineSoundBelow _ (Nat.lt_succ_self _) chain yields

/-- All lexemes are read. -/
theorem parseStatements_sound {ss : List Statement} (chain : ts.IsChain Lexeme.Before)
    (reads : parseStatements m ts = .ok ss) : Grammar.Lines m ts ss := by
  induction size : ts.length using Nat.strongRecOn generalizing ts ss with
  | ind size ih =>
    subst size
    cases ts with
    | nil =>
      rw [parseStatements] at reads
      cases reads
      exact .nil
    | cons t mid =>
      rw [parseStatements] at reads
      obtain ⟨⟨s, rest, shorter⟩, statement, reads⟩ := bind_eq_ok.mp reads
      obtain ⟨later, statements, eq⟩ := bind_eq_ok.mp reads
      cases eq
      obtain ⟨us, whole, derived⟩ := parseStatement_sound chain ⟨shorter, statement⟩
      rw [whole] at chain ⊢
      exact .cons derived (ih rest.length shorter (isChain_rest chain) statements rfl)

end HtmlTemplate
