import HtmlTemplate.Proofs.Grammar.Basic
import HtmlTemplate.Proofs.Grammar.Readers

/-!
# Completeness of the parser

Each reader finds the tree of a derivation, provided that the lexeme behind it does not belong to
it:
an atom is not followed by an opening parenthesis, a product not by its operators, and so on. The
lexemes that begin a tree tell it from the end of the list or block it stands in.
-/

namespace HtmlTemplate

/-- The first lexeme, if there is one, has a token of some kind. -/
def Stops (kind : Token → Bool) (rest : List Lexeme) : Prop :=
  ∀ t ∈ rest.head?, kind t.token = true

/-- The first lexeme is there and has a token of some kind. -/
def Starts (kind : Token → Bool) (ts : List Lexeme) : Prop :=
  ∃ t us, ts = t :: us ∧ kind t.token = true

namespace Token

def endsAtom : Token → Bool
  | .opening .round => false
  | _ => true

def endsProduct : Token → Bool
  | .opening .round => false
  | .operator op => !op.isProduct
  | _ => true

def endsSum : Token → Bool
  | .opening .round | .operator _ => false
  | _ => true

def startsAtom : Token → Bool
  | .number | .string | .identifier | .trueWord | .falseWord | .noneWord | .opening _ => true
  | .operator op => !op.isProduct
  | _ => false

def endsChoice : Token → Bool
  | .keyword .elifKw | .keyword .elseKw => false
  | _ => true

def startsLine : Token → Bool
  | .keyword .varKw | .keyword .ifKw | .keyword .forKw | .identifier | .marker => true
  | _ => false

end Token

section

variable {kind : Token → Bool} {token : Token} {t : Lexeme} {ts us rest : List Lexeme}

theorem stops_cons (is : t.token = token) (stops : kind token = true) : Stops kind (t :: rest) := by
  rintro _ ⟨⟩
  rw [is]
  exact stops

theorem Stops.mono {kind' : Token → Bool} (stops : Stops kind rest)
    (weaker : ∀ token, kind token = true → kind' token = true) : Stops kind' rest :=
  fun t first => weaker _ (stops t first)

theorem starts_cons (is : t.token = token) (starts : kind token = true) :
    Starts kind (t :: rest) := ⟨t, rest, rfl, is ▸ starts⟩

theorem Starts.append (starts : Starts kind ts) : Starts kind (ts ++ us) := by
  obtain ⟨t, rest, rfl, is⟩ := starts
  exact ⟨t, rest ++ us, rfl, is⟩

theorem Starts.stops {kind' : Token → Bool} (starts : Starts kind ts)
    (weaker : ∀ token, kind token = true → kind' token = true) : Stops kind' ts := by
  obtain ⟨t, rest, rfl, is⟩ := starts
  exact stops_cons rfl (weaker _ is)

theorem Starts.nextIs (starts : Starts kind ts) (other : kind token = false) :
    nextIs token ts = false := by
  obtain ⟨t, rest, rfl, is⟩ := starts
  rw [Bool.eq_false_iff]
  intro next
  obtain ⟨_, _, ⟨⟩, same⟩ := nextIs_eq_true.mp next
  rw [same, other] at is
  cases is

theorem Token.endsProduct_of_endsSum (token : Token) (ends : token.endsSum = true) :
    token.endsProduct = true := by
  unfold endsSum at ends
  unfold endsProduct
  split at ends <;> simp_all

theorem Token.endsAtom_of_endsProduct (token : Token) (ends : token.endsProduct = true) :
    token.endsAtom = true := by
  unfold endsProduct at ends
  unfold endsAtom
  split at ends <;> simp_all

end

/-! ## Expressions -/

section

variable {rest : List Lexeme} {e : Expr}

theorem yields_parseFactors_of_stops (stops : Stops Token.endsProduct rest) :
    Yields (parseFactors e rest) e rest := by
  cases rest with
  | nil =>
    rw [parseFactors]
    exact yields_ok.mpr ⟨rfl, rfl⟩
  | cons t rest =>
    have ends := stops t rfl
    rw [parseFactors]
    split
    · exact yields_ok.mpr ⟨rfl, rfl⟩
    · next op sign =>
      obtain ⟨sign, product⟩ := operator?_eq_some.mp sign
      simp [sign, Token.endsProduct, product] at ends

theorem yields_parseSums_of_stops (stops : Stops Token.endsSum rest) :
    Yields (parseSums e rest) e rest := by
  cases rest with
  | nil =>
    rw [parseSums]
    exact yields_ok.mpr ⟨rfl, rfl⟩
  | cons t rest =>
    have ends := stops t rfl
    rw [parseSums]
    split
    · exact yields_ok.mpr ⟨rfl, rfl⟩
    · next op sign =>
      obtain ⟨sign, sum⟩ := operator?_eq_some.mp sign
      simp [sign, Token.endsSum] at ends

end

namespace Grammar

theorem Atom.starts {ts : List Lexeme} {e : Expr} (derived : Atom ts e) :
    Starts Token.startsAtom ts := by
  cases derived with
  | number number => exact starts_cons number rfl
  | plus sign => exact starts_cons sign rfl
  | minus sign => exact starts_cons sign rfl
  | string string => exact starts_cons string rfl
  | @word t v value =>
    refine starts_cons rfl ?_
    cases word : t.token <;> rw [word] at value <;> first | rfl | cases value
  | parens opens => exact starts_cons opens rfl
  | array opens => exact starts_cons opens rfl
  | dict opens => exact starts_cons opens rfl
  | var name => exact starts_cons name rfl
  | call name => exact starts_cons name rfl

theorem Product.starts : ∀ {ts e}, Product ts e → Starts Token.startsAtom ts
  | _, _, .atom derived => derived.starts
  | _, _, .binary left _ _ _ => left.starts.append

theorem Sum.starts : ∀ {ts e}, Sum ts e → Starts Token.startsAtom ts
  | _, _, .product derived => derived.starts
  | _, _, .binary left _ _ _ => left.starts.append

theorem Sum.not_closes {ts : List Lexeme} {e : Expr} (derived : Sum ts e) (close : Bracket)
    (rest : List Lexeme) : ¬ nextIs (.closing close) (ts ++ rest) = true := by
  rw [derived.starts.append.nextIs rfl]
  exact Bool.false_ne_true

theorem signedNumber_plus {t u : Lexeme} {n : Number} (adjacent : t.region.stop = u.region.start)
    (reads : NumberLiteral.read? u.chars = some n) :
    signedNumber t .add u = .ok (.literal (.number n) (t.region.join u.region)) := by
  have touches : t.region.touches u.region = true := by simp [Region.touches, adjacent]
  unfold signedNumber
  rw [if_pos touches]
  exact numberLiteral_eq_ok.mpr ⟨n, reads, rfl⟩

theorem signedNumber_minus {t u : Lexeme} {n : Number} (adjacent : t.region.stop = u.region.start)
    (reads : NumberLiteral.read? ('-' :: u.chars) = some n) :
    signedNumber t .subtract u = .ok (.literal (.number n) (t.region.join u.region)) := by
  have touches : t.region.touches u.region = true := by simp [Region.touches, adjacent]
  unfold signedNumber
  rw [if_pos touches]
  exact numberLiteral_eq_ok.mpr ⟨n, reads, rfl⟩

mutual

/-- What stands behind a sum is read as if the sum were all that is on its left. -/
theorem Sum.yields : ∀ {us e}, Sum us e → ∀ (rest) {v r}, Stops Token.endsProduct rest →
    Yields (parseSums e rest) v r → Yields (parseExpr (us ++ rest)) v r
  | _, _, .product derived, rest, v, r, stops, sums => by
    have product := derived.yields rest (stops.mono Token.endsAtom_of_endsProduct)
      (yields_parseFactors_of_stops stops)
    rw [parseExpr]
    exact product.bind (sums.bind (yields_pure.mpr ⟨rfl, rfl⟩))
  | _, _, .binary left sign sum right, rest, v, r, stops, sums => by
    have found := operator?_eq_some.mpr ⟨sign, sum⟩
    have product := right.yields rest (stops.mono Token.endsAtom_of_endsProduct)
      (yields_parseFactors_of_stops stops)
    rw [List.append_assoc, List.cons_append]
    refine left.yields _ (stops_cons sign (by simp [Token.endsProduct, sum])) ?_
    rw [parseSums]
    simp only [found]
    exact product.bind (sums.bind (yields_pure.mpr ⟨rfl, rfl⟩))

theorem Product.yields : ∀ {us e}, Product us e → ∀ (rest) {v r}, Stops Token.endsAtom rest →
    Yields (parseFactors e rest) v r → Yields (parseProduct (us ++ rest)) v r
  | _, _, .atom derived, rest, v, r, stops, factors => by
    rw [parseProduct]
    exact (derived.yields rest stops).bind (factors.bind (yields_pure.mpr ⟨rfl, rfl⟩))
  | _, _, .binary left sign product right, rest, v, r, stops, factors => by
    have found := operator?_eq_some.mpr ⟨sign, product⟩
    rw [List.append_assoc, List.cons_append]
    refine left.yields _ (stops_cons sign rfl) ?_
    rw [parseFactors]
    simp only [found]
    exact (right.yields rest stops).bind (factors.bind (yields_pure.mpr ⟨rfl, rfl⟩))

theorem Atom.yields : ∀ {us e}, Atom us e → ∀ (rest), Stops Token.endsAtom rest →
    Yields (parseAtom (us ++ rest)) e rest
  | _, _, .number number reads, rest, _ => by
    rw [List.singleton_append, parseAtom]
    simp only [number]
    exact yields_check.mpr ⟨_, numberLiteral_eq_ok.mpr ⟨_, reads, rfl⟩, yields_pure.mpr ⟨rfl, rfl⟩⟩
  | _, _, .plus sign number adjacent reads, rest, _ => by
    rw [List.cons_append, parseAtom]
    simp only [sign]
    refine (expect_yields number).bind ?_
    exact yields_check.mpr ⟨_, signedNumber_plus adjacent reads, yields_pure.mpr ⟨rfl, rfl⟩⟩
  | _, _, .minus sign number adjacent reads, rest, _ => by
    rw [List.cons_append, parseAtom]
    simp only [sign]
    refine (expect_yields number).bind ?_
    exact yields_check.mpr ⟨_, signedNumber_minus adjacent reads, yields_pure.mpr ⟨rfl, rfl⟩⟩
  | _, _, .string string reads, rest, _ => by
    rw [List.singleton_append, parseAtom]
    simp only [string]
    exact yields_check.mpr ⟨_, stringLiteral_eq_ok.mpr ⟨_, reads, rfl⟩, yields_pure.mpr ⟨rfl, rfl⟩⟩
  | _, _, @Atom.word t _ value, rest, _ => by
    rw [List.singleton_append, parseAtom]
    cases word : t.token <;> rw [word] at value <;> cases value
    all_goals exact yields_ok.mpr ⟨rfl, rfl⟩
  | _, _, @Atom.parens _ u _ _ opens derived closes, rest, _ => by
    have expr := derived.yields (u :: rest) (stops_cons closes rfl)
      (yields_parseSums_of_stops (stops_cons closes rfl))
    rw [List.cons_append, List.cons_append, List.append_assoc, List.singleton_append, parseAtom]
    simp only [opens]
    exact expr.bind ((expect_yields closes).bind (yields_pure.mpr ⟨rfl, rfl⟩))
  | _, _, .array opens derived closes, rest, _ => by
    have items := derived.yields rest closes
    rw [List.cons_append, List.cons_append, List.append_assoc, List.singleton_append, parseAtom]
    simp only [opens]
    exact items.bind ((expect_yields closes).bind (yields_pure.mpr ⟨rfl, rfl⟩))
  | _, _, .dict opens derived closes, rest, _ => by
    have entries := derived.yields rest closes
    rw [List.cons_append, List.cons_append, List.append_assoc, List.singleton_append, parseAtom]
    simp only [opens]
    exact entries.bind ((expect_yields closes).bind (yields_pure.mpr ⟨rfl, rfl⟩))
  | _, _, .var name, [], _ => by
    rw [List.append_nil, parseAtom]
    simp only [name]
    exact yields_ok.mpr ⟨rfl, rfl⟩
  | _, _, .var name, u :: rest, stops => by
    have noCall : u.token ≠ .opening .round := by
      intro opens
      have ends := stops u rfl
      rw [opens] at ends
      cases ends
    rw [List.singleton_append, parseAtom]
    simp only [name, if_neg noCall]
    exact yields_ok.mpr ⟨rfl, rfl⟩
  | _, _, .call name opens derived closes, rest, _ => by
    have items := derived.yields rest closes
    rw [List.cons_append, List.cons_append, List.cons_append, List.cons_append, List.append_assoc,
      List.singleton_append, parseAtom]
    simp only [name, if_pos opens]
    exact items.bind ((expect_yields closes).bind (yields_pure.mpr ⟨rfl, rfl⟩))

theorem Items.yields : ∀ {us items}, Items us items → ∀ {close t} (rest), t.token = .closing close →
    Yields (parseItems close (us ++ t :: rest)) items (t :: rest)
  | _, _, .nil, close, t, rest, closes => by
    rw [List.nil_append, parseItems, if_pos (nextIs_eq_true.mpr ⟨t, rest, rfl, closes⟩)]
    exact yields_ok.mpr ⟨rfl, rfl⟩
  | _, _, .last derived, close, t, rest, closes => by
    have expr := derived.yields (t :: rest) (stops_cons closes rfl)
      (yields_parseSums_of_stops (stops_cons closes rfl))
    have noComma : t.token ≠ .comma := by simp [closes]
    rw [parseItems, if_neg (derived.not_closes close _)]
    refine expr.bind ?_
    simp only [if_neg noComma]
    exact yields_pure.mpr ⟨rfl, rfl⟩
  | _, _, @Items.cons _ us u _ _ derived comma later, close, t, rest, closes => by
    have expr := derived.yields (u :: (us ++ t :: rest)) (stops_cons comma rfl)
      (yields_parseSums_of_stops (stops_cons comma rfl))
    rw [List.append_assoc, List.cons_append, parseItems, if_neg (derived.not_closes close _)]
    refine expr.bind ?_
    simp only [if_pos comma]
    exact (later.yields _ closes).bind (yields_pure.mpr ⟨rfl, rfl⟩)

theorem Entries.yields : ∀ {us entries}, Entries us entries → ∀ {t} (rest),
    t.token = .closing .curly → Yields (parseEntries (us ++ t :: rest)) entries (t :: rest)
  | _, _, .nil, t, rest, closes => by
    rw [List.nil_append, parseEntries, if_pos (nextIs_eq_true.mpr ⟨t, rest, rfl, closes⟩)]
    exact yields_ok.mpr ⟨rfl, rfl⟩
  | _, _, @Entries.last _ us u _ _ derivedKey colon derived, t, rest, closes => by
    have key := derivedKey.yields (u :: (us ++ t :: rest)) (stops_cons colon rfl)
      (yields_parseSums_of_stops (stops_cons colon rfl))
    have value := derived.yields (t :: rest) (stops_cons closes rfl)
      (yields_parseSums_of_stops (stops_cons closes rfl))
    have noComma : t.token ≠ .comma := by simp [closes]
    rw [List.append_assoc, List.cons_append, parseEntries, if_neg (derivedKey.not_closes .curly _)]
    refine key.bind ((expect_yields colon).bind (value.bind ?_))
    simp only [if_neg noComma]
    exact yields_pure.mpr ⟨rfl, rfl⟩
  | _, _, @Entries.cons _ us vs u v _ _ _ derivedKey colon derived comma later,
      t, rest, closes => by
    have key := derivedKey.yields (u :: (us ++ v :: (vs ++ t :: rest)))
      (stops_cons colon rfl) (yields_parseSums_of_stops (stops_cons colon rfl))
    have value := derived.yields (v :: (vs ++ t :: rest)) (stops_cons comma rfl)
      (yields_parseSums_of_stops (stops_cons comma rfl))
    rw [List.append_assoc, List.append_assoc, List.cons_append, List.cons_append, parseEntries,
      if_neg (derivedKey.not_closes .curly _)]
    refine key.bind ((expect_yields colon).bind (value.bind ?_))
    simp only [if_pos comma]
    exact (later.yields _ closes).bind (yields_pure.mpr ⟨rfl, rfl⟩)

end

/-- An expression is read if what stands behind it belongs to no expression. -/
theorem Sum.parseExpr {us : List Lexeme} {e : Expr} (derived : Sum us e) (rest : List Lexeme)
    (stops : Stops Token.endsSum rest) : Yields (parseExpr (us ++ rest)) e rest :=
  derived.yields rest (stops.mono Token.endsProduct_of_endsSum) (yields_parseSums_of_stops stops)

/-! ## Statements -/

theorem Attributes.yields {us : List Lexeme} {t : Lexeme} {attributes : List (Ident × Expr)}
    (derived : Attributes us attributes) (rest : List Lexeme) (closes : t.token = .closing .round) :
    Yields (parseAttributes (us ++ t :: rest)) attributes (t :: rest) := by
  have noComma : t.token ≠ .comma := by simp [closes]
  have goesOn {u : Lexeme} (name : u.token = .identifier) (ts : List Lexeme) :
      ¬ nextIs (.closing .round) (u :: ts) = true := by
    simp [nextIs, name]
  induction derived with
  | nil =>
    rw [List.nil_append, parseAttributes, if_pos (nextIs_eq_true.mpr ⟨t, rest, rfl, closes⟩)]
    exact yields_ok.mpr ⟨rfl, rfl⟩
  | last name assign derived =>
    have value := derived.parseExpr (t :: rest) (stops_cons closes rfl)
    rw [List.cons_append, List.cons_append, parseAttributes, if_neg (goesOn name _)]
    refine (parseIdent_yields name).bind ((expect_yields assign).bind (value.bind ?_))
    simp only [if_neg noComma]
    exact yields_pure.mpr ⟨rfl, rfl⟩
  | @cons ts us u v w e later name assign derived comma _ ih =>
    have value := derived.parseExpr (w :: (us ++ t :: rest)) (stops_cons comma rfl)
    rw [List.append_assoc, List.cons_append, List.cons_append, List.cons_append, parseAttributes,
      if_neg (goesOn name _)]
    refine (parseIdent_yields name).bind ((expect_yields assign).bind (value.bind ?_))
    simp only [if_pos comma]
    exact ih.bind (yields_pure.mpr ⟨rfl, rfl⟩)

theorem Head.yields {us : List Lexeme} {attributes : List (Ident × Expr)}
    (derived : Head us attributes) (rest : List Lexeme) (stops : Stops Token.endsAtom rest) :
    Yields (parseHead (us ++ rest)) attributes rest := by
  cases derived with
  | bare =>
    cases rest with
    | nil => exact yields_ok.mpr ⟨rfl, rfl⟩
    | cons t rest =>
      have noList : t.token ≠ .opening .round := by
        intro opens
        have ends := stops t rfl
        rw [opens] at ends
        cases ends
      rw [List.nil_append, parseHead, if_neg noList]
      exact yields_ok.mpr ⟨rfl, rfl⟩
  | listed opens derived closes =>
    rw [List.cons_append, List.cons_append, List.append_assoc, List.singleton_append, parseHead,
      if_pos opens]
    exact (derived.yields _ closes).bind ((expect_yields closes).bind (yields_pure.mpr ⟨rfl, rfl⟩))

variable {m : Markers}

theorem Parts.yields {us : List Lexeme} {t : Lexeme} {parts : List Part}
    (derived : Parts m us parts) (rest : List Lexeme) (newline : t.token = .newline) :
    Yields (parseParts m (us ++ t :: rest)) parts rest := by
  induction derived with
  | nil =>
    rw [List.nil_append, parseParts]
    simp only [newline]
    exact yields_ok.mpr ⟨rfl, rfl⟩
  | text text _ ih =>
    rw [List.cons_append, parseParts]
    simp only [text]
    exact ih.bind (yields_pure.mpr ⟨rfl, rfl⟩)
  | @splice ts us v w e parts opens derived closes _ ih =>
    have expr := derived.parseExpr (w :: (us ++ t :: rest)) (stops_cons closes rfl)
    rw [List.append_assoc, List.cons_append, List.cons_append, parseParts]
    simp only [opens]
    exact expr.bind ((expect_yields closes).bind (ih.bind (yields_pure.mpr ⟨rfl, rfl⟩)))

theorem Line.starts {us : List Lexeme} {s : Statement} (derived : Line m us s) :
    Starts Token.startsLine us := by
  cases derived with
  | assign keyword => exact starts_cons keyword rfl
  | text marker => exact starts_cons marker rfl
  | choice keyword => exact starts_cons keyword rfl
  | loop keyword => exact starts_cons keyword rfl
  | tag name => exact starts_cons name rfl
  | emptyTag name => exact starts_cons name rfl

theorem endsChoice_of_startsLine (token : Token) (starts : token.startsLine = true) :
    token.endsChoice = true := by
  unfold Token.startsLine at starts
  unfold Token.endsChoice
  split at starts <;> simp_all

theorem Lines.stops {us rest : List Lexeme} {ss : List Statement} (derived : Lines m us ss)
    (stops : Stops Token.endsChoice rest) : Stops Token.endsChoice (us ++ rest) := by
  cases derived with
  | nil => exact stops
  | cons line => exact line.starts.append.append.stops endsChoice_of_startsLine

theorem Block.starts {us : List Lexeme} {body : List Statement} (derived : Block m us body) :
    ∃ t vs, us = t :: vs ∧ t.token = .colon := by
  cases derived with
  | mk colon => exact ⟨_, _, rfl, colon⟩

mutual

theorem Line.yields : ∀ {us s}, Line m us s → ∀ (rest), Stops Token.endsChoice rest →
    Yields (parseStatement m (us ++ rest)) s rest
  | _, _, @Line.assign _ _ _ _ _ w _ keyword name assign derived newline, rest, _ => by
    have value := derived.parseExpr (w :: rest) (stops_cons newline rfl)
    rw [List.cons_append, List.cons_append, List.cons_append, List.cons_append, List.cons_append,
      List.cons_append, List.append_assoc, List.singleton_append, parseStatement]
    simp only [keyword]
    refine Yields.bind ?_ (yields_pure.mpr ⟨rfl, rfl⟩)
    refine (parseIdent_yields name).bind ((expect_yields assign).bind (value.bind ?_))
    exact (expect_yields newline).bind (yields_pure.mpr ⟨rfl, rfl⟩)
  | _, _, @Line.text _ _ _ _ parts marker derived said newline, rest, _ => by
    have line := derived.yields rest newline
    rw [List.cons_append, List.cons_append, List.append_assoc, List.singleton_append,
      parseStatement]
    simp only [marker]
    refine Yields.bind ?_ (yields_pure.mpr ⟨rfl, rfl⟩)
    refine line.bind ?_
    cases parts with
    | nil => exact absurd rfl said
    | cons part parts => exact yields_pure.mpr ⟨rfl, rfl⟩
  | _, _, .choice keyword derived, rest, stops => by
    have choice := derived.yields rest stops
    rw [List.cons_append, parseStatement]
    simp only [keyword]
    exact choice.bind (yields_pure.mpr ⟨rfl, rfl⟩)
  | _, _, .loop keyword name inside derived body, rest, _ => by
    have block := body.yields rest
    obtain ⟨w, vs, rfl, colon⟩ := body.starts
    have value := derived.parseExpr (w :: (vs ++ rest)) (stops_cons colon rfl)
    rw [List.append_assoc, List.cons_append, List.cons_append, List.cons_append, List.cons_append,
      parseStatement]
    simp only [keyword]
    refine (parseIdent_yields name).bind ((expect_yields inside).bind (value.bind ?_))
    exact block.bind (yields_pure.mpr ⟨rfl, rfl⟩)
  | _, _, .tag name derived body, rest, _ => by
    have block := body.yields rest
    obtain ⟨w, vs, rfl, colon⟩ := body.starts
    have head := derived.yields (w :: (vs ++ rest)) (stops_cons colon rfl)
    rw [List.append_assoc, List.cons_append, List.cons_append, parseStatement]
    simp only [name]
    refine head.bind ?_
    simp only [nextIs_eq_true.mpr ⟨w, vs ++ rest, rfl, colon⟩, if_true]
    exact block.bind (yields_pure.mpr ⟨rfl, rfl⟩)
  | _, _, @Line.emptyTag _ _ _ u _ name derived newline, rest, _ => by
    have head := derived.yields (u :: rest) (stops_cons newline rfl)
    have noBody : nextIs .colon (u :: rest) = false := by simp [nextIs, newline]
    rw [List.cons_append, List.cons_append, List.append_assoc, List.singleton_append,
      parseStatement]
    simp only [name]
    refine head.bind ?_
    simp only [noBody, Bool.false_eq_true, if_false]
    exact (expect_yields newline).bind (yields_pure.mpr ⟨rfl, rfl⟩)

theorem Branches.yields : ∀ {us s}, Branches m us s → ∀ (rest), Stops Token.endsChoice rest →
    Yields (parseChoice m (us ++ rest)) s rest
  | _, _, .alone derived body, rest, stops => by
    have block := body.yields rest
    obtain ⟨w, vs, rfl, colon⟩ := body.starts
    have condition := derived.parseExpr (w :: (vs ++ rest)) (stops_cons colon rfl)
    rw [List.append_assoc, List.cons_append, parseChoice]
    refine condition.bind (block.bind ?_)
    cases rest with
    | nil => exact yields_pure.mpr ⟨rfl, rfl⟩
    | cons t rest =>
      have ends := stops t rfl
      have noElif : t.token ≠ .keyword .elifKw := by
        intro is
        rw [is] at ends
        cases ends
      have noElse : t.token ≠ .keyword .elseKw := by
        intro is
        rw [is] at ends
        cases ends
      simp only [if_neg noElif, if_neg noElse]
      exact yields_pure.mpr ⟨rfl, rfl⟩
  | _, _, @Branches.elif _ _ _ us t _ _ _ derived body elif next, rest, stops => by
    have block := body.yields (t :: (us ++ rest))
    obtain ⟨w, vs, rfl, colon⟩ := body.starts
    have condition := derived.parseExpr (w :: (vs ++ t :: (us ++ rest)))
      (stops_cons colon rfl)
    rw [List.append_assoc, List.append_assoc, List.cons_append, List.cons_append, parseChoice]
    refine condition.bind (block.bind ?_)
    simp only [if_pos elif]
    exact (next.yields _ stops).bind (yields_pure.mpr ⟨rfl, rfl⟩)
  | _, _, @Branches.otherwise _ _ _ us t _ _ _ derived body otherwise other, rest, _ => by
    have block := body.yields (t :: (us ++ rest))
    obtain ⟨w, vs, rfl, colon⟩ := body.starts
    have condition := derived.parseExpr (w :: (vs ++ t :: (us ++ rest)))
      (stops_cons colon rfl)
    have noElif : t.token ≠ .keyword .elifKw := by simp [otherwise]
    rw [List.append_assoc, List.append_assoc, List.cons_append, List.cons_append, parseChoice]
    refine condition.bind (block.bind ?_)
    simp only [if_neg noElif, if_pos otherwise]
    exact (other.yields _).bind (yields_pure.mpr ⟨rfl, rfl⟩)

theorem Block.yields : ∀ {us body}, Block m us body → ∀ (rest),
    Yields (parseBlock m (us ++ rest)) body rest
  | _, _, @Block.mk _ ts _ _ _ w _ colon newline indent derived _ dedent, rest => by
    rw [List.cons_append, List.cons_append, List.cons_append, List.cons_append, List.cons_append,
      List.cons_append, List.append_assoc, List.singleton_append, parseBlock]
    refine (parseIndent_yields colon newline indent).bind ?_
    refine (derived.yields _ dedent).bind ?_
    exact (expect_yields dedent).bind (yields_pure.mpr ⟨rfl, rfl⟩)

theorem Lines.yields : ∀ {us body}, Lines m us body → ∀ {t} (rest), t.token = .dedent →
    Yields (parseBody m (us ++ t :: rest)) body (t :: rest)
  | _, _, .nil, t, rest, dedent => by
    rw [List.nil_append, parseBody, if_pos (nextIs_eq_true.mpr ⟨t, rest, rfl, dedent⟩)]
    exact yields_ok.mpr ⟨rfl, rfl⟩
  | _, _, @Lines.cons _ ts us _ _ derived later, t, rest, dedent => by
    have goesOn : ¬ nextIs .dedent (ts ++ (us ++ t :: rest)) = true := by
      rw [derived.starts.append.nextIs rfl]
      exact Bool.false_ne_true
    have stops : Stops Token.endsChoice (us ++ t :: rest) := later.stops (stops_cons dedent rfl)
    rw [List.append_assoc, parseBody, if_neg goesOn]
    exact (derived.yields _ stops).bind ((later.yields _ dedent).bind (yields_pure.mpr ⟨rfl, rfl⟩))

end

theorem Lines.parseStatements : ∀ {ts ss}, Lines m ts ss → parseStatements m ts = .ok ss
  | _, _, .nil => by rw [HtmlTemplate.parseStatements]
  | _, _, @Lines.cons _ _ us s _ derived later => by
    have stops : Stops Token.endsChoice us := by
      have none : Stops Token.endsChoice [] := by rintro _ ⟨⟩
      simpa using later.stops none
    obtain ⟨t, ts, rfl, _⟩ := derived.starts
    have first : Yields (parseStatement m (t :: (ts ++ us))) s us := derived.yields us stops
    obtain ⟨shorter, statement⟩ := first
    rw [List.cons_append, HtmlTemplate.parseStatements]
    exact bind_eq_ok.mpr ⟨_, statement, bind_eq_ok.mpr ⟨_, later.parseStatements, rfl⟩⟩

end Grammar

end HtmlTemplate
