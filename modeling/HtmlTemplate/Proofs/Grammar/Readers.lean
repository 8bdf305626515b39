import HtmlTemplate.Tree.Parser

/-!
# What readers yield

A reader either stops or ends with a value and the lexemes that are left. How many there are is no
part of the statement: it follows.
-/

namespace HtmlTemplate

/-- The reader ends with a value and some lexemes that are left. -/
def Yields {α : Type} {n : Nat} (parse : Parse α n) (a : α) (rest : List Lexeme) : Prop :=
  ∃ shorter, parse = .ok ⟨a, rest, shorter⟩

variable {α β : Type} {n k : Nat} {a b : α} {rest mid : List Lexeme}

theorem Yields.shorter {parse : Parse α n} (yields : Yields parse a rest) :
    rest.length < n := yields.1

@[simp] theorem yields_ok {p : Parsed α n} :
    Yields (.ok p) a rest ↔ p.value = a ∧ p.rest = rest := by
  constructor
  · rintro ⟨shorter, eq⟩
    cases eq
    exact ⟨rfl, rfl⟩
  · rintro ⟨rfl, rfl⟩
    exact ⟨p.shorter, rfl⟩

@[simp] theorem yields_pure {p : Parsed α n} :
    Yields (pure p) a rest ↔ p.value = a ∧ p.rest = rest := yields_ok

@[simp] theorem not_yields_error {s : Stop} : ¬ Yields (.error s : Parse α n) a rest := by
  rintro ⟨_, ⟨⟩⟩

@[simp] theorem not_yields_stopAt {t : Lexeme} {c : Cause} :
    ¬ Yields (stopAt t c : Parse α n) a rest := by
  rintro ⟨_, ⟨⟩⟩

theorem yields_bind {c : β} {parse : Parse α n} {next : Parsed α n → Parse β k} :
    Yields (parse >>= next) c rest ↔
      ∃ a mid shorter, Yields parse a mid ∧ Yields (next ⟨a, mid, shorter⟩) c rest := by
  constructor
  · rintro ⟨shorter, eq⟩
    cases parse with
    | error s => cases eq
    | ok p => exact ⟨p.value, p.rest, p.shorter, ⟨p.shorter, rfl⟩, shorter, eq⟩
  · rintro ⟨a, mid, shorter, ⟨_, rfl⟩, yields⟩
    exact yields

theorem Yields.bind {c : β} {parse : Parse α n} {next : Parsed α n → Parse β k}
    (first : Yields parse a mid) (later : Yields (next ⟨a, mid, first.shorter⟩) c rest) :
    Yields (parse >>= next) c rest := yields_bind.mpr ⟨a, mid, first.shorter, first, later⟩

/-- A reader that checks a value without reading on. -/
theorem yields_check {c : β} {check : Except Stop α} {next : α → Parse β k} :
    Yields (check >>= next) c rest ↔ ∃ a, check = .ok a ∧ Yields (next a) c rest := by
  cases check with
  | error s =>
    constructor
    · rintro ⟨_, ⟨⟩⟩
    · rintro ⟨_, ⟨⟩, _⟩
  | ok a =>
    constructor
    · intro yields
      exact ⟨a, rfl, yields⟩
    · rintro ⟨_, ⟨⟩, yields⟩
      exact yields

theorem bind_eq_ok {ε : Type} {x : Except ε α} {f : α → Except ε β} {c : β} :
    x >>= f = .ok c ↔ ∃ a, x = .ok a ∧ f a = .ok c := by
  cases x with
  | error => simp [bind, Except.bind]
  | ok => simp [bind, Except.bind]

theorem yields_expect {token : Token} {ts : List Lexeme} {t : Lexeme} :
    Yields (expect token ts) t rest ↔ ts = t :: rest ∧ t.token = token := by
  cases ts with
  | nil => simp [expect]
  | cons u us =>
    by_cases is : u.token = token
    · simp only [expect, if_pos is, yields_ok, List.cons.injEq]
      constructor
      · rintro ⟨rfl, rfl⟩
        exact ⟨⟨rfl, rfl⟩, is⟩
      · rintro ⟨⟨rfl, rfl⟩, _⟩
        exact ⟨rfl, rfl⟩
    · simp only [expect, if_neg is, not_yields_stopAt, List.cons.injEq, false_iff]
      rintro ⟨⟨rfl, _⟩, is'⟩
      exact is is'

theorem expect_yields {token : Token} {t : Lexeme} (is : t.token = token) :
    Yields (expect token (t :: rest)) t rest := yields_expect.mpr ⟨rfl, is⟩

theorem yields_parseIdent {ts : List Lexeme} {name : Ident} :
    Yields (parseIdent ts) name rest ↔
      ∃ t, ts = t :: rest ∧ t.token = .identifier ∧ name = ⟨t.word, t.region⟩ := by
  simp only [parseIdent, yields_bind, yields_expect, yields_pure]
  constructor
  · rintro ⟨t, _, _, ⟨rfl, is⟩, rfl, rfl⟩
    exact ⟨t, rfl, is, rfl⟩
  · rintro ⟨t, rfl, is, rfl⟩
    exact ⟨t, rest, by simp, ⟨rfl, is⟩, rfl, rfl⟩

theorem parseIdent_yields {t : Lexeme} (name : t.token = .identifier) :
    Yields (parseIdent (t :: rest)) ⟨t.word, t.region⟩ rest :=
  yields_parseIdent.mpr ⟨t, rfl, name, rfl⟩

theorem nextIs_eq_true {token : Token} {ts : List Lexeme} :
    nextIs token ts = true ↔ ∃ t us, ts = t :: us ∧ t.token = token := by
  cases ts with
  | nil => simp [nextIs]
  | cons t us =>
    simp only [nextIs, List.head?_cons, Option.any_some, beq_iff_eq, List.cons.injEq]
    constructor
    · intro is
      exact ⟨t, us, ⟨rfl, rfl⟩, is⟩
    · rintro ⟨_, _, ⟨rfl, _⟩, is⟩
      exact is

theorem operator?_eq_some {product : Bool} {token : Token} {op : Operator} :
    token.operator? product = some op ↔ token = .operator op ∧ op.isProduct = product := by
  cases token with
  | operator op' =>
    simp only [Token.operator?, Token.operator.injEq]
    split <;> grind
  | _ => simp [Token.operator?]

theorem numberLiteral_eq_ok {chars : List Char} {region : Region} {e : Expr} :
    numberLiteral chars region = .ok e ↔
      ∃ x, NumberLiteral.read? chars = some x ∧ e = .literal (.number x) region := by
  unfold numberLiteral
  split
  · next x reads => simp [reads, eq_comm]
  · next reads => simp [reads]

theorem stringLiteral_eq_ok {t : Lexeme} {e : Expr} :
    stringLiteral t = .ok e ↔ ∃ s, decodeString? (insideQuotes t.chars) = some s ∧
      e = .literal (.string (String.ofList s)) t.region := by
  unfold stringLiteral
  split
  · next s reads => simp [reads, eq_comm]
  · next reads => simp [reads, stopAt]

theorem yields_parseIndent {ts : List Lexeme} {read : Unit} :
    Yields (parseIndent ts) read rest ↔ ∃ t u v, ts = t :: u :: v :: rest ∧
      t.token = .colon ∧ u.token = .newline ∧ v.token = .indent := by
  simp only [parseIndent, yields_bind, yields_expect]
  constructor
  · rintro ⟨t, _, _, ⟨rfl, colon⟩, u, mid, _, ⟨rfl, newline⟩, yields⟩
    cases mid with
    | nil => exact absurd yields not_yields_error
    | cons v mid =>
      dsimp only at yields
      split at yields
      · next indent =>
        obtain ⟨_, rfl⟩ := yields_pure.mp yields
        exact ⟨t, u, v, rfl, colon, newline, indent⟩
      · exact absurd yields not_yields_stopAt
  · rintro ⟨t, u, v, rfl, colon, newline, indent⟩
    refine ⟨t, u :: v :: rest, by simp, ⟨rfl, colon⟩, u, v :: rest, by simp, ⟨rfl, newline⟩, ?_⟩
    dsimp only
    rw [if_pos indent]
    exact yields_pure.mpr ⟨rfl, rfl⟩

theorem parseIndent_yields {t u v : Lexeme} (colon : t.token = .colon)
    (newline : u.token = .newline) (indent : v.token = .indent) :
    Yields (parseIndent (t :: u :: v :: rest)) () rest :=
  yields_parseIndent.mpr ⟨t, u, v, rfl, colon, newline, indent⟩

end HtmlTemplate
