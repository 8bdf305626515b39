import HtmlTemplate.Proofs.Grammar.Programs
import HtmlTemplate.Proofs.Lexing.Progress
import Mathlib.Logic.Relation

/-!
# Calls of the parser

The programs of the parser do what its readers do. No call is made on more lexemes than there were,
and none comes back to the same reader on as many. So no chain of calls goes on for ever, and the
programs come to an end.
-/

namespace HtmlTemplate

/-! ## Where calls lead -/

/-- The call is made on fewer lexemes than the other, or on the same ones by a lower reader. -/
def Call.Below (c b : Call) : Prop :=
  c.lexemes.length < b.lexemes.length ∨
    c.lexemes = b.lexemes ∧ c.reader.rank < b.reader.rank

/-- Does the same as the reader, by calls below the given one only. -/
structure Follows {α : Type} {n : Nat} (m : Markers) (b : Call) (x : Program (α × List Lexeme))
    (p : Parse α n) : Prop where
  outcome : x.run m = p.unbound
  below : ∀ c ∈ x.calls m, c.Below b

namespace Follows

variable {α β : Type} {n k : Nat} {m : Markers} {b : Call} {x : Program (α × List Lexeme)}
  {p : Parse α n}

theorem spec (follows : Follows m b x p) :
    x.run m = p.unbound ∧ ∀ c ∈ x.calls m, c.Below b := ⟨follows.outcome, follows.below⟩

/-- What makes no call. -/
theorem done {outcome : Except Stop (α × List Lexeme)} (same : outcome = p.unbound) :
    Follows m b (.done outcome) p := ⟨same, nofun⟩

theorem ask {r : ParseReader} {ts : List Lexeme} {p : Parse r.Result n}
    (same : r.read m ts = p.unbound) (below : Call.Below ⟨r, ts⟩ b) :
    Follows m b (.ask r ts) p := by
  have run : (Program.ask r ts).run m = r.read m ts := by
    change (r.read m ts >>= fun p => .ok p) = r.read m ts
    cases r.read m ts <;> rfl
  have calls : (Program.ask r ts).calls m = [⟨r, ts⟩] := by
    rw [Program.ask, Program.calls]
    cases r.read m ts <;> rfl
  exact ⟨run.trans same, by rwa [calls, List.forall_mem_singleton]⟩

theorem fewer {r : ParseReader} {ts : List Lexeme} {p : Parse r.Result n}
    (same : r.read m ts = p.unbound) (fewer : ts.length < b.lexemes.length) :
    Follows m b (.ask r ts) p := ask same (.inl fewer)

theorem lower {r : ParseReader} {p : Parse r.Result n} (same : r.read m b.lexemes = p.unbound)
    (lower : r.rank < b.reader.rank) : Follows m b (.ask r b.lexemes) p :=
  ask same (.inr ⟨rfl, lower⟩)

theorem bind {f : α × List Lexeme → Program (β × List Lexeme)} {next : Parsed α n → Parse β k}
    (first : Follows m b x p)
    (later : ∀ a rest (h : rest.length < n), Follows m b (f (a, rest)) (next ⟨a, rest, h⟩)) :
    Follows m b (x >>= f) (p >>= next) := by
  obtain ⟨same, below⟩ := first
  have run := Program.run_bind (m := m) x f
  have calls := Program.calls_bind (m := m) x f
  rw [same] at run calls
  cases p with
  | error s =>
    refine ⟨run, ?_⟩
    rw [calls]
    exact List.forall_mem_append.mpr ⟨below, nofun⟩
  | ok q =>
    have follows := later q.value q.rest q.shorter
    refine ⟨run.trans follows.outcome, ?_⟩
    rw [calls]
    exact List.forall_mem_append.mpr ⟨below, follows.below⟩

/-- A reader that ends with a call. -/
theorem last {next : Parsed α n → Parse α k} (first : Follows m b x p)
    (same : ∀ q, (next q).unbound = .ok (q.value, q.rest)) : Follows m b x (p >>= next) := by
  refine ⟨first.outcome.trans ?_, first.below⟩
  cases p with
  | error s => rfl
  | ok q => exact (same q).symm

theorem check {γ : Type} {check : Except Stop γ} {f : γ → Program (β × List Lexeme)}
    {next : γ → Parse β k} (later : ∀ a, Follows m b (f a) (next a)) :
    Follows m b (.done check >>= f) (check >>= next) := by
  cases check with
  | error s => exact done rfl
  | ok a => exact ⟨(later a).outcome, (later a).below⟩

end Follows

section

variable {m : Markers}

/-! ### Expressions -/

theorem follows_expr (ts : List Lexeme) :
    Follows m ⟨.expr, ts⟩ (Program.expr ts) (parseExpr ts) := by
  rw [parseExpr]
  refine (Follows.lower (r := .product) rfl (by simp)).bind fun first rest h => ?_
  exact (Follows.fewer (r := .sums first) rfl (by grind)).last fun _ => rfl

theorem follows_sums (left : Expr) (ts : List Lexeme) :
    Follows m ⟨.sums left, ts⟩ (Program.sums left ts) (parseSums left ts) := by
  cases ts with
  | nil =>
    rw [parseSums]
    exact .done rfl
  | cons t ts =>
    rw [parseSums, Program.sums]
    cases t.token.operator? false with
    | none => exact .done rfl
    | some op =>
      refine (Follows.fewer (r := .product) rfl (by grind)).bind fun right rest h => ?_
      exact (Follows.fewer (r := .sums (.binary op left right)) rfl (by grind)).last fun _ => rfl

theorem follows_product (ts : List Lexeme) :
    Follows m ⟨.product, ts⟩ (Program.product ts) (parseProduct ts) := by
  rw [parseProduct]
  refine (Follows.lower (r := .atom) rfl (by simp)).bind fun first rest h => ?_
  exact (Follows.fewer (r := .factors first) rfl (by grind)).last fun _ => rfl

theorem follows_factors (left : Expr) (ts : List Lexeme) :
    Follows m ⟨.factors left, ts⟩ (Program.factors left ts) (parseFactors left ts) := by
  cases ts with
  | nil =>
    rw [parseFactors]
    exact .done rfl
  | cons t ts =>
    rw [parseFactors, Program.factors]
    cases t.token.operator? true with
    | none => exact .done rfl
    | some op =>
      refine (Follows.fewer (r := .atom) rfl (by grind)).bind fun right rest h => ?_
      exact (Follows.fewer (r := .factors (.binary op left right)) rfl (by grind)).last fun _ => rfl

theorem follows_atom (ts : List Lexeme) :
    Follows m ⟨.atom, ts⟩ (Program.atom ts) (parseAtom ts) := by
  cases ts with
  | nil =>
    rw [parseAtom]
    exact .done rfl
  | cons t ts =>
    rw [parseAtom, Program.atom]
    generalize t.token = token
    cases token with
    | number | string => exact Follows.check fun e => .done rfl
    | trueWord | falseWord | noneWord => exact .done rfl
    | operator op =>
      dsimp only
      split
      · exact .done rfl
      · refine (Follows.done rfl).bind fun number rest h => ?_
        exact Follows.check fun e => .done rfl
    | opening bracket =>
      cases bracket with
      | round =>
        refine (Follows.fewer (r := .expr) rfl (by grind)).bind fun e rest h => ?_
        exact (Follows.done rfl).bind fun close rest h => .done rfl
      | square =>
        refine (Follows.fewer (r := .items .square) rfl (by grind)).bind fun items rest h => ?_
        exact (Follows.done rfl).bind fun close rest h => .done rfl
      | curly =>
        refine (Follows.fewer (r := .entries) rfl (by grind)).bind fun entries rest h => ?_
        exact (Follows.done rfl).bind fun close rest h => .done rfl
    | identifier =>
      cases ts with
      | nil => exact .done rfl
      | cons p ts =>
        dsimp only [Program.name]
        split
        · refine (Follows.fewer (r := .items .round) rfl (by grind)).bind fun arguments rest h => ?_
          exact (Follows.done rfl).bind fun close rest h => .done rfl
        · exact .done rfl
    | _ => exact .done rfl

theorem follows_items (close : Bracket) (ts : List Lexeme) :
    Follows m ⟨.items close, ts⟩ (Program.items close ts) (parseItems close ts) := by
  rw [parseItems, Program.items]
  split
  · exact .done rfl
  · refine (Follows.lower (r := .expr) rfl (by simp)).bind fun e rest h => ?_
    cases rest with
    | nil => exact .done rfl
    | cons c rest =>
      dsimp only
      split
      · exact (Follows.fewer (r := .items close) rfl (by grind)).bind fun es rest h' => .done rfl
      · exact .done rfl

theorem follows_entries (ts : List Lexeme) :
    Follows m ⟨.entries, ts⟩ (Program.entries ts) (parseEntries ts) := by
  rw [parseEntries, Program.entries]
  split
  · exact .done rfl
  · refine (Follows.lower (r := .expr) rfl (by simp)).bind fun key rest h => ?_
    refine (Follows.done rfl).bind fun colon rest h => ?_
    refine (Follows.fewer (r := .expr) rfl (by grind)).bind fun value rest h => ?_
    cases rest with
    | nil => exact .done rfl
    | cons c rest =>
      dsimp only
      split
      · exact (Follows.fewer (r := .entries) rfl (by grind)).bind fun es rest h' => .done rfl
      · exact .done rfl

/-! ### Statements -/

theorem follows_attributes (ts : List Lexeme) :
    Follows m ⟨.attributes, ts⟩ (Program.attributes ts) (parseAttributes ts) := by
  rw [parseAttributes, Program.attributes]
  split
  · exact .done rfl
  · refine (Follows.done rfl).bind fun key rest h => ?_
    refine (Follows.done rfl).bind fun assign rest h => ?_
    refine (Follows.fewer (r := .expr) rfl (by grind)).bind fun value rest h => ?_
    cases rest with
    | nil => exact .done rfl
    | cons c rest =>
      dsimp only
      split
      · exact (Follows.fewer (r := .attributes) rfl (by grind)).bind fun later rest h' => .done rfl
      · exact .done rfl

theorem follows_parts (ts : List Lexeme) :
    Follows m ⟨.parts, ts⟩ (Program.parts m ts) (parseParts m ts) := by
  cases ts with
  | nil =>
    rw [parseParts]
    exact .done rfl
  | cons t ts =>
    rw [parseParts, Program.parts]
    generalize t.token = token
    cases token with
    | text => exact (Follows.fewer (r := .parts) rfl (by grind)).bind fun parts rest h => .done rfl
    | openSplice =>
      refine (Follows.fewer (r := .expr) rfl (by grind)).bind fun e rest h => ?_
      refine (Follows.done rfl).bind fun close rest h => ?_
      exact (Follows.fewer (r := .parts) rfl (by grind)).bind fun parts rest h => .done rfl
    | _ => exact .done rfl

theorem follows_block (ts : List Lexeme) :
    Follows m ⟨.block, ts⟩ (Program.block ts) (parseBlock m ts) := by
  rw [parseBlock]
  refine (Follows.done rfl).bind fun indent rest h => ?_
  refine (Follows.fewer (r := .body) rfl (by grind)).bind fun body rest h => ?_
  exact (Follows.done rfl).bind fun dedent rest h => .done rfl

theorem follows_choice (ts : List Lexeme) :
    Follows m ⟨.choice, ts⟩ (Program.choice ts) (parseChoice m ts) := by
  rw [parseChoice]
  refine (Follows.lower (r := .expr) rfl (by simp)).bind fun condition rest h => ?_
  refine (Follows.fewer (r := .block) rfl (by grind)).bind fun body rest h => ?_
  cases rest with
  | nil => exact .done rfl
  | cons t rest =>
    dsimp only
    split
    · exact (Follows.fewer (r := .choice) rfl (by grind)).bind fun next rest h => .done rfl
    · split
      · exact (Follows.fewer (r := .block) rfl (by grind)).bind fun otherwise rest h => .done rfl
      · exact .done rfl

theorem follows_assign {b : Call} {ts : List Lexeme} (fewer : ts.length < b.lexemes.length) :
    Follows m b (Program.assign ts) (parseAssign ts) := by
  rw [parseAssign]
  refine (Follows.done rfl).bind fun name rest h => ?_
  refine (Follows.done rfl).bind fun sign rest h => ?_
  refine (Follows.fewer (r := .expr) rfl (by omega)).bind fun value rest h => ?_
  exact (Follows.done rfl).bind fun newline rest h => .done rfl

theorem follows_head {b : Call} {ts : List Lexeme} (fewer : ts.length < b.lexemes.length) :
    Follows m b (Program.head ts) (parseHead ts) := by
  cases ts with
  | nil => exact .done rfl
  | cons p ts =>
    rw [parseHead, Program.head]
    split
    · refine (Follows.fewer (r := .attributes) rfl (by grind)).bind fun attributes rest h => ?_
      exact (Follows.done rfl).bind fun close rest h => .done rfl
    · exact .done rfl

theorem follows_text {b : Call} {ts : List Lexeme} (marker : Lexeme)
    (fewer : ts.length < b.lexemes.length) :
    Follows m b (Program.text marker ts) (parseText m marker ts) := by
  rw [parseText]
  refine (Follows.fewer (r := .parts) rfl (by omega)).bind fun parts rest h => ?_
  cases parts with
  | nil => exact .done rfl
  | cons part parts => exact .done rfl

theorem follows_statement (ts : List Lexeme) :
    Follows m ⟨.statement, ts⟩ (Program.statement ts) (parseStatement m ts) := by
  cases ts with
  | nil =>
    rw [parseStatement]
    exact .done rfl
  | cons t ts =>
    rw [parseStatement, Program.statement]
    generalize t.token = token
    cases token with
    | keyword k =>
      cases k with
      | varKw => exact (follows_assign (Nat.lt_succ_self _)).last fun _ => rfl
      | ifKw => exact (Follows.fewer (r := .choice) rfl (by grind)).last fun _ => rfl
      | forKw =>
        refine (Follows.done rfl).bind fun name rest h => ?_
        refine (Follows.done rfl).bind fun inWord rest h => ?_
        refine (Follows.fewer (r := .expr) rfl (by grind)).bind fun iterable rest h => ?_
        exact (Follows.fewer (r := .block) rfl (by grind)).bind fun body rest h => .done rfl
      | _ => exact .done rfl
    | identifier =>
      refine (follows_head (Nat.lt_succ_self _)).bind fun attributes rest h => ?_
      dsimp only
      split
      · exact (Follows.fewer (r := .block) rfl (by grind)).bind fun body rest h => .done rfl
      · exact (Follows.done rfl).bind fun newline rest h => .done rfl
    | marker => exact (follows_text t (Nat.lt_succ_self _)).last fun _ => rfl
    | _ => exact .done rfl

theorem follows_body (ts : List Lexeme) :
    Follows m ⟨.body, ts⟩ (Program.body ts) (parseBody m ts) := by
  rw [parseBody, Program.body]
  split
  · exact .done rfl
  · refine (Follows.lower (r := .statement) rfl (by simp)).bind fun s rest h => ?_
    exact (Follows.fewer (r := .body) rfl (by grind)).bind fun later rest h => .done rfl

/-- The statements of a source are all there is, and so no lexemes are left behind them. -/
def parseWhole (m : Markers) (ts : List Lexeme) : Parse (List Statement) (ts.length + 1) :=
  (parseStatements m ts).map fun ss => ⟨ss, [], Nat.succ_pos _⟩

theorem unbound_parseWhole (ts : List Lexeme) :
    (parseWhole m ts).unbound = ParseReader.statements.read m ts := by
  rw [parseWhole, Parse.unbound, ParseReader.read]
  cases parseStatements m ts <;> rfl

theorem parseWhole_cons (t : Lexeme) (ts : List Lexeme) :
    parseWhole m (t :: ts) =
      parseStatement m (t :: ts) >>= fun p => parseWhole m p.rest >>= fun q =>
        .ok ⟨p.value :: q.value, q.rest, by have := p.shorter; have := q.shorter; omega⟩ := by
  rw [parseWhole, parseStatements]
  cases parseStatement m (t :: ts) with
  | error s => rfl
  | ok p =>
    simp only [parseWhole, Bind.bind, Except.bind]
    cases parseStatements m p.rest <;> rfl

theorem follows_statements (ts : List Lexeme) :
    Follows m ⟨.statements, ts⟩ (Program.statements ts) (parseWhole m ts) := by
  cases ts with
  | nil => exact .done (by rw [parseWhole, parseStatements]; rfl)
  | cons t ts =>
    rw [parseWhole_cons, Program.statements]
    refine (Follows.lower (b := ⟨.statements, t :: ts⟩) (r := .statement) rfl (by simp)).bind
      fun s rest h => ?_
    exact (Follows.fewer (r := .statements) (unbound_parseWhole _).symm (by grind)).bind
      fun later rest h => .done rfl

end

/-- The readers with their calls read what the readers read, and call only what is below them. -/
theorem Program.reader_spec (m : Markers) (r : ParseReader) (ts : List Lexeme) :
    (Program.reader m r ts).run m = r.read m ts ∧
      ∀ c ∈ (Program.reader m r ts).calls m, c.Below ⟨r, ts⟩ := by
  cases r with
  | atom => exact (follows_atom ts).spec
  | factors left => exact (follows_factors left ts).spec
  | product => exact (follows_product ts).spec
  | sums left => exact (follows_sums left ts).spec
  | expr => exact (follows_expr ts).spec
  | items close => exact (follows_items close ts).spec
  | entries => exact (follows_entries ts).spec
  | attributes => exact (follows_attributes ts).spec
  | parts => exact (follows_parts ts).spec
  | block => exact (follows_block ts).spec
  | choice => exact (follows_choice ts).spec
  | statement => exact (follows_statement ts).spec
  | body => exact (follows_body ts).spec
  | statements =>
    have follows := follows_statements (m := m) ts
    exact ⟨follows.outcome.trans (unbound_parseWhole ts), follows.below⟩

/-! ## Chains of calls -/

/-- The first call makes the second one itself. -/
def Calls (m : Markers) (b c : Call) : Prop := c ∈ (Program.reader m b.reader b.lexemes).calls m

theorem Calls.below {m : Markers} {b c : Call} (calls : Calls m b c) : c.Below b :=
  (Program.reader_spec m b.reader b.lexemes).2 c calls

namespace Call

variable {m : Markers} {a b c : Call}

theorem Below.trans (cb : c.Below b) (ba : b.Below a) : c.Below a := by
  rcases cb with fewer | ⟨same, lower⟩ <;> rcases ba with fewer' | ⟨same', lower'⟩
  · exact .inl (fewer.trans fewer')
  · exact .inl (same' ▸ fewer)
  · exact .inl (same ▸ fewer')
  · exact .inr ⟨same.trans same', lower.trans lower'⟩

theorem Below.length_le (below : c.Below b) : c.lexemes.length ≤ b.lexemes.length := by
  rcases below with fewer | ⟨same, lower⟩
  · exact fewer.le
  · rw [same]

/-- What comes back to the same reader has consumed a lexeme. -/
theorem Below.length_lt (below : c.Below b) (same : c.reader.rank = b.reader.rank) :
    c.lexemes.length < b.lexemes.length := by
  rcases below with fewer | ⟨-, lower⟩
  · exact fewer
  · omega

theorem below_of_transGen (chain : Relation.TransGen (Calls m) b c) : c.Below b := by
  induction chain with
  | single calls => exact calls.below
  | tail chain calls ih => exact calls.below.trans ih

/-- There are no more calls in a chain than this. -/
def height (c : Call) : Nat := 14 * c.lexemes.length + c.reader.rank

theorem Below.height_lt (below : c.Below b) : c.height < b.height := by
  have rank := c.reader.rank_lt
  unfold height
  rcases below with fewer | ⟨same, lower⟩
  · omega
  · rw [same]
    omega

theorem wellFounded_calls (m : Markers) : WellFounded fun c b => Calls m b c :=
  Subrelation.wf (fun calls => calls.below.height_lt) (measure height).wf

theorem length_le_height {cs : List Call} (chain : (c :: cs).IsChain (Calls m)) :
    cs.length ≤ c.height := by
  induction cs generalizing c with
  | nil => exact Nat.zero_le _
  | cons d cs ih =>
    rw [List.isChain_cons_cons] at chain
    have later := ih chain.2
    have lower := chain.1.below.height_lt
    simp only [List.length_cons]
    omega

end Call

/-- What the programs answer when no more than so many calls are made within each other. -/
def readWithin (m : Markers) : Nat → Answers
  | 0, _, _ => none
  | k + 1, r, ts => (Program.reader m r ts).runWith (readWithin m k)

theorem readWithin_eq {m : Markers} {k : Nat} {c : Call} (enough : c.height < k) :
    readWithin m k c.reader c.lexemes = some (c.reader.read m c.lexemes) := by
  -- the calls of a program are lower than the call that it is for
  induction k generalizing c with
  | zero => omega
  | succ k ih =>
    obtain ⟨same, below⟩ := Program.reader_spec m c.reader c.lexemes
    rw [readWithin, Program.runWith_eq fun d mem => ?_, same]
    have lower : d.height < c.height := (below d mem).height_lt
    exact ih (by omega)

/-- Compilation ends. A lexer that is asked again and again comes to the end or to a fault, each
time after finitely many turns, and remains at the end. Readers call each other on no more lexemes
than they were given, and each comes back to itself on fewer only. So no chain of calls is longer
than the source allows, and with so many calls within each other everything is read. -/
theorem compile_ends (m : Markers) (source : List Char) :
    let start : Lexer := { markers := m, rest := source }
    let n := byteLength source
    (∃ a ∈ start.answers (2 * n + 2), a = .ok none ∨ ∃ f, a = .error f) ∧
    (∀ l : Lexer, l.nextWithin (l.effort + 1) = some l.next) ∧
    (∀ (l : Lexer) (i j k : Nat), (l.answers k)[i]? = some (.ok none) → i ≤ j → j < k →
      (l.answers k)[j]? = some (.ok none)) ∧
    (∀ b c, Calls m b c → c.lexemes.length ≤ b.lexemes.length) ∧
    (∀ b c, Relation.TransGen (Calls m) b c → c.reader.rank = b.reader.rank →
      c.lexemes.length < b.lexemes.length) ∧
    (WellFounded fun c b => Calls m b c) ∧
    (∀ cs, (⟨.statements, (Lexemes.ofSource m source).list⟩ :: cs).IsChain (Calls m) →
      cs.length < 14 * (2 * n + 2)) ∧
    ∀ k, 14 * (2 * n + 2) ≤ k →
      readWithin m k .statements (Lexemes.ofSource m source).list =
        some ((parseStatements m (Lexemes.ofSource m source).list).map fun ss => (ss, [])) := by
  intro start n
  have bytes := length_le_byteLength source
  have owed := Mode.owed_le start.mode
  have remaining : start.remaining = 2 * source.length + start.mode.owed := rfl
  have lexemes : (Lexemes.ofSource m source).list.length ≤ start.remaining :=
    start.length_lexemes_le
  have height : Call.height ⟨.statements, (Lexemes.ofSource m source).list⟩ < 14 * (2 * n + 2) := by
    simp only [Call.height, ParseReader.rank]
    omega
  refine ⟨start.answers_come_to_end (by omega), fun l => l.nextWithin_eq (by omega),
    fun l i j k => l.answers_after_end, fun b c calls => calls.below.length_le,
    fun b c chain same => (Call.below_of_transGen chain).length_lt same,
    Call.wellFounded_calls m, fun cs chain => ?_, fun k enough => ?_⟩
  · have longest := Call.length_le_height chain
    omega
  · exact readWithin_eq (Nat.lt_of_lt_of_le height enough)

end HtmlTemplate
