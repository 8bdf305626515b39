import HtmlTemplate.Tree.Parser

/-!
# Programs of the parser

The readers of the parser call each other and themselves: a loop goes on by a call of its own
reader. Here each of them is written down as a program that knows of the others only by calls, so
that nothing is said in advance about an end.
-/

namespace HtmlTemplate

/-- A reader, with what it is told apart from its lexemes. -/
inductive ParseReader where
  | atom
  | factors (left : Expr)
  | product
  | sums (left : Expr)
  | expr
  | items (close : Bracket)
  | entries
  | attributes
  | parts
  | block
  | choice
  | statement
  | body
  | statements

structure Call where
  reader : ParseReader
  lexemes : List Lexeme

/-- A value with the lexemes that are left. -/
def Parse.unbound {α : Type} {n : Nat} (p : Parse α n) : Except Stop (α × List Lexeme) :=
  p.map fun p => (p.value, p.rest)

namespace ParseReader

/-- Which reader it is. On all the lexemes that a reader is given it calls only readers of lower
rank. -/
@[simp] def rank : ParseReader → Nat
  | .atom => 0
  | .factors _ => 1
  | .product => 2
  | .sums _ => 3
  | .expr => 4
  | .items _ => 5
  | .entries => 6
  | .attributes => 7
  | .parts => 8
  | .block => 9
  | .choice => 10
  | .statement => 11
  | .body => 12
  | .statements => 13

abbrev Result : ParseReader → Type
  | .atom | .factors _ | .product | .sums _ | .expr => Expr
  | .items _ => List Expr
  | .entries => List (Expr × Expr)
  | .attributes => List (Ident × Expr)
  | .parts => List Part
  | .choice | .statement => Statement
  | .block | .body | .statements => List Statement

/-- What the reader makes of its lexemes. -/
def read (m : Markers) : (r : ParseReader) → List Lexeme → Except Stop (r.Result × List Lexeme)
  | .atom, ts => (parseAtom ts).unbound
  | .factors left, ts => (parseFactors left ts).unbound
  | .product, ts => (parseProduct ts).unbound
  | .sums left, ts => (parseSums left ts).unbound
  | .expr, ts => (parseExpr ts).unbound
  | .items close, ts => (parseItems close ts).unbound
  | .entries, ts => (parseEntries ts).unbound
  | .attributes, ts => (parseAttributes ts).unbound
  | .parts, ts => (parseParts m ts).unbound
  | .block, ts => (parseBlock m ts).unbound
  | .choice, ts => (parseChoice m ts).unbound
  | .statement, ts => (parseStatement m ts).unbound
  | .body, ts => (parseBody m ts).unbound
  | .statements, ts => (parseStatements m ts).map fun ss => (ss, [])

theorem rank_lt (r : ParseReader) : r.rank < 14 := by
  cases r <;> simp

end ParseReader

/-! ## Programs with calls -/

/-- A program says what comes of some lexemes, or makes a call and goes on with what was read there.
If the call stops, so does the program. -/
inductive Program (α : Type) where
  | done (outcome : Except Stop α)
  | call (r : ParseReader) (ts : List Lexeme) (next : r.Result × List Lexeme → Program α)

/-- What is answered to calls, as far as it is known. -/
abbrev Answers :=
  (r : ParseReader) → List Lexeme → Option (Except Stop (r.Result × List Lexeme))

namespace Program

section

variable {α β : Type}

protected def bind : Program α → (α → Program β) → Program β
  | done (.ok a), f => f a
  | done (.error s), _ => done (.error s)
  | call r ts next, f => call r ts fun p => (next p).bind f

instance : Monad Program where
  pure a := done (.ok a)
  bind := Program.bind

/-- A call and nothing else. -/
def ask (r : ParseReader) (ts : List Lexeme) : Program (r.Result × List Lexeme) :=
  call r ts fun p => done (.ok p)

def expects (token : Token) (ts : List Lexeme) : Program (Lexeme × List Lexeme) :=
  done (expect token ts).unbound

def expectsIdent (ts : List Lexeme) : Program (Ident × List Lexeme) :=
  done (parseIdent ts).unbound

/-- The outcome, if the calls are answered by the readers. -/
def run (m : Markers) : Program α → Except Stop α
  | done outcome => outcome
  | call r ts next => r.read m ts >>= fun p => (next p).run m

/-- The calls that are made, if they are answered by the readers. -/
def calls (m : Markers) : Program α → List Call
  | done _ => []
  | call r ts next =>
    ⟨r, ts⟩ :: match r.read m ts with
      | .ok p => (next p).calls m
      | .error _ => []

/-- The outcome, if all calls that are made are answered. -/
def runWith (answers : Answers) : Program α → Option (Except Stop α)
  | done outcome => some outcome
  | call r ts next =>
    match answers r ts with
    | none => none
    | some (.ok p) => (next p).runWith answers
    | some (.error s) => some (.error s)

variable {m : Markers}

theorem run_bind (x : Program α) (f : α → Program β) :
    (x >>= f).run m = x.run m >>= fun a => (f a).run m := by
  induction x with
  | done outcome => cases outcome <;> rfl
  | call r ts next ih =>
    change (r.read m ts >>= fun p => (next p >>= f).run m) =
      (r.read m ts >>= fun p => (next p).run m) >>= fun a => (f a).run m
    cases r.read m ts with
    | error s => rfl
    | ok p => exact ih p

/-- What comes after an outcome makes its calls after those that led to it. -/
theorem calls_bind (x : Program α) (f : α → Program β) :
    (x >>= f).calls m =
      x.calls m ++ (x.run m).toOption.elim [] fun a => (f a).calls m := by
  induction x with
  | done outcome => cases outcome <;> rfl
  | call r ts next ih =>
    change (Program.call r ts fun p => next p >>= f).calls m = _
    rw [calls, calls, run]
    cases r.read m ts with
    | error s => rfl
    | ok p => exact congrArg _ (ih p)

/-- It is enough to answer the calls that are made as the readers do. -/
theorem runWith_eq {x : Program α} {answers : Answers}
    (known : ∀ c ∈ x.calls m, answers c.reader c.lexemes = some (c.reader.read m c.lexemes)) :
    x.runWith answers = some (x.run m) := by
  induction x with
  | done => rfl
  | call r ts next ih =>
    rw [calls, List.forall_mem_cons] at known
    obtain ⟨first, later⟩ := known
    rw [runWith, run, first]
    cases read : r.read m ts with
    | error s => rfl
    | ok p =>
      rw [read] at later
      exact ih p later

end

/-! ### The readers -/

/-- What stands between the name of a tag and its body. -/
def head : List Lexeme → Program (List (Ident × Expr) × List Lexeme)
  | [] => pure ([], [])
  | p :: rest =>
    if p.token = .opening .round then do
      let (attributes, rest) ← ask .attributes rest
      let (_, rest) ← expects (.closing .round) rest
      return (attributes, rest)
    else pure ([], p :: rest)

def assign (ts : List Lexeme) : Program (Statement × List Lexeme) := do
  let (name, rest) ← expectsIdent ts
  let (_, rest) ← expects .assign rest
  let (value, rest) ← ask .expr rest
  let (_, rest) ← expects .newline rest
  return (.assign name value, rest)

def loop (ts : List Lexeme) : Program (Statement × List Lexeme) := do
  let (name, rest) ← expectsIdent ts
  let (_, rest) ← expects (.keyword .inKw) rest
  let (iterable, rest) ← ask .expr rest
  let (body, rest) ← ask .block rest
  return (.loop name iterable body, rest)

def tag (name : Ident) (ts : List Lexeme) : Program (Statement × List Lexeme) := do
  let (attributes, rest) ← head ts
  if nextIs .colon rest then
    let (body, rest) ← ask .block rest
    return (.tag name attributes body, rest)
  else
    let (_, rest) ← expects .newline rest
    return (.tag name attributes [], rest)

def text (marker : Lexeme) (ts : List Lexeme) : Program (Statement × List Lexeme) := do
  let (parts, rest) ← ask .parts ts
  match parts with
  | [] => done (stopAt marker .emptyText)
  | parts => return (.text parts, rest)

/-- A number behind its sign. -/
def signed (sign : Lexeme) (op : Operator) (ts : List Lexeme) :
    Program (Expr × List Lexeme) := do
  let (number, rest) ← expects .number ts
  let e ← done (signedNumber sign op number)
  return (e, rest)

/-- A variable or a call. -/
def name (name : Ident) : List Lexeme → Program (Expr × List Lexeme)
  | [] => pure (.var name, [])
  | p :: rest =>
    if p.token = .opening .round then do
      let (arguments, rest) ← ask (.items .round) rest
      let (close, rest) ← expects (.closing .round) rest
      return (.call name arguments (name.region.join close.region), rest)
    else pure (.var name, p :: rest)

def atom : List Lexeme → Program (Expr × List Lexeme)
  | [] => done (.error (.outOfLexemes .anythingAtEnd))
  | t :: rest =>
    match t.token with
    | .number => do
      let e ← done (numberLiteral t.chars t.region)
      return (e, rest)
    | .string => do
      let e ← done (stringLiteral t)
      return (e, rest)
    | .trueWord => pure (.literal (.bool true) t.region, rest)
    | .falseWord => pure (.literal (.bool false) t.region, rest)
    | .noneWord => pure (.literal .nothing t.region, rest)
    | .operator op =>
      if op.isProduct then done (stopAt t .productSign) else signed t op rest
    | .opening .round => do
      let (e, rest) ← ask .expr rest
      let (_, rest) ← expects (.closing .round) rest
      return (e, rest)
    | .opening .square => do
      let (items, rest) ← ask (.items .square) rest
      let (close, rest) ← expects (.closing .square) rest
      return (.array items (t.region.join close.region), rest)
    | .opening .curly => do
      let (entries, rest) ← ask .entries rest
      let (close, rest) ← expects (.closing .curly) rest
      return (.dict entries (t.region.join close.region), rest)
    | .identifier => name ⟨t.word, t.region⟩ rest
    | token => done (stopAt t (.noExpression token))

def factors (left : Expr) : List Lexeme → Program (Expr × List Lexeme)
  | [] => pure (left, [])
  | t :: rest =>
    match t.token.operator? true with
    | none => pure (left, t :: rest)
    | some op => do
      let (right, rest) ← ask .atom rest
      ask (.factors (.binary op left right)) rest

def product (ts : List Lexeme) : Program (Expr × List Lexeme) := do
  let (first, rest) ← ask .atom ts
  ask (.factors first) rest

def sums (left : Expr) : List Lexeme → Program (Expr × List Lexeme)
  | [] => pure (left, [])
  | t :: rest =>
    match t.token.operator? false with
    | none => pure (left, t :: rest)
    | some op => do
      let (right, rest) ← ask .product rest
      ask (.sums (.binary op left right)) rest

def expr (ts : List Lexeme) : Program (Expr × List Lexeme) := do
  let (first, rest) ← ask .product ts
  ask (.sums first) rest

def items (close : Bracket) (ts : List Lexeme) : Program (List Expr × List Lexeme) :=
  if nextIs (.closing close) ts then pure ([], ts)
  else do
    let (e, rest) ← ask .expr ts
    match rest with
    | [] => return ([e], [])
    | c :: rest =>
      if c.token = .comma then
        let (es, rest) ← ask (.items close) rest
        return (e :: es, rest)
      else return ([e], c :: rest)

def entries (ts : List Lexeme) : Program (List (Expr × Expr) × List Lexeme) :=
  if nextIs (.closing .curly) ts then pure ([], ts)
  else do
    let (key, rest) ← ask .expr ts
    let (_, rest) ← expects .colon rest
    let (value, rest) ← ask .expr rest
    match rest with
    | [] => return ([(key, value)], [])
    | c :: rest =>
      if c.token = .comma then
        let (es, rest) ← ask .entries rest
        return ((key, value) :: es, rest)
      else return ([(key, value)], c :: rest)

def attributes (ts : List Lexeme) : Program (List (Ident × Expr) × List Lexeme) :=
  if nextIs (.closing .round) ts then pure ([], ts)
  else do
    let (key, rest) ← expectsIdent ts
    let (_, rest) ← expects .assign rest
    let (value, rest) ← ask .expr rest
    match rest with
    | [] => return ([(key, value)], [])
    | c :: rest =>
      if c.token = .comma then
        let (later, rest) ← ask .attributes rest
        return ((key, value) :: later, rest)
      else return ([(key, value)], c :: rest)

def parts (m : Markers) : List Lexeme → Program (List Part × List Lexeme)
  | [] => done (.error (.outOfLexemes .anythingAtEnd))
  | t :: rest =>
    match t.token with
    | .text => do
      let (parts, rest) ← ask .parts rest
      return (.text (plainText m t.chars) :: parts, rest)
    | .openSplice => do
      let (e, rest) ← ask .expr rest
      let (_, rest) ← expects .closeSplice rest
      let (parts, rest) ← ask .parts rest
      return (.splice e :: parts, rest)
    | .newline => pure ([], rest)
    | token => done (stopAt t (.noTextPart token))

def block (ts : List Lexeme) : Program (List Statement × List Lexeme) := do
  let (_, rest) ← done (parseIndent ts).unbound
  let (body, rest) ← ask .body rest
  let (_, rest) ← expects .dedent rest
  return (body, rest)

def choice (ts : List Lexeme) : Program (Statement × List Lexeme) := do
  let (condition, rest) ← ask .expr ts
  let (body, rest) ← ask .block rest
  match rest with
  | [] => return (.choice condition body [], [])
  | t :: rest =>
    if t.token = .keyword .elifKw then
      let (next, rest) ← ask .choice rest
      return (.choice condition body [next], rest)
    else if t.token = .keyword .elseKw then
      let (otherwise, rest) ← ask .block rest
      return (.choice condition body otherwise, rest)
    else return (.choice condition body [], t :: rest)

def statement : List Lexeme → Program (Statement × List Lexeme)
  | [] => done (.error (.outOfLexemes .anythingAtEnd))
  | t :: rest =>
    match t.token with
    | .keyword .varKw => assign rest
    | .keyword .ifKw => ask .choice rest
    | .keyword .forKw => loop rest
    | .identifier => tag ⟨t.word, t.region⟩ rest
    | .marker => text t rest
    | .keyword .elifKw => done (stopAt t (.strayBranch .elifKw))
    | .keyword .elseKw => done (stopAt t (.strayBranch .elseKw))
    | .indent => done (stopAt t .strayIndent)
    | token => done (stopAt t (.noStatement token))

def body (ts : List Lexeme) : Program (List Statement × List Lexeme) :=
  if nextIs .dedent ts then pure ([], ts)
  else do
    let (s, rest) ← ask .statement ts
    let (later, rest) ← ask .body rest
    return (s :: later, rest)

def statements : List Lexeme → Program (List Statement × List Lexeme)
  | [] => pure ([], [])
  | t :: rest => do
    let (s, rest) ← ask .statement (t :: rest)
    let (later, rest) ← ask .statements rest
    return (s :: later, rest)

/-- The program of a reader. -/
def reader (m : Markers) : (r : ParseReader) → List Lexeme → Program (r.Result × List Lexeme)
  | .atom => atom
  | .factors left => factors left
  | .product => product
  | .sums left => sums left
  | .expr => expr
  | .items close => items close
  | .entries => entries
  | .attributes => attributes
  | .parts => parts m
  | .block => block
  | .choice => choice
  | .statement => statement
  | .body => body
  | .statements => statements

end Program

end HtmlTemplate
