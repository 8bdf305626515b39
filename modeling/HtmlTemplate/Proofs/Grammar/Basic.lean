import HtmlTemplate.Number.Literal
import HtmlTemplate.Token.Lexer
import HtmlTemplate.Tree.Basic
import HtmlTemplate.Tree.Escapes

/-!
# Grammar

The trees that a list of lexemes denotes, without a word on how they are found. Lists have a comma
between any two members and perhaps one behind the last. Sums and products group to the left, and
products stand within sums. Parentheses denote nothing; the region of what other brackets enclose
reaches from one bracket to the other.
-/

namespace HtmlTemplate

/-- Line ends and changes of the indentation. -/
def Token.isLayout : Token → Bool
  | .newline | .indent | .dedent => true
  | _ => false

def Lexeme.ident (t : Lexeme) : Ident := ⟨t.word, t.region⟩

/-- The words that are values. -/
def Token.value? : Token → Option Value
  | .trueWord => some (.bool true)
  | .falseWord => some (.bool false)
  | .noneWord => some .nothing
  | _ => none

namespace Grammar

mutual

/-- Products with `+` and `-` between them. -/
inductive Sum : List Lexeme → Expr → Prop where
  | product {ts e} : Product ts e → Sum ts e
  | binary {ts us t op left right} : Sum ts left → t.token = .operator op → op.isProduct = false →
      Product us right → Sum (ts ++ t :: us) (.binary op left right)

/-- Atoms with `*` and `/` between them. -/
inductive Product : List Lexeme → Expr → Prop where
  | atom {ts e} : Atom ts e → Product ts e
  | binary {ts us t op left right} : Product ts left → t.token = .operator op →
      op.isProduct = true → Atom us right → Product (ts ++ t :: us) (.binary op left right)

inductive Atom : List Lexeme → Expr → Prop where
  | number {t n} : t.token = .number → NumberLiteral.read? t.chars = some n →
      Atom [t] (.literal (.number n) t.region)
  /-- A sign stands right in front of its number. -/
  | plus {t u n} : t.token = .operator .add → u.token = .number →
      t.region.stop = u.region.start → NumberLiteral.read? u.chars = some n →
      Atom [t, u] (.literal (.number n) (t.region.join u.region))
  | minus {t u n} : t.token = .operator .subtract → u.token = .number →
      t.region.stop = u.region.start → NumberLiteral.read? ('-' :: u.chars) = some n →
      Atom [t, u] (.literal (.number n) (t.region.join u.region))
  | string {t s} : t.token = .string → decodeString? (insideQuotes t.chars) = some s →
      Atom [t] (.literal (.string (String.ofList s)) t.region)
  | word {t v} : t.token.value? = some v → Atom [t] (.literal v t.region)
  | parens {t u ts e} : t.token = .opening .round → Sum ts e → u.token = .closing .round →
      Atom (t :: ts ++ [u]) e
  | array {t u ts items} : t.token = .opening .square → Items ts items →
      u.token = .closing .square → Atom (t :: ts ++ [u]) (.array items (t.region.join u.region))
  | dict {t u ts entries} : t.token = .opening .curly → Entries ts entries →
      u.token = .closing .curly → Atom (t :: ts ++ [u]) (.dict entries (t.region.join u.region))
  | var {t} : t.token = .identifier → Atom [t] (.var t.ident)
  | call {t u v ts arguments} : t.token = .identifier → u.token = .opening .round →
      Items ts arguments → v.token = .closing .round →
      Atom (t :: u :: ts ++ [v]) (.call t.ident arguments (t.region.join v.region))

inductive Items : List Lexeme → List Expr → Prop where
  | nil : Items [] []
  | last {ts e} : Sum ts e → Items ts [e]
  | cons {ts us t e es} : Sum ts e → t.token = .comma → Items us es →
      Items (ts ++ t :: us) (e :: es)

inductive Entries : List Lexeme → List (Expr × Expr) → Prop where
  | nil : Entries [] []
  | last {ts us t key value} : Sum ts key → t.token = .colon → Sum us value →
      Entries (ts ++ t :: us) [(key, value)]
  | cons {ts us vs t u key value es} : Sum ts key → t.token = .colon → Sum us value →
      u.token = .comma → Entries vs es → Entries (ts ++ t :: us ++ u :: vs) ((key, value) :: es)

end

inductive Attributes : List Lexeme → List (Ident × Expr) → Prop where
  | nil : Attributes [] []
  | last {ts t u e} : t.token = .identifier → u.token = .assign → Sum ts e →
      Attributes (t :: u :: ts) [(t.ident, e)]
  | cons {ts us t u v e later} : t.token = .identifier → u.token = .assign → Sum ts e →
      v.token = .comma → Attributes us later →
      Attributes (t :: u :: ts ++ v :: us) ((t.ident, e) :: later)

/-- The attributes of a tag, if it has any, stand in parentheses. -/
inductive Head : List Lexeme → List (Ident × Expr) → Prop where
  | bare : Head [] []
  | listed {t u ts attributes} : t.token = .opening .round → Attributes ts attributes →
      u.token = .closing .round → Head (t :: ts ++ [u]) attributes

variable (m : Markers)

/-- Pieces of text, and expressions within their markers. -/
inductive Parts : List Lexeme → List Part → Prop where
  | nil : Parts [] []
  | text {ts t parts} : t.token = .text → Parts ts parts →
      Parts (t :: ts) (.text (plainText m t.chars) :: parts)
  | splice {ts us t u e parts} : t.token = .openSplice → Sum ts e → u.token = .closeSplice →
      Parts us parts → Parts (t :: ts ++ u :: us) (.splice e :: parts)

mutual

inductive Line : List Lexeme → Statement → Prop where
  | assign {ts t u v w e} : t.token = .keyword .varKw → u.token = .identifier → v.token = .assign →
      Sum ts e → w.token = .newline → Line (t :: u :: v :: ts ++ [w]) (.assign u.ident e)
  | text {ts t u parts} : t.token = .marker → Parts m ts parts → parts ≠ [] →
      u.token = .newline → Line (t :: ts ++ [u]) (.text parts)
  | choice {ts t s} : t.token = .keyword .ifKw → Branches ts s → Line (t :: ts) s
  | loop {ts us t u v e body} : t.token = .keyword .forKw → u.token = .identifier →
      v.token = .keyword .inKw → Sum ts e → Block us body →
      Line (t :: u :: v :: ts ++ us) (.loop u.ident e body)
  | tag {ts us t attributes body} : t.token = .identifier → Head ts attributes → Block us body →
      Line (t :: ts ++ us) (.tag t.ident attributes body)
  | emptyTag {ts t u attributes} : t.token = .identifier → Head ts attributes →
      u.token = .newline → Line (t :: ts ++ [u]) (.tag t.ident attributes [])

/-- A condition with its block, and the branches that belong to it. A further condition is the only
statement of the alternative. -/
inductive Branches : List Lexeme → Statement → Prop where
  | alone {ts us e body} : Sum ts e → Block us body → Branches (ts ++ us) (.choice e body [])
  | elif {ts us vs t e body s} : Sum ts e → Block us body → t.token = .keyword .elifKw →
      Branches vs s → Branches (ts ++ us ++ t :: vs) (.choice e body [s])
  | otherwise {ts us vs t e body other} : Sum ts e → Block us body → t.token = .keyword .elseKw →
      Block vs other → Branches (ts ++ us ++ t :: vs) (.choice e body other)

/-- At least one line, further in than the one before the block. -/
inductive Block : List Lexeme → List Statement → Prop where
  | mk {ts t u v w body} : t.token = .colon → u.token = .newline → v.token = .indent →
      Lines ts body → body ≠ [] → w.token = .dedent → Block (t :: u :: v :: ts ++ [w]) body

inductive Lines : List Lexeme → List Statement → Prop where
  | nil : Lines [] []
  | cons {ts us s ss} : Line ts s → Lines us ss → Lines (ts ++ us) (s :: ss)

end

end Grammar

end HtmlTemplate
