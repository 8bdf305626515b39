import HtmlTemplate.Source.Region
import HtmlTemplate.Number.Arithmetic
import HtmlTemplate.Value.Basic

/-!
# Trees

What a template says: statements that write markup or bind names, and the expressions in them. Each
expression knows the region it was read from.
-/

namespace HtmlTemplate

structure Ident where
  name : String
  region : Region
  deriving DecidableEq

inductive Expr where
  | literal (value : Value) (region : Region)
  | var (name : Ident)
  | array (items : List Expr) (region : Region)
  | dict (entries : List (Expr × Expr)) (region : Region)
  | binary (op : Operator) (left right : Expr)
  | call (function : Ident) (arguments : List Expr) (region : Region)

/-- Parentheses do not count. -/
def Expr.region : Expr → Region
  | .literal _ r => r
  | .var name => name.region
  | .array _ r => r
  | .dict _ r => r
  | .binary _ left right => left.region.join right.region
  | .call _ _ r => r

inductive Part where
  | text (chars : List Char)
  | splice (e : Expr)

inductive Statement where
  | tag (name : Ident) (attributes : List (Ident × Expr)) (body : List Statement)
  | text (parts : List Part)
  /-- Without an alternative the last block is empty. -/
  | choice (condition : Expr) (body otherwise : List Statement)
  | loop (name : Ident) (iterable : Expr) (body : List Statement)
  | assign (name : Ident) (value : Expr)

end HtmlTemplate
