import HtmlTemplate.Proofs.Lexing.Words
import HtmlTemplate.Proofs.Printing.Literals
import HtmlTemplate.Tree.Basic
import HtmlTemplate.Value.Text

/-!
# Printing of trees

A tree as a source. How far the lines of a block go in, and whether a further condition is printed
as a branch or as a block, is left to a style. Parentheses stand only where the operators around
them would bind otherwise.
-/

namespace HtmlTemplate

/-! ## Expressions -/

/-- How tightly an expression binds at least. -/
inductive Level where
  | sum
  | product
  | atom
  deriving DecidableEq

def Level.tighter : Level → Level
  | .sum => .product
  | .product | .atom => .atom

/-- Needs no parentheses. -/
def Level.admits : Level → Operator → Bool
  | .sum, _ => true
  | .product, op => op.isProduct
  | .atom, _ => false

def Operator.level (op : Operator) : Level := if op.isProduct then .product else .sum

def Operator.spaced (op : Operator) : List Char := ' ' :: op.text.toList ++ [' ']

def Value.print : Value → List Char
  | .nothing => "None".toList
  | .bool b => boolText b
  | .number n => n.text
  | .string s => quoted s.toList
  | .array _ | .dict _ => []

/-- Has a literal of its own. -/
def Value.IsLiteral : Value → Prop
  | .nothing | .bool _ | .number (.int _) | .string _ => True
  | .number (.float _) | .array _ | .dict _ => False

mutual

def Expr.print (level : Level) : Expr → List Char
  | .literal v _ => v.print
  | .var name => name.name.toList
  | .array items _ => '[' :: printItems items ++ [']']
  | .dict entries _ => '{' :: printEntries entries ++ ['}']
  | .binary op left right =>
    let text := left.print op.level ++ op.spaced ++ right.print op.level.tighter
    if level.admits op then text else '(' :: text ++ [')']
  | .call function arguments _ => function.name.toList ++ ('(' :: printItems arguments ++ [')'])

def printItems : List Expr → List Char
  | [] => []
  | e :: es => e.print .sum ++ if es.isEmpty then [] else [',', ' '] ++ printItems es

def printEntries : List (Expr × Expr) → List Char
  | [] => []
  | (key, value) :: es =>
    key.print .sum ++ ([':', ' '] ++ value.print .sum) ++
      if es.isEmpty then [] else [',', ' '] ++ printEntries es

end

mutual

def Expr.Printable : Expr → Prop
  | .literal v _ => v.IsLiteral
  | .var name => IsName name.name
  | .array items _ => PrintableItems items
  | .dict entries _ => PrintableEntries entries
  | .binary _ left right => left.Printable ∧ right.Printable
  | .call function arguments _ => IsName function.name ∧ PrintableItems arguments

def PrintableItems : List Expr → Prop
  | [] => True
  | e :: es => e.Printable ∧ PrintableItems es

def PrintableEntries : List (Expr × Expr) → Prop
  | [] => True
  | (key, value) :: es => key.Printable ∧ value.Printable ∧ PrintableEntries es

end

/-! ## Statements -/

/-- Blank characters by which a block goes further in, at least one. -/
structure Margin where
  chars : List Char
  nonempty : chars ≠ []
  blank : ∀ c ∈ chars, isBlank c = true

/-- The choices of a printer. Paths tell the blocks and the alternatives of a tree apart. -/
structure Style where
  margin : List Bool → Margin
  /-- A condition that is all of an alternative continues the choice it stands in. -/
  joins : List Bool → Bool

def Style.down (style : Style) (b : Bool) : Style :=
  ⟨fun path => style.margin (b :: path), fun path => style.joins (b :: path)⟩

/-- The indentation of a block within another one. -/
def Style.within (style : Style) (indent : List Char) : List Char :=
  indent ++ (style.margin []).chars

def printAttributes : List (Ident × Expr) → List Char
  | [] => []
  | (name, e) :: later =>
    name.name.toList ++ ([' ', '=', ' '] ++ e.print .sum) ++
      if later.isEmpty then [] else [',', ' '] ++ printAttributes later

def Part.print : Part → List Char
  | .text chars => shielded chars
  | .splice e => '{' :: e.print .sum ++ ['}']

def printParts (parts : List Part) : List Char := parts.flatMap Part.print

def Part.isText : Part → Bool
  | .text _ => true
  | .splice _ => false

def Statement.isChoice : Statement → Bool
  | .choice _ _ _ => true
  | _ => false

/-- A keyword in front of something else. -/
def Keyword.print (k : Keyword) (cs : List Char) : List Char := k.text.toList ++ ' ' :: cs

/-- The first line of a statement. A choice begins with a word. -/
def Statement.head (word : Keyword) : Statement → List Char
  | .tag name attributes body =>
    let listed := if attributes.isEmpty then [] else '(' :: printAttributes attributes ++ [')']
    name.name.toList ++ listed ++ if body.isEmpty then [] else [':']
  | .text parts => '-' :: printParts parts
  | .choice condition _ _ => word.print (condition.print .sum) ++ [':']
  | .loop name iterable _ =>
    let source := Keyword.inKw.print (iterable.print .sum)
    Keyword.forKw.print (name.name.toList ++ ' ' :: source) ++ [':']
  | .assign name value =>
    Keyword.varKw.print (name.name.toList ++ ([' ', '=', ' '] ++ value.print .sum))

mutual

/-- The lines of a statement. -/
def Statement.print (word : Keyword) (style : Style) (indent : List Char) (s : Statement) :
    List Char :=
  indent ++ s.head word ++ ['\n'] ++
    match s with
    | .tag _ _ body | .loop _ _ body => printLines style (style.within indent) body
    | .choice _ body otherwise =>
      printLines (style.down false) ((style.down false).within indent) body ++
        printOtherwise (style.down true) indent otherwise
    | .text _ | .assign _ _ => []

/-- The alternative of a choice, if there is one. -/
def printOtherwise (style : Style) (indent : List Char) : List Statement → List Char
  | [] => []
  | s :: ss =>
    if ss.isEmpty && s.isChoice && style.joins [] then s.print .elifKw (style.down false) indent
    else
      indent ++ (Keyword.elseKw.text.toList ++ [':']) ++ ['\n'] ++
        (s.print .ifKw (style.down false) (style.within indent) ++
          printLines (style.down true) (style.within indent) ss)

def printLines (style : Style) (indent : List Char) : List Statement → List Char
  | [] => []
  | s :: ss => s.print .ifKw (style.down false) indent ++ printLines (style.down true) indent ss

end

/-- Two texts side by side would be one, and a text at the end of its line loses a carriage
return. -/
structure PrintableParts (parts : List Part) : Prop where
  texts : ∀ chars, .text chars ∈ parts → chars ≠ [] ∧ '\n' ∉ chars
  splices : ∀ e, .splice e ∈ parts → e.Printable
  apart : parts.IsChain fun p q => ¬ (p.isText = true ∧ q.isText = true)
  noReturn : ∀ chars, parts.getLast? = some (.text chars) → chars.getLast? ≠ some '\r'

def PrintableAttributes (attributes : List (Ident × Expr)) : Prop :=
  ∀ a ∈ attributes, IsName a.1.name ∧ a.2.Printable

mutual

/-- Has a source. -/
def Statement.Printable : Statement → Prop
  | .tag name attributes body =>
    IsName name.name ∧ PrintableAttributes attributes ∧ PrintableAll body
  | .text parts => parts ≠ [] ∧ PrintableParts parts
  | .choice condition body otherwise =>
    condition.Printable ∧ body ≠ [] ∧ PrintableAll body ∧ PrintableAll otherwise
  | .loop name iterable body =>
    IsName name.name ∧ iterable.Printable ∧ body ≠ [] ∧ PrintableAll body
  | .assign name value => IsName name.name ∧ value.Printable

def PrintableAll : List Statement → Prop
  | [] => True
  | s :: ss => s.Printable ∧ PrintableAll ss

end

end HtmlTemplate
