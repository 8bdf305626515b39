import HtmlTemplate.Number.Arithmetic
import HtmlTemplate.Source.Region

/-!
# Tokens

A token is the kind of a piece of source, a lexeme the piece itself. Line ends and changes of the
indentation are tokens of their own; other white space is none.
-/

namespace HtmlTemplate

inductive Keyword where
  | varKw
  | ifKw
  | elifKw
  | elseKw
  | forKw
  | inKw
  deriving DecidableEq

def Keyword.all : List Keyword := [.varKw, .ifKw, .elifKw, .elseKw, .forKw, .inKw]

def Keyword.text : Keyword → String
  | .varKw => "var"
  | .ifKw => "if"
  | .elifKw => "elif"
  | .elseKw => "else"
  | .forKw => "for"
  | .inKw => "in"

inductive Bracket where
  | round
  | square
  | curly
  deriving DecidableEq

inductive Token where
  | text
  | marker
  | openSplice
  | closeSplice
  | string
  | number
  | identifier
  | newline
  | indent
  | dedent
  | assign
  | comma
  | colon
  | opening (b : Bracket)
  | closing (b : Bracket)
  | trueWord
  | falseWord
  | noneWord
  | keyword (k : Keyword)
  | operator (op : Operator)
  deriving DecidableEq

/-- The name of a token in messages. -/
def Token.describe : Token → String
  | .text => "text"
  | .marker => "text marker"
  | .openSplice => "begin splice"
  | .closeSplice => "end splice"
  | .string => "string"
  | .number => "number"
  | .identifier => "identifier"
  | .newline => "end of line"
  | .indent => "indent"
  | .dedent => "dedent"
  | .assign => "assign (=)"
  | .comma => "comma (,)"
  | .colon => "colon (:)"
  | .opening .round => "open paren (()"
  | .closing .round => "close paren ())"
  | .opening .square => "open bracket ([)"
  | .closing .square => "close bracket (])"
  | .opening .curly => "open brace (\x7b)"
  | .closing .curly => "close brace (\x7d)"
  | .trueWord => "True"
  | .falseWord => "False"
  | .noneWord => "None"
  | .keyword k => "keyword `" ++ k.text ++ "`"
  | .operator op => "operator `" ++ op.text ++ "`"

/-- The words that are no identifiers. -/
def reservedWords : List (String × Token) :=
  Keyword.all.map (fun k => (k.text, .keyword k)) ++
    [("True", .trueWord), ("False", .falseWord), ("None", .noneWord)]

def Token.ofWord (word : String) : Token := (reservedWords.lookup word).getD .identifier

structure Lexeme where
  token : Token
  start : Nat
  chars : List Char
  deriving DecidableEq

namespace Lexeme

def region (t : Lexeme) : Region := ⟨t.start, t.start + byteLength t.chars⟩

def word (t : Lexeme) : String := String.ofList t.chars

theorem region_start_le_stop (t : Lexeme) : t.region.start ≤ t.region.stop := Nat.le_add_right ..

end Lexeme

end HtmlTemplate
