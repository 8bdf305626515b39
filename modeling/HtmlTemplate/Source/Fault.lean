import HtmlTemplate.Error.Basic
import HtmlTemplate.Token.Basic

/-!
# Faults of a source

What keeps a source from being a template, and where. Each cause has its wording here, and becomes
an error of the syntactic kind that points at its place and gives help.
-/

namespace HtmlTemplate

inductive Cause where
  /-- The indentation of a line is that of no open block. -/
  | indentation
  /-- A character that begins no token. -/
  | strangeCharacter
  | openString
  | unopenedBracket (b : Bracket)
  | wrongBracket (wanted found : Bracket)
  | openBracket (b : Bracket)
  /-- A splice that goes on at the end of its line. -/
  | splicedLine (closing : Char)
  /-- A splice that goes on at the end of the source. -/
  | openSplice (closing : Char)
  /-- A branch that follows no condition. -/
  | strayBranch (k : Keyword)
  | strayIndent
  | noStatement (found : Token)
  | noBlock
  | noBlockAtEnd
  | emptyText
  | expected (token found : Token)
  | expectedAtEnd (token : Token)
  | noTextPart (found : Token)
  | noExpression (found : Token)
  | anythingAtEnd
  /-- A sign that stands apart from its number. -/
  | looseSign (digits : String)
  /-- An operator of products in place of a sign. -/
  | productSign
  | escape
  | number
  deriving DecidableEq

namespace Cause

def reason : Cause → String
  | .strangeCharacter | .unopenedBracket _ | .wrongBracket .. | .strayBranch _ | .noStatement _
  | .expected .. | .noTextPart _ | .noExpression _ | .looseSign _ | .productSign =>
    "unexpected token"
  | .openSplice _ | .noBlockAtEnd | .expectedAtEnd _ | .anythingAtEnd => "unexpected eof"
  | .openString | .openBracket _ | .splicedLine _ | .strayIndent | .noBlock | .emptyText =>
    "invalid syntax"
  | .indentation => "invalid indentation"
  | .escape => "unexpected escape character"
  | .number => "unrecognizable number"

def expectedFound (wanted found : String) : String :=
  "expected " ++ wanted ++ ", found " ++ found

def help : Cause → String
  | .indentation =>
    "indentation does not match any outer block, did you mix tabs and spaces?"
  | .strangeCharacter =>
    "expected one of `*`, `+`, `/`, `-`, `=`, `,`, `:`, a bracket, an identifier, " ++
      "an ascii digit, or beginning of a string literal marked with `\"`"
  | .openString => "this might be an undelimited string, try closing it with `\"`"
  | .unopenedBracket b =>
    "this " ++ (Token.closing b).describe ++ " has no matching opening bracket"
  | .wrongBracket wanted found =>
    expectedFound (Token.closing wanted).describe (Token.closing found).describe
  | .openBracket b => "this " ++ (Token.opening b).describe ++ " is never closed"
  | .splicedLine closing =>
    "a splice must be closed with `" ++ closing.toString ++ "` before the end of the line"
  | .openSplice closing => "did you close the splice with `" ++ closing.toString ++ "`?"
  | .strayBranch k => "found `" ++ k.text ++ "` without a matching `if`"
  | .strayIndent => "unexpected indent, only the body of a block may be indented"
  | .noStatement found =>
    "expected a statement like `var`, `if`, `for`, a tag or a text line, found " ++ found.describe
  | .noBlock | .noBlockAtEnd => "expected an indented block"
  | .emptyText => "expected text after the text marker"
  | .expected token found => expectedFound token.describe found.describe
  | .expectedAtEnd token => "expected " ++ token.describe
  | .noTextPart found => expectedFound "text or a splice" found.describe
  | .noExpression found => expectedFound "an expression" found.describe
  | .anythingAtEnd => "expected additional tokens, did you close all brackets and splices?"
  | .looseSign digits =>
    "if you want to indicate that " ++ digits ++
      " is a positive or negative number try removing the separating whitespace"
  | .productSign =>
    "only `" ++ Operator.add.text ++ "` or `" ++ Operator.subtract.text ++
      "` operators to indicate a positive or negative number are valid here"
  | .escape => "recognized escapes are `\\n`, `\\r`, `\\t`, `\\\\` and `\\\"`"
  | .number =>
    "numbers may begin with `" ++ Operator.subtract.text ++
      "` to indicate a negative number and must not end with a decimal"

end Cause

structure Fault where
  region : Region
  cause : Cause
  deriving DecidableEq

def Fault.toError (source : List Char) (name : Option String) (f : Fault) : Error where
  reason := f.cause.reason
  kind := .syntactic
  help := some f.cause.help
  name := name
  visual := some (.pointer (.ofRegion source f.region))

end HtmlTemplate
