import HtmlTemplate.Unicode.Printable
import HtmlTemplate.Error.Basic

/-!
# Errors in full

Below its display an error is listed field by field. Texts stand in quotes there, with an escape
for every character that would not be seen.
-/

namespace HtmlTemplate.Error

def hexDigits (n : Nat) : String := String.ofList (Nat.toDigits 16 n)

def escapeChar (c : Char) : String :=
  match c with
  | '\x00' => "\\0"
  | '\t' => "\\t"
  | '\r' => "\\r"
  | '\n' => "\\n"
  | '"' => "\\\""
  | '\\' => "\\\\"
  | c =>
    if Unicode.extendsGrapheme c || !Unicode.isPrintable c then
      "\\u\x7b" ++ hexDigits c.toNat ++ "\x7d"
    else c.toString

def quote (text : List Char) : String := "\"" ++ String.join (text.map escapeChar) ++ "\""

def optional (f : α → String) : Option α → String
  | some a => "Some(" ++ f a ++ ")"
  | none => "None"

def record (name : String) (fields : List (String × String)) : String :=
  name ++ " \x7b " ++ String.intercalate ", " (fields.map fun f => f.1 ++ ": " ++ f.2) ++ " \x7d"

def kindLabel : ErrorKind → String
  | .syntactic => "Syntax"
  | .arithmetic => "Arithmetic"
  | .typeMismatch => "TypeMismatch"
  | .iteration => "Iteration"
  | .template => "Template"
  | .write => "Write"
  | .general => "General"

def visualFields : Visual → String
  | .pointer p => record "Pointer" [("line", toString p.position.line),
      ("column", toString p.position.column), ("length", toString p.length), ("text", quote p.text)]
  | .drawing d => d.label

def fields (e : Error) : String :=
  record "Error" [
    ("reason", quote e.reason.toList),
    ("kind", kindLabel e.kind),
    ("name", optional (fun s => quote s.toList) e.name),
    ("visual", optional visualFields e.visual),
    ("help", optional (fun s => quote s.toList) e.help)]

def details (e : Error) : String := e.display ++ "\n" ++ e.fields

end HtmlTemplate.Error
