import HtmlTemplate.Number.Text
import HtmlTemplate.Value.Basic

/-!
# Text of values

The plain text of a value, and the text that is written into markup: there the five characters with
a meaning in markup stand as entities. Nothing is empty on its own and `None` in a collection.
-/

namespace HtmlTemplate

def entity (c : Char) : List Char :=
  match c with
  | '&' => "&amp;".toList
  | '<' => "&lt;".toList
  | '>' => "&gt;".toList
  | '"' => "&quot;".toList
  | '\'' => "&#x27;".toList
  | c => [c]

def escape (text : List Char) : List Char := text.flatMap entity

@[simp] theorem escape_nil : escape [] = [] := rfl

@[simp] theorem escape_append (xs ys : List Char) : escape (xs ++ ys) = escape xs ++ escape ys := by
  simp [escape]

def boolText (b : Bool) : List Char := (if b then "True" else "False").toList

namespace Value

mutual

def plainItem : Value → List Char
  | .nothing => "None".toList
  | .bool b => boolText b
  | .number n => n.text
  | .string s => s.toList
  | .array items => '[' :: plainItems items ++ [']']
  | .dict entries => '{' :: plainEntries entries ++ ['}']

def plainItems : List Value → List Char
  | [] => []
  | [v] => plainItem v
  | v :: vs => plainItem v ++ [',', ' '] ++ plainItems vs

def plainEntries : List (String × Value) → List Char
  | [] => []
  | [(k, v)] => k.toList ++ [':', ' '] ++ plainItem v
  | (k, v) :: es => k.toList ++ [':', ' '] ++ plainItem v ++ [',', ' '] ++ plainEntries es

end

def plain : Value → List Char
  | .nothing => []
  | v => plainItem v

mutual

def writeItem : Value → List Char
  | .nothing => "None".toList
  | .bool b => boolText b
  | .number n => n.text
  | .string s => escape s.toList
  | .array items => '[' :: writeItems items ++ [']']
  | .dict entries => '{' :: writeEntries entries ++ ['}']

def writeItems : List Value → List Char
  | [] => []
  | [v] => writeItem v
  | v :: vs => writeItem v ++ [',', ' '] ++ writeItems vs

def writeEntries : List (String × Value) → List Char
  | [] => []
  | [(k, v)] => escape k.toList ++ [':', ' '] ++ writeItem v
  | (k, v) :: es => escape k.toList ++ [':', ' '] ++ writeItem v ++ [',', ' '] ++ writeEntries es

end

/-- What a splice or an attribute writes. -/
def write : Value → List Char
  | .nothing => []
  | v => writeItem v

/-- The text of a value that may be the key of a dictionary. -/
def key? : Value → Option String
  | .string s => some s
  | .number n => some (String.ofList n.text)
  | .bool b => some (String.ofList (boolText b))
  | _ => none

end Value

end HtmlTemplate
