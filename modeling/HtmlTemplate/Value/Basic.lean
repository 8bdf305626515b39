import HtmlTemplate.Number.Basic
import HtmlTemplate.Value.Entries

/-!
# Values

What names stand for and expressions yield. A dictionary lists its entries in the order in which
their keys first came.
-/

namespace HtmlTemplate

inductive Value where
  | nothing
  | bool (b : Bool)
  | number (n : Number)
  | string (s : String)
  | array (items : List Value)
  | dict (entries : List (String × Value))

namespace Value

/-- The name of a value's type in messages. -/
def typeName : Value → String
  | .nothing => "None"
  | .bool _ => "boolean"
  | .number _ => "number"
  | .string _ => "string"
  | .array _ => "array"
  | .dict _ => "dictionary"

def isTruthy : Value → Bool
  | .nothing => false
  | .bool b => b
  | .number n => !n.isZero
  | .string s => !s.isEmpty
  | .array items => !items.isEmpty
  | .dict entries => !entries.isEmpty

/-- What a loop visits: the items of an array, the keys of a dictionary, the characters of a
string. -/
def items? : Value → Option (List Value)
  | .array items => some items
  | .dict entries => some (entries.map fun e => .string e.1)
  | .string s => some (s.toList.map fun c => .string c.toString)
  | _ => none

end Value

end HtmlTemplate
