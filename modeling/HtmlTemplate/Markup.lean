/-!
# Markup

The elements and texts that a template writes. Their texts are final: what has to be escaped in them
is escaped already.
-/

namespace HtmlTemplate

structure Attribute where
  name : String
  value : List Char
  deriving DecidableEq

def Attribute.write (a : Attribute) : List Char :=
  ' ' :: a.name.toList ++ ['=', '"'] ++ a.value ++ ['"']

inductive Node where
  | text (chars : List Char)
  | element (name : String) (attributes : List Attribute) (children : List Node)

namespace Node

mutual

def write : Node → List Char
  | .text chars => chars
  | .element name attributes children =>
    '<' :: name.toList ++ attributes.flatMap Attribute.write ++ ['>'] ++
      writeAll children ++
      ['<', '/'] ++ name.toList ++ ['>']

def writeAll : List Node → List Char
  | [] => []
  | n :: ns => write n ++ writeAll ns

end

@[simp] theorem writeAll_append (xs ys : List Node) :
    writeAll (xs ++ ys) = writeAll xs ++ writeAll ys := by
  induction xs with
  | nil => rfl
  | cons x xs ih => simp [writeAll, ih]

end Node

end HtmlTemplate
