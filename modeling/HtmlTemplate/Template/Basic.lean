import HtmlTemplate.Template.Render
import HtmlTemplate.Tree.Parser

/-!
# Templates

A template is compiled once from its source and rendered any number of times. Its name, if it has
one, is that of all errors which bring none of their own.
-/

namespace HtmlTemplate

structure Template where
  name : Option String
  source : String
  statements : List Statement

namespace Template

def compile (markers : Markers) (name : Option String) (source : String) :
    Except Error Template :=
  match parseSource markers source.toList with
  | .ok statements => .ok ⟨name, source, statements⟩
  | .error f => .error (f.toError source.toList name)

def forest (t : Template) : Render (List Node) := renderBlock t.statements

/-- The text of the template in a context, and the context afterwards. -/
def render (t : Template) (c : Context) : Except Error String × Context :=
  match t.forest c with
  | (.ok nodes, c) => (.ok (String.ofList (Node.writeAll nodes)), c)
  | (.error f, c) => (.error (f.toError t.source.toList t.name), c)

end Template

end HtmlTemplate
