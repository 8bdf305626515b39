import HtmlTemplate.Template.Basic

/-!
# Engines

An engine compiles templates with its markers and keeps those that have a name.
-/

namespace HtmlTemplate

structure Engine where
  markers : Markers := .standard
  templates : Entries Template := []

namespace Engine

def missing (name : String) : Error where
  reason := "missing template"
  kind := .template
  help := some ("template `" ++ name ++ "` not found in engine, add it with `.add_template`")

def duplicate (name : String) : Error where
  reason := "duplicate template"
  kind := .template
  name := some name
  help := some ("template with name `" ++ name ++
    "` already exists in engine, overwrite it with `.add_template_must`")

def compile (e : Engine) (source : String) : Except Error Template :=
  Template.compile e.markers none source

def get? (e : Engine) (name : String) : Option Template := e.templates.get? name

/-- Adds a template or puts it in the place of another. -/
def replace (e : Engine) (name source : String) : Except Error Engine := do
  let t ← Template.compile e.markers (some name) source
  return { e with templates := e.templates.put name t }

/-- Adds a template under a name that is free. -/
def add (e : Engine) (name source : String) : Except Error Engine :=
  if (e.get? name).isSome then .error (duplicate name) else e.replace name source

def render (e : Engine) (name : String) (c : Context) : Except Error String × Context :=
  match e.get? name with
  | some t => t.render c
  | none => (.error (missing name), c)

end Engine

end HtmlTemplate
