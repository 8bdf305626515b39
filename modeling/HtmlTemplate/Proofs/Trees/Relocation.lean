import HtmlTemplate.Tree.Basic

/-!
# Relocation of trees

A tree whose regions are replaced says the same in another place of a source. Two trees that are
equal without their regions differ at most in where they stand.
-/

namespace HtmlTemplate

variable (f : Region → Region)

def Ident.relocate (i : Ident) : Ident := ⟨i.name, f i.region⟩

mutual

def Expr.relocate : Expr → Expr
  | .literal v r => .literal v (f r)
  | .var name => .var (name.relocate f)
  | .array items r => .array (relocateItems items) (f r)
  | .dict entries r => .dict (relocateEntries entries) (f r)
  | .binary op left right => .binary op left.relocate right.relocate
  | .call function arguments r => .call (function.relocate f) (relocateItems arguments) (f r)

def relocateItems : List Expr → List Expr
  | [] => []
  | e :: es => e.relocate :: relocateItems es

def relocateEntries : List (Expr × Expr) → List (Expr × Expr)
  | [] => []
  | (key, value) :: es => (key.relocate, value.relocate) :: relocateEntries es

end

def relocateAttributes (attributes : List (Ident × Expr)) : List (Ident × Expr) :=
  attributes.map fun a => (a.1.relocate f, a.2.relocate f)

@[simp] theorem relocateAttributes_cons (a : Ident × Expr) (later : List (Ident × Expr)) :
    relocateAttributes f (a :: later) =
      (a.1.relocate f, a.2.relocate f) :: relocateAttributes f later := rfl

def Part.relocate : Part → Part
  | .text chars => .text chars
  | .splice e => .splice (e.relocate f)

mutual

def Statement.relocate : Statement → Statement
  | .tag name attributes body =>
    .tag (name.relocate f) (relocateAttributes f attributes) (relocateAll body)
  | .text parts => .text (parts.map (Part.relocate f))
  | .choice condition body otherwise =>
    .choice (condition.relocate f) (relocateAll body) (relocateAll otherwise)
  | .loop name iterable body => .loop (name.relocate f) (iterable.relocate f) (relocateAll body)
  | .assign name value => .assign (name.relocate f) (value.relocate f)

def relocateAll : List Statement → List Statement
  | [] => []
  | s :: ss => s.relocate :: relocateAll ss

end

/-! ## Trees that stay in place -/

mutual

theorem Expr.relocate_id : ∀ e : Expr, e.relocate id = e
  | .literal v r => rfl
  | .var name => rfl
  | .array items r => by simp [Expr.relocate, relocateItems_id items]
  | .dict entries r => by simp [Expr.relocate, relocateEntries_id entries]
  | .binary op left right => by simp [Expr.relocate, left.relocate_id, right.relocate_id]
  | .call function arguments r => by
    simp [Expr.relocate, Ident.relocate, relocateItems_id arguments]

theorem relocateItems_id : ∀ es : List Expr, relocateItems id es = es
  | [] => rfl
  | e :: es => by simp [relocateItems, e.relocate_id, relocateItems_id es]

theorem relocateEntries_id : ∀ es : List (Expr × Expr), relocateEntries id es = es
  | [] => rfl
  | (key, value) :: es => by
    simp [relocateEntries, key.relocate_id, value.relocate_id, relocateEntries_id es]

end

theorem relocateAttributes_id (attributes : List (Ident × Expr)) :
    relocateAttributes id attributes = attributes := by
  induction attributes with
  | nil => rfl
  | cons a later ih => simp [Ident.relocate, Expr.relocate_id, ih]

theorem Part.relocate_id (p : Part) : p.relocate id = p := by
  cases p <;> simp [relocate, Expr.relocate_id]

mutual

theorem Statement.relocate_id : ∀ s : Statement, s.relocate id = s
  | .tag name attributes body => by
    simp [Statement.relocate, Ident.relocate, relocateAttributes_id, relocateAll_id body]
  | .text parts => by
    simp [Statement.relocate, funext Part.relocate_id]
  | .choice condition body otherwise => by
    simp [Statement.relocate, Expr.relocate_id, relocateAll_id body, relocateAll_id otherwise]
  | .loop name iterable body => by
    simp [Statement.relocate, Ident.relocate, Expr.relocate_id, relocateAll_id body]
  | .assign name value => by
    simp [Statement.relocate, Ident.relocate, Expr.relocate_id]

theorem relocateAll_id : ∀ ss : List Statement, relocateAll id ss = ss
  | [] => rfl
  | s :: ss => by simp [relocateAll, s.relocate_id, relocateAll_id ss]

end

/-! ## Trees that are relocated twice -/

section

variable (g : Region → Region)

mutual

theorem Expr.relocate_relocate : ∀ e : Expr, (e.relocate g).relocate f = e.relocate (f ∘ g)
  | .literal v r => rfl
  | .var name => rfl
  | .array items r => by simp [Expr.relocate, relocateItems_relocateItems items]
  | .dict entries r => by simp [Expr.relocate, relocateEntries_relocateEntries entries]
  | .binary op left right => by
    simp [Expr.relocate, left.relocate_relocate, right.relocate_relocate]
  | .call function arguments r => by
    simp [Expr.relocate, Ident.relocate, relocateItems_relocateItems arguments]

theorem relocateItems_relocateItems :
    ∀ es : List Expr, relocateItems f (relocateItems g es) = relocateItems (f ∘ g) es
  | [] => rfl
  | e :: es => by simp [relocateItems, e.relocate_relocate, relocateItems_relocateItems es]

theorem relocateEntries_relocateEntries : ∀ es : List (Expr × Expr),
    relocateEntries f (relocateEntries g es) = relocateEntries (f ∘ g) es
  | [] => rfl
  | (key, value) :: es => by
    simp [relocateEntries, key.relocate_relocate, value.relocate_relocate,
      relocateEntries_relocateEntries es]

end

theorem relocateAttributes_relocateAttributes (attributes : List (Ident × Expr)) :
    relocateAttributes f (relocateAttributes g attributes) =
      relocateAttributes (f ∘ g) attributes := by
  simp [relocateAttributes, Ident.relocate, Expr.relocate_relocate]

theorem Part.relocate_relocate (p : Part) : (p.relocate g).relocate f = p.relocate (f ∘ g) := by
  cases p <;> simp [relocate, Expr.relocate_relocate]

mutual

theorem Statement.relocate_relocate :
    ∀ s : Statement, (s.relocate g).relocate f = s.relocate (f ∘ g)
  | .tag name attributes body => by
    simp [Statement.relocate, Ident.relocate, relocateAttributes_relocateAttributes,
      relocateAll_relocateAll body]
  | .text parts => by
    simp [Statement.relocate, Part.relocate_relocate]
  | .choice condition body otherwise => by
    simp [Statement.relocate, Expr.relocate_relocate, relocateAll_relocateAll body,
      relocateAll_relocateAll otherwise]
  | .loop name iterable body => by
    simp [Statement.relocate, Ident.relocate, Expr.relocate_relocate,
      relocateAll_relocateAll body]
  | .assign name value => by
    simp [Statement.relocate, Ident.relocate, Expr.relocate_relocate]

theorem relocateAll_relocateAll :
    ∀ ss : List Statement, relocateAll f (relocateAll g ss) = relocateAll (f ∘ g) ss
  | [] => rfl
  | s :: ss => by simp [relocateAll, s.relocate_relocate, relocateAll_relocateAll ss]

end

end

/-- Forgets where a tree stands. -/
def Region.forget (_ : Region) : Region := ⟨0, 0⟩

abbrev Expr.bare (e : Expr) : Expr := e.relocate Region.forget

abbrev Statement.bare (s : Statement) : Statement := s.relocate Region.forget

/-- Statements without their regions. -/
abbrev bareAll (ss : List Statement) : List Statement := relocateAll Region.forget ss

theorem bareAll_relocateAll (ss : List Statement) : bareAll (relocateAll f ss) = bareAll ss :=
  relocateAll_relocateAll Region.forget f ss

end HtmlTemplate
