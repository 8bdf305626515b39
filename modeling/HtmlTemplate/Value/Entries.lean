/-!
# Entries

A list of named entries in which a name that is put again keeps its place and takes the new value.
-/

namespace HtmlTemplate

abbrev Entries (α : Type) := List (String × α)

namespace Entries

variable {α : Type}

def put (name : String) (a : α) : Entries α → Entries α
  | [] => [(name, a)]
  | e :: es => if e.1 = name then (name, a) :: es else e :: put name a es

/-- Puts each pair in turn. -/
def ofPairs (pairs : List (String × α)) : Entries α :=
  pairs.foldl (fun es p => put p.1 p.2 es) []

def get? (name : String) : Entries α → Option α
  | [] => none
  | e :: es => if e.1 = name then some e.2 else get? name es

def names (es : Entries α) : List String := es.map (·.1)

theorem get?_put (name other : String) (a : α) (es : Entries α) :
    get? other (put name a es) = if name = other then some a else get? other es := by
  induction es with
  | nil => rfl
  | cons e es ih =>
    simp only [put]
    by_cases h : e.1 = name
    · rw [if_pos h]
      simp only [get?, h]
      split <;> rfl
    · rw [if_neg h]
      simp only [get?, ih]
      by_cases h' : e.1 = other
      · have : name ≠ other := by rintro rfl; exact h h'
        simp [h', this]
      · simp [h']

theorem names_put (name : String) (a : α) (es : Entries α) :
    names (put name a es) = if name ∈ names es then names es else names es ++ [name] := by
  induction es with
  | nil => rfl
  | cons e es ih =>
    simp only [put]
    by_cases h : e.1 = name
    · simp [h, names]
    · rw [if_neg h]
      have : name ≠ e.1 := Ne.symm h
      simp only [names, List.map_cons, List.mem_cons, this, false_or] at ih ⊢
      rw [ih]
      split <;> simp [*]

theorem nodup_names_put {name : String} {a : α} {es : Entries α} (h : (names es).Nodup) :
    (names (put name a es)).Nodup := by
  rw [names_put]
  split
  · exact h
  · next fresh =>
    rw [List.nodup_append]
    refine ⟨h, by simp, ?_⟩
    intro x hx y hy
    rw [List.mem_singleton] at hy
    rintro rfl
    exact fresh (hy ▸ hx)

theorem mem_names_iff {name : String} {es : Entries α} :
    name ∈ names es ↔ (get? name es).isSome = true := by
  induction es with
  | nil => simp [names, get?]
  | cons e es ih =>
    simp only [names, List.map_cons, List.mem_cons, get?] at ih ⊢
    by_cases h : e.1 = name
    · simp [h]
    · have : name ≠ e.1 := Ne.symm h
      simp [h, this, ih]

end Entries

end HtmlTemplate
