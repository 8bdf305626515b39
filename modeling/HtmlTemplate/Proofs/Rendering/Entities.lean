import HtmlTemplate.Proofs.Rendering.Escaping
import HtmlTemplate.Source.Region
import Mathlib.Tactic.FinCases

/-!
# Entities

What a value writes is its plain text with entities in place of five characters. One pass that puts
the characters back in place of the entities gives the plain text again, so that no two texts are
written alike.
-/

namespace HtmlTemplate

/-- Has an entity. -/
def isSpecial (c : Char) : Bool := c == '&' || !isInert c

theorem entity_of_not_isSpecial {c : Char} (ordinary : isSpecial c = false) : entity c = [c] := by
  unfold entity
  split
  · cases ordinary
  · cases ordinary
  · cases ordinary
  · cases ordinary
  · cases ordinary
  · rfl

theorem isSpecial_iff {c : Char} : isSpecial c = true ↔ c ∈ ['&', '<', '>', '"', '\''] := by
  constructor
  · intro special
    by_contra other
    simp only [List.mem_cons, List.not_mem_nil, or_false, not_or] at other
    simp [isSpecial, isInert, other] at special
  · intro mem
    fin_cases mem <;> rfl

theorem escape_eq_self {text : List Char} (ordinary : ∀ c ∈ text, isSpecial c = false) :
    escape text = text := by
  induction text with
  | nil => rfl
  | cons c cs ih =>
    obtain ⟨first, later⟩ := List.forall_mem_cons.mp ordinary
    rw [escape, List.flatMap_cons, entity_of_not_isSpecial first]
    exact congrArg (c :: ·) (ih later)

theorem escape_figures {text : List Char} (figures : Figures text) : escape text = text := by
  refine escape_eq_self fun c mem => ?_
  have figure := figures c mem
  have noAmpersand : c ≠ '&' := by
    rintro rfl
    cases figure
  simp [isSpecial, noAmpersand, isInert_of_isFigure figure]

/-! ## Back from entities -/

/-- The text with the five characters in place of their entities. -/
def unescape : List Char → List Char
  | '&' :: 'a' :: 'm' :: 'p' :: ';' :: cs => '&' :: unescape cs
  | '&' :: 'l' :: 't' :: ';' :: cs => '<' :: unescape cs
  | '&' :: 'g' :: 't' :: ';' :: cs => '>' :: unescape cs
  | '&' :: 'q' :: 'u' :: 'o' :: 't' :: ';' :: cs => '"' :: unescape cs
  | '&' :: '#' :: 'x' :: '2' :: '7' :: ';' :: cs => '\'' :: unescape cs
  | c :: cs => c :: unescape cs
  | [] => []

theorem unescape_cons {c : Char} (ordinary : c ≠ '&') (cs : List Char) :
    unescape (c :: cs) = c :: unescape cs := by
  rw [unescape] <;> simp_all

theorem unescape_entity (c : Char) (cs : List Char) :
    unescape (entity c ++ cs) = c :: unescape cs := by
  cases special : isSpecial c with
  | true =>
    have one := isSpecial_iff.mp special
    fin_cases one <;> rfl
  | false =>
    have noAmpersand : c ≠ '&' := by
      rintro rfl
      cases special
    rw [entity_of_not_isSpecial special, List.singleton_append, unescape_cons noAmpersand]

theorem unescape_escape (text : List Char) : unescape (escape text) = text := by
  induction text with
  | nil => rfl
  | cons c cs ih =>
    rw [escape, List.flatMap_cons, unescape_entity]
    exact congrArg (c :: ·) ih

theorem escape_inj {xs ys : List Char} : escape xs = escape ys ↔ xs = ys := by
  refine ⟨fun same => ?_, congrArg escape⟩
  rw [← unescape_escape xs, same, unescape_escape]

/-! ## In stretches -/

/-- Escapes the text from the offset `index` on, where `ahead` is left of it. A stretch of ordinary
characters is cut out of the text at once, from the offset `start` on. -/
def escapeStretches (text : List Char) (start index : Nat) : List Char → List Char
  | [] => Region.literal ⟨start, byteLength text⟩ text
  | c :: ahead =>
    if isSpecial c then
      Region.literal ⟨start, index⟩ text ++ entity c ++
        escapeStretches text (index + 1) (index + c.utf8Size) ahead
    else escapeStretches text start (index + c.utf8Size) ahead

theorem utf8Size_of_isSpecial {c : Char} (special : isSpecial c = true) : c.utf8Size = 1 := by
  have one := isSpecial_iff.mp special
  fin_cases one <;> rfl

/-- Every stretch lies between two characters of the text. -/
theorem escapeStretches_eq {stretch : List Char} (ordinary : ∀ c ∈ stretch, isSpecial c = false)
    (done ahead : List Char) :
    escapeStretches (done ++ stretch ++ ahead) (byteLength done)
      (byteLength done + byteLength stretch) ahead = escape (stretch ++ ahead) := by
  induction ahead generalizing done stretch with
  | nil =>
    have whole := Region.literal_append done stretch []
    simp only [List.append_nil] at whole ⊢
    rw [escapeStretches, byteLength_append, whole, escape_eq_self ordinary]
  | cons c ahead ih =>
    rw [escapeStretches]
    split
    · next special =>
      have later := ih (List.forall_mem_nil _) (done ++ stretch ++ [c])
      rw [List.append_nil, byteLength_append, byteLength_append, byteLength_cons, byteLength_nil,
        utf8Size_of_isSpecial special, List.append_assoc (done ++ stretch)] at later
      rw [Region.literal_append, utf8Size_of_isSpecial special]
      rw [escape_append, escape_eq_self ordinary]
      simp only [Nat.add_zero, List.nil_append, List.singleton_append] at later
      rw [later, List.append_assoc]
      rfl
    · next ordinary' =>
      have longer : ∀ d ∈ stretch ++ [c], isSpecial d = false :=
        List.forall_mem_append.mpr ⟨ordinary, by simpa using ordinary'⟩
      have later := ih longer done
      simpa [Nat.add_assoc] using later

/-! ## Values -/

namespace Value

@[simp] theorem escape_boolText (b : Bool) : escape (boolText b) = boolText b := by
  cases b <;> decide

mutual

theorem writeItem_eq : ∀ v : Value, v.writeItem = escape v.plainItem
  | .nothing => by
    rw [writeItem, plainItem]
    decide
  | .bool b => by rw [writeItem, plainItem, escape_boolText]
  | .number n => by rw [writeItem, plainItem, escape_figures (figures_number n)]
  | .string s => by rw [writeItem, plainItem]
  | .array items => by
    rw [writeItem, plainItem, escape_append, writeItems_eq items]
    rfl
  | .dict entries => by
    rw [writeItem, plainItem, escape_append, writeEntries_eq entries]
    rfl

theorem writeItems_eq : ∀ vs : List Value, writeItems vs = escape (plainItems vs)
  | [] => by rw [writeItems, plainItems, escape_nil]
  | [v] => by rw [writeItems, plainItems, writeItem_eq v]
  | v :: w :: vs => by
    rw [writeItems, plainItems, writeItem_eq v, writeItems_eq (w :: vs), escape_append,
      escape_append]
    · rfl
    · simp
    · simp

theorem writeEntries_eq : ∀ es : List (String × Value), writeEntries es = escape (plainEntries es)
  | [] => by rw [writeEntries, plainEntries, escape_nil]
  | [(k, v)] => by
    rw [writeEntries, plainEntries, writeItem_eq v, escape_append, escape_append]
    rfl
  | (k, v) :: e :: es => by
    rw [writeEntries, plainEntries, writeItem_eq v, writeEntries_eq (e :: es), escape_append,
      escape_append, escape_append, escape_append]
    · rfl
    · simp
    · simp

end

theorem write_eq (v : Value) : v.write = escape v.plain := by
  cases v with
  | nothing => rfl
  | _ => exact writeItem_eq _

/-- What is written is the plain text with entities, and tells it exactly. -/
theorem write_escapes :
    (∀ v : Value, v.write = escape v.plain ∧ unescape v.write = v.plain) ∧
      (∀ text, escapeStretches text 0 0 text = escape text) ∧
      ∀ s t : String, (Value.string s).write = (Value.string t).write ↔ s = t := by
  refine ⟨fun v => ⟨v.write_eq, by rw [v.write_eq, unescape_escape]⟩, fun text => ?_, fun s t => ?_⟩
  · exact escapeStretches_eq (List.forall_mem_nil _) [] text
  · rw [write_eq, write_eq, escape_inj]
    exact String.toList_inj

end Value

end HtmlTemplate
