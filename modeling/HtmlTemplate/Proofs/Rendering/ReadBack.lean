import HtmlTemplate.Markup
import HtmlTemplate.Proofs.Lexing.Words
import HtmlTemplate.Proofs.Rendering.Escaping

/-!
# Markup read back

Well-nested markup as a list of characters, with the tags that it enters and leaves. A reader that
goes through the characters one by one and knows no more of them than where tags and attributes
begin and end finds the same tags, so that no markup has two structures.
-/

namespace HtmlTemplate

inductive Event where
  | enter (name : String) (attributes : List Attribute)
  | leave (name : String)
  deriving DecidableEq

/-- Texts without angle brackets, and nodes with one name on both ends and harmless values. -/
inductive Markup : List Char → List Event → Prop where
  | nil : Markup [] []
  | text {chars rest : List Char} {es : List Event} (plain : ∀ c ∈ chars, c ≠ '<' ∧ c ≠ '>') :
      Markup rest es → Markup (chars ++ rest) es
  | node {name : String} {attributes : List Attribute} {inside rest : List Char}
      {es later : List Event} (isName : IsName name) (keys : ∀ a ∈ attributes, IsName a.name)
      (values : ∀ a ∈ attributes, Inert a.value) : Markup inside es → Markup rest later →
      Markup ('<' :: name.toList ++ attributes.flatMap Attribute.write ++ ['>'] ++ inside ++
          ['<', '/'] ++ name.toList ++ ['>'] ++ rest)
        (.enter name attributes :: es ++ .leave name :: later)

namespace Markup

theorem append {xs ys : List Char} {es fs : List Event} (first : Markup xs es)
    (later : Markup ys fs) : Markup (xs ++ ys) (es ++ fs) := by
  induction first with
  | nil => exact later
  | text plain _ ih =>
    rw [List.append_assoc]
    exact .text plain ih
  | node isName keys values inside _ _ ih =>
    have node := Markup.node isName keys values inside ih
    simpa using node

end Markup

/-- Where a reader of markup stands, with what it has read of a tag. -/
inductive Reader where
  | content
  /-- Behind `<`. -/
  | bracket
  | leaving (name : List Char)
  | entering (name : List Char)
  | key (name : List Char) (read : List Attribute) (word : List Char)
  /-- Behind `=`. -/
  | quote (name : List Char) (read : List Attribute) (word : List Char)
  | value (name : List Char) (read : List Attribute) (word text : List Char)
  /-- Behind an attribute. -/
  | inTag (name : List Char) (read : List Attribute)
  | lost

namespace Reader

def next : Reader → Char → Reader × List Event
  | .content, c => (if c = '<' then .bracket else .content, [])
  | .bracket, c => (if c = '/' then .leaving [] else .entering [c], [])
  | .leaving name, c =>
    if c = '>' then (.content, [.leave (String.ofList name)]) else (.leaving (name ++ [c]), [])
  | .entering name, c =>
    if c = '>' then (.content, [.enter (String.ofList name) []])
    else (if c = ' ' then .key name [] [] else .entering (name ++ [c]), [])
  | .key name read word, c =>
    (if c = '=' then .quote name read word else .key name read (word ++ [c]), [])
  | .quote name read word, c => (if c = '"' then .value name read word [] else .lost, [])
  | .value name read word text, c =>
    if c = '"' then (.inTag name (read ++ [⟨String.ofList word, text⟩]), [])
    else (.value name read word (text ++ [c]), [])
  | .inTag name read, c =>
    if c = '>' then (.content, [.enter (String.ofList name) read])
    else (if c = ' ' then .key name read [] else .lost, [])
  | .lost, _ => (.lost, [])

/-- The tags that the characters enter and leave. -/
def events : Reader → List Char → List Event
  | _, [] => []
  | r, c :: cs => (r.next c).2 ++ (r.next c).1.events cs

variable {rest : List Char}

/-- A reader that collects characters goes on until one stops it. -/
theorem events_collect (state : List Char → Reader) {chars : List Char}
    (collects : ∀ read, ∀ c ∈ chars, (state read).next c = (state (read ++ [c]), []))
    (read : List Char) : (state read).events (chars ++ rest) =
      (state (read ++ chars)).events rest := by
  induction chars generalizing read with
  | nil => rw [List.nil_append, List.append_nil]
  | cons c cs ih =>
    have first := collects read c List.mem_cons_self
    have later := ih fun read d mem => collects read d (List.mem_cons_of_mem c mem)
    rw [List.cons_append, events, first, List.nil_append, later, List.append_assoc]
    rfl

theorem events_content {chars : List Char} (plain : ∀ c ∈ chars, c ≠ '<' ∧ c ≠ '>') :
    content.events (chars ++ rest) = content.events rest := by
  refine events_collect (fun _ => content) (fun _ c mem => ?_) []
  rw [next, if_neg (plain c mem).1]

theorem special_of_continue {c : Char} (continues : Unicode.isIdentContinue c = true) :
    c ≠ '>' ∧ c ≠ ' ' ∧ c ≠ '=' ∧ c ≠ '/' := by
  refine ⟨?_, ?_, ?_, ?_⟩ <;> rintro rfl <;> cases continues

theorem events_leaving {name : String} (isName : IsName name) :
    (leaving []).events (name.toList ++ '>' :: rest) = .leave name :: content.events rest := by
  rw [events_collect leaving, List.nil_append, events, next, if_pos rfl, String.ofList_toList]
  · rfl
  · intro read c mem
    rw [next, if_neg (special_of_continue (isName.continues c mem)).1]

/-- An attribute behind the space in front of it. -/
theorem events_key {name : List Char} {read : List Attribute} {a : Attribute}
    (isName : IsName a.name)
    (inert : Inert a.value) :
    (key name read []).events (a.name.toList ++ ['=', '"'] ++ a.value ++ ['"'] ++ rest) =
      (inTag name (read ++ [a])).events rest := by
  have quoteFree : ∀ c ∈ a.value, c ≠ '"' := by
    rintro c mem rfl
    cases inert _ mem
  have wordRead : ∀ cs, (key name read []).events (a.name.toList ++ '=' :: '"' :: cs) =
      (value name read a.name.toList []).events cs := by
    intro cs
    rw [events_collect (key name read), List.nil_append]
    · rfl
    · intro word c mem
      rw [next, if_neg (special_of_continue (isName.continues c mem)).2.2.1]
  have textRead : (value name read a.name.toList []).events (a.value ++ '"' :: rest) =
      (inTag name (read ++ [⟨String.ofList a.name.toList, a.value⟩])).events rest := by
    rw [events_collect (value name read a.name.toList), List.nil_append]
    · rfl
    · intro text c mem
      rw [next, if_neg (quoteFree c mem)]
  rw [String.ofList_toList] at textRead
  rw [← textRead, ← wordRead]
  simp

/-- The attributes of a tag and its end. -/
theorem events_inTag {name : List Char} {read attributes : List Attribute}
    (keys : ∀ a ∈ attributes, IsName a.name) (values : ∀ a ∈ attributes, Inert a.value) :
    (inTag name read).events (attributes.flatMap Attribute.write ++ '>' :: rest) =
      .enter (String.ofList name) (read ++ attributes) :: content.events rest := by
  induction attributes generalizing read with
  | nil =>
    rw [List.append_nil]
    rfl
  | cons a later ih =>
    have key := List.forall_mem_cons.mp keys
    have value := List.forall_mem_cons.mp values
    have first : ∀ cs, (inTag name read).events (a.write ++ cs) =
        (inTag name (read ++ [a])).events cs := fun cs => events_key key.1 value.1
    rw [List.flatMap_cons, List.append_assoc, first, ih key.2 value.2, List.append_assoc]
    rfl

theorem events_entering {name : String} {attributes : List Attribute} (isName : IsName name)
    (keys : ∀ a ∈ attributes, IsName a.name) (values : ∀ a ∈ attributes, Inert a.value) :
    content.events ('<' :: name.toList ++ attributes.flatMap Attribute.write ++ '>' :: rest) =
      .enter name attributes :: content.events rest := by
  obtain ⟨c, first, -⟩ := isName.starts
  obtain ⟨cs, whole⟩ := List.head?_eq_some_iff.mp first
  have special : ∀ d ∈ c :: cs, d ≠ '>' ∧ d ≠ ' ' ∧ d ≠ '=' ∧ d ≠ '/' := by
    intro d mem
    rw [← whole] at mem
    exact special_of_continue (isName.continues d mem)
  have nameRead : ∀ ds, content.events ('<' :: c :: cs ++ ds) = (entering (c :: cs)).events ds := by
    intro ds
    have begun : content.events ('<' :: c :: (cs ++ ds)) = (entering [c]).events (cs ++ ds) := by
      have noSlash := (special c List.mem_cons_self).2.2.2
      simp only [events, next, if_true, if_neg noSlash, List.nil_append]
    rw [List.cons_append, List.cons_append, begun, events_collect entering]
    · rfl
    · intro read d mem
      have other := special d (List.mem_cons_of_mem c mem)
      rw [next, if_neg other.1, if_neg other.2.1]
  have name_eq : String.ofList (c :: cs) = name := by rw [← whole, String.ofList_toList]
  rw [List.append_assoc, whole, nameRead]
  cases attributes with
  | nil => rw [List.flatMap_nil, List.nil_append, events, next, if_pos rfl, name_eq]; rfl
  | cons a later =>
    have space : ∀ ds, (entering (c :: cs)).events (a.write ++ ds) =
        (inTag (c :: cs) []).events (a.write ++ ds) := fun ds => rfl
    rw [List.flatMap_cons, List.append_assoc, space, ← List.append_assoc, ← List.flatMap_cons,
      events_inTag keys values, name_eq, List.nil_append]

theorem events_markup {cs : List Char} {es : List Event} (markup : Markup cs es) :
    ∀ rest, content.events (cs ++ rest) = es ++ content.events rest := by
  induction markup with
  | nil => exact fun rest => rfl
  | text plain _ ih =>
    intro rest
    rw [List.append_assoc, events_content plain, ih]
  | @node name attributes inside behind es later isName keys values _ _ ihInside ihBehind =>
    intro rest
    have left : ∀ ds, content.events ('<' :: '/' :: (name.toList ++ '>' :: ds)) =
        .leave name :: content.events ds := fun ds => events_leaving isName
    calc
      _ = content.events ('<' :: name.toList ++ attributes.flatMap Attribute.write ++
            '>' :: (inside ++ '<' :: '/' :: (name.toList ++ '>' :: (behind ++ rest)))) := by simp
      _ = .enter name attributes :: (es ++ .leave name :: (later ++ content.events rest)) := by
        rw [events_entering isName keys values, ihInside, left, ihBehind]
      _ = _ := by simp

end Reader

/-- Markup has one structure only. -/
theorem Markup.unique {cs : List Char} {es fs : List Event} (first : Markup cs es)
    (second : Markup cs fs) : es = fs := by
  have read := Reader.events_markup first []
  rw [Reader.events_markup second []] at read
  simpa [Reader.events] using read.symm

end HtmlTemplate
