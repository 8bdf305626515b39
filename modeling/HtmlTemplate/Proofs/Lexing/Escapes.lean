import HtmlTemplate.Token.Scan
import HtmlTemplate.Tree.Escapes
import Mathlib.Data.List.Induction

/-!
# Escapes in text

The text of a line is read twice: once to find its splices and its end, where escapes are passed,
and once to find out what it says, where they are resolved. Both readings agree with a single pass
that does everything at once.
-/

namespace HtmlTemplate

namespace Markers

variable (m : Markers)

theorem ne_feed {c : Char} (marker : isMarker c = true) : c ≠ '\n' := by
  rintro rfl
  revert marker
  decide

theorem ne_return {c : Char} (marker : isMarker c = true) : c ≠ '\r' := by
  rintro rfl
  revert marker
  decide

theorem ne_backslash {c : Char} (marker : isMarker c = true) : c ≠ '\\' := by
  rintro rfl
  revert marker
  decide

theorem not_isEscapable_feed : m.isEscapable '\n' = false := by
  have opening := (ne_feed m.opening_isMarker).symm
  have closing := (ne_feed m.closing_isMarker).symm
  simp [isEscapable, opening, closing]

theorem not_isEscapable_return : m.isEscapable '\r' = false := by
  have opening := (ne_return m.opening_isMarker).symm
  have closing := (ne_return m.closing_isMarker).symm
  simp [isEscapable, opening, closing]

end Markers

section

variable {m : Markers} {c : Char} {cs chars : List Char}

/-- Text ends in front of a line feed or a splice. -/
theorem Run.text_of_stops (stops : c = '\n' ∨ c = m.opening) :
    Run.text m (c :: cs) = ⟨[], c :: cs⟩ := by
  have noEscape : c ≠ '\\' := by
    rcases stops with rfl | rfl
    · decide
    · exact Markers.ne_backslash m.opening_isMarker
  cases cs <;> simp [text, noEscape, stops]

/-- What is no escape and ends no text is read as it stands. -/
theorem Run.text_cons (noEscape : c ≠ '\\') (goesOn : ¬ (c = '\n' ∨ c = m.opening))
    (cs : List Char) : Run.text m (c :: cs) = (Run.text m cs).add c := by
  cases cs with
  | nil => exact if_neg goesOn
  | cons d ds => rw [text, if_neg noEscape, if_neg goesOn]

theorem plainText_cons (noEscape : c ≠ '\\') (cs : List Char) :
    plainText m (c :: cs) = c :: plainText m cs := by
  cases cs with
  | nil => rfl
  | cons d ds => rw [plainText, if_neg fun escape => noEscape escape.1]

theorem plainText_ne_nil (said : chars ≠ []) : plainText m chars ≠ [] := by
  fun_cases plainText m chars <;> simp_all

/-- In front of anything that needs no escape a backslash stands for itself. -/
theorem plainText_backslash (literal : ∀ d ∈ chars.head?, m.isEscapable d = false) :
    plainText m ('\\' :: chars) = '\\' :: plainText m chars := by
  cases chars with
  | nil => rfl
  | cons d ds =>
    have plain := literal d rfl
    rw [plainText, if_neg (by simp [plain])]

/-- Where no text ends, all is text. -/
theorem Run.text_of_plain (plain : (Run.text m cs).rest = []) : Run.text m cs = ⟨cs, []⟩ := by
  have whole := Run.text_append m cs
  rw [plain, List.append_nil] at whole
  calc Run.text m cs = ⟨(Run.text m cs).chars, (Run.text m cs).rest⟩ := rfl
    _ = ⟨cs, []⟩ := by rw [whole, plain]

theorem Run.head?_text (m : Markers) (c : Char) (cs : List Char) :
    ∀ d ∈ (Run.text m (c :: cs)).chars.head?, d = c := by
  have whole := Run.text_append m (c :: cs)
  intro d head
  obtain ⟨later, chars⟩ := List.head?_eq_some_iff.mp head
  rw [chars] at whole
  exact (List.cons.inj whole).1

end

/-! ## One pass -/

/-- What a text line says in front of its first splice, and what stands behind the marker that opens
the splice. A backslash takes a marker of splices or another backslash literally; anything else,
be it a backslash, stands for itself. -/
def readOnce (m : Markers) : List Char → List Char × Option (List Char)
  | [] => ([], none)
  | [c] => if c = m.opening then ([], some []) else ([c], none)
  | c :: d :: cs =>
    if c = '\\' ∧ m.isEscapable d = true then
      let later := readOnce m cs
      (d :: later.1, later.2)
    else if c = m.opening then ([], some (d :: cs))
    else
      let later := readOnce m (d :: cs)
      (c :: later.1, later.2)

/-- The two readings of a line agree with the single one. -/
theorem readOnce_eq {m : Markers} {r : List Char} (oneLine : '\n' ∉ r) :
    readOnce m r = (plainText m (Run.text m r).chars, (Run.text m r).rest.tail?) := by
  fun_induction Run.text m r with
  | case1 => rfl
  | case2 c stops =>
    have opens : c = m.opening := stops.resolve_left fun feed => oneLine (by simp [feed])
    simp [readOnce, opens, plainText]
  | case3 c goesOn =>
    rw [not_or] at goesOn
    simp [readOnce, goesOn.2, plainText]
  | case4 d cs escapable ih =>
    have later := ih (by simp_all)
    simp [readOnce, escapable, later, Run.add, plainText]
  | case5 d cs literal ih =>
    have later := ih (by simp_all)
    have noOpening := (Markers.ne_backslash m.opening_isMarker).symm
    have plain : ∀ e ∈ (Run.text m (d :: cs)).chars.head?, m.isEscapable e = false := by
      intro e head
      rw [Run.head?_text m d cs e head]
      simpa using literal
    simp [readOnce, literal, noOpening, later, Run.add, plainText_backslash plain]
  | case6 c d cs noEscape stops =>
    have opens : c = m.opening := stops.resolve_left fun feed => oneLine (by simp [feed])
    rw [readOnce, if_neg fun escape => noEscape escape.1, if_pos opens]
    rfl
  | case7 c d cs noEscape goesOn ih =>
    have later := ih (by simp_all)
    rw [not_or] at goesOn
    simp [readOnce, noEscape, goesOn.2, later, Run.add, plainText_cons noEscape]

/-! ## Escaping a text -/

namespace Markers

variable (m : Markers) {c : Char} {cs : List Char}

def shieldChar (c : Char) : List Char := if m.isEscapable c then ['\\', c] else [c]

/-- The text with a backslash in front of whatever needs one to be taken literally. -/
def shield (text : List Char) : List Char := text.flatMap m.shieldChar

variable {m}

theorem shield_escapable (escapable : m.isEscapable c = true) :
    m.shield (c :: cs) = '\\' :: c :: m.shield cs := by
  simp [shield, shieldChar, escapable]

theorem shield_plain (plain : ¬ m.isEscapable c = true) :
    m.shield (c :: cs) = c :: m.shield cs := by
  simp [shield, shieldChar, plain]

theorem ne_backslash_of_plain (plain : ¬ m.isEscapable c = true) : c ≠ '\\' := by
  rintro rfl
  simp [isEscapable] at plain

theorem getLast?_shield (m : Markers) (text : List Char) :
    (m.shield text).getLast? = text.getLast? := by
  cases text using List.reverseRecOn with
  | nil => rfl
  | append_singleton front c =>
    have last : m.shield (front ++ [c]) = m.shield front ++ m.shieldChar c := by simp [shield]
    rw [last, shieldChar]
    split <;> simp

theorem shield_ne_nil {text : List Char} (said : text ≠ []) : m.shield text ≠ [] := by
  intro none
  have last := m.getLast?_shield text
  rw [none] at last
  exact said (List.getLast?_eq_none_iff.mp last.symm)

theorem mem_shield {text : List Char} (mem : c ∈ m.shield text) : c ∈ text ∨ c = '\\' := by
  obtain ⟨d, inText, one⟩ := List.mem_flatMap.mp mem
  rw [shieldChar] at one
  split at one
  · rcases List.mem_cons.mp one with backslash | same
    · exact .inr backslash
    · exact .inl (List.mem_singleton.mp same ▸ inText)
  · exact .inl (List.mem_singleton.mp one ▸ inText)

end Markers

theorem plainText_shield (m : Markers) (text : List Char) : plainText m (m.shield text) = text := by
  induction text with
  | nil => rfl
  | cons c cs ih =>
    by_cases escapable : m.isEscapable c = true
    · rw [Markers.shield_escapable escapable, plainText, if_pos ⟨rfl, escapable⟩, ih]
    · rw [Markers.shield_plain escapable,
        plainText_cons (Markers.ne_backslash_of_plain escapable), ih]

theorem Run.text_shield {m : Markers} {text rest : List Char} (oneLine : '\n' ∉ text)
    (stops : ∀ c ∈ rest.head?, c = '\n' ∨ c = m.opening) :
    Run.text m (m.shield text ++ rest) = ⟨m.shield text, rest⟩ := by
  induction text with
  | nil =>
    cases rest with
    | nil => rfl
    | cons c cs => exact Run.text_of_stops (stops c rfl)
  | cons c cs ih =>
    rw [List.mem_cons, not_or] at oneLine
    have later := ih oneLine.2
    by_cases escapable : m.isEscapable c = true
    · rw [Markers.shield_escapable escapable, List.cons_append, List.cons_append, Run.text,
        if_pos rfl, if_pos escapable, later]
      rfl
    · rw [Markers.shield_plain escapable, List.cons_append,
        Run.text_cons (Markers.ne_backslash_of_plain escapable), later]
      · rfl
      · rintro (rfl | rfl)
        · exact oneLine.1 rfl
        · simp [Markers.isEscapable] at escapable

/-- A shielded text is read as what it was, and opens no splice. -/
theorem readOnce_shield (m : Markers) {text : List Char} (oneLine : '\n' ∉ text) :
    readOnce m (m.shield text) = (text, none) := by
  have oneLine' : '\n' ∉ m.shield text := fun mem =>
    oneLine ((Markers.mem_shield mem).resolve_right (by decide))
  have run : Run.text m (m.shield text ++ []) = _ := Run.text_shield oneLine (by simp)
  rw [List.append_nil] at run
  rw [readOnce_eq oneLine', run, plainText_shield]
  rfl

end HtmlTemplate
