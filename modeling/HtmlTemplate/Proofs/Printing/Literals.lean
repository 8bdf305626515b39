import HtmlTemplate.Number.Literal
import HtmlTemplate.Number.Text
import HtmlTemplate.Proofs.Lexing.Escapes

/-!
# Literals printed and read

The decimal digits of an integer, the escapes of a string and the escapes of a text line are read
back as what they were printed from.
-/

namespace HtmlTemplate

/-- A run ends where the next character does not belong to it. -/
theorem Run.takeWhile_of_stops {p : Char → Bool} {chars rest : List Char}
    (holds : ∀ c ∈ chars, p c = true) (stops : ∀ c ∈ rest.head?, p c = false) :
    Run.takeWhile p (chars ++ rest) = ⟨chars, rest⟩ := by
  induction chars with
  | nil =>
    cases rest with
    | nil => rfl
    | cons c cs => simp [takeWhile, stops c rfl]
  | cons c cs ih =>
    obtain ⟨first, later⟩ := List.forall_mem_cons.mp holds
    have run := ih later
    simp only [takeWhile, Run.mk.injEq] at run
    simp [takeWhile, first, run.1, run.2]

/-! ## Integers -/

namespace NumberLiteral

/-- A whole part that has been read to its end is read on by the digits behind it. -/
theorem readWhole_append {s v : Nat} {xs : List Char} (ys : List Char)
    (whole : readWhole s xs = ⟨v, 0⟩) : readWhole s (xs ++ ys) = readWhole v ys := by
  induction xs generalizing s with
  | nil =>
    cases whole
    rfl
  | cons c cs ih =>
    rw [List.cons_append]
    rw [readWhole] at whole ⊢
    split at whole
    · next fits =>
      rw [if_pos fits]
      exact ih whole
    · cases whole

theorem readWhole_digits {n : Nat} (fits : n < 0x10000000000000000) :
    readWhole 0 (decimalDigits n) = ⟨n, 0⟩ := by
  have digit : ∀ d < 10, digitValue (Nat.digitChar d) = d := by decide
  induction n using Nat.strongRecOn with
  | ind n ih =>
    unfold decimalDigits at ih ⊢
    by_cases small : n < 10
    · have fit : Fits 0 (Nat.digitChar n) := by
        rw [Fits, digit n small]
        omega
      rw [Nat.toDigits_of_lt_base small, readWhole, if_pos fit, digit n small, readWhole]
      simp
    · have last := digit (n % 10) (Nat.mod_lt n (by decide))
      have fit : Fits (n / 10) (Nat.digitChar (n % 10)) := by
        rw [Fits, last]
        omega
      have front := ih (n / 10) (by omega) (by omega)
      rw [Nat.toDigits_of_base_le (by decide) (by omega), readWhole_append _ front, readWhole,
        if_pos fit, last, readWhole]
      congr 1
      omega

theorem isDigit_decimalDigits (n : Nat) : ∀ c ∈ decimalDigits n, c.isDigit = true :=
  fun _ mem => Nat.isDigit_of_mem_toDigits (by decide) (by decide) mem

theorem decimalDigits_ne_nil (n : Nat) : decimalDigits n ≠ [] := Nat.toDigits_ne_nil

theorem head_decimalDigits {n : Nat} (positive : n ≠ 0) : (decimalDigits n).head? ≠ some '0' := by
  have digit : ∀ d < 10, d ≠ 0 → Nat.digitChar d ≠ '0' := by decide
  induction n using Nat.strongRecOn with
  | ind n ih =>
    unfold decimalDigits at ih ⊢
    by_cases small : n < 10
    · rw [Nat.toDigits_of_lt_base small, List.head?_cons]
      intro zero
      exact digit n small positive (Option.some.inj zero)
    · have front := ih (n / 10) (by omega) (by omega)
      rw [Nat.toDigits_of_base_le (by decide) (by omega), List.head?_append]
      cases first : (Nat.toDigits 10 (n / 10)).head? with
      | none => exact absurd (List.head?_eq_none_iff.mp first) (decimalDigits_ne_nil _)
      | some c =>
        rw [first] at front
        exact front

theorem isWhole_decimalDigits (n : Nat) : IsWhole (decimalDigits n) := by
  refine ⟨decimalDigits_ne_nil n, isDigit_decimalDigits n, ?_⟩
  intro zero
  by_cases positive : n = 0
  · rw [positive]
    rfl
  · exact absurd zero (head_decimalDigits positive)

theorem unsigned?_decimalDigits {n : Nat} (fits : n < 0x10000000000000000) (negative : Bool) :
    unsigned? negative (decimalDigits n) = wholeNumber? negative ⟨n, 0⟩ := by
  have noPoint : ∀ c ∈ decimalDigits n, (c != '.') = true := by
    intro c mem
    have digit := isDigit_decimalDigits n c mem
    rw [bne_iff_ne]
    rintro rfl
    cases digit
  have run : Run.takeWhile (· != '.') (decimalDigits n ++ []) = ⟨decimalDigits n, []⟩ :=
    Run.takeWhile_of_stops noPoint nofun
  simp only [Run.takeWhile, List.append_nil, Run.mk.injEq] at run
  simp only [unsigned?, run, if_pos (isWhole_decimalDigits n)]
  rw [readWhole_digits fits]

/-- The digits of an integer that is not negative are read as it. -/
theorem read?_nonneg {i : Integer} (nonneg : 0 ≤ i.val) :
    read? (decimalDigits i.val.natAbs) = some (.int i) := by
  have fits : i.val.natAbs < 0x10000000000000000 := by
    have high := i.high
    omega
  have noSign : read? (decimalDigits i.val.natAbs) =
      unsigned? false (decimalDigits i.val.natAbs) := by
    unfold read?
    split
    · next cs eq =>
      have digit := isDigit_decimalDigits i.val.natAbs '-' (by simp [eq])
      cases digit
    · rfl
  have whole : Integer.ofNat? i.val.natAbs = some i := by
    rw [Integer.ofNat?, Integer.ofInt?_eq_some_iff]
    omega
  rw [noSign, unsigned?_decimalDigits fits]
  simp [wholeNumber?, whole]

theorem read?_negative {i : Integer} (negative : i.val < 0) :
    read? ('-' :: decimalDigits i.val.natAbs) = some (.int i) := by
  have low := i.low
  have size : ¬ (i.val.natAbs = 0 ∨ 0x8000000000000000 < i.val.natAbs) := by omega
  have whole : Integer.ofInt? (-(i.val.natAbs : Int)) = some i := by
    rw [Integer.ofInt?_eq_some_iff]
    omega
  rw [read?, unsigned?_decimalDigits (by omega)]
  simp only [wholeNumber?, ne_eq, not_true_eq_false, if_false, Bool.true_eq_false,
    if_neg size, whole]
  rfl

end NumberLiteral

/-! ## Strings -/

/-- A quote, a backslash and a line feed need an escape in a string. -/
def quoteChar (c : Char) : List Char :=
  if c = '"' then ['\\', '"']
  else if c = '\\' then ['\\', '\\']
  else if c = '\n' then ['\\', 'n']
  else [c]

def quoted (s : List Char) : List Char := '"' :: s.flatMap quoteChar ++ ['"']

theorem Run.string_quoted (s rest : List Char) :
    Run.string false (s.flatMap quoteChar ++ '"' :: rest) =
      (⟨s.flatMap quoteChar ++ ['"'], rest⟩, true) := by
  induction s with
  | nil => rfl
  | cons c cs ih =>
    rw [List.flatMap_cons, List.append_assoc]
    generalize cs.flatMap quoteChar = text at ih ⊢
    by_cases quote : c = '"'
    · subst quote
      simp [quoteChar, Run.string, ih, Run.add]
    by_cases backslash : c = '\\'
    · subst backslash
      simp [quoteChar, Run.string, ih, Run.add]
    by_cases feed : c = '\n'
    · subst feed
      simp [quoteChar, Run.string, ih, Run.add]
    have plain : (c == '\\') = false := by simp [backslash]
    simp [quoteChar, quote, backslash, feed, Run.string, plain, ih, Run.add]

theorem decodeString?_cons {c : Char} (plain : c ≠ '\\') (cs : List Char) :
    decodeString? (c :: cs) = (decodeString? cs).map (c :: ·) := by
  cases cs with
  | nil => simp [decodeString?, plain]
  | cons d ds => rw [decodeString?, if_neg plain]

theorem decodeString?_quoted (s : List Char) : decodeString? (s.flatMap quoteChar) = some s := by
  induction s with
  | nil => rfl
  | cons c cs ih =>
    rw [List.flatMap_cons]
    generalize cs.flatMap quoteChar = text at ih ⊢
    by_cases quote : c = '"'
    · subst quote
      simp [quoteChar, decodeString?, stringEscape, ih]
    by_cases backslash : c = '\\'
    · subst backslash
      simp [quoteChar, decodeString?, stringEscape, ih]
    by_cases feed : c = '\n'
    · subst feed
      simp [quoteChar, decodeString?, stringEscape, ih]
    have plain : quoteChar c = [c] := by simp [quoteChar, quote, backslash, feed]
    rw [plain, List.singleton_append, decodeString?_cons backslash, ih]
    rfl

/-! ## Text lines -/

/-- A backslash takes a brace or a backslash literally. -/
def shieldChar (c : Char) : List Char :=
  if Markers.standard.isEscapable c then ['\\', c] else [c]

def shielded (text : List Char) : List Char := text.flatMap shieldChar

theorem Run.text_shielded {text rest : List Char} (oneLine : '\n' ∉ text)
    (stops : ∀ c ∈ rest.head?, c = '\n' ∨ c = '{') :
    Run.text .standard (shielded text ++ rest) = ⟨shielded text, rest⟩ :=
  Run.text_shield (m := .standard) oneLine stops

theorem plainText_shielded (text : List Char) : plainText .standard (shielded text) = text :=
  plainText_shield .standard text

end HtmlTemplate
