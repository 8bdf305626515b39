import HtmlTemplate.Proofs.Grammar.Exact
import HtmlTemplate.Proofs.Printing.Blocks

/-!
# Usable markers

Names and numbers are read as far as they go before the markers are looked for. So a text marker
must begin no name, and the closing marker must continue neither a name nor a number. Not all
characters that may be markers are like that.
-/

namespace HtmlTemplate

open Lexer NumberLiteral

theorem Grammar.Lines.token_of_tag {m : Markers} {t : Lexeme} {ts : List Lexeme} {name : Ident}
    {attributes : List (Ident × Expr)} {body ss : List Statement}
    (derived : Grammar.Lines m (t :: ts) (.tag name attributes body :: ss)) :
    t.token = .identifier := by
  generalize whole : t :: ts = us at derived
  cases derived with
  | cons line =>
    cases line with
    | choice _ branches => cases branches
    | tag identifier =>
      cases whole
      exact identifier
    | emptyTag identifier =>
      cases whole
      exact identifier

/-- A lexer where a splice begins, outside of all blocks. -/
def Markers.splicing (m : Markers) (offset : Nat) (source : List Char) : Lexer where
  markers := m
  rest := source
  offset := offset
  mode := .splice

namespace Lexer

variable {c : Char} {l : Lexer} {behind : List Char}

theorem inked_of_isMarker (marker : isMarker c = true) : Inked c := by
  refine ⟨?_, Markers.ne_return marker, Markers.ne_feed marker⟩
  rw [Bool.eq_false_iff]
  intro blank
  have one : c = ' ' ∨ c = '\t' := by simpa [isBlank] using blank
  rcases one with rfl | rfl <;> cases marker

theorem not_isDigit_of_isMarker (marker : isMarker c = true) : c.isDigit = false := by
  rw [Bool.eq_false_iff]
  intro digit
  have alphanumeric : Unicode.isAlphanumeric c = true := by
    rw [Unicode.isAlphanumeric, if_pos (isAscii_of_isDigit digit), Char.isAlphanum, digit,
      Bool.or_true]
  simp [isMarker, alphanumeric] at marker

theorem leads_openSplice (owes : l.pending = []) (mode : l.mode = .text) (closed : l.nesting = [])
    (outside : l.indents = []) (rest : l.rest = l.markers.opening :: behind) :
    l.Leads [⟨.openSplice, l.offset, [l.markers.opening]⟩]
      (l.markers.splicing (l.offset + byteLength [l.markers.opening]) behind) := by
  have run : Run.text l.markers l.rest = ⟨[], l.markers.opening :: behind⟩ := by
    rw [rest]
    exact Run.text_of_stops (.inr rfl)
  refine leads_of_found owes rfl (by simp [mode]) ((step_of_text mode (by simp [rest])).trans ?_)
  simp [readText, run, Markers.ne_feed l.markers.opening_isMarker, emit, skip, owes, closed,
    outside, Markers.splicing]

theorem leads_closeSplice {cs : List Char} (owes : l.pending = []) (mode : l.mode = .splice)
    (closed : l.nesting = []) (rest : l.rest = l.markers.closing :: cs) :
    l.Leads [⟨.closeSplice, l.offset, [l.markers.closing]⟩]
      { l.skip [l.markers.closing] cs with mode := .text } := by
  refine leads_of_found owes owes (by simp [mode]) ?_
  rw [step_of_expression (.inr mode) rest]
  simp [readExpression, mode, closed, emit, skip, owes]

end Lexer

namespace Markers

variable {m : Markers} {word : List Char} {e : Region → Expr}

/-! ## Lines of one splice -/

/-- A text line that is a splice of one word. -/
def spliceLine (m : Markers) (word : List Char) : List Char :=
  m.text :: m.opening :: (word ++ [m.closing])

/-- The lexer where the word of a splice begins. -/
def inSplice (m : Markers) (rest : List Char) : Lexer where
  markers := m
  rest := rest
  offset := byteLength [m.text] + byteLength [m.opening]
  mode := .splice

theorem leads_marker (m : Markers) (cs : List Char) :
    Leads { markers := m, rest := m.text :: cs } [⟨.marker, 0, [m.text]⟩]
      { markers := m, rest := cs, offset := byteLength [m.text], mode := .text } := by
  refine leads_of_found rfl rfl (by simp) ((step_of_lineStart rfl (by simp)).trans ?_)
  rw [startLine_of_ink (List.nil_append _).symm (List.forall_mem_nil _)
    (inked_of_isMarker m.text_isMarker) rfl, if_pos rfl]
  simp [emit, enterLine, Lexer.skip]

theorem leads_inSplice (m : Markers) (cs : List Char) :
    Leads { markers := m, rest := m.text :: m.opening :: cs }
      [⟨.marker, 0, [m.text]⟩, ⟨.openSplice, byteLength [m.text], [m.opening]⟩]
      (m.inSplice cs) := by
  have opens : Leads
      { markers := m, rest := m.opening :: cs, offset := byteLength [m.text], mode := .text }
      [⟨.openSplice, byteLength [m.text], [m.opening]⟩] (m.inSplice cs) :=
    leads_openSplice rfl rfl rfl rfl rfl
  exact (m.leads_marker (m.opening :: cs)).trans opens

/-- Behind the closing marker the line is at its end. -/
theorem lexemes_closing {l : Lexer} (owes : l.pending = []) (mode : l.mode = .splice)
    (closed : l.nesting = []) (indents : l.indents = []) (source : l.rest = [l.markers.closing]) :
    l.lexemes = ⟨[⟨.closeSplice, l.offset, [l.markers.closing]⟩,
      ⟨.newline, l.offset + byteLength [l.markers.closing], []⟩], none⟩ := by
  have closes := leads_closeSplice owes mode closed source
  have ended := lexemes_of_closed (l := { l.skip [l.markers.closing] [] with mode := .text }) owes
    (by simp) rfl closed (by simp)
  rw [closes, ended]
  simp [ending, indents, Lexer.skip, Lexemes.after]

/-- The line compiles to a splice of the expression and nothing else. -/
def Splices (m : Markers) (word : List Char) (e : Region → Expr) : Prop :=
  ∀ name, ∃ t, Template.compile m name (String.ofList (m.spliceLine word)) = .ok t ∧
    ∃ region, t.statements = [.text [.splice (e region)]]

/-- A word that ends at the closing marker is all there is in the splice. -/
theorem splices_of_leads {t : Lexeme} (atom : Grammar.Atom [t] (e t.region))
    (reads : (m.inSplice (word ++ [m.closing])).Leads [t]
      ((m.inSplice (word ++ [m.closing])).skip word [m.closing])) : m.Splices word e := by
  have leads := (m.leads_inSplice (word ++ [m.closing])).trans reads
  have closes := lexemes_closing (l := (m.inSplice (word ++ [m.closing])).skip word [m.closing])
    rfl rfl rfl rfl rfl
  unfold Leads at leads
  rw [closes] at leads
  have derived (n p q : Nat) : Grammar.Lines m [⟨.marker, 0, [m.text]⟩,
      ⟨.openSplice, n, [m.opening]⟩, t, ⟨.closeSplice, p, [m.closing]⟩, ⟨.newline, q, []⟩]
      [.text [.splice (e t.region)]] :=
    .cons (.text rfl (.splice rfl (.product (.atom atom)) rfl .nil) (List.cons_ne_nil _ _) rfl) .nil
  have reads : parseSource m (m.spliceLine word) = .ok [.text [.splice (e t.region)]] := by
    rw [parseSource_eq_ok_iff, Lexemes.ofSource, spliceLine, leads]
    exact ⟨rfl, derived ..⟩
  intro name
  rw [← String.toList_ofList (l := m.spliceLine word)] at reads
  exact ⟨⟨name, _, _⟩, Template.compile_eq_ok_iff.mpr ⟨reads, rfl, rfl⟩, t.region, rfl⟩

/-- A word that takes the closing marker with it leaves the splice open. -/
theorem not_splices_of_leads {ts : List Lexeme}
    (reads : (m.inSplice (word ++ [m.closing])).Leads ts
      ((m.inSplice (word ++ [m.closing])).skip (word ++ [m.closing]) [])) : ¬ m.Splices word e := by
  intro splices
  obtain ⟨t, compiles, -⟩ := splices none
  have faultless := (Template.compile_eq_ok_iff.mp compiles).1
  rw [String.toList_ofList, parseSource_eq_ok_iff] at faultless
  have leads := (m.leads_inSplice (word ++ [m.closing])).trans reads
  obtain ⟨f, unclosed⟩ := lexemes_of_unclosed (l := (m.inSplice (word ++ [m.closing])).skip
    (word ++ [m.closing]) []) rfl nofun rfl (.inr rfl)
  unfold Leads at leads
  rw [unclosed] at leads
  rw [Lexemes.ofSource, spliceLine, leads] at faultless
  exact Option.some_ne_none _ faultless.1

theorem splices_name_iff {x : String} (is : IsName x) (free : m.closing ∉ x.toList) :
    m.Splices x.toList (fun region => .var ⟨x, region⟩) ↔
      Unicode.isIdentContinue m.closing = false := by
  obtain ⟨⟨c, head, start⟩, continues, word⟩ := is
  obtain ⟨cs, shape⟩ := List.head?_eq_some_iff.mp head
  obtain rfl : x = String.ofList (c :: cs) := by rw [← shape, String.ofList_toList]
  rw [String.toList_ofList] at free continues word ⊢
  have goesOn : c ≠ m.closing := fun same => free (same ▸ List.mem_cons_self)
  have continues' := (List.forall_mem_cons.mp continues).2
  constructor
  · intro splices
    by_contra more
    have all : ∀ d ∈ cs ++ [m.closing], Unicode.isIdentContinue d = true :=
      List.forall_mem_append.mpr ⟨continues', by simpa using more⟩
    have source : (m.inSplice (c :: cs ++ [m.closing])).rest = c :: (cs ++ [m.closing] ++ []) := by
      simp [inSplice]
    have reads := leads_word rfl (.inr rfl) source (fun closes => goesOn closes.2.2) start all
      (by simp)
    exact not_splices_of_leads reads splices
  · intro stops
    have reads := leads_word (l := m.inSplice (c :: cs ++ [m.closing])) rfl (.inr rfl) rfl
      (fun closes => goesOn closes.2.2) start continues' (by simpa using stops)
    rw [word] at reads
    exact splices_of_leads (.var rfl) reads

theorem splices_number_iff {i : Integer} (nonneg : 0 ≤ i.val) :
    m.Splices (decimalDigits i.val.natAbs) (.literal (.number (.int i))) ↔ m.closing ≠ '.' := by
  have noDigit := not_isDigit_of_isMarker m.closing_isMarker
  have reading := read?_nonneg nonneg
  have digits := isDigit_decimalDigits i.val.natAbs
  obtain ⟨c, cs, shape⟩ := List.exists_cons_of_ne_nil (decimalDigits_ne_nil i.val.natAbs)
  rw [shape] at reading digits ⊢
  obtain ⟨digit, digits⟩ := List.forall_mem_cons.mp digits
  have numeral : ∀ d ∈ cs, isNumeral d = true := fun d mem => by simp [isNumeral, digits d mem]
  have goesOn : c ≠ m.closing := by
    rintro rfl
    rw [digit] at noDigit
    cases noDigit
  constructor
  · rintro splices point
    have all : ∀ d ∈ cs ++ [m.closing], isNumeral d = true :=
      List.forall_mem_append.mpr ⟨numeral, by simp [point, isNumeral]⟩
    have source : (m.inSplice (c :: cs ++ [m.closing])).rest = c :: (cs ++ [m.closing] ++ []) := by
      simp [inSplice]
    have reads := leads_number rfl (.inr rfl) source (fun closes => goesOn closes.2.2) digit all
      (by simp)
    exact not_splices_of_leads reads splices
  · intro noPoint
    have reads := leads_number (l := m.inSplice (c :: cs ++ [m.closing])) rfl (.inr rfl) rfl
      (fun closes => goesOn closes.2.2) digit numeral (by simp [isNumeral, noDigit, noPoint])
    exact splices_of_leads (.number rfl reading) reads

/-! ## Lines of one tag -/

/-- The word alone compiles to an empty tag. -/
def Tags (m : Markers) (word : String) : Prop :=
  ∀ name, ∃ t, Template.compile m name word = .ok t ∧
    ∃ region, t.statements = [.tag ⟨word, region⟩ [] []]

theorem tags_of_unmarked {y : String} (is : IsName y) (unmarked : y.toList.head? ≠ some m.text) :
    m.Tags y := by
  obtain ⟨⟨c, head, start⟩, continues, word⟩ := is
  obtain ⟨cs, shape⟩ := List.head?_eq_some_iff.mp head
  obtain rfl : y = String.ofList (c :: cs) := by rw [← shape, String.ofList_toList]
  rw [String.toList_ofList] at unmarked continues word
  have begins : Leads { markers := m, rest := c :: cs } []
      { markers := m, rest := c :: cs, mode := .statement } := by
    refine leads_of_found rfl rfl (by simp) ((step_of_lineStart rfl (by simp)).trans ?_)
    rw [startLine_of_ink (List.nil_append _).symm (List.forall_mem_nil _)
      (inked_of_isIdentStart start) rfl, if_neg (by simpa using unmarked)]
    simp [enterLine, Lexer.skip]
  have reads := leads_word (l := { markers := m, rest := c :: cs, mode := .statement }) rfl
    (.inl rfl) (congrArg (c :: ·) (List.append_nil cs).symm) (by simp) start
    (List.forall_mem_cons.mp continues).2 (by simp)
  have leads := begins.trans reads
  have ended := lexemes_of_closed (l := ({ markers := m, rest := c :: cs, mode := .statement } :
    Lexer).skip (c :: cs) []) rfl (by simp [Lexer.skip]) rfl rfl (by simp [Lexer.skip])
  unfold Leads at leads
  rw [word, ended] at leads
  have derived (n : Nat) : Grammar.Lines m [⟨.identifier, 0, c :: cs⟩, ⟨.newline, n, []⟩]
      [.tag ⟨String.ofList (c :: cs), ⟨0, 0 + byteLength (c :: cs)⟩⟩ [] []] :=
    .cons (.emptyTag rfl .bare rfl) .nil
  have parsed : parseSource m (String.ofList (c :: cs)).toList =
      .ok [.tag ⟨String.ofList (c :: cs), ⟨0, 0 + byteLength (c :: cs)⟩⟩ [] []] := by
    rw [String.toList_ofList, parseSource_eq_ok_iff, Lexemes.ofSource, leads]
    exact ⟨rfl, derived _⟩
  intro name
  exact ⟨⟨name, _, _⟩, Template.compile_eq_ok_iff.mpr ⟨parsed, rfl, rfl⟩, _, rfl⟩

theorem tags_iff {y : String} (is : IsName y) : m.Tags y ↔ y.toList.head? ≠ some m.text := by
  refine ⟨fun tags marked => ?_, tags_of_unmarked is⟩
  obtain ⟨cs, shape⟩ := List.head?_eq_some_iff.mp marked
  obtain ⟨t, compiles, region, statements⟩ := tags none
  have derived := (parseSource_eq_ok_iff.mp (Template.compile_eq_ok_iff.mp compiles).1).2
  have begins := m.leads_marker cs
  unfold Leads at begins
  rw [statements, shape, Lexemes.ofSource, begins] at derived
  cases derived.token_of_tag

/-! ## All names and numbers -/

/-- No marker collides with a name or a number. -/
structure Usable (m : Markers) : Prop where
  names : ∀ x : String, IsName x → m.closing ∉ x.toList →
    m.Splices x.toList fun region => .var ⟨x, region⟩
  numbers : ∀ i : Integer, 0 ≤ i.val → m.closing ∉ decimalDigits i.val.natAbs →
    m.Splices (decimalDigits i.val.natAbs) (.literal (.number (.int i)))
  tags : ∀ y : String, IsName y → m.Tags y

/-- All reserved words are longer. -/
theorem isName_of_isIdentStart {c : Char} (start : Unicode.isIdentStart c = true) :
    IsName (String.ofList [c]) := by
  have longer : ∀ p ∈ reservedWords, p.1.length ≠ 1 := by decide
  have unreserved : reservedWords.lookup (String.ofList [c]) = none := by
    rw [List.lookup_eq_none_iff]
    intro p mem
    rw [bne_iff_ne]
    rintro same
    exact longer p mem (by rw [← same, String.length_ofList, List.length_singleton])
  rw [IsName, String.toList_ofList]
  refine ⟨⟨c, rfl, start⟩, ?_, by rw [Token.ofWord, unreserved]; rfl⟩
  exact List.forall_mem_singleton.mpr (Unicode.isIdentContinue_of_isIdentStart start)

theorem Usable.text (usable : m.Usable) : Unicode.isIdentStart m.text = false := by
  by_contra start
  have is := isName_of_isIdentStart (by simpa using start)
  exact (tags_iff is).mp (usable.tags _ is) (by rw [String.toList_ofList]; rfl)

theorem Usable.closing (usable : m.Usable) : Unicode.isIdentContinue m.closing = false := by
  have is : IsName "x" :=
    ⟨⟨'x', rfl, by decide⟩, List.forall_mem_singleton.mpr (by decide), by decide⟩
  have free : m.closing ∉ "x".toList := by
    intro mem
    have marker := m.closing_isMarker
    rw [List.mem_singleton.mp mem] at marker
    cases marker
  exact (splices_name_iff is free).mp (usable.names "x" is free)

theorem Usable.noPoint (usable : m.Usable) : m.closing ≠ '.' := by
  have nonneg : 0 ≤ (⟨0, by decide, by decide⟩ : Integer).val := by decide
  refine (splices_number_iff nonneg).mp (usable.numbers _ nonneg fun mem => ?_)
  have noDigit := not_isDigit_of_isMarker m.closing_isMarker
  rw [isDigit_decimalDigits _ _ mem] at noDigit
  cases noDigit

theorem usable_iff (m : Markers) :
    m.Usable ↔ Unicode.isIdentStart m.text = false ∧
      Unicode.isIdentContinue m.closing = false ∧ m.closing ≠ '.' := by
  refine ⟨fun usable => ⟨usable.text, usable.closing, usable.noPoint⟩, ?_⟩
  rintro ⟨noStart, noContinue, noPoint⟩
  refine ⟨fun x is free => (splices_name_iff is free).mpr noContinue,
    fun i nonneg _ => (splices_number_iff nonneg).mpr noPoint,
    fun y is => (tags_iff is).mpr fun marked => ?_⟩
  obtain ⟨c, head, start⟩ := is.starts
  cases marked.symm.trans head
  rw [noStart] at start
  cases start

/-- The sign ℘ begins names, the dot · continues them, and the point belongs to numbers. -/
theorem accepted_unusable :
    (∃ m, standard.withText '℘' = .ok m ∧ ¬ m.Usable) ∧
      (∃ m, standard.withSplice '{' '·' = .ok m ∧ ¬ m.Usable) ∧
      ∃ m, standard.withSplice '{' '.' = .ok m ∧ ¬ m.Usable := by
  have sign : isMarker '℘' = true := by decide +kernel
  have dot : isMarker '{' = true ∧ isMarker '·' = true := by decide +kernel
  have point : isMarker '{' = true ∧ isMarker '.' = true := by decide +kernel
  refine ⟨⟨_, dif_pos sign, fun usable => ?_⟩,
    ⟨_, (dif_pos dot).trans (dif_neg (by decide)), fun usable => ?_⟩,
    ⟨_, (dif_pos point).trans (dif_neg (by decide)), fun usable => ?_⟩⟩
  · have begins : Unicode.isIdentStart '℘' = true := by decide +kernel
    exact Bool.noConfusion (begins.symm.trans usable.text)
  · have continues : Unicode.isIdentContinue '·' = true := by decide +kernel
    exact Bool.noConfusion (continues.symm.trans usable.closing)
  · exact usable.noPoint rfl

end Markers

end HtmlTemplate
