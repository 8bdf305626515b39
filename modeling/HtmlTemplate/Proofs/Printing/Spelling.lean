import HtmlTemplate.Proofs.Lexing.LineEnds
import HtmlTemplate.Proofs.Lexing.Words
import HtmlTemplate.Proofs.Printing.Literals

/-!
# Spelling of tokens

Characters spell lexemes if a lexer in a statement or a splice, wherever it meets them, reads such
lexemes and stands behind them. Spellings are put together as long as what follows does not run on
into what came before.
-/

namespace HtmlTemplate

namespace Lexer

/-- In a line, in front of some characters. -/
structure Ready (l : Lexer) (source : List Char) : Prop where
  owes : l.pending = []
  markers : l.markers = .standard
  mode : l.mode = .statement ∨ l.mode = .splice
  source : l.rest = source

section

variable {l l' : Lexer} {c : Char} {chars cs ds rest : List Char}

theorem Ready.active (ready : l.Ready cs) : l.mode ≠ .done := active_of_expression ready.mode

theorem Ready.skip (ready : l.Ready cs) : (l.skip chars rest).Ready rest :=
  ⟨ready.owes, ready.markers, ready.mode, rfl⟩

theorem Ready.step (ready : l.Ready (c :: cs)) : l.step = l.readExpression c cs :=
  step_of_expression ready.mode ready.source

theorem Ready.leads_readExpression (ready : l.Ready (c :: cs))
    (reads : l.readExpression c cs = .ok l') :
    l.Leads l'.pending l'.idle :=
  leads_of_step ready.owes ready.active (ready.step.trans reads)

/-- A step that returns one lexeme and perhaps opens or closes a bracket. -/
theorem Ready.leads_bracket {token : Token} {nesting : List (Bracket × Nat)}
    (ready : l.Ready (c :: cs))
    (reads : l.readExpression c cs = .ok { l.emit token chars rest with nesting }) :
    l.Leads [⟨token, l.offset, chars⟩] { l.skip chars rest with nesting } := by
  have leads := ready.leads_readExpression reads
  simp only [emit, ready.owes, List.nil_append] at leads
  have idle : { l.emit token chars rest with nesting }.idle = { l.skip chars rest with nesting } :=
    idle_eq (l := { l.skip chars rest with nesting }) ready.owes
  rwa [← idle]

theorem Ready.leads_emit {token : Token} (ready : l.Ready (c :: cs))
    (reads : l.readExpression c cs = .ok (l.emit token chars rest)) :
    l.Leads [⟨token, l.offset, chars⟩] (l.skip chars rest) := ready.leads_bracket reads

theorem Ready.leads_gap (ready : l.Ready (c :: cs))
    (reads : l.readExpression c cs = .ok (l.skip chars rest)) :
    l.Leads [] (l.skip chars rest) :=
  leads_of_skip ready.owes ready.active (ready.step.trans reads)

end

/-! ## Characters -/

/-- The characters that have a meaning of their own in a line. -/
def specials : List Char :=
  ['*', '+', '/', '-', '=', ',', ':', '(', '[', '{', ')', ']', '}', '"', '\n', ' ', '\t', '\r']

section

variable {l : Lexer} {c : Char} {chars cs rest : List Char}

theorem plain_of_isDigit (digit : c.isDigit = true) : c ∉ specials := by
  have none : specials.all (fun d => !d.isDigit) = true := by decide
  intro mem
  simpa [digit] using List.all_eq_true.mp none c mem

theorem plain_of_isIdentStart (start : Unicode.isIdentStart c = true) : c ∉ specials := by
  have none : specials.all (fun d => !Unicode.isIdentStart d) = true := by decide
  intro mem
  simpa [start] using List.all_eq_true.mp none c mem

theorem isAscii_of_isDigit (digit : c.isDigit = true) : Unicode.isAscii c = true := by
  simp only [Char.isDigit, Bool.and_eq_true, decide_eq_true_eq, UInt32.le_iff_toNat_le] at digit
  simp only [Unicode.isAscii, decide_eq_true_eq]
  exact Nat.lt_of_le_of_lt digit.2 (by decide)

theorem not_isDigit_of_isIdentStart (start : Unicode.isIdentStart c = true) :
    c.isDigit = false := by
  rw [Bool.eq_false_iff]
  intro digit
  have ascii := isAscii_of_isDigit digit
  have bounds : '0'.val ≤ c.val ∧ c.val ≤ '9'.val := by simpa [Char.isDigit] using digit
  simp only [Unicode.isIdentStart, ascii, if_true, Bool.or_eq_true, beq_iff_eq] at start
  rcases start with alpha | rfl
  · rcases (Bool.or_eq_true _ _).mp alpha with upper | lower
    · have letter : 'A'.val ≤ c.val ∧ c.val ≤ 'Z'.val := of_decide_eq_true upper
      grind
    · have letter := (Bool.and_eq_true _ _).mp lower
      have letter' : 'a'.val ≤ c.val := of_decide_eq_true letter.1
      grind
  · cases digit

theorem readExpression_of_plain
    (goesOn : ¬ (l.mode = .splice ∧ l.nesting = [] ∧ c = l.markers.closing)) (plain : c ∉ specials)
    (cs : List Char) :
    l.readExpression c cs =
      if c.isDigit then
        .ok (l.emit .number (c :: (Run.takeWhile isNumeral cs).chars)
          (Run.takeWhile isNumeral cs).rest)
      else if Unicode.isIdentStart c then
        let run := Run.takeWhile Unicode.isIdentContinue cs
        .ok (l.emit (.ofWord (String.ofList (c :: run.chars))) (c :: run.chars) run.rest)
      else .error ⟨⟨l.offset, l.offset + c.utf8Size⟩, .strangeCharacter⟩ := by
  simp only [specials, List.mem_cons, List.not_mem_nil, or_false, not_or] at plain
  simp [readExpression, goesOn, punctuation, opening, closing, isGap, isBlank, plain]

/-- Reads on to a lexeme of the next characters. -/
theorem leads_emit {token : Token} (owes : l.pending = [])
    (mode : l.mode = .statement ∨ l.mode = .splice) (source : l.rest = c :: cs)
    (reads : l.readExpression c cs = .ok (l.emit token chars rest)) :
    l.Leads [⟨token, l.offset, chars⟩] (l.skip chars rest) := by
  refine leads_of_found owes owes (active_of_expression mode) ?_
  rw [step_of_expression mode source, reads]
  simp [emit, owes]

theorem leads_word (owes : l.pending = []) (mode : l.mode = .statement ∨ l.mode = .splice)
    (source : l.rest = c :: (cs ++ rest))
    (goesOn : ¬ (l.mode = .splice ∧ l.nesting = [] ∧ c = l.markers.closing))
    (start : Unicode.isIdentStart c = true)
    (continues : ∀ d ∈ cs, Unicode.isIdentContinue d = true)
    (stops : ∀ d ∈ rest.head?, Unicode.isIdentContinue d = false) :
    l.Leads [⟨.ofWord (String.ofList (c :: cs)), l.offset, c :: cs⟩] (l.skip (c :: cs) rest) := by
  have run := Run.takeWhile_of_stops continues stops
  have reads := readExpression_of_plain goesOn (plain_of_isIdentStart start) (cs ++ rest)
  rw [if_neg (by simp [not_isDigit_of_isIdentStart start]), if_pos start, run] at reads
  exact leads_emit owes mode source reads

theorem leads_number (owes : l.pending = []) (mode : l.mode = .statement ∨ l.mode = .splice)
    (source : l.rest = c :: (cs ++ rest))
    (goesOn : ¬ (l.mode = .splice ∧ l.nesting = [] ∧ c = l.markers.closing))
    (digit : c.isDigit = true) (numeral : ∀ d ∈ cs, isNumeral d = true)
    (stops : ∀ d ∈ rest.head?, isNumeral d = false) :
    l.Leads [⟨.number, l.offset, c :: cs⟩] (l.skip (c :: cs) rest) := by
  have run := Run.takeWhile_of_stops numeral stops
  have reads := readExpression_of_plain goesOn (plain_of_isDigit digit) (cs ++ rest)
  rw [if_pos digit, run] at reads
  exact leads_emit owes mode source reads

/-- Only a closing bracket may close a splice. -/
theorem splice_goes_on (markers : l.markers = .standard) (other : c ≠ '}') :
    ¬ (l.mode = .splice ∧ l.nesting = [] ∧ c = l.markers.closing) := by
  rintro ⟨-, -, rfl⟩
  rw [markers] at other
  exact other rfl

theorem plain_goes_on (markers : l.markers = .standard) (plain : c ∉ specials) :
    ¬ (l.mode = .splice ∧ l.nesting = [] ∧ c = l.markers.closing) := by
  refine splice_goes_on markers ?_
  rintro rfl
  exact plain (by decide)

theorem readExpression_punctuation {token : Token} (markers : l.markers = .standard)
    (is : punctuation c = some token) (cs : List Char) :
    l.readExpression c cs = .ok (l.emit token [c] cs) := by
  have other : c ≠ '}' := by
    rintro rfl
    cases is
  simp [readExpression, splice_goes_on markers other, is]

theorem readExpression_opening {b : Bracket} (markers : l.markers = .standard)
    (opens : opening c = some b) (cs : List Char) :
    l.readExpression c cs = .ok (l.openBracket b c cs) := by
  have other : c ≠ '}' := by
    rintro rfl
    cases opens
  have plain : punctuation c = none := by
    unfold opening at opens
    split at opens <;> first | rfl | cases opens
  simp [readExpression, splice_goes_on markers other, plain, opens]

theorem readExpression_closing {b : Bracket} {start : Nat} {outer : List (Bracket × Nat)}
    (nesting : l.nesting = (b, start) :: outer) (closes : closing c = some b) (cs : List Char) :
    l.readExpression c cs = .ok { l.emit (.closing b) [c] cs with nesting := outer } := by
  have plain : punctuation c = none ∧ opening c = none := by
    unfold closing at closes
    split at closes <;> first | exact ⟨rfl, rfl⟩ | cases closes
  simp [readExpression, nesting, plain, closes, closeBracket]

theorem readExpression_string (markers : l.markers = .standard) (s rest : List Char) :
    l.readExpression '"' (s.flatMap quoteChar ++ '"' :: rest) =
      .ok (l.emit .string (quoted s) rest) := by
  have other := splice_goes_on (l := l) (c := '"') markers (by decide)
  simp [readExpression, other, punctuation, opening, closing, readString, Run.string_quoted, quoted]

theorem Ready.leads_newline {cs : List Char} (ready : l.Ready ('\n' :: cs))
    (mode : l.mode = .statement)
    (closed : l.nesting = []) :
    l.Leads [⟨.newline, l.offset, ['\n']⟩] { l.skip ['\n'] cs with mode := .lineStart } :=
  leads_endLine ready.owes mode closed ready.source

theorem Ready.leads_closeSplice {cs : List Char} (ready : l.Ready ('}' :: cs))
    (mode : l.mode = .splice)
    (closed : l.nesting = []) :
    l.Leads [⟨.closeSplice, l.offset, ['}']⟩] { l.skip ['}'] cs with mode := .text } := by
  have reads : l.readExpression '}' cs =
      .ok { l.emit .closeSplice ['}'] cs with mode := .text } := by
    simp [readExpression, mode, closed, ready.markers, Markers.standard]
  have leads := ready.leads_readExpression reads
  simpa only [emit, idle, Lexer.skip, ready.owes, List.nil_append] using leads

end

end Lexer

/-! ## Spellings -/

/-- Does not run on into a word or a number in front of it. -/
def Breaks (rest : List Char) : Prop :=
  ∀ c ∈ rest.head?, Unicode.isIdentContinue c = false ∧ isNumeral c = false

theorem breaks_of_special {c : Char} (special : c ∈ Lexer.specials) (cs : List Char) :
    Breaks (c :: cs) := by
  have none : Lexer.specials.all (fun d => !Unicode.isIdentContinue d && !isNumeral d) = true := by
    decide
  rintro _ ⟨⟩
  simpa using List.all_eq_true.mp none c special

theorem Lexer.Ready.leads_digits {l : Lexer} {ds rest : List Char} (ready : l.Ready (ds ++ rest))
    (some : ds ≠ []) (digits : ∀ d ∈ ds, d.isDigit = true) (breaks : Breaks rest) :
    l.Leads [⟨.number, l.offset, ds⟩] (l.skip ds rest) := by
  obtain ⟨c, cs, rfl⟩ := List.exists_cons_of_ne_nil some
  obtain ⟨digit, later⟩ := List.forall_mem_cons.mp digits
  have numeral : ∀ d ∈ cs, isNumeral d = true := fun d mem => by simp [isNumeral, later d mem]
  have goesOn := Lexer.plain_goes_on ready.markers (Lexer.plain_of_isDigit digit)
  exact Lexer.leads_number ready.owes ready.mode ready.source goesOn digit numeral fun d mem =>
    (breaks d mem).2

/-- Any rest will do. -/
def Anything (_ : List Char) : Prop := True

/-- Begins with the first character of a word. -/
def Worded (cs : List Char) : Prop := ∃ c ds, cs = c :: ds ∧ Unicode.isIdentStart c = true

theorem Worded.of_head {cs : List Char} (start : ∃ c ∈ cs.head?, Unicode.isIdentStart c = true) :
    Worded cs := by
  obtain ⟨c, head, start⟩ := start
  obtain ⟨ds, rfl⟩ := List.head?_eq_some_iff.mp head
  exact ⟨c, ds, rfl, start⟩

theorem Worded.append {cs : List Char} (worded : Worded cs) (ds : List Char) :
    Worded (cs ++ ds) := by
  obtain ⟨c, cs, rfl, start⟩ := worded
  exact ⟨c, cs ++ ds, rfl, start⟩

theorem Keyword.worded (k : Keyword) : Worded k.text.toList := by
  cases k <;> exact ⟨_, _, rfl, by decide⟩

theorem Keyword.continues (k : Keyword) :
    ∀ c ∈ k.text.toList, Unicode.isIdentContinue c = true := by
  have all : k.text.toList.all Unicode.isIdentContinue = true := by
    cases k <;> decide
  exact List.all_eq_true.mp all

theorem Token.ofWord_text (k : Keyword) : ofWord (String.ofList k.text.toList) = .keyword k := by
  cases k <;> decide

/-- A lexer that meets the characters, with a fitting rest behind them, reads such lexemes. -/
def Spells (fits : List Char → Prop) (cs : List Char) (good : List Lexeme → Prop) : Prop :=
  ∀ ⦃l : Lexer⦄ ⦃rest : List Char⦄, l.Ready (cs ++ rest) → fits rest →
    ∃ ts, good ts ∧ l.Leads ts (l.skip cs rest)

/-- One lexeme. -/
def Single (token : Token) (chars : List Char) (ts : List Lexeme) : Prop :=
  ∃ t, ts = [t] ∧ t.token = token ∧ t.chars = chars

/-- Some lexemes behind others. -/
def Joined (good good' : List Lexeme → Prop) (ts : List Lexeme) : Prop :=
  ∃ us vs, ts = us ++ vs ∧ good us ∧ good' vs

/-- Some lexemes within brackets. -/
def Enclosed (b : Bracket) (good : List Lexeme → Prop) (ts : List Lexeme) : Prop :=
  ∃ t us u, ts = t :: us ++ [u] ∧ t.token = .opening b ∧ good us ∧ u.token = .closing b

namespace Spells

variable {fits fits' : List Char → Prop} {c : Char} {cs ds : List Char}
  {good good' : List Lexeme → Prop}

theorem mono (spells : Spells fits cs good) (implies : ∀ ts, good ts → good' ts) :
    Spells fits cs good' := by
  intro l rest ready fit
  obtain ⟨ts, is, leads⟩ := spells ready fit
  exact ⟨ts, implies ts is, leads⟩

theorem nil : Spells fits [] (· = []) := by
  intro l rest ready _
  refine ⟨[], rfl, ?_⟩
  have same : l.skip [] rest = l := Lexer.skip_nil ready.source
  rw [same]
  exact .refl l

theorem append (first : Spells fits cs good) (later : Spells fits' ds good')
    (fit : ∀ rest, fits' rest → fits (ds ++ rest)) :
    Spells fits' (cs ++ ds) (Joined good good') := by
  intro l rest ready fit'
  rw [List.append_assoc] at ready
  obtain ⟨ts, goodTs, leads⟩ := first ready (fit rest fit')
  have ready' : (l.skip cs (ds ++ rest)).Ready (ds ++ rest) := ready.skip
  obtain ⟨us, goodUs, leads'⟩ := later ready' fit'
  rw [Lexer.skip_skip] at leads'
  exact ⟨ts ++ us, ⟨ts, us, rfl, goodTs, goodUs⟩, leads.trans leads'⟩

theorem andThen (first : Spells Anything cs good) (later : Spells fits ds good') :
    Spells fits (cs ++ ds) (Joined good good') := first.append later fun _ _ => trivial

theorem before (first : Spells Breaks cs good) (special : c ∈ Lexer.specials)
    (later : Spells fits (c :: ds) good') : Spells fits (cs ++ c :: ds) (Joined good good') :=
  first.append later fun rest _ => breaks_of_special special (ds ++ rest)

theorem punctuation {token : Token} (is : Lexer.punctuation c = some token) :
    Spells fits [c] (Single token [c]) := fun _ _ ready _ =>
  ⟨_, ⟨_, rfl, rfl, rfl⟩, ready.leads_emit (Lexer.readExpression_punctuation ready.markers is _)⟩

theorem word {name : List Char} (worded : Worded name)
    (continues : ∀ c ∈ name, Unicode.isIdentContinue c = true) :
    Spells Breaks name (Single (.ofWord (String.ofList name)) name) := by
  intro l rest ready breaks
  obtain ⟨c, cs, rfl, start⟩ := worded
  have goesOn := Lexer.plain_goes_on ready.markers (Lexer.plain_of_isIdentStart start)
  exact ⟨_, ⟨_, rfl, rfl, rfl⟩, Lexer.leads_word ready.owes ready.mode ready.source goesOn start
    (List.forall_mem_cons.mp continues).2 fun d mem => (breaks d mem).1⟩

theorem identifier {name : List Char} (is : IsIdentifier name) :
    Spells Breaks name (Single .identifier name) := by
  have spells := word (.of_head is.starts) is.continues
  rwa [is.free] at spells

theorem keyword (k : Keyword) :
    Spells Breaks k.text.toList (Single (.keyword k) k.text.toList) := by
  have spells := word k.worded k.continues
  rwa [Token.ofWord_text] at spells

theorem digits {ds : List Char} (some : ds ≠ []) (digits : ∀ d ∈ ds, d.isDigit = true) :
    Spells Breaks ds (Single .number ds) := fun _ _ ready breaks =>
  ⟨_, ⟨_, rfl, rfl, rfl⟩, ready.leads_digits some digits breaks⟩

/-- A minus and its number touch. -/
theorem negative {ds : List Char} (some : ds ≠ []) (digits : ∀ d ∈ ds, d.isDigit = true) :
    Spells Breaks ('-' :: ds) fun ts =>
      ∃ t u, ts = [t, u] ∧ t.token = .operator .subtract ∧ u.token = .number ∧ u.chars = ds ∧
        t.region.stop = u.region.start := by
  intro l rest ready breaks
  have minus := ready.leads_emit (Lexer.readExpression_punctuation ready.markers rfl (ds ++ rest))
  have ready' : (l.skip ['-'] (ds ++ rest)).Ready (ds ++ rest) := ready.skip
  have number := ready'.leads_digits some digits breaks
  rw [Lexer.skip_skip] at number
  exact ⟨_, ⟨_, _, rfl, rfl, rfl, rfl, rfl⟩, minus.trans number⟩

theorem string (s : List Char) : Spells fits (quoted s) (Single .string (quoted s)) := by
  intro l rest ready _
  have shape : quoted s ++ rest = '"' :: (s.flatMap quoteChar ++ '"' :: rest) := by simp [quoted]
  rw [shape] at ready
  exact ⟨_, ⟨_, rfl, rfl, rfl⟩, ready.leads_emit (Lexer.readExpression_string ready.markers s rest)⟩

theorem gap : Spells fits [' '] (· = []) := by
  intro l rest ready _
  refine ⟨[], rfl, ?_⟩
  have leads := ready.leads_gap (Lexer.readExpression_gap rfl rest)
  cases rest with
  | nil => exact leads
  | cons c cs =>
    by_cases more : isGap c = true
    · -- The lexer passes all gaps at once, and so does one that stands behind the first of them.
      have ready' : (l.skip [' '] (c :: cs)).Ready (c :: cs) := ready.skip
      have leads' := ready'.leads_gap (Lexer.readExpression_gap more cs)
      rw [Lexer.skip_skip] at leads'
      simp only [Run.takeWhile, List.takeWhile_cons_of_pos more,
        List.dropWhile_cons_of_pos more] at leads
      exact leads.trans leads'.back
    · rwa [Run.takeWhile, List.takeWhile_cons_of_neg more, List.dropWhile_cons_of_neg more] at leads

theorem behindGap (spells : Spells fits cs good) : Spells fits (' ' :: cs) good := by
  refine (gap.andThen spells).mono ?_
  rintro _ ⟨_, ts, rfl, rfl, is⟩
  exact is

/-- Two members of a list. -/
theorem listed (first : Spells Breaks cs good) (later : Spells fits ds good') :
    Spells fits (cs ++ ([',', ' '] ++ ds)) (Joined good (Joined (Single .comma [',']) good')) :=
  first.before (by decide) ((punctuation rfl).andThen later.behindGap)

theorem bracketed {b : Bracket} {c d : Char} (opens : Lexer.opening c = some b)
    (closes : Lexer.closing d = some b) (inside : Spells Breaks cs good) :
    Spells fits (c :: cs ++ [d]) (Enclosed b good) := by
  intro l rest ready _
  rw [List.append_assoc, List.cons_append, List.singleton_append] at ready
  have first :=
    ready.leads_bracket (Lexer.readExpression_opening ready.markers opens (cs ++ d :: rest))
  generalize within : ({ l.skip [c] (cs ++ d :: rest) with
    nesting := (b, l.offset) :: l.nesting } : Lexer) = l' at first
  have ready' : l'.Ready (cs ++ d :: rest) := by
    subst within
    exact ⟨ready.owes, ready.markers, ready.mode, rfl⟩
  have special : d ∈ Lexer.specials := by
    unfold Lexer.closing at closes
    split at closes <;> first | decide | cases closes
  obtain ⟨ts, goodTs, leads⟩ := inside ready' (breaks_of_special special rest)
  have ready'' : (l'.skip cs (d :: rest)).Ready (d :: rest) := ready'.skip
  have nesting : (l'.skip cs (d :: rest)).nesting = (b, l.offset) :: l.nesting := by
    subst within
    rfl
  have last := ready''.leads_bracket (Lexer.readExpression_closing nesting closes rest)
  have behind : ({ (l'.skip cs (d :: rest)).skip [d] rest with nesting := l.nesting } : Lexer) =
      l.skip (c :: cs ++ [d]) rest := by
    subst within
    simp [Lexer.skip, Nat.add_assoc]
  rw [behind] at last
  exact ⟨_, ⟨_, ts, _, rfl, rfl, goodTs, rfl⟩, first.trans (leads.trans last)⟩

end Spells

end HtmlTemplate
