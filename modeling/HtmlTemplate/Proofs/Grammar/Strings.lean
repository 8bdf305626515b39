import HtmlTemplate.Proofs.Grammar.Exact
import HtmlTemplate.Proofs.Lexing.States
import HtmlTemplate.Proofs.Printing.Literals
import Mathlib.Algebra.Ring.Parity

/-!
# String literals

The lexer looks for the quote that ends a string literal with a flag that each backslash toggles.
The parser reads what stands between the quotes from pair to pair. Both agree about runs of
backslashes: a character is escaped when an odd number of backslashes stands right in front of it.
-/

namespace HtmlTemplate

/-- The number of backslashes at the end. -/
def backslashes (cs : List Char) : Nat := (cs.reverse.takeWhile (· == '\\')).length

/-- A character right behind these is escaped. -/
def Escapes (cs : List Char) : Prop := Odd (backslashes cs)

variable {front cs body after value : List Char} {c : Char}

theorem backslashes_concat (cs : List Char) (c : Char) :
    backslashes (cs ++ [c]) = if c = '\\' then backslashes cs + 1 else 0 := by
  by_cases backslash : c = '\\' <;> simp [backslashes, backslash]

theorem not_escapes_nil : ¬ Escapes [] := Nat.not_odd_zero

theorem escapes_concat : Escapes (cs ++ [c]) ↔ c = '\\' ∧ ¬ Escapes cs := by
  rw [Escapes, backslashes_concat]
  split
  · next backslash => simp [backslash, Escapes, Nat.odd_add_one]
  · next plain => simp [plain]

/-! ## Ends of literals -/

/-- Behind the first characters of a literal, the rest of it ends at the first quote that is not
escaped, and this quote is in the same line. -/
structure ClosesBehind (front cs body after : List Char) : Prop where
  source : cs = body ++ '"' :: after
  line : '\n' ∉ body
  free : ¬ Escapes (front ++ body)
  first : ∀ xs ys, body = xs ++ '"' :: ys → Escapes (front ++ xs)

/-- The characters behind a quote begin with the body of a literal and the quote that ends it. -/
abbrev Closes (cs body after : List Char) : Prop := ClosesBehind [] cs body after

namespace ClosesBehind

theorem cons (inLine : c ≠ '\n') (goesOn : c = '"' → Escapes front)
    (closes : ClosesBehind (front ++ [c]) cs body after) :
    ClosesBehind front (c :: cs) (c :: body) after where
  source := by rw [closes.source, List.cons_append]
  line := by
    rw [List.mem_cons, not_or]
    exact ⟨inLine.symm, closes.line⟩
  free := by
    have free := closes.free
    rwa [List.append_assoc, List.singleton_append] at free
  first := by
    intro xs ys split
    cases xs with
    | nil =>
      rw [List.append_nil]
      exact goesOn (List.cons.inj split).1
    | cons x xs =>
      obtain ⟨rfl, split'⟩ := List.cons.inj split
      have first := closes.first xs ys split'
      rwa [List.append_assoc, List.singleton_append] at first

theorem tail (closes : ClosesBehind front cs (c :: body) after) :
    ∃ cs', cs = c :: cs' ∧ ClosesBehind (front ++ [c]) cs' body after := by
  have shift (xs : List Char) : front ++ [c] ++ xs = front ++ c :: xs := by simp
  refine ⟨body ++ '"' :: after, closes.source, rfl, fun mem => ?_, ?_, fun xs ys split => ?_⟩
  · exact closes.line (List.mem_cons_of_mem _ mem)
  · rw [shift]
    exact closes.free
  · rw [shift]
    exact closes.first (c :: xs) ys (by rw [split, List.cons_append])

end ClosesBehind

namespace Run

variable {escaped : Bool}

/-- The flag of the lexer says whether the characters in front escape the next one. -/
theorem flag_concat (flag : escaped = true ↔ Escapes front) :
    (!escaped && c == '\\') = true ↔ Escapes (front ++ [c]) := by
  rw [escapes_concat, ← flag]
  simp [and_comm]

theorem string_of_closes (flag : escaped = true ↔ Escapes front)
    (closes : ClosesBehind front cs body after) :
    string escaped cs = (⟨body ++ ['"'], after⟩, true) := by
  induction body generalizing front cs escaped with
  | nil =>
    have free : escaped = false := by
      have free := closes.free
      rwa [List.append_nil, ← flag, Bool.not_eq_true] at free
    rw [closes.source, List.nil_append, string, if_pos ⟨rfl, free⟩]
    rfl
  | cons c body ih =>
    obtain ⟨cs', rfl, later⟩ := closes.tail
    have inLine : c ≠ '\n' := fun feed => closes.line (by simp [feed])
    have goesOn : ¬ (c = '"' ∧ escaped = false) := by
      rintro ⟨rfl, free⟩
      have first := closes.first [] body rfl
      rw [List.append_nil, ← flag, free] at first
      cases first
    rw [string, if_neg goesOn, if_neg inLine, ih (flag_concat flag) later]
    rfl

theorem closes_of_string {run : Run} (flag : escaped = true ↔ Escapes front)
    (closed : string escaped cs = (run, true)) :
    ∃ body, run.chars = body ++ ['"'] ∧ ClosesBehind front cs body run.rest := by
  induction cs generalizing front run escaped with
  | nil => simp [string] at closed
  | cons c cs ih =>
    rw [string] at closed
    split at closed
    · next ends =>
      obtain ⟨rfl, free⟩ := ends
      cases closed
      refine ⟨[], rfl, rfl, by simp, ?_, by simp⟩
      rw [List.append_nil, ← flag, free]
      decide
    · next goesOn =>
      split at closed
      · cases closed
      · next inLine =>
        rcases found : string (!escaped && c == '\\') cs with ⟨later, ends⟩
        rw [found] at closed
        cases closed
        obtain ⟨body, chars, closes⟩ := ih (flag_concat flag) found
        refine ⟨c :: body, by rw [add, chars, List.cons_append], closes.cons inLine ?_⟩
        rintro rfl
        rw [← flag]
        simpa using goesOn

/-- A literal that is not closed takes up the rest of its line. -/
theorem string_of_open {run : Run} (opened : string escaped cs = (run, false)) :
    run.chars = cs.takeWhile (· ≠ '\n') := by
  induction cs generalizing run escaped with
  | nil => cases opened; rfl
  | cons c cs ih =>
    rw [string] at opened
    split at opened
    · cases opened
    · split at opened
      · next feed =>
        cases opened
        simp [feed]
      · next inLine =>
        rcases found : string (!escaped && c == '\\') cs with ⟨later, ends⟩
        rw [found] at opened
        cases opened
        rw [List.takeWhile_cons_of_pos (by simpa using inLine), add, ih found]

end Run

/-! ## Values of literals -/

/-- The characters behind a backslash, with what the pairs stand for. -/
def escapePairs : List (Char × Char) :=
  [('n', '\n'), ('r', '\r'), ('t', '\t'), ('\\', '\\'), ('"', '"')]

/-- The body of a literal stands for a text: pairs of a backslash and another character for one
character, and everything else for itself. -/
inductive Denotes : List Char → List Char → Prop where
  | nil : Denotes [] []
  | kept {c : Char} {cs value : List Char} (plain : c ≠ '\\') (later : Denotes cs value) :
      Denotes (c :: cs) (c :: value)
  | pair {c v : Char} {cs value : List Char} (escape : (c, v) ∈ escapePairs)
      (later : Denotes cs value) : Denotes ('\\' :: c :: cs) (v :: value)

theorem stringEscape_eq_some_iff {v : Char} : stringEscape c = some v ↔ (c, v) ∈ escapePairs := by
  unfold stringEscape escapePairs
  split <;> simp_all [eq_comm]

theorem decodeString?_eq_some_iff : decodeString? cs = some value ↔ Denotes cs value := by
  constructor
  · intro decodes
    fun_induction decodeString? cs generalizing value with
    | case1 => cases decodes; exact .nil
    | case2 => cases decodes
    | case3 c plain => cases decodes; exact .kept plain .nil
    | case4 d cs ih =>
      obtain ⟨v, escape, decodes⟩ := Option.bind_eq_some_iff.mp decodes
      obtain ⟨value, later, found⟩ := Option.bind_eq_some_iff.mp decodes
      cases found
      exact .pair (stringEscape_eq_some_iff.mp escape) (ih later)
    | case5 c d cs plain ih =>
      obtain ⟨value, later, rfl⟩ := Option.map_eq_some_iff.mp decodes
      exact .kept plain (ih later)
  · intro denotes
    induction denotes with
    | nil => rfl
    | kept plain later ih => rw [decodeString?_cons plain, ih]; rfl
    | pair escape later ih =>
      rw [decodeString?, if_pos rfl, stringEscape_eq_some_iff.mpr escape, ih]
      rfl

/-- Behind every backslash that is not escaped itself stands a character that may be escaped. -/
def EscapesKnown (front cs : List Char) : Prop :=
  ∀ xs ys, cs = xs ++ '\\' :: ys → ¬ Escapes (front ++ xs) →
    ∃ c zs, ys = c :: zs ∧ c ∈ ['n', 'r', 't', '\\', '"']

theorem mem_escapable_iff : c ∈ ['n', 'r', 't', '\\', '"'] ↔ ∃ v, (c, v) ∈ escapePairs := by
  simp [escapePairs, exists_or]

theorem EscapesKnown.tail (known : EscapesKnown front (c :: cs)) :
    EscapesKnown (front ++ [c]) cs := by
  intro xs ys split free
  rw [List.append_assoc, List.singleton_append] at free
  exact known (c :: xs) ys (by rw [split, List.cons_append]) free

/-- Where nothing is escaped, a pair leaves nothing escaped, whatever its second character is. -/
theorem not_escapes_pair (free : ¬ Escapes front) : ¬ Escapes (front ++ ['\\'] ++ [c]) := by
  rw [escapes_concat, escapes_concat]
  exact fun escapes => escapes.2 ⟨rfl, free⟩

theorem exists_denotes_of_known (free : ¬ Escapes front) (known : EscapesKnown front cs) :
    ∃ value, Denotes cs value := by
  -- by the length, since a pair takes two characters; behind it nothing is escaped again
  induction size : cs.length using Nat.strongRecOn generalizing front cs with
  | ind size ih =>
    subst size
    cases cs with
    | nil => exact ⟨[], .nil⟩
    | cons c cs =>
      by_cases backslash : c = '\\'
      · subst backslash
        obtain ⟨d, ds, rfl, escapable⟩ := known [] cs rfl (by rwa [List.append_nil])
        obtain ⟨v, escape⟩ := mem_escapable_iff.mp escapable
        obtain ⟨value, later⟩ := ih ds.length (by simp only [List.length_cons]; omega)
          (not_escapes_pair free) known.tail.tail rfl
        exact ⟨v :: value, .pair escape later⟩
      · have free' : ¬ Escapes (front ++ [c]) := fun escapes =>
          backslash (escapes_concat.mp escapes).1
        obtain ⟨value, later⟩ := ih cs.length (by simp) free' known.tail rfl
        exact ⟨c :: value, .kept backslash later⟩

theorem Denotes.known (denotes : Denotes cs value) (free : ¬ Escapes front) :
    EscapesKnown front cs := by
  induction denotes generalizing front with
  | nil =>
    intro xs ys split
    simp at split
  | @kept c cs value plain later ih =>
    have free' : ¬ Escapes (front ++ [c]) := fun escapes => plain (escapes_concat.mp escapes).1
    intro xs ys split unescaped
    cases xs with
    | nil => exact absurd (List.cons.inj split).1 plain
    | cons x xs =>
      obtain ⟨rfl, split'⟩ := List.cons.inj split
      exact ih free' xs ys split' (by simpa using unescaped)
  | @pair c v cs value escape later ih =>
    intro xs ys split unescaped
    -- the second character of the pair is escaped, even if it is a backslash
    match xs with
    | [] => exact ⟨c, cs, (List.cons.inj split).2.symm, mem_escapable_iff.mpr ⟨v, escape⟩⟩
    | [x] =>
      obtain ⟨rfl, -⟩ := List.cons.inj split
      exact absurd (escapes_concat.mpr ⟨rfl, free⟩) unescaped
    | x :: y :: xs =>
      obtain ⟨rfl, split'⟩ := List.cons.inj split
      obtain ⟨rfl, split''⟩ := List.cons.inj split'
      exact ih (not_escapes_pair free) xs ys split'' (by simpa using unescaped)

theorem exists_denotes_iff : (∃ value, Denotes cs value) ↔ EscapesKnown [] cs :=
  ⟨fun ⟨_, denotes⟩ => denotes.known not_escapes_nil, exists_denotes_of_known not_escapes_nil⟩

/-! ## The way of the decoder -/

/-- The decoder comes to these characters on its way through a body. -/
inductive DecoderAt (body : List Char) : List Char → Prop where
  | start : DecoderAt body body
  | kept {c : Char} {cs : List Char} (here : DecoderAt body (c :: cs)) (plain : c ≠ '\\') :
      DecoderAt body cs
  | pair {c v : Char} {cs : List Char} (here : DecoderAt body ('\\' :: c :: cs))
      (escape : stringEscape c = some v) : DecoderAt body cs

/-- It goes on with what is left, and nothing in front of it escapes what is. -/
theorem DecoderAt.goes_on (here : DecoderAt body cs) :
    (∃ read, decodeString? body = (decodeString? cs).map (read ++ ·)) ∧
      ∃ front, body = front ++ cs ∧ ¬ Escapes front := by
  induction here with
  | start => exact ⟨⟨[], by simp⟩, [], rfl, not_escapes_nil⟩
  | @kept c cs here plain ih =>
    obtain ⟨⟨read, decodes⟩, front, rfl, free⟩ := ih
    refine ⟨⟨read ++ [c], ?_⟩, front ++ [c], by simp, fun escapes => ?_⟩
    · rw [decodes, decodeString?_cons plain, Option.map_map]
      congr 1
      funext later
      simp
    · exact plain (escapes_concat.mp escapes).1
  | @pair c v cs here escape ih =>
    obtain ⟨⟨read, decodes⟩, front, rfl, free⟩ := ih
    refine ⟨⟨read ++ [v], ?_⟩, front ++ ['\\'] ++ [c], by simp, not_escapes_pair free⟩
    rw [decodes, decodeString?, if_pos rfl, escape]
    cases decodeString? cs <;> simp

/-- Between the quotes of a literal no backslash is alone. -/
theorem DecoderAt.ne_backslash (here : DecoderAt body cs) (free : ¬ Escapes body) :
    cs ≠ ['\\'] := by
  rintro rfl
  obtain ⟨-, front, rfl, unescaped⟩ := here.goes_on
  exact free (escapes_concat.mpr ⟨rfl, unescaped⟩)

/-! ## String literals of a source -/

theorem Run.string_eq_closed_iff {run : Run} :
    Run.string false cs = (run, true) ↔
      ∃ body, run.chars = body ++ ['"'] ∧ Closes cs body run.rest := by
  have flag : false = true ↔ Escapes [] := by simp [not_escapes_nil]
  constructor
  · exact closes_of_string flag
  · rintro ⟨body, chars, closes⟩
    rw [string_of_closes flag closes, ← chars]

theorem parseAtom_string {t : Lexeme} (string : t.token = .string)
    (chars : t.chars = '"' :: body ++ ['"']) (ts : List Lexeme) :
    parseAtom (t :: ts) = (decodeString? body).elim (stopAt t .escape) fun value =>
      .ok ⟨.literal (.string (String.ofList value)) t.region, ts, Nat.lt_succ_self _⟩ := by
  rw [parseAtom, string]
  dsimp only
  rw [stringLiteral, chars, insideQuotes_quoted]
  cases decodeString? body <;> rfl

/-- The parser takes a literal as its body says: it accepts it when all pairs are known, with the
text that the body stands for, and blames it otherwise. -/
structure ReadsLiteral (body : List Char) (t : Lexeme) (ts : List Lexeme) : Prop where
  accepts : (∃ p, parseAtom (t :: ts) = .ok p) ↔ EscapesKnown [] body
  value : ∀ s, Yields (parseAtom (t :: ts)) (.literal (.string s) t.region) ts ↔
    Denotes body s.toList
  refuses : ¬ EscapesKnown [] body → parseAtom (t :: ts) = .error (.fault ⟨t.region, .escape⟩)

theorem readsLiteral {t : Lexeme} (string : t.token = .string)
    (chars : t.chars = '"' :: body ++ ['"']) (ts : List Lexeme) : ReadsLiteral body t ts := by
  have reads := parseAtom_string string chars ts
  cases decodes : decodeString? body with
  | some value =>
    rw [decodes, Option.elim_some] at reads
    have denotes := decodeString?_eq_some_iff.mp decodes
    have known := exists_denotes_iff.mp ⟨value, denotes⟩
    refine ⟨⟨fun _ => known, fun _ => ⟨_, reads⟩⟩, fun s => ?_, fun unknown => absurd known unknown⟩
    rw [reads, yields_ok, ← decodeString?_eq_some_iff, decodes]
    simp [String.ext_iff]
  | none =>
    rw [decodes, Option.elim_none] at reads
    have none_denotes : ¬ ∃ value, Denotes body value := by
      rintro ⟨value, denotes⟩
      rw [decodeString?_eq_some_iff.mpr denotes] at decodes
      cases decodes
    refine ⟨⟨?_, fun known => absurd (exists_denotes_iff.mpr known) none_denotes⟩, fun s => ?_,
      fun _ => reads⟩
    · rintro ⟨p, ok⟩
      rw [reads] at ok
      cases ok
    · rw [reads]
      exact ⟨fun yields => absurd yields not_yields_stopAt,
        fun denotes => absurd ⟨s.toList, denotes⟩ none_denotes⟩

namespace Lexer

variable {m : Markers} {source : List Char} {l : Lexer}

/-- A lexer that comes to a string literal in a source: the quote stands in a statement or a splice
and does not close the splice. -/
structure AtQuote (m : Markers) (source : List Char) (l : Lexer) (cs : List Char) : Prop where
  reaches : Reaches { markers := m, rest := source } l
  owes : l.pending = []
  mode : l.mode = .statement ∨ l.mode = .splice
  quote : l.rest = '"' :: cs
  inside : ¬ (l.mode = .splice ∧ l.nesting = [] ∧ '"' = l.markers.closing)

namespace AtQuote

theorem active (quoted : AtQuote m source l cs) : l.mode ≠ .done :=
  active_of_expression quoted.mode

theorem step_eq (quoted : AtQuote m source l cs) : l.step = l.readString cs := by
  rw [step_of_expression quoted.mode quoted.quote, readExpression, if_neg quoted.inside]
  rfl

theorem step_of_closes (quoted : AtQuote m source l cs) (closes : Closes cs body after) :
    l.step = .ok { l.skip ('"' :: body ++ ['"']) after with
      pending := [⟨.string, l.offset, '"' :: body ++ ['"']⟩] } := by
  have string : Run.string false cs = (⟨body ++ ['"'], after⟩, true) :=
    Run.string_eq_closed_iff.mpr ⟨body, rfl, closes⟩
  rw [quoted.step_eq, readString, string]
  simp only [emit, quoted.owes, List.nil_append, List.cons_append]

theorem step_of_open (quoted : AtQuote m source l cs)
    (opened : ¬ ∃ body after, Closes cs body after) :
    l.step = .error
      ⟨⟨l.offset, l.offset + byteLength ('"' :: cs.takeWhile (· ≠ '\n'))⟩, .openString⟩ := by
  rw [quoted.step_eq, readString]
  rcases found : Run.string false cs with ⟨run, closed⟩
  cases closed with
  | true =>
    obtain ⟨body, -, closes⟩ := Run.string_eq_closed_iff.mp found
    exact absurd ⟨body, run.rest, closes⟩ opened
  | false =>
    dsimp only
    rw [Run.string_of_open found]

/-- The lexer and the parser agree on a string literal. It ends at the first quote of its line that
is not escaped, and without such a quote the source is faulty. It is accepted when every backslash
that is not escaped begins a pair, and then stands for its characters with the pairs replaced. The
decoder never comes to a backslash with nothing behind it. -/
theorem literal_agrees (quoted : AtQuote m source l cs) :
    (∃ before, source = before ++ '"' :: cs ∧ l.offset = byteLength before) ∧
    (∀ body after, Closes cs body after →
      let t : Lexeme := ⟨.string, l.offset, '"' :: body ++ ['"']⟩
      l.next = .ok (some t, l.skip t.chars after) ∧
      t ∈ (Lexemes.ofSource m source).list ∧
      (∀ ts, ReadsLiteral body t ts) ∧
      ∀ tail, DecoderAt body tail →
        (∃ read, decodeString? body = (decodeString? tail).map (read ++ ·)) ∧ tail ≠ ['\\']) ∧
    ((¬ ∃ body after, Closes cs body after) →
      let f : Fault :=
        ⟨⟨l.offset, l.offset + byteLength ('"' :: cs.takeWhile (· ≠ '\n'))⟩, .openString⟩
      l.next = .error f ∧ (Lexemes.ofSource m source).fault = some f ∧
        ∀ ss, parseSource m source ≠ .ok ss) := by
  obtain ⟨read, leads⟩ := quoted.reaches.leads
  refine ⟨?_, ?_, ?_⟩
  · have placed := quoted.reaches.placed ⟨⟨[], rfl, rfl⟩, by simp, by simp⟩
    have ahead := placed.ahead
    rwa [quoted.quote] at ahead
  · intro body after closes t
    have step := quoted.step_of_closes closes
    have given : ({ l.skip t.chars after with pending := [] } : Lexer) = l.skip t.chars after :=
      idle_eq quoted.owes
    refine ⟨?_, ?_, fun ts => readsLiteral rfl rfl ts, fun tail here => ?_⟩
    · rw [next_of_step quoted.owes quoted.active step, next_of_pending rfl]
      exact congrArg (fun l' => Except.ok (some t, l')) given
    · have returned : l.Leads [t] (l.skip t.chars after) :=
        leads_of_found quoted.owes quoted.owes quoted.active step
      rw [Lexemes.ofSource, leads.trans returned]
      simp [Lexemes.after, t]
    · exact ⟨here.goes_on.1, here.ne_backslash closes.free⟩
  · intro opened f
    have step := quoted.step_of_open opened
    have fault : (Lexemes.ofSource m source).fault = some f := by
      rw [Lexemes.ofSource, leads, lexemes_of_fault quoted.owes quoted.active step]
      rfl
    refine ⟨next_of_fault quoted.owes quoted.active step, fault, fun ss reads => ?_⟩
    have faultless := (parseSource_eq_ok_iff.mp reads).1
    rw [fault] at faultless
    cases faultless

/-- Behind two backslashes a third one escapes a quote, and the quote after it ends the literal. -/
theorem literal_of_three_backslashes :
    let t : Lexeme := ⟨.string, 0, ['"', '\\', '\\', '\\', '"', 'x', '"']⟩
    t ∈ (Lexemes.ofSource .standard t.chars).list ∧
      ∀ ts, Yields (parseAtom (t :: ts)) (.literal (.string "\\\"x") t.region) ts := by
  intro t
  have quoted : AtQuote .standard t.chars
      { markers := .standard, rest := t.chars, mode := .statement }
      ['\\', '\\', '\\', '"', 'x', '"'] :=
    { reaches := .step (.refl _) rfl (by decide) (by rfl)
      owes := rfl
      mode := .inl rfl
      quote := rfl
      inside := by decide }
  have string : Run.string false ['\\', '\\', '\\', '"', 'x', '"'] =
      (⟨['\\', '\\', '\\', '"', 'x'] ++ ['"'], []⟩, true) := rfl
  obtain ⟨body, chars, closes⟩ := Run.string_eq_closed_iff.mp string
  obtain rfl := List.append_cancel_right chars
  obtain ⟨-, mem, reads, -⟩ := (literal_agrees quoted).2.1 _ _ closes
  refine ⟨mem, fun ts => ((reads ts).value _).mpr (decodeString?_eq_some_iff.mp ?_)⟩
  decide

end AtQuote

end Lexer

end HtmlTemplate
