import HtmlTemplate.Proofs.Chains.Hosts

/-!
# Branches

What stands behind the word of a branch is read in the same way behind any other such word. So a
condition with its block, which means something on its own, means the same as a link of a chain.
-/

namespace HtmlTemplate

variable {m : Markers}

/-! ## Derivations -/

namespace Grammar

variable {ts : List Lexeme} {e : Expr} {i : Ident} {body : List Statement}

/-- A choice without an alternative. -/
theorem Line.of_choice (derived : Line m ts (.choice e body [])) :
    ∃ t es bs, ts = t :: (es ++ bs) ∧ t.token = .keyword .ifKw ∧ Sum es e ∧ Block m bs body := by
  generalize whole : Statement.choice e body [] = s at derived
  cases derived with
  | assign | text | loop | tag | emptyTag => cases whole
  | choice keyword branches =>
    cases branches with
    | alone condition block =>
      cases whole
      exact ⟨_, _, _, rfl, keyword, condition, block⟩
    | elif => cases whole
    | otherwise _ _ _ other =>
      cases whole
      exact absurd rfl other.ne_nil

/-- A variable, perhaps in parentheses. -/
theorem Sum.of_var (derived : Sum ts (.var i)) :
    (∃ t, ts = [t] ∧ t.ident = i) ∨ ∃ t us, ts = t :: us ∧ t.token = .opening .round := by
  cases derived with
  | product derived =>
    cases derived with
    | atom derived =>
      cases derived with
      | var is => exact .inl ⟨_, rfl, rfl⟩
      | parens opens => exact .inr ⟨_, _, rfl, opens⟩

end Grammar

/-! ## Words -/

theorem Token.word_of_keyword {word : String} {k : Keyword} (is : ofWord word = .keyword k) :
    word = k.text := by
  have all : ∀ p ∈ reservedWords, p.2 = .keyword k → p.1 = k.text := by
    cases k <;> decide
  unfold ofWord at is
  cases found : reservedWords.lookup word with
  | none =>
    rw [found] at is
    cases is
  | some token =>
    rw [found] at is
    obtain ⟨before, behind, eq, -⟩ := List.lookup_eq_some_iff.mp found
    exact all (word, token) (by simp [eq]) is

namespace Lexer

variable {blocks : Indents} {n : Nat} {t : Lexeme} {ts : List Lexeme} {c : Char}
  {cs text rest : List Char} {k : Keyword}

theorem ne_marker {marker : Char} (is : isMarker marker = true) (other : isMarker c = false) :
    c ≠ marker := by
  rintro rfl
  rw [is] at other
  cases other

/-- The first line of a statement within the innermost block. -/
theorem leads_inLine (proper : blocks.Proper) (ink : Inked c) (other : isMarker c = false) :
    (inBlock .lineStart m blocks n (blocks.innermost ++ c :: rest)).Leads []
      (inBlock .statement m blocks (n + byteLength blocks.innermost) (c :: rest)) :=
  leads_statement rfl rfl rfl proper.innermost ink (ne_marker m.text_isMarker other) (if_pos rfl)

/-- Does not continue a word. -/
def Apart (text : List Char) : Prop := ∀ d ∈ text.head?, Unicode.isIdentContinue d = false

theorem Apart.append (apart : Apart text) (some : text ≠ []) (rest : List Char) :
    Apart (text ++ rest) := by
  obtain ⟨c, cs, rfl⟩ := List.exists_cons_of_ne_nil some
  exact apart

theorem leads_inBlock_word (start : Unicode.isIdentStart c = true)
    (continues : ∀ d ∈ cs, Unicode.isIdentContinue d = true) (stops : Apart rest) :
    (inBlock .statement m blocks n (c :: cs ++ rest)).Leads
      [⟨.ofWord (String.ofList (c :: cs)), n, c :: cs⟩]
      (inBlock .statement m blocks (n + byteLength (c :: cs)) rest) :=
  leads_word rfl (.inl rfl) rfl (by simp [inBlock]) start continues stops

/-- A word is read as far as it goes on. -/
theorem Fills.behind_word
    (fills : (inBlock .statement m blocks n (c :: cs ++ text)).Fills (t :: ts))
    (start : Unicode.isIdentStart c = true)
    (continues : ∀ d ∈ cs, Unicode.isIdentContinue d = true) :
    ∃ more rest, text = more ++ rest ∧ Apart rest ∧ t.chars = c :: cs ++ more ∧
      t.token = .ofWord (String.ofList (c :: cs ++ more)) ∧
      (inBlock .statement m blocks (n + byteLength (c :: cs ++ more)) rest).Fills ts := by
  generalize run : HtmlTemplate.Run.takeWhile Unicode.isIdentContinue text = found
  obtain ⟨more, rest⟩ := found
  have source := HtmlTemplate.Run.takeWhile_append Unicode.isIdentContinue text
  have continues' : ∀ d ∈ more, Unicode.isIdentContinue d = true := by
    have holds : ∀ d ∈ (HtmlTemplate.Run.takeWhile Unicode.isIdentContinue text).chars, _ :=
      HtmlTemplate.Run.takeWhile_holds
    rwa [run] at holds
  have apart : Apart rest := by
    rintro d head
    obtain ⟨ds, rfl⟩ := List.head?_eq_some_iff.mp head
    exact HtmlTemplate.Run.takeWhile_stops (congrArg HtmlTemplate.Run.rest run)
  rw [run] at source
  obtain rfl : more ++ rest = text := source
  have all := List.forall_mem_append.mpr ⟨continues, continues'⟩
  have leads : (inBlock .statement m blocks n (c :: (cs ++ more) ++ rest)).Leads _ _ :=
    leads_inBlock_word start all apart
  have flat := (Spelling.word start all).plain.2
  rw [List.cons_append, List.append_assoc] at leads
  obtain ⟨us, shape, behind⟩ := fills.split leads rfl (by simpa using flat)
  obtain ⟨rfl, rfl⟩ := List.cons.inj shape
  exact ⟨more, rest, rfl, apart, rfl, rfl, behind⟩

theorem leads_keyword (stops : Apart text) :
    (inBlock .statement m blocks n (k.text.toList ++ text)).Leads [⟨.keyword k, n, k.text.toList⟩]
      (inBlock .statement m blocks (n + byteLength k.text.toList) text) := by
  have word := Token.ofWord_text k
  have continues := k.continues
  obtain ⟨c, cs, shape, start⟩ := k.worded
  rw [shape] at word continues ⊢
  rw [← word]
  exact leads_inBlock_word start (List.forall_mem_cons.mp continues).2 stops

theorem Fills.behind_keyword
    (fills : (inBlock .statement m blocks n (k.text.toList ++ text)).Fills (t :: ts))
    (is : t.token = .keyword k) :
    Apart text ∧ (inBlock .statement m blocks (n + byteLength k.text.toList) text).Fills ts := by
  have continues := k.continues
  obtain ⟨c, cs, shape, start⟩ := k.worded
  rw [shape] at fills continues ⊢
  obtain ⟨more, rest, rfl, apart, -, word, behind⟩ :=
    fills.behind_word start (List.forall_mem_cons.mp continues).2
  have same := congrArg String.toList (Token.word_of_keyword (word.symm.trans is))
  rw [String.toList_ofList, shape] at same
  obtain rfl := List.append_right_eq_self.mp same
  rw [List.append_nil] at behind
  exact ⟨apart, behind⟩

end Lexer

/-! ## Links -/

/-- The lines of a branch: a word and what stands behind it. -/
def branchLines (indent : List Char) (word : Keyword) (text : List Char) : List Char :=
  indent ++ (word.text.toList ++ text)

/-- A condition with its block, by the text behind its word and by what that means. -/
structure Link where
  text : List Char
  condition : Expr
  body : List Statement

/-- The last block of a chain. -/
structure Alternative where
  text : List Char
  body : List Statement

/-- The same `k` bytes further on in a source. -/
def Link.moved (k : Nat) (link : Link) : Link :=
  { link with
    condition := link.condition.relocate (Region.shift k)
    body := relocateAll (Region.shift k) link.body }

open Lexer

variable {blocks : Indents} {n : Nat} {ts : List Lexeme} {text : List Char}
  {word : Keyword} {link : Link} {other : Alternative}

/-- Behind a word the text of the link is read like this. -/
structure Link.Holds (link : Link) (m : Markers) (blocks : Indents) (n : Nat) : Prop where
  stops : Apart link.text
  reads : ∃ es bs, (inBlock .statement m blocks n link.text).Fills (es ++ bs) ∧
    Grammar.Sum es link.condition ∧ Grammar.Block m bs link.body

structure Alternative.Holds (other : Alternative) (m : Markers) (blocks : Indents) (n : Nat) :
    Prop where
  stops : Apart other.text
  reads : ∃ bs, (inBlock .statement m blocks n other.text).Fills bs ∧ Grammar.Block m bs other.body

namespace Lexer

theorem leads_branch (proper : blocks.Proper) :
    (inBlock .lineStart m blocks n (branchLines blocks.innermost word text)).Leads []
      (inBlock .statement m blocks (n + byteLength blocks.innermost)
        (word.text.toList ++ text)) := by
  have plain : word.text.toList.all (!isMarker ·) = true := by
    cases word <;> decide
  obtain ⟨c, cs, shape, start⟩ := word.worded
  rw [shape] at plain
  rw [branchLines, shape]
  have other := List.all_eq_true.mp plain c List.mem_cons_self
  exact leads_inLine proper (inked_of_isIdentStart start) (by simpa using other)

/-- The lines of a branch within a chain. -/
theorem Fills.branch (proper : blocks.Proper) (apart : Apart text)
    (fills : (inBlock .statement m blocks
      (n + byteLength blocks.innermost + byteLength word.text.toList) text).Fills ts) :
    ∃ t, t.token = .keyword word ∧
      (inBlock .lineStart m blocks n (branchLines blocks.innermost word text)).Fills (t :: ts) :=
  ⟨_, rfl, fills.behind ((leads_branch proper).trans (leads_keyword apart)) rfl⟩

theorem leads_space : (inBlock .statement m blocks n (' ' :: 'x' :: text)).Leads []
    (inBlock .statement m blocks (n + 1) ('x' :: text)) := by
  have step : (inBlock .statement m blocks n (' ' :: 'x' :: text)).step =
      .ok ((inBlock .statement m blocks n (' ' :: 'x' :: text)).skip [' '] ('x' :: text)) := by
    rw [step_of_expression (.inl rfl) rfl, readExpression_gap rfl]
    rfl
  exact leads_of_skip rfl (by simp [inBlock]) step

end Lexer

theorem EndsLine.of_branch {indent : List Char} (ends : EndsLine (branchLines indent word text)) :
    text.getLast? = some '\n' := by
  obtain ⟨c, cs, shape, -⟩ := word.worded
  have last := ends.resolve_left (by simp [branchLines, shape])
  by_cases none : text = []
  · subst none
    rw [branchLines, List.append_nil, List.getLast?_append_of_ne_nil _ (by simp [shape])] at last
    cases word <;> cases last
  · rwa [branchLines, ← List.append_assoc, List.getLast?_append_of_ne_nil _ none] at last

theorem Link.holds_of_means (proper : blocks.Proper)
    (reads : Means m blocks n (branchLines blocks.innermost .ifKw link.text)
      [.choice link.condition link.body []]) :
    link.Holds m blocks (n + byteLength blocks.innermost + 2) := by
  obtain ⟨ts, fills, derived⟩ := reads
  obtain ⟨t, es, bs, rfl, is, condition, body⟩ := derived.of_single.of_choice
  obtain ⟨ts, rfl, behind⟩ := fills.split (leads_branch proper) rfl (List.forall_mem_nil _)
  obtain ⟨apart, fills⟩ := behind.behind_keyword is
  exact ⟨apart, es, bs, fills, condition, body⟩

theorem Alternative.holds_of_means {region : Region} (proper : blocks.Proper)
    (reads : Means m blocks n (branchLines blocks.innermost .ifKw (' ' :: 'x' :: other.text))
      [.choice (.var ⟨"x", region⟩) other.body []]) :
    other.Holds m blocks (n + byteLength blocks.innermost + 4) := by
  let link : Link := ⟨' ' :: 'x' :: other.text, .var ⟨"x", region⟩, other.body⟩
  obtain ⟨-, es, bs, fills, condition, body⟩ := link.holds_of_means proper reads
  obtain ⟨ts, shape, behind⟩ := fills.split leads_space rfl (List.forall_mem_nil _)
  rw [List.nil_append] at shape
  rcases condition.of_var with ⟨t, rfl, is⟩ | ⟨t, es, rfl, opens⟩
  · subst shape
    obtain ⟨more, rest, split, apart, said, -, fills⟩ :=
      behind.behind_word (by decide) (List.forall_mem_nil _)
    have name : String.ofList t.chars = "x" := congrArg Ident.name is
    rw [said] at name
    have same := congrArg String.toList name
    rw [String.toList_ofList] at same
    obtain rfl : more = [] := (List.cons.inj same).2
    obtain rfl : other.text = rest := split
    exact ⟨apart, bs, fills, body⟩
  · subst shape
    obtain ⟨more, -, -, -, -, word, -⟩ := behind.behind_word (by decide) (List.forall_mem_nil _)
    have none : .identifier ≠ Token.opening .round ∧
        .opening .round ∉ reservedWords.map (·.2) := by decide
    rw [opens] at word
    rcases Token.ofWord_mem (String.ofList ('x' :: [] ++ more)) with identifier | reserved
    · exact absurd (word.trans identifier).symm none.1
    · exact absurd (word ▸ reserved) none.2

end HtmlTemplate
