import HtmlTemplate.Proofs.Chains.Openers

/-!
# Lines within blocks

A template can have lines at any indentation, within the block of a statement that is all of the
block of another, and so on outwards. What such a template compiles to tells how the lines are read
there.
-/

namespace HtmlTemplate

variable {m : Markers}

/-- Lines that open a block each, within the block of the line before. -/
def headers (indent : List Char) : List Opener → List Char
  | [] => []
  | opener :: nest => opener.line indent ++ headers (indent ++ opener.margin.chars) nest

/-- The indentation within all of the blocks. -/
def indentation (nest : List Opener) : List Char := nest.flatMap fun opener => opener.margin.chars

/-- Statements within others that contain nothing else. -/
inductive Wraps (ss : List Statement) : List Opener → List Statement → Prop where
  | bare : Wraps ss [] ss
  | block {opener : Opener} {nest : List Opener} {body : List Statement} {s : Statement}
      (encloses : Encloses body s) (wraps : Wraps ss nest body) : Wraps ss (opener :: nest) [s]

/-- A template with the lines within such blocks compiles to these statements there. -/
def ReadsWithin (m : Markers) (nest : List Opener) (lines : List Char) (ss : List Statement) :
    Prop :=
  ∀ name, ∃ t, Template.compile m name (String.ofList (headers [] nest ++ lines)) = .ok t ∧
    Wraps ss nest t.statements

/-- A tag can stand within each of the blocks. -/
def Hosts (m : Markers) (nest : List Opener) : Prop :=
  ∀ outer opener, outer ++ [opener] <+: nest → ∃ region,
    ReadsWithin m (outer ++ [opener]) (indentation (outer ++ [opener]) ++ ['x', '\n'])
      [.tag ⟨"x", region⟩ [] []]

/-- The blocks within other blocks. -/
def Indents.opened (blocks : Indents) : List Opener → Indents
  | [] => blocks
  | opener :: nest => opened ((blocks.innermost ++ opener.margin.chars) :: blocks) nest

theorem Indents.innermost_opened (blocks : Indents) (nest : List Opener) :
    (blocks.opened nest).innermost = blocks.innermost ++ indentation nest := by
  induction nest generalizing blocks with
  | nil => simp [opened, indentation]
  | cons opener nest ih =>
    rw [opened, ih]
    simp [indentation, innermost]

theorem Indents.innermost_hosted (nest : List Opener) :
    (opened [] nest).innermost = indentation nest := innermost_opened [] nest

theorem Indents.proper_nil : Proper [] := ⟨trivial, List.forall_mem_nil _⟩

theorem Indents.Proper.opened {blocks : Indents} (proper : blocks.Proper) (nest : List Opener) :
    (blocks.opened nest).Proper := by
  induction nest generalizing blocks with
  | nil => exact proper
  | cons opener nest ih => exact ih (proper.within opener.margin)

theorem headers_concat (indent : List Char) (nest : List Opener) (opener : Opener) :
    headers indent (nest ++ [opener]) =
      headers indent nest ++ opener.line (indent ++ indentation nest) := by
  induction nest generalizing indent with
  | nil => simp [headers, indentation]
  | cons first nest ih => simp [headers, indentation, ih]

theorem Wraps.of_concat {ss ss' : List Statement} {nest : List Opener} {opener : Opener}
    (wraps : Wraps ss (nest ++ [opener]) ss') : ∃ s, Encloses ss s ∧ Wraps [s] nest ss' := by
  induction nest generalizing ss' with
  | nil =>
    cases wraps with
    | block encloses wraps =>
      cases wraps
      exact ⟨_, encloses, .bare⟩
  | cons first nest ih =>
    cases wraps with
    | block encloses wraps =>
      obtain ⟨s, encloses', wraps'⟩ := ih wraps
      exact ⟨s, encloses', .block encloses wraps'⟩

theorem Opener.begins_line (opener : Opener) (indent rest : List Char) :
    Begins indent (opener.line indent ++ rest) := by
  obtain ⟨c, cs, shape, ink⟩ := opener.begins
  exact ⟨c, cs ++ '\n' :: rest, by simp [Opener.line, shape], ink⟩

namespace Lexer

variable {blocks : Indents} {n : Nat} {ss ss' : List Statement} {lines : List Char}
  {nest : List Opener} {opener : Opener}

/-- Each of the lines opens a block, within those in front of it. -/
def Hosted (m : Markers) (blocks : Indents) (n : Nat) : List Opener → Prop
  | [] => True
  | opener :: nest => opener.Opens m blocks n ∧
    Hosted m ((blocks.innermost ++ opener.margin.chars) :: blocks)
      (n + byteLength (opener.line blocks.innermost)) nest

theorem hosted_concat (blocks : Indents) (n : Nat) (nest : List Opener) (opener : Opener) :
    Hosted m blocks n (nest ++ [opener]) ↔ Hosted m blocks n nest ∧
      opener.Opens m (blocks.opened nest) (n + byteLength (headers blocks.innermost nest)) := by
  induction nest generalizing blocks n with
  | nil => simp [Hosted, Indents.opened, headers]
  | cons first nest ih =>
    rw [List.cons_append, Hosted, ih, Hosted, and_assoc]
    simp [Indents.opened, headers, Indents.innermost, Nat.add_assoc]

theorem begins_headers {indent : List Char} (begins : Begins (indent ++ indentation nest) lines) :
    Begins indent (headers indent nest ++ lines) := by
  cases nest with
  | nil => simpa [headers, indentation] using begins
  | cons opener nest =>
    rw [headers, List.append_assoc]
    exact opener.begins_line ..

theorem wraps_ne_nil (wraps : Wraps ss nest ss') (said : ss ≠ []) : ss' ≠ [] := by
  cases wraps with
  | bare => exact said
  | block => simp

theorem means_of_headers (hosted : Hosted m blocks n nest) (wraps : Wraps ss nest ss')
    (proper : blocks.Proper) (begins : Begins (blocks.innermost ++ indentation nest) lines)
    (reads : Means m blocks n (headers blocks.innermost nest ++ lines) ss') :
    Means m (blocks.opened nest) (n + byteLength (headers blocks.innermost nest)) lines ss := by
  induction wraps generalizing blocks n with
  | bare => exact reads
  | @block opener nest body s encloses wraps ih =>
    have begins' : Begins (blocks.innermost ++ opener.margin.chars ++ indentation nest) lines := by
      simpa [indentation] using begins
    rw [headers, List.append_assoc] at reads
    rw [headers, byteLength_append, ← Nat.add_assoc]
    exact ih hosted.2 (proper.within _) begins'
      (hosted.1.means_of_block proper (begins_headers begins') reads encloses)

theorem means_headers (hosted : Hosted m blocks n nest) (proper : blocks.Proper)
    (begins : Begins (blocks.innermost ++ indentation nest) lines) (said : ss ≠ [])
    (reads :
      Means m (blocks.opened nest) (n + byteLength (headers blocks.innermost nest)) lines ss) :
    ∃ ss', Wraps ss nest ss' ∧ Means m blocks n (headers blocks.innermost nest ++ lines) ss' := by
  induction nest generalizing blocks n with
  | nil => exact ⟨ss, .bare, reads⟩
  | cons opener nest ih =>
    have begins' : Begins (blocks.innermost ++ opener.margin.chars ++ indentation nest) lines := by
      simpa [indentation] using begins
    rw [headers, byteLength_append, ← Nat.add_assoc] at reads
    obtain ⟨ss', wraps, reads'⟩ := ih hosted.2 (proper.within opener.margin) begins' reads
    obtain ⟨s, encloses, reads''⟩ := hosted.1.means_block proper (begins_headers begins') reads'
      (wraps_ne_nil wraps said)
    rw [headers, List.append_assoc]
    exact ⟨_, .block encloses wraps, reads''⟩

theorem means_outside_iff {source : List Char} :
    Means m [] 0 source ss ↔ parseSource m source = .ok ss := by
  have lexemes : Lexemes.ofSource m source = (inBlock .lineStart m [] 0 source).lexemes := rfl
  rw [parseSource_eq_ok_iff, lexemes]
  constructor
  · rintro ⟨ts, ⟨dedents, -, none, whole⟩, derived⟩
    rw [List.length_eq_zero_iff.mp none, List.append_nil] at whole
    rw [whole]
    exact ⟨rfl, derived⟩
  · rintro ⟨faultless, derived⟩
    refine ⟨_, ⟨[], List.forall_mem_nil _, rfl, ?_⟩, derived⟩
    rw [List.append_nil, ← faultless]

end Lexer

open Lexer

variable {nest : List Opener} {lines : List Char} {ss ss' : List Statement}

theorem readsWithin_iff : ReadsWithin m nest lines ss ↔
    ∃ ss', parseSource m (headers [] nest ++ lines) = .ok ss' ∧ Wraps ss nest ss' := by
  constructor
  · intro reads
    obtain ⟨t, compiles, wraps⟩ := reads none
    have parses := (Template.compile_eq_ok_iff.mp compiles).1
    rw [String.toList_ofList] at parses
    exact ⟨_, parses, wraps⟩
  · rintro ⟨ss', parses, wraps⟩ name
    rw [← String.toList_ofList (l := headers [] nest ++ lines)] at parses
    exact ⟨⟨name, _, ss'⟩, Template.compile_eq_ok_iff.mpr ⟨parses, rfl, rfl⟩, wraps⟩

/-- The lines of a block are read as part of its statement. -/
theorem ReadsWithin.of_concat {opener : Opener}
    (reads : ReadsWithin m (nest ++ [opener]) lines ss) :
    ∃ s, Encloses ss s ∧ ReadsWithin m nest (opener.line (indentation nest) ++ lines) [s] := by
  obtain ⟨ss', parses, wraps⟩ := readsWithin_iff.mp reads
  obtain ⟨s, encloses, wraps'⟩ := wraps.of_concat
  rw [headers_concat, List.append_assoc, List.nil_append] at parses
  exact ⟨s, encloses, readsWithin_iff.mpr ⟨ss', parses, wraps'⟩⟩

theorem readsWithin_of_lexemes {ts : List Lexeme}
    (lexemes : Lexemes.ofSource m (headers [] nest ++ lines) = ⟨ts, none⟩)
    (derived : Grammar.Lines m ts ss') (wraps : Wraps ss nest ss') :
    ReadsWithin m nest lines ss := by
  refine readsWithin_iff.mpr ⟨ss', parseSource_eq_ok_iff.mpr ?_, wraps⟩
  rw [lexemes]
  exact ⟨rfl, derived⟩

theorem means_of_readsWithin (hosted : Hosted m [] 0 nest)
    (begins : Begins (indentation nest) lines) (reads : ReadsWithin m nest lines ss) :
    Means m (Indents.opened [] nest) (byteLength (headers [] nest)) lines ss := by
  obtain ⟨ss', parses, wraps⟩ := readsWithin_iff.mp reads
  have within := means_of_headers hosted wraps Indents.proper_nil begins
    (means_outside_iff.mpr parses)
  rwa [Nat.zero_add] at within

theorem indentation_concat (nest : List Opener) (opener : Opener) :
    indentation (nest ++ [opener]) = indentation nest ++ opener.margin.chars := by
  simp [indentation]

theorem closing_of_mem_indentation {c : Char} (mem : c ∈ indentation nest) : closing c = none := by
  obtain ⟨opener, -, mem⟩ := List.mem_flatMap.mp mem
  have blank := opener.margin.blank c mem
  have one : c = ' ' ∨ c = '\t' := by simpa [isBlank] using blank
  rcases one with rfl | rfl <;> rfl

/-- What a tag within the block says of the line that opens it. -/
theorem opens_of_readsWithin {region : Region} {opener : Opener} (hosted : Hosted m [] 0 nest)
    (reads : ReadsWithin m (nest ++ [opener]) (indentation (nest ++ [opener]) ++ ['x', '\n'])
      [.tag ⟨"x", region⟩ [] []]) :
    opener.Opens m (Indents.opened [] nest) (byteLength (headers [] nest)) := by
  have noClosing : ∀ c ∈ indentation (nest ++ [opener]) ++ ['x', '\n'], closing c = none :=
    List.forall_mem_append.mpr ⟨fun c => closing_of_mem_indentation,
      List.forall_mem_cons.mpr ⟨rfl, List.forall_mem_singleton.mpr rfl⟩⟩
  have begins : Begins (indentation (nest ++ [opener])) (indentation (nest ++ [opener]) ++ _) :=
    ⟨'x', ['\n'], rfl, inked_of_isIdentStart (by decide)⟩
  obtain ⟨s, encloses, outer⟩ := reads.of_concat
  have means := means_of_readsWithin hosted (opener.begins_line ..) outer
  rw [indentation_concat] at begins noClosing means
  rw [← Indents.innermost_hosted] at begins noClosing means
  exact opener.opens_of_means (Indents.proper_nil.opened nest) begins noClosing means encloses

theorem hosts_nil : Hosts m [] := by
  intro outer opener shorter
  simp at shorter

theorem hosts_concat {opener : Opener} : Hosts m (nest ++ [opener]) ↔ Hosts m nest ∧ ∃ region,
    ReadsWithin m (nest ++ [opener]) (indentation (nest ++ [opener]) ++ ['x', '\n'])
      [.tag ⟨"x", region⟩ [] []] := by
  constructor
  · intro hosts
    exact ⟨fun outer opener' shorter => hosts outer opener' (shorter.trans (List.prefix_append ..)),
      hosts nest opener (List.prefix_refl _)⟩
  · rintro ⟨hosts, reads⟩ outer opener' shorter
    rcases List.prefix_concat_iff.mp shorter with same | shorter
    · rwa [same]
    · exact hosts outer opener' shorter

theorem Hosts.hosted (hosts : Hosts m nest) : Hosted m [] 0 nest := by
  induction nest using List.reverseRecOn with
  | nil => trivial
  | append_singleton nest opener ih =>
    obtain ⟨hosts, region, reads⟩ := hosts_concat.mp hosts
    have opens := opens_of_readsWithin (ih hosts) reads
    rw [← Nat.zero_add (byteLength _)] at opens
    exact (hosted_concat ..).mpr ⟨ih hosts, opens⟩

/-- How lines are read in a template that hosts them is how they are read within the blocks. -/
theorem ReadsWithin.means (reads : ReadsWithin m nest lines ss) (hosts : Hosts m nest)
    (begins : Begins (indentation nest) lines) :
    Means m (Indents.opened [] nest) (byteLength (headers [] nest)) lines ss :=
  means_of_readsWithin hosts.hosted begins reads

theorem readsWithin_of_means (hosts : Hosts m nest) (begins : Begins (indentation nest) lines)
    (said : ss ≠ [])
    (reads : Means m (Indents.opened [] nest) (byteLength (headers [] nest)) lines ss) :
    ReadsWithin m nest lines ss := by
  rw [← Nat.zero_add (byteLength _)] at reads
  obtain ⟨ss', wraps, reads'⟩ := means_headers hosts.hosted Indents.proper_nil begins said reads
  exact readsWithin_iff.mpr ⟨ss', means_outside_iff.mp reads', wraps⟩

end HtmlTemplate
