import HtmlTemplate.Proofs.Chains.Branches

/-!
# Chains

A chain is one condition with its block, any number of further ones, and perhaps a last block. Where
each of these has a meaning on its own, they are one statement together: each link holds all that
come behind it as its alternative.
-/

namespace HtmlTemplate

open Lexer

structure Chain where
  first : Link
  later : List Link
  other : Option Alternative

def Chain.links (chain : Chain) : List Link := chain.first :: chain.later

/-- The lines of the links behind the first. -/
def laterPieces (indent : List Char) (later : List Link) : List (List Char) :=
  later.map (branchLines indent .elifKw ·.text)

def otherPieces (indent : List Char) (other : Option Alternative) : List (List Char) :=
  other.toList.map (branchLines indent .elseKw ·.text)

/-- The lines of each branch. -/
def Chain.pieces (indent : List Char) (chain : Chain) : List (List Char) :=
  branchLines indent .ifKw chain.first.text ::
    (laterPieces indent chain.later ++ otherPieces indent chain.other)

/-- Each piece that something follows ends its last line. -/
def Ended : List (List Char) → Prop
  | [] => True
  | piece :: pieces => (pieces.flatten = [] ∨ EndsLine piece) ∧ Ended pieces

/-- Links behind `k` bytes of a chain. On its own each has `if` in front of it, which is shorter by
two bytes. -/
def placedLater (indent : List Char) (k : Nat) : List Link → List Link
  | [] => []
  | link :: later =>
    link.moved (k + 2) ::
      placedLater indent (k + byteLength (branchLines indent .elifKw link.text)) later

/-- The last block behind them. -/
def placedOther (indent : List Char) (k : Nat) (later : List Link) (other : Option Alternative) :
    List Statement :=
  relocateAll (Region.shift (k + byteLength (laterPieces indent later).flatten))
    (other.elim [] Alternative.body)

/-- The links of a chain with `k` bytes in front of it. -/
def Chain.placed (indent : List Char) (k : Nat) (chain : Chain) : List Link :=
  chain.first.moved k ::
    placedLater indent (k + byteLength (branchLines indent .ifKw chain.first.text)) chain.later

/-- What is left of it when none of the links is chosen. -/
def Chain.otherwise (indent : List Char) (k : Nat) (chain : Chain) : List Statement :=
  placedOther indent (k + byteLength (branchLines indent .ifKw chain.first.text)) chain.later
    chain.other

/-- Each link holds the later ones as its alternative. -/
def choose (links : List Link) (otherwise : List Statement) : List Statement :=
  links.foldr (fun link otherwise => [.choice link.condition link.body otherwise]) otherwise

/-- The statement of a chain. -/
def Chain.statement (indent : List Char) (k : Nat) (chain : Chain) : Statement :=
  let behind := k + byteLength (branchLines indent .ifKw chain.first.text)
  .choice (chain.first.moved k).condition (chain.first.moved k).body
    (choose (placedLater indent behind chain.later)
      (placedOther indent behind chain.later chain.other))

theorem Chain.choose_placed (indent : List Char) (k : Nat) (chain : Chain) :
    choose (chain.placed indent k) (chain.otherwise indent k) = [chain.statement indent k] := rfl

variable {m : Markers} {blocks : Indents} {n k p q : Nat} {ts us : List Lexeme}
  {text rest before after indent : List Char} {word : Keyword} {link : Link} {later : List Link}
  {other : Option Alternative} {last : Alternative} {s : Statement}
  {ss ss' alternative : List Statement}

/-! ## Pieces -/

theorem branchLines_append (indent : List Char) (word : Keyword) (text rest : List Char) :
    branchLines indent word text ++ rest = branchLines indent word (text ++ rest) := by
  simp [branchLines]

theorem byteLength_branchLines (indent : List Char) (word : Keyword) (text : List Char) :
    byteLength (branchLines indent word text) =
      byteLength indent + byteLength word.text.toList + byteLength text := by
  simp [branchLines, Nat.add_assoc]

theorem begins_branch (indent : List Char) (word : Keyword) (text : List Char) :
    Begins indent (branchLines indent word text) := by
  obtain ⟨c, cs, shape, start⟩ := word.worded
  exact ⟨c, cs ++ text, by rw [branchLines, shape]; rfl, inked_of_isIdentStart start⟩

theorem begins_other (begins : after = [] ∨ Begins indent after) (other : Option Alternative) :
    (otherPieces indent other ++ [after]).flatten = [] ∨
      Begins indent (otherPieces indent other ++ [after]).flatten := by
  cases other with
  | none => simpa [otherPieces] using begins
  | some last =>
    have start := (begins_branch indent .elseKw last.text).append after
    exact .inr (by simpa [otherPieces] using start)

theorem begins_later (begins : after = [] ∨ Begins indent after) (later : List Link)
    (other : Option Alternative) :
    (laterPieces indent later ++ (otherPieces indent other ++ [after])).flatten = [] ∨
      Begins indent
        (laterPieces indent later ++ (otherPieces indent other ++ [after])).flatten := by
  cases later with
  | nil => exact begins_other begins other
  | cons link later =>
    rw [laterPieces, List.map_cons, List.cons_append, List.flatten_cons]
    exact .inr ((begins_branch ..).append _)

theorem placedOther_cons (indent : List Char) (k : Nat) (link : Link) (later : List Link)
    (other : Option Alternative) :
    placedOther indent k (link :: later) other =
      placedOther indent (k + byteLength (branchLines indent .elifKw link.text)) later other := by
  simp [placedOther, laterPieces, Nat.add_assoc]

theorem flatten_laterPieces_cons (indent : List Char) (link : Link) (later : List Link)
    (pieces : List (List Char)) :
    (laterPieces indent (link :: later) ++ pieces).flatten =
      branchLines indent .elifKw (link.text ++ (laterPieces indent later ++ pieces).flatten) := by
  simp [laterPieces, branchLines]

theorem choose_cons (link : Link) (links : List Link) (otherwise : List Statement) :
    choose (link :: links) otherwise =
      [.choice link.condition link.body (choose links otherwise)] := rfl

theorem monotone_further (k : Nat) : Monotone (· + k) := fun _ _ le => Nat.add_le_add_right le k

theorem Lexer.Means.further (means : Means m blocks n after ss) (k : Nat) :
    Means m blocks (n + k) after (relocateAll (Region.shift k) ss) := by
  obtain ⟨us, fills, derived⟩ := means
  exact ⟨_, fills.shift k, derived.carried (monotone_further k) (carries_shift k us)⟩

/-- Lines of the innermost block behind a branch that ends its last line, or nothing. -/
def Goes (indent : List Char) (word : Keyword) (text rest : List Char) : Prop :=
  rest = [] ∨ EndsLine (branchLines indent word text) ∧ Begins indent rest

theorem Lexer.Fills.branch_followed (apart : Apart text)
    (fills : (inBlock .statement m blocks n text).Fills ts) (balanced : Balanced ts)
    (proper : blocks.Proper) (goes : Goes blocks.innermost word text rest)
    (later : (inBlock .lineStart m blocks (n + k + byteLength text) rest).Fills us) :
    Apart (text ++ rest) ∧ ∃ ts', Carries (· + k) ts ts' ∧
      (inBlock .statement m blocks (n + k) (text ++ rest)).Fills (ts' ++ us) := by
  have lines : rest = [] ∨ text.getLast? = some '\n' ∧ Begins blocks.innermost rest :=
    goes.imp_right fun goes => ⟨goes.1.of_branch, goes.2⟩
  have some (feed : text.getLast? = some '\n') : text ≠ [] := by
    rintro rfl
    cases feed
  have follows : Follows .statement blocks text rest :=
    lines.imp_right fun lines => ⟨.inr lines.1, fun none => absurd none (some lines.1), lines.2⟩
  refine ⟨?_, fills.followed balanced (by decide) proper follows later⟩
  rcases lines with rfl | ⟨feed, -⟩
  · rwa [List.append_nil]
  · exact apart.append (some feed) rest

/-! ## Links in turn -/

/-- The lexemes of the branches behind a condition with its block. -/
def Continues (m : Markers) (vs : List Lexeme) (otherwise : List Statement) : Prop :=
  ∀ {es bs : List Lexeme} {e : Expr} {body : List Statement}, Grammar.Sum es e →
    Grammar.Block m bs body → Grammar.Branches m (es ++ bs ++ vs) (.choice e body otherwise)

/-- The source goes on with further branches, and then with other statements. -/
def ReadsLater (m : Markers) (blocks : Indents) (n : Nat) (source : List Char)
    (otherwise ss : List Statement) : Prop :=
  ∃ vs us, Continues m vs otherwise ∧ Grammar.Lines m us ss ∧
    (inBlock .lineStart m blocks n source).Fills (vs ++ us)

/-- The same behind the word of a branch. -/
def ReadsLinks (m : Markers) (blocks : Indents) (n : Nat) (source : List Char) (s : Statement)
    (ss : List Statement) : Prop :=
  Apart source ∧ ∃ ts us, Grammar.Branches m ts s ∧ Grammar.Lines m us ss ∧
    (inBlock .statement m blocks n source).Fills (ts ++ us)

theorem readsLater_of_means (means : Means m blocks n after ss) :
    ReadsLater m blocks n after [] ss := by
  obtain ⟨us, fills, derived⟩ := means
  refine ⟨[], us, fun condition body => ?_, derived, fills⟩
  rw [List.append_nil]
  exact .alone condition body

/-- A last block. -/
theorem readsLater_of_last (proper : blocks.Proper) (holds : last.Holds m blocks p)
    (goes : Goes blocks.innermost .elseKw last.text rest)
    (place : n + byteLength blocks.innermost + byteLength Keyword.elseKw.text.toList = p + k)
    (behind : n + byteLength (branchLines blocks.innermost .elseKw last.text) = q)
    (means : Means m blocks q rest ss) :
    ReadsLater m blocks n (branchLines blocks.innermost .elseKw last.text ++ rest)
      (relocateAll (Region.shift k) last.body) ss := by
  obtain ⟨us, fills, derived⟩ := means
  obtain ⟨apart, bs, reads, body⟩ := holds
  have later : q = p + k + byteLength last.text := by
    rw [byteLength_branchLines] at behind
    omega
  subst later
  obtain ⟨apart', bs', carried, whole⟩ :=
    reads.branch_followed apart body.balanced proper goes fills
  rw [← place] at whole
  obtain ⟨t, is, lines⟩ := whole.branch proper apart'
  rw [branchLines_append]
  exact ⟨t :: bs', us, fun condition block =>
    .otherwise condition block is (body.carried (monotone_further k) carried), derived, lines⟩

/-- A further link, which has the others behind it. -/
theorem readsLater_of_links (proper : blocks.Proper)
    (reads : ReadsLinks m blocks
      (n + byteLength blocks.innermost + byteLength Keyword.elifKw.text.toList) text s ss) :
    ReadsLater m blocks n (branchLines blocks.innermost .elifKw text) [s] ss := by
  obtain ⟨apart, ts, us, branches, derived, fills⟩ := reads
  obtain ⟨t, is, lines⟩ := fills.branch proper apart
  exact ⟨t :: ts, us, fun condition body => .elif condition body is branches, derived, lines⟩

theorem readsLinks_of_later (proper : blocks.Proper) (holds : link.Holds m blocks p)
    (goes : Goes blocks.innermost word link.text rest) (place : n = p + k)
    (behind : n + byteLength link.text = q) (later : ReadsLater m blocks q rest alternative ss) :
    ReadsLinks m blocks n (link.text ++ rest)
      (.choice (link.moved k).condition (link.moved k).body alternative) ss := by
  subst place behind
  obtain ⟨vs, us, continues, derived, fills⟩ := later
  obtain ⟨apart, es, bs, reads, condition, body⟩ := holds
  obtain ⟨apart', ts, carried, whole⟩ := reads.branch_followed apart
    (condition.flat.balanced.append body.balanced) proper goes fills
  obtain ⟨es', bs', rfl, front, back⟩ := carried.split
  have mono := monotone_further k
  rw [← List.append_assoc] at whole
  exact ⟨apart', _, us, continues (condition.carried mono front) (body.carried mono back), derived,
    whole⟩

/-- All branches behind the first link. -/
theorem readsLater (proper : blocks.Proper) (means : Means m blocks n after ss)
    (begins : after = [] ∨ Begins blocks.innermost after)
    (holds : ∀ link ∈ later, link.Holds m blocks (n + byteLength blocks.innermost + 2))
    (holdsOther : ∀ last ∈ other, last.Holds m blocks (n + byteLength blocks.innermost + 4))
    (ended : Ended (laterPieces blocks.innermost later ++
      (otherPieces blocks.innermost other ++ [after]))) (k : Nat) :
    ReadsLater m blocks (n + k)
      (laterPieces blocks.innermost later ++
        (otherPieces blocks.innermost other ++ [after])).flatten
      (choose (placedLater blocks.innermost k later) (placedOther blocks.innermost k later other))
      (relocateAll (Region.shift (k + byteLength (laterPieces blocks.innermost later ++
        otherPieces blocks.innermost other).flatten)) ss) := by
  -- By induction on the links. What stands in front of the last ones grows from one to the next.
  induction later generalizing k with
  | nil =>
    cases other with
    | none =>
      have alone := readsLater_of_means (means.further k)
      simpa [laterPieces, otherPieces, placedLater, placedOther, choose, relocateAll] using alone
    | some last =>
      have goes : Goes blocks.innermost .elseKw last.text after := by
        have both := or_and_left.mpr ⟨ended.1, begins_other begins none⟩
        simpa [otherPieces, Goes] using both
      have length : byteLength Keyword.elseKw.text.toList = 4 := by decide
      have alone := readsLater_of_last (n := n + k) (k := k) proper (holdsOther last rfl) goes
        (by omega) (Nat.add_assoc ..) (means.further _)
      simpa [laterPieces, otherPieces, placedLater, placedOther, choose] using alone
  | cons link later ih =>
    obtain ⟨holdsLink, holdsLater⟩ := List.forall_mem_cons.mp holds
    have length : byteLength Keyword.elifKw.text.toList = 4 := by decide
    have behind :=
      ih holdsLater ended.2 (k + byteLength (branchLines blocks.innermost .elifKw link.text))
    have goes : Goes blocks.innermost .elifKw link.text _ :=
      or_and_left.mpr ⟨ended.1, begins_later begins later other⟩
    have links := readsLinks_of_later (k := k + 2)
      (n := n + k + byteLength blocks.innermost + byteLength Keyword.elifKw.text.toList) proper
      holdsLink goes (by omega) (by rw [byteLength_branchLines]; omega) behind
    have all := readsLater_of_links proper links
    rw [placedLater, choose_cons, placedOther_cons, flatten_laterPieces_cons]
    simpa [laterPieces, Nat.add_assoc] using all

/-- The statement of a chain behind those that stand in front of it. -/
theorem means_of_readsLinks (proper : blocks.Proper) (front : Means m blocks n before ss)
    (ends : EndsLine before)
    (reads : ReadsLinks m blocks (n + byteLength before + byteLength blocks.innermost +
      byteLength Keyword.ifKw.text.toList) text s ss') :
    Means m blocks n (before ++ branchLines blocks.innermost .ifKw text) (ss ++ s :: ss') := by
  obtain ⟨apart, ts, us, branches, derived', fills⟩ := reads
  obtain ⟨vs, fills', derived⟩ := front
  obtain ⟨t, is, lines⟩ := fills.branch proper apart
  obtain ⟨vs', carried, whole⟩ := fills'.append (k := 0) derived.balanced (by decide) (fun _ => rfl)
    proper ends (begins_branch ..) lines
  have kept := derived.carried monotone_id carried
  rw [show Region.along id = id from rfl, relocateAll_id] at kept
  exact ⟨_, whole, kept.append (.cons (.choice is branches) derived')⟩

theorem flatten_pieces (chain : Chain) (indent before after : List Char) :
    (before :: (chain.pieces indent ++ [after])).flatten =
      before ++ branchLines indent .ifKw (chain.first.text ++
        (laterPieces indent chain.later ++
          (otherPieces indent chain.other ++ [after])).flatten) := by
  simp [Chain.pieces, branchLines]

theorem endsLine_before {chain : Chain}
    (ended : Ended (before :: (chain.pieces indent ++ [after]))) : EndsLine before := by
  refine ended.1.resolve_left fun none => ?_
  have whole := flatten_pieces chain indent [] after
  obtain ⟨c, cs, shape, -⟩ := begins_branch indent .ifKw (chain.first.text ++
    (laterPieces indent chain.later ++ (otherPieces indent chain.other ++ [after])).flatten)
  rw [List.flatten_cons, none, shape] at whole
  simp at whole

/-- A chain of parts that have a meaning of their own is one statement, and its parts mean the same
in it. -/
theorem means_chain {chain : Chain} (proper : blocks.Proper) (within : blocks.innermost = indent)
    (links : ∀ link ∈ chain.links, Means m blocks n (branchLines indent .ifKw link.text)
      [.choice link.condition link.body []])
    (other : ∀ last ∈ chain.other, ∃ region, Means m blocks n
      (branchLines indent .ifKw (' ' :: 'x' :: last.text))
      [.choice (.var ⟨"x", region⟩) last.body []])
    (front : Means m blocks n before ss) (back : Means m blocks n after ss')
    (begins : after = [] ∨ Begins indent after)
    (ended : Ended (before :: (chain.pieces indent ++ [after]))) :
    Means m blocks n (before :: (chain.pieces indent ++ [after])).flatten
      (ss ++ chain.statement indent (byteLength before) ::
        relocateAll (Region.shift (byteLength (before :: chain.pieces indent).flatten)) ss') := by
  subst within
  obtain ⟨holds, holdsLater⟩ := List.forall_mem_cons.mp fun link mem =>
    Link.holds_of_means proper (links link mem)
  have holdsOther : ∀ last ∈ chain.other,
      last.Holds m blocks (n + byteLength blocks.innermost + 4) := fun last mem =>
    (other last mem).elim fun _ reads => last.holds_of_means proper reads
  have length : byteLength Keyword.ifKw.text.toList = 2 := by decide
  have ended' := ended.2
  rw [Chain.pieces, List.cons_append, List.append_assoc] at ended'
  have later := readsLater proper back begins holdsLater holdsOther ended'.2
    (byteLength before + byteLength (branchLines blocks.innermost .ifKw chain.first.text))
  have goes : Goes blocks.innermost .ifKw chain.first.text _ :=
    or_and_left.mpr ⟨ended'.1, begins_later begins chain.later chain.other⟩
  have whole := means_of_readsLinks proper front (endsLine_before ended)
    (readsLinks_of_later (k := byteLength before) proper holds goes (by omega)
      (by rw [byteLength_branchLines]; omega) later)
  rw [flatten_pieces]
  simpa [Chain.statement, Chain.pieces, Nat.add_assoc] using whole

end HtmlTemplate
