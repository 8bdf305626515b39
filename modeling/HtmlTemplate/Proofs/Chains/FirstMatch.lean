import HtmlTemplate.Proofs.Chains.Chains
import HtmlTemplate.Proofs.Rendering.Loops

/-!
# The first link that accepts

The conditions of a chain are evaluated in turn until one of them holds or fails. Its block is all
that is rendered, or its failure is that of the chain, and the links behind it do not matter.
-/

namespace HtmlTemplate

open Lexer Render

/-! ## Rendering -/

def Link.Accepts (c : Context) (link : Link) : Prop :=
  ∃ v, link.condition.eval c = .ok v ∧ v.isTruthy = true

def Link.Refuses (c : Context) (link : Link) : Prop :=
  ∃ v, link.condition.eval c = .ok v ∧ v.isTruthy = false

/-- What links come to in a context: the first that does not refuse decides. -/
structure ChoosesFirst (links : List Link) (otherwise : List Statement) (c : Context)
    (outcome : Except Failure (List Node) × Context) : Prop where
  selects {refused behind : List Link} {link : Link} : links = refused ++ link :: behind →
    (∀ link ∈ refused, link.Refuses c) → link.Accepts c → outcome = renderBlock link.body c
  aborts {refused behind : List Link} {link : Link} {f : Failure} :
    links = refused ++ link :: behind → (∀ link ∈ refused, link.Refuses c) →
      link.condition.eval c = .error f → outcome = (.error f, c)
  exhausts : (∀ link ∈ links, link.Refuses c) → outcome = renderBlock otherwise c
  decided : (∀ link ∈ links, link.Refuses c) ∨ ∃ refused link behind,
    links = refused ++ link :: behind ∧ (∀ link ∈ refused, link.Refuses c) ∧
      (link.Accepts c ∨ ∃ f, link.condition.eval c = .error f)

section

variable {c : Context} {link : Link} {links refused : List Link} {otherwise : List Statement}

theorem renderBlock_choose_cons (link : Link) (links : List Link) (otherwise : List Statement)
    (c : Context) :
    renderBlock (choose (link :: links) otherwise) c = match link.condition.eval c with
      | .ok v => if v.isTruthy then renderBlock link.body c
        else renderBlock (choose links otherwise) c
      | .error f => (.error f, c) := by
  rw [choose, List.foldr_cons, renderBlock_singleton, Statement.render, bind_run, evaluate]
  cases link.condition.eval c with
  | error f => rfl
  | ok v =>
    dsimp only
    cases v.isTruthy <;> rfl

theorem renderBlock_choose_refused (later : List Link) (refuse : ∀ link ∈ refused, link.Refuses c) :
    renderBlock (choose (refused ++ later) otherwise) c =
      renderBlock (choose later otherwise) c := by
  induction refused with
  | nil => rfl
  | cons link refused ih =>
    obtain ⟨⟨v, evaluated, falsy⟩, refuse⟩ := List.forall_mem_cons.mp refuse
    rw [List.cons_append, renderBlock_choose_cons, evaluated]
    dsimp only
    rw [falsy, if_neg Bool.false_ne_true, ih refuse]

theorem refused_or_decided (c : Context) (links : List Link) :
    (∀ link ∈ links, link.Refuses c) ∨ ∃ refused link behind,
      links = refused ++ link :: behind ∧ (∀ link ∈ refused, link.Refuses c) ∧
        (link.Accepts c ∨ ∃ f, link.condition.eval c = .error f) := by
  induction links with
  | nil => exact .inl (List.forall_mem_nil _)
  | cons link links ih =>
    cases evaluated : link.condition.eval c with
    | error f => exact .inr ⟨[], link, links, rfl, List.forall_mem_nil _, .inr ⟨f, evaluated⟩⟩
    | ok v =>
      cases truth : v.isTruthy with
      | true => exact .inr ⟨[], link, links, rfl, List.forall_mem_nil _, .inl ⟨v, evaluated, truth⟩⟩
      | false =>
        have refuses : link.Refuses c := ⟨v, evaluated, truth⟩
        rcases ih with all | ⟨refused, link', behind, rfl, refuse, decides⟩
        · exact .inl (List.forall_mem_cons.mpr ⟨refuses, all⟩)
        · exact .inr ⟨link :: refused, link', behind, rfl,
            List.forall_mem_cons.mpr ⟨refuses, refuse⟩, decides⟩

theorem choosesFirst (links : List Link) (otherwise : List Statement) (c : Context) :
    ChoosesFirst links otherwise c (renderBlock (choose links otherwise) c) where
  selects := by
    rintro refused behind link rfl refuse ⟨v, evaluated, truthy⟩
    rw [renderBlock_choose_refused _ refuse, renderBlock_choose_cons, evaluated]
    exact if_pos truthy
  aborts := by
    rintro refused behind link f rfl refuse failed
    rw [renderBlock_choose_refused _ refuse, renderBlock_choose_cons, failed]
  exhausts refuse := by
    rw [← List.append_nil links, renderBlock_choose_refused [] refuse]
    rfl
  decided := refused_or_decided c links

end

/-! ## Templates -/

variable {m : Markers} {nest : List Opener} {before after : List Char} {ss ss' : List Statement}

/-- Each part of the chain has a meaning of its own within the blocks: a link as a choice without an
alternative, and what stands behind the last word as it would behind `if x`. -/
structure Chain.Valid (m : Markers) (nest : List Opener) (chain : Chain) : Prop where
  links : ∀ link ∈ chain.links, ReadsWithin m nest
    (branchLines (indentation nest) .ifKw link.text) [.choice link.condition link.body []]
  other : ∀ last ∈ chain.other, ∃ region, ReadsWithin m nest
    (branchLines (indentation nest) .ifKw (' ' :: 'x' :: last.text))
    [.choice (.var ⟨"x", region⟩) last.body []]

/-- Lines in front of a chain or behind it, if there are any. -/
def Beside (m : Markers) (nest : List Opener) (lines : List Char) (ss : List Statement) : Prop :=
  lines = [] ∧ ss = [] ∨ Begins (indentation nest) lines ∧ ReadsWithin m nest lines ss

theorem Beside.means (beside : Beside m nest before ss) (hosts : Hosts m nest) :
    Means m (Indents.opened [] nest) (byteLength (headers [] nest)) before ss := by
  rcases beside with ⟨rfl, rfl⟩ | ⟨begins, reads⟩
  · exact ⟨[], fills_nil .., .nil⟩
  · exact reads.means hosts begins

theorem Beside.begins (beside : Beside m nest before ss) :
    before = [] ∨ Begins (indentation nest) before :=
  beside.imp And.left And.left

/-- Between other lines, within any blocks, a chain is one statement among theirs, in which the
first link that does not refuse decides. -/
theorem Template.chain_choosesFirst {chain : Chain} (hosts : Hosts m nest)
    (valid : chain.Valid m nest) (front : Beside m nest before ss) (back : Beside m nest after ss')
    (ended : Ended (before :: (chain.pieces (indentation nest) ++ [after]))) :
    let s := chain.statement (indentation nest) (byteLength before)
    let behind := byteLength (before :: chain.pieces (indentation nest)).flatten
    ReadsWithin m nest (before :: (chain.pieces (indentation nest) ++ [after])).flatten
        (ss ++ s :: relocateAll (Region.shift behind) ss') ∧
      ∀ c, ChoosesFirst (chain.placed (indentation nest) (byteLength before))
        (chain.otherwise (indentation nest) (byteLength before)) c (s.render c) := by
  intro s behind
  have reads := means_chain (Indents.proper_nil.opened nest) (Indents.innermost_hosted nest)
    (fun link mem => (valid.links link mem).means hosts (begins_branch ..))
    (fun last mem => (valid.other last mem).imp fun _ reads => reads.means hosts (begins_branch ..))
    (front.means hosts) (back.means hosts) back.begins ended
  have begins : Begins (indentation nest)
      (before :: (chain.pieces (indentation nest) ++ [after])).flatten := by
    rw [flatten_pieces]
    rcases front.begins with rfl | begins
    · exact begins_branch ..
    · exact begins.append _
  refine ⟨readsWithin_of_means hosts begins (by simp) reads, fun c => ?_⟩
  rw [← renderBlock_singleton, ← chain.choose_placed]
  exact choosesFirst _ _ c

/-- A chain within a block, with another choice in its first block. -/
theorem Template.chain_nested :
    let opener : Opener :=
      { header := "if q:".toList
        margin := ⟨[' '], by decide, List.forall_mem_singleton.mpr rfl⟩
        begins := ⟨'i', "f q:".toList, rfl, inked_of_isIdentStart (by decide)⟩
        single := by decide }
    let body (c : Char) : List Statement := [.text [.text [c]]]
    let inner : Statement := .choice (.var ⟨"b", ⟨18, 19⟩⟩) (body 's') []
    let chain : Chain :=
      { first := ⟨" a:\n  if b:\n   -s\n".toList, .var ⟨"a", ⟨10, 11⟩⟩, [inner]⟩
        later := [⟨" c:\n  -t\n".toList, .var ⟨"c", ⟨10, 11⟩⟩, body 't'⟩]
        other := some ⟨":\n  -u\n".toList, body 'u'⟩ }
    let s := chain.statement [' '] 3
    Hosts .standard [opener] ∧ chain.Valid .standard [opener] ∧
      Beside .standard [opener] " p\n".toList [.tag ⟨"p", ⟨7, 8⟩⟩ [] []] ∧
      Beside .standard [opener] [] [] ∧
      Ended (" p\n".toList :: (chain.pieces [' '] ++ [[]])) ∧
      ReadsWithin .standard [opener]
        " p\n if a:\n  if b:\n   -s\n elif c:\n  -t\n else:\n  -u\n".toList
        [.tag ⟨"p", ⟨7, 8⟩⟩ [] [], .choice (.var ⟨"a", ⟨13, 14⟩⟩)
          [.choice (.var ⟨"b", ⟨21, 22⟩⟩) (body 's') []]
          [.choice (.var ⟨"c", ⟨36, 37⟩⟩) (body 't') (body 'u')]] ∧
      ∀ c, ChoosesFirst (chain.placed [' '] 3) (body 'u') c (s.render c) := by
  have lexed_first : Lexemes.ofSource .standard "if q:\n if a:\n  if b:\n   -s\n".toList =
      ⟨[⟨.keyword .ifKw, 0, "if".toList⟩, ⟨.identifier, 3, ['q']⟩, ⟨.colon, 4, [':']⟩,
        ⟨.newline, 5, ['\n']⟩, ⟨.indent, 6, [' ']⟩, ⟨.keyword .ifKw, 7, "if".toList⟩,
        ⟨.identifier, 10, ['a']⟩, ⟨.colon, 11, [':']⟩, ⟨.newline, 12, ['\n']⟩,
        ⟨.indent, 13, [' ', ' ']⟩, ⟨.keyword .ifKw, 15, "if".toList⟩, ⟨.identifier, 18, ['b']⟩,
        ⟨.colon, 19, [':']⟩, ⟨.newline, 20, ['\n']⟩, ⟨.indent, 21, [' ', ' ', ' ']⟩,
        ⟨.marker, 24, ['-']⟩, ⟨.text, 25, ['s']⟩, ⟨.newline, 26, ['\n']⟩, ⟨.dedent, 27, []⟩,
        ⟨.dedent, 27, []⟩, ⟨.dedent, 27, []⟩], none⟩ :=
    Lexemes.ofSource_of_within (n := 40) (by decide +kernel)
  have lexed (c d : Char) (plain : c = 'c' ∧ d = 't' ∨ c = 'x' ∧ d = 'u') : Lexemes.ofSource
      .standard ("if q:\n if ".toList ++ c :: ":\n  -".toList ++ [d, '\n']) =
      ⟨[⟨.keyword .ifKw, 0, "if".toList⟩, ⟨.identifier, 3, ['q']⟩, ⟨.colon, 4, [':']⟩,
        ⟨.newline, 5, ['\n']⟩, ⟨.indent, 6, [' ']⟩, ⟨.keyword .ifKw, 7, "if".toList⟩,
        ⟨.identifier, 10, [c]⟩, ⟨.colon, 11, [':']⟩, ⟨.newline, 12, ['\n']⟩,
        ⟨.indent, 13, [' ', ' ']⟩, ⟨.marker, 15, ['-']⟩, ⟨.text, 16, [d]⟩, ⟨.newline, 17, ['\n']⟩,
        ⟨.dedent, 18, []⟩, ⟨.dedent, 18, []⟩], none⟩ := by
    rcases plain with ⟨rfl, rfl⟩ | ⟨rfl, rfl⟩ <;>
      exact Lexemes.ofSource_of_within (n := 40) (by decide +kernel)
  have lexed_tag (c : Char) (plain : c = 'p' ∨ c = 'x') : Lexemes.ofSource .standard
      ("if q:\n ".toList ++ [c, '\n']) =
      ⟨[⟨.keyword .ifKw, 0, "if".toList⟩, ⟨.identifier, 3, ['q']⟩, ⟨.colon, 4, [':']⟩,
        ⟨.newline, 5, ['\n']⟩, ⟨.indent, 6, [' ']⟩, ⟨.identifier, 7, [c]⟩, ⟨.newline, 8, ['\n']⟩,
        ⟨.dedent, 9, []⟩], none⟩ := by
    rcases plain with rfl | rfl <;> exact Lexemes.ofSource_of_within (n := 40) (by decide +kernel)
  intro opener body inner chain s
  have text (c : Char) (n p q : Nat) : Grammar.Lines .standard
      [⟨.marker, n, ['-']⟩, ⟨.text, p, [c]⟩, ⟨.newline, q, ['\n']⟩] (body c) :=
    .cons (.text rfl (.text rfl .nil) (List.cons_ne_nil _ _) rfl) .nil
  have block {ts : List Lexeme} {ss : List Statement} (n p q r : Nat) (indent : List Char)
      (derived : Grammar.Lines .standard ts ss) (said : ss ≠ []) : Grammar.Block .standard
        (⟨.colon, n, [':']⟩ :: ⟨.newline, p, ['\n']⟩ :: ⟨.indent, q, indent⟩ :: ts ++
          [⟨.dedent, r, []⟩]) ss := .mk rfl rfl rfl derived said rfl
  have choice {bs : List Lexeme} {ss : List Statement} (c : Char) (n p : Nat)
      (derived : Grammar.Block .standard bs ss) : Grammar.Lines .standard
        (⟨.keyword .ifKw, n, "if".toList⟩ :: ([⟨.identifier, p, [c]⟩] ++ bs) ++ [])
        [.choice (.var ⟨String.ofList [c], ⟨p, p + byteLength [c]⟩⟩) ss []] :=
    .cons (.choice rfl (.alone (.product (.atom (.var rfl))) derived)) .nil
  have within {lines : List Char} {bs : List Lexeme} {ss : List Statement}
      (derived : Grammar.Block .standard bs ss)
      (lexed : Lexemes.ofSource .standard ("if q:\n".toList ++ lines) =
        ⟨⟨.keyword .ifKw, 0, "if".toList⟩ :: ⟨.identifier, 3, ['q']⟩ :: bs, none⟩) :
      ReadsWithin .standard [opener] lines ss := by
    have line := choice 'q' 0 3 derived
    rw [List.append_nil] at line
    exact readsWithin_of_lexemes lexed line (.block (.choice _) .bare)
  have tag (c : Char) (plain : c = 'p' ∨ c = 'x') : ReadsWithin .standard [opener] [' ', c, '\n']
      [.tag ⟨String.ofList [c], ⟨7, 7 + byteLength [c]⟩⟩ [] []] := by
    have line : Grammar.Lines .standard
        (⟨.identifier, 7, [c]⟩ :: [] ++ [⟨.newline, 8, ['\n']⟩] ++ []) [.tag _ [] []] :=
      .cons (.emptyTag rfl .bare rfl) .nil
    exact within (block 4 5 6 9 [' '] line (List.cons_ne_nil _ _)) (lexed_tag c plain)
  have link (c d : Char) (plain : c = 'c' ∧ d = 't' ∨ c = 'x' ∧ d = 'u') :
      ReadsWithin .standard [opener] (" if ".toList ++ c :: ":\n  -".toList ++ [d, '\n'])
        [.choice (.var ⟨String.ofList [c], ⟨10, 10 + byteLength [c]⟩⟩) (body d) []] :=
    within (block 4 5 6 18 [' '] (choice c 7 10
      (block 11 12 13 18 [' ', ' '] (text d 15 16 17) (List.cons_ne_nil _ _)))
        (List.cons_ne_nil _ _)) (lexed c d plain)
  have first : ReadsWithin .standard [opener] " if a:\n  if b:\n   -s\n".toList
      [.choice (.var ⟨"a", ⟨10, 11⟩⟩) [inner] []] :=
    within (block 4 5 6 27 [' '] (choice 'a' 7 10 (block 11 12 13 27 [' ', ' ']
      (choice 'b' 15 18 (block 19 20 21 27 [' ', ' ', ' '] (text 's' 24 25 26)
        (List.cons_ne_nil _ _))) (List.cons_ne_nil _ _))) (List.cons_ne_nil _ _)) lexed_first
  have hosts : Hosts .standard [opener] := by
    rw [← List.nil_append [opener]]
    exact hosts_concat.mpr ⟨hosts_nil, _, tag 'x' (.inr rfl)⟩
  have valid : chain.Valid .standard [opener] := by
    refine ⟨?_, ?_⟩
    · rintro l (_ | ⟨_, _ | ⟨_, ⟨⟩⟩⟩)
      · exact first
      · exact link 'c' 't' (.inl ⟨rfl, rfl⟩)
    · rintro _ ⟨⟩
      exact ⟨_, link 'x' 'u' (.inr ⟨rfl, rfl⟩)⟩
  have before : Beside .standard [opener] " p\n".toList [.tag ⟨"p", ⟨7, 8⟩⟩ [] []] :=
    .inr ⟨⟨'p', _, rfl, inked_of_isIdentStart (by decide)⟩, tag 'p' (.inl rfl)⟩
  have after : Beside .standard [opener] [] [] := .inl ⟨rfl, rfl⟩
  have ended : Ended (" p\n".toList :: (chain.pieces [' '] ++ [[]])) :=
    ⟨.inr (.inr rfl), .inr (.inr rfl), .inr (.inr rfl), .inl rfl, .inl rfl, trivial⟩
  have whole := Template.chain_choosesFirst hosts valid before after ended
  exact ⟨hosts, valid, before, after, ended, whole.1, whole.2⟩

end HtmlTemplate
