import HtmlTemplate.Proofs.Grammar.Exact
import HtmlTemplate.Proofs.Rendering.Tags

/-!
# No injection of markup

What a successful rendering writes is markup of exactly the tags that the template enters. Values
have no part in its structure: neither those of the context, nor keys of dictionaries, nor what
functions return.
-/

namespace HtmlTemplate

mutual

/-- The names of tags and of their attributes. -/
def Statement.tagIdents : Statement → List Ident
  | .tag name attributes body => name :: attributes.map (·.1) ++ tagIdentsOf body
  | .text _ => []
  | .choice _ body otherwise => tagIdentsOf body ++ tagIdentsOf otherwise
  | .loop _ _ body => tagIdentsOf body
  | .assign _ _ => []

def tagIdentsOf : List Statement → List Ident
  | [] => []
  | s :: ss => s.tagIdents ++ tagIdentsOf ss

end

def Part.text? : Part → Option (List Char)
  | .text chars => some chars
  | .splice _ => none

mutual

/-- The fragments of text that stand in text lines. -/
def Statement.texts : Statement → List (List Char)
  | .tag _ _ body => textsOf body
  | .text parts => parts.filterMap Part.text?
  | .choice _ body otherwise => textsOf body ++ textsOf otherwise
  | .loop _ _ body => textsOf body
  | .assign _ _ => []

def textsOf : List Statement → List (List Char)
  | [] => []
  | s :: ss => s.texts ++ textsOf ss

end

/-! ## Names of a compiled template -/

/-- An identifier is one of the lexemes. -/
def Ident.Among (i : Ident) (ts : List Lexeme) : Prop :=
  ∃ t ∈ ts, t.token = .identifier ∧ i = t.ident

theorem Ident.Among.mono {i : Ident} {ts us : List Lexeme} (among : i.Among ts)
    (sub : ∀ t ∈ ts, t ∈ us) : i.Among us := by
  obtain ⟨t, mem, found⟩ := among
  exact ⟨t, sub t mem, found⟩

namespace Grammar

theorem Attributes.idents {ts : List Lexeme} {attributes : List (Ident × Expr)}
    (derived : Attributes ts attributes) : ∀ i ∈ attributes.map (·.1), i.Among ts := by
  induction derived with
  | nil => simp
  | @last ts t u e name =>
    intro i mem
    rw [List.map_singleton, List.mem_singleton] at mem
    exact ⟨t, List.mem_cons_self, name, mem⟩
  | @cons ts us t u v e later name _ _ _ _ ih =>
    intro i mem
    rw [List.map_cons, List.mem_cons] at mem
    rcases mem with first | later
    · exact ⟨t, List.mem_cons_self, name, first⟩
    · exact (ih i later).mono fun _ mem => by simp [mem]

theorem Head.idents {ts : List Lexeme} {attributes : List (Ident × Expr)}
    (derived : Head ts attributes) : ∀ i ∈ attributes.map (·.1), i.Among ts := by
  cases derived with
  | bare => simp
  | listed _ derived _ =>
    intro i mem
    exact (derived.idents i mem).mono fun _ mem => by simp [mem]

variable {m : Markers}

mutual

theorem Line.tagIdents : ∀ {ts s}, Line m ts s → ∀ i ∈ s.tagIdents, i.Among ts
  | _, _, .assign _ _ _ _ _, i, mem => by
    rw [Statement.tagIdents] at mem
    cases mem
  | _, _, .text _ _ _ _, i, mem => by
    rw [Statement.tagIdents] at mem
    cases mem
  | _, _, .choice _ branches, i, mem => (branches.tagIdents i mem).mono fun _ mem => by simp [mem]
  | _, _, .loop _ _ _ _ body, i, mem => by
    rw [Statement.tagIdents] at mem
    exact (body.tagIdents i mem).mono fun _ mem => by simp [mem]
  | _, _, @Line.tag _ _ _ t _ _ name head body, i, mem => by
    rw [Statement.tagIdents, List.cons_append, List.mem_cons, List.mem_append] at mem
    rcases mem with rfl | key | inside
    · exact ⟨t, by simp, name, rfl⟩
    · exact (head.idents i key).mono fun _ mem => by simp [mem]
    · exact (body.tagIdents i inside).mono fun _ mem => by simp [mem]
  | _, _, @Line.emptyTag _ _ t _ _ name head _, i, mem => by
    rw [Statement.tagIdents, tagIdentsOf, List.append_nil, List.mem_cons] at mem
    rcases mem with rfl | key
    · exact ⟨t, by simp, name, rfl⟩
    · exact (head.idents i key).mono fun _ mem => by simp [mem]

theorem Branches.tagIdents : ∀ {ts s}, Branches m ts s → ∀ i ∈ s.tagIdents, i.Among ts
  | _, _, .alone _ body, i, mem => by
    rw [Statement.tagIdents, tagIdentsOf, List.append_nil] at mem
    exact (body.tagIdents i mem).mono fun _ mem => by simp [mem]
  | _, _, .elif _ body _ next, i, mem => by
    rw [Statement.tagIdents, tagIdentsOf, tagIdentsOf, List.append_nil, List.mem_append] at mem
    rcases mem with inside | further
    · exact (body.tagIdents i inside).mono fun _ mem => by simp [mem]
    · exact (next.tagIdents i further).mono fun _ mem => by simp [mem]
  | _, _, .otherwise _ body _ other, i, mem => by
    rw [Statement.tagIdents, List.mem_append] at mem
    rcases mem with inside | further
    · exact (body.tagIdents i inside).mono fun _ mem => by simp [mem]
    · exact (other.tagIdents i further).mono fun _ mem => by simp [mem]

theorem Block.tagIdents : ∀ {ts body}, Block m ts body → ∀ i ∈ tagIdentsOf body, i.Among ts
  | _, _, .mk _ _ _ lines _ _, i, mem => (lines.tagIdents i mem).mono fun _ mem => by simp [mem]

theorem Lines.tagIdents : ∀ {ts ss}, Lines m ts ss → ∀ i ∈ tagIdentsOf ss, i.Among ts
  | _, _, .nil, i, mem => by
    rw [tagIdentsOf] at mem
    cases mem
  | _, _, .cons line later, i, mem => by
    rw [tagIdentsOf, List.mem_append] at mem
    rcases mem with first | further
    · exact (line.tagIdents i first).mono fun _ mem => by simp [mem]
    · exact (later.tagIdents i further).mono fun _ mem => by simp [mem]

end

end Grammar

/-- The names of a compiled template are identifiers. -/
theorem isName_of_parseSource {m : Markers} {source : List Char} {ss : List Statement}
    (reads : parseSource m source = .ok ss) : ∀ i ∈ tagIdentsOf ss, IsName i.name := by
  intro i mem
  obtain ⟨t, found, identifier, rfl⟩ := (parseSource_eq_ok_iff.mp reads).2.tagIdents i mem
  have spelled := Lexemes.spelled_ofSource m source t found
  have isIdentifier := spelled.isIdentifier identifier
  rwa [← String.toList_ofList (l := t.chars)] at isIdentifier

/-! ## What statements write -/

open Render

/-- Has no angle brackets. -/
def Plain (cs : List Char) : Prop := ∀ c ∈ cs, c ≠ '<' ∧ c ≠ '>'

theorem Inert.plain {cs : List Char} (inert : Inert cs) : Plain cs := by
  intro c mem
  refine ⟨?_, ?_⟩ <;> rintro rfl <;> cases inert _ mem

theorem Plain.append {xs ys : List Char} (first : Plain xs) (later : Plain ys) : Plain (xs ++ ys) :=
  List.forall_mem_append.mpr ⟨first, later⟩

theorem trimLine_subset (cs : List Char) : trimLine cs ⊆ cs := by
  unfold trimLine
  split
  · exact List.subset_cons_self ..
  · exact List.Subset.refl _

variable {c c' : Context}

theorem renderParts_ok {parts : List Part} {line : List Char}
    (renders : renderParts parts c = (.ok line, c')) :
    c = c' ∧ (∀ e, Part.splice e ∈ parts → ∃ v, e.eval c = .ok v) ∧
      ((∀ chars ∈ parts.filterMap Part.text?, Plain chars) → Plain line) := by
  induction parts generalizing line with
  | nil =>
    obtain ⟨rfl, rfl⟩ := pure_run_ok.mp renders
    exact ⟨rfl, nofun, fun _ => nofun⟩
  | cons p ps ih =>
    rw [renderParts] at renders
    obtain ⟨first, mid, part, renders⟩ := bind_run_ok.mp renders
    obtain ⟨later, mid', parts, renders⟩ := bind_run_ok.mp renders
    obtain ⟨rfl, rfl⟩ := pure_run_ok.mp renders
    cases p with
    | text chars =>
      obtain ⟨rfl, rfl⟩ := pure_run_ok.mp part
      obtain ⟨same, evaluates, plain⟩ := ih parts
      refine ⟨same, by simpa using evaluates, fun texts => ?_⟩
      simp only [List.filterMap_cons, Part.text?, List.forall_mem_cons] at texts
      exact texts.1.append (plain texts.2)
    | splice e =>
      obtain ⟨v, mid, evaluation, part⟩ := bind_run_ok.mp part
      obtain ⟨value, rfl⟩ := evaluate_run_ok.mp evaluation
      obtain ⟨rfl, rfl⟩ := pure_run_ok.mp part
      obtain ⟨same, evaluates, plain⟩ := ih parts
      refine ⟨same, ?_, fun texts => ?_⟩
      · intro e' mem
        rcases List.mem_cons.mp mem with eq | mem
        · cases eq
          exact ⟨v, value⟩
        · exact evaluates e' mem
      · simp only [List.filterMap_cons, Part.text?] at texts
        exact v.inert_write.plain.append (plain texts)

theorem renderAttributes_ok {attributes : List (Ident × Expr)} {written : List Attribute}
    (renders : renderAttributes attributes c = (.ok written, c')) :
    c = c' ∧ Evaluated c attributes written := by
  induction attributes generalizing written with
  | nil =>
    obtain ⟨rfl, rfl⟩ := pure_run_ok.mp renders
    exact ⟨rfl, .nil⟩
  | cons a later ih =>
    rw [renderAttributes] at renders
    obtain ⟨v, mid, evaluation, renders⟩ := bind_run_ok.mp renders
    obtain ⟨value, rfl⟩ := evaluate_run_ok.mp evaluation
    obtain ⟨rest, mid, others, renders⟩ := bind_run_ok.mp renders
    obtain ⟨rfl, rfl⟩ := pure_run_ok.mp renders
    obtain ⟨same, evaluated⟩ := ih others
    exact ⟨same, .cons value evaluated⟩

theorem Evaluated.harmless {attributes : List (Ident × Expr)} {written : List Attribute}
    (evaluated : Evaluated c attributes written)
      (named : ∀ i ∈ attributes.map (·.1), IsName i.name) :
    ∀ a ∈ written, IsName a.name ∧ Inert a.value := by
  induction evaluated with
  | nil => nofun
  | @cons name e v later written _ _ ih =>
    rw [List.map_cons, List.forall_mem_cons] at named
    exact List.forall_mem_cons.mpr ⟨⟨named.1, v.inert_write⟩, ih named.2⟩

/-- A loop whose body writes markup in every context writes markup. -/
theorem forEach_markup {name : String} {body : List Statement} {items : List Value}
    {nodes : List Node}
    (pass : ∀ {c c' nodes}, renderBlock body c = (.ok nodes, c') →
      ∃ es, EntersAll c body es c' ∧ Markup (Node.writeAll nodes) es)
    (renders : forEach name (renderBlock body) items c = (.ok nodes, c')) :
    c = c' ∧ ∃ es, Passes c name body items es ∧ Markup (Node.writeAll nodes) es := by
  induction items generalizing nodes with
  | nil =>
    obtain ⟨rfl, rfl⟩ := pure_run_ok.mp renders
    exact ⟨rfl, [], .nil, .nil⟩
  | cons v vs ih =>
    obtain ⟨first, mid, once, renders⟩ := bind_run_ok.mp renders
    obtain ⟨later, mid', others, renders⟩ := bind_run_ok.mp renders
    obtain ⟨rfl, rfl⟩ := pure_run_ok.mp renders
    have kept := within_run name v (renderBlock body) (assigns_renderBlock body) c
    rw [once] at kept
    dsimp only at kept
    rw [kept] at others
    obtain ⟨same, fs, passes, laterMarkup⟩ := ih others
    obtain ⟨⟨result, inner⟩, runs⟩ : ∃ r, renderBlock body (c.push [(name, .value v)]) = r :=
      ⟨_, rfl⟩
    have ended : result = .ok first := by
      simp only [within, runs] at once
      exact (Prod.mk.inj once).1
    subst ended
    obtain ⟨es, enters, markup⟩ := pass runs
    refine ⟨same, es ++ fs, .cons enters passes, ?_⟩
    rw [Node.writeAll_append]
    exact markup.append laterMarkup

mutual

theorem Statement.render_markup : ∀ s : Statement, (∀ i ∈ s.tagIdents, IsName i.name) →
    (∀ chars ∈ s.texts, Plain chars) → ∀ {c nodes c'}, s.render c = (.ok nodes, c') →
    ∃ es, Enters c s es c' ∧ Markup (Node.writeAll nodes) es
  | .tag name attributes body, named, plain, c, nodes, c', renders => by
    rw [Statement.render] at renders
    obtain ⟨written, mid, values, renders⟩ := bind_run_ok.mp renders
    obtain ⟨children, mid', inside, renders⟩ := bind_run_ok.mp renders
    obtain ⟨rfl, rfl⟩ := pure_run_ok.mp renders
    obtain ⟨rfl, evaluated⟩ := renderAttributes_ok values
    rw [Statement.tagIdents, List.cons_append, List.forall_mem_cons,
      List.forall_mem_append] at named
    rw [Statement.texts] at plain
    obtain ⟨es, enters, markup⟩ := renderBlock_markup body named.2.2 plain inside
    have harmless := evaluated.harmless named.2.1
    refine ⟨_, .tag evaluated enters, ?_⟩
    have node := Markup.node named.1 (fun a mem => (harmless a mem).1)
      (fun a mem => (harmless a mem).2) markup .nil
    simpa [Node.writeAll, Node.write] using node
  | .text parts, named, plain, c, nodes, c', renders => by
    rw [Statement.render] at renders
    obtain ⟨line, mid, written, renders⟩ := bind_run_ok.mp renders
    obtain ⟨rfl, rfl⟩ := pure_run_ok.mp renders
    obtain ⟨rfl, evaluates, plainLine⟩ := renderParts_ok written
    rw [Statement.texts] at plain
    refine ⟨[], .text evaluates, ?_⟩
    have text := Markup.text (fun c mem => plainLine plain c (trimLine_subset line mem)) .nil
    simpa [Node.writeAll, Node.write] using text
  | .choice condition body otherwise, named, plain, c, nodes, c', renders => by
    rw [Statement.render] at renders
    obtain ⟨v, mid, evaluation, renders⟩ := bind_run_ok.mp renders
    obtain ⟨value, rfl⟩ := evaluate_run_ok.mp evaluation
    rw [Statement.tagIdents, List.forall_mem_append] at named
    rw [Statement.texts, List.forall_mem_append] at plain
    split at renders
    · next truthy =>
      obtain ⟨es, enters, markup⟩ := renderBlock_markup body named.1 plain.1 renders
      exact ⟨es, .body value truthy enters, markup⟩
    · next falsy =>
      obtain ⟨es, enters, markup⟩ := renderBlock_markup otherwise named.2 plain.2 renders
      exact ⟨es, .otherwise value (Bool.not_eq_true _ ▸ falsy) enters, markup⟩
  | .loop name iterable body, named, plain, c, nodes, c', renders => by
    rw [Statement.render] at renders
    obtain ⟨v, mid, evaluation, renders⟩ := bind_run_ok.mp renders
    obtain ⟨value, rfl⟩ := evaluate_run_ok.mp evaluation
    obtain ⟨items, mid, found, renders⟩ := bind_run_ok.mp renders
    obtain ⟨outcome, rfl⟩ := Prod.mk.inj found
    have items : v.items? = some items := itemsOf_eq_ok_iff.mp (failAt_eq_ok_iff.mp outcome)
    rw [Statement.tagIdents] at named
    rw [Statement.texts] at plain
    obtain ⟨rfl, es, passes, markup⟩ := forEach_markup (renderBlock_markup body named plain) renders
    exact ⟨es, .loop value items passes, markup⟩
  | .assign name e, named, plain, c, nodes, c', renders => by
    rw [Statement.render] at renders
    obtain ⟨v, mid, evaluation, renders⟩ := bind_run_ok.mp renders
    obtain ⟨value, rfl⟩ := evaluate_run_ok.mp evaluation
    obtain ⟨_, mid, assigned, renders⟩ := bind_run_ok.mp renders
    obtain ⟨rfl, rfl⟩ := pure_run_ok.mp renders
    cases assigned
    exact ⟨[], .assign value, .nil⟩

theorem renderBlock_markup : ∀ ss : List Statement, (∀ i ∈ tagIdentsOf ss, IsName i.name) →
    (∀ chars ∈ textsOf ss, Plain chars) → ∀ {c nodes c'}, renderBlock ss c = (.ok nodes, c') →
    ∃ es, EntersAll c ss es c' ∧ Markup (Node.writeAll nodes) es
  | [], named, plain, c, nodes, c', renders => by
    rw [renderBlock] at renders
    obtain ⟨rfl, rfl⟩ := pure_run_ok.mp renders
    exact ⟨[], .nil, .nil⟩
  | s :: ss, named, plain, c, nodes, c', renders => by
    rw [renderBlock] at renders
    obtain ⟨first, mid, statement, renders⟩ := bind_run_ok.mp renders
    obtain ⟨later, mid', block, renders⟩ := bind_run_ok.mp renders
    obtain ⟨rfl, rfl⟩ := pure_run_ok.mp renders
    rw [tagIdentsOf, List.forall_mem_append] at named
    rw [textsOf, List.forall_mem_append] at plain
    obtain ⟨es, enters, markup⟩ := s.render_markup named.1 plain.1 statement
    obtain ⟨fs, entersLater, markupLater⟩ := renderBlock_markup ss named.2 plain.2 block
    refine ⟨es ++ fs, .cons enters entersLater, ?_⟩
    rw [Node.writeAll_append]
    exact markup.append markupLater

end

/-- The output of a template reads back as the tags that it entered, and as nothing else. -/
theorem Template.render_reads_back {m : Markers} {name : Option String} {source output : String}
    {t : Template} (compiles : compile m name source = .ok t)
    (plain : ∀ chars ∈ textsOf t.statements, ∀ c ∈ chars, c ≠ '<' ∧ c ≠ '>')
    (renders : t.render c = (.ok output, c')) :
    ∃ entered, EntersAll c t.statements entered c' ∧ Markup output.toList entered ∧
      (∀ es c'', EntersAll c t.statements es c'' → es = entered) ∧
      ∀ es, Markup output.toList es → es = entered := by
  have named := isName_of_parseSource (compile_eq_ok_iff.mp compiles).1
  unfold render at renders
  split at renders
  · next nodes mid runs =>
    cases renders
    obtain ⟨entered, enters, markup⟩ := renderBlock_markup t.statements named plain runs
    rw [← String.toList_ofList (l := Node.writeAll nodes)] at markup
    refine ⟨entered, enters, markup, ?_, ?_⟩
    · intro es c'' enters'
      exact (enters'.unique enters).1
    · intro es markup'
      exact markup'.unique markup
  · cases renders

/-- A value that looks like markup stays a value. -/
theorem Template.hostile_attribute_reads_back :
    let c : Context := ⟨[("x", .value (.string "\"><b>"))], []⟩
    let output := "<p a=\"&quot;&gt;&lt;b&gt;\"></p>"
    ∃ t, compile .standard none "p(a=x)" = .ok t ∧ textsOf t.statements = [] ∧
      (t.render c).1 = .ok output ∧
      ∃ entered, EntersAll c t.statements entered (t.render c).2 ∧
        ∀ es, Markup output.toList es → es = entered := by
  intro c output
  have lexemes : Lexemes.ofSource .standard "p(a=x)".toList =
      ⟨[⟨.identifier, 0, ['p']⟩, ⟨.opening .round, 1, ['(']⟩, ⟨.identifier, 2, ['a']⟩,
        ⟨.assign, 3, ['=']⟩, ⟨.identifier, 4, ['x']⟩, ⟨.closing .round, 5, [')']⟩,
        ⟨.newline, 6, []⟩], none⟩ :=
    Lexemes.ofSource_of_within (n := 20) (by decide +kernel)
  have sum : Grammar.Sum [⟨.identifier, 4, ['x']⟩] (.var ⟨"x", ⟨4, 5⟩⟩) :=
      .product (.atom (.var rfl))
  have derived : Grammar.Lines .standard (Lexemes.ofSource .standard "p(a=x)".toList).list
      [.tag ⟨"p", ⟨0, 1⟩⟩ [(⟨"a", ⟨2, 3⟩⟩, .var ⟨"x", ⟨4, 5⟩⟩)] []] := by
    rw [lexemes]
    exact .cons (.emptyTag rfl (.listed rfl (.last rfl rfl sum) rfl) rfl) .nil
  have reads := parseSource_eq_ok_iff.mpr ⟨congrArg Lexemes.fault lexemes, derived⟩
  have compiles : compile .standard none "p(a=x)" = .ok ⟨none, "p(a=x)", _⟩ :=
    compile_eq_ok_iff.mpr ⟨reads, rfl, rfl⟩
  have renders : (render ⟨none, "p(a=x)",
      [.tag ⟨"p", ⟨0, 1⟩⟩ [(⟨"a", ⟨2, 3⟩⟩, .var ⟨"x", ⟨4, 5⟩⟩)] []]⟩
      ⟨[("x", .value (.string "\"><b>"))], []⟩).1 =
        .ok "<p a=\"&quot;&gt;&lt;b&gt;\"></p>" := by rfl
  refine ⟨_, compiles, rfl, renders, ?_⟩
  generalize after : render _ c = outcome at renders
  obtain ⟨result, c'⟩ := outcome
  cases renders
  obtain ⟨entered, enters, -, -, only⟩ := render_reads_back compiles nofun after
  exact ⟨entered, enters, only⟩

end HtmlTemplate
