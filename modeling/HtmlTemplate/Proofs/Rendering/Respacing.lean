import HtmlTemplate.Proofs.Lexing.Respacing
import HtmlTemplate.Proofs.Rendering.Concatenation

/-!
# Templates with other line ends

Neither the kind of line end nor a blank line nor the line feed behind the last line matters to a
template: with and without them a source compiles to the same tree, whose regions aside nothing
differs, or to none.
-/

namespace HtmlTemplate

variable {m : Markers}

/-! ## Trees -/

theorem Lexeme.Carried.back {φ ψ : Nat → Nat} {t u : Lexeme} (carried : t.Carried φ u)
    (inverse : ∀ n, ψ (φ n) = n) : u.Carried ψ t := by
  refine ⟨carried.token.symm, fun plain => ?_⟩
  obtain ⟨chars, region⟩ := carried.said (carried.token ▸ plain)
  refine ⟨chars.symm, ?_⟩
  rw [region, Region.along, Region.along, inverse, inverse]

theorem Carries.back {φ ψ : Nat → Nat} {ts us : List Lexeme} (carries : Carries φ ts us)
    (inverse : ∀ n, ψ (φ n) = n) : Carries ψ us ts :=
  carries.flip.imp fun _ _ carried => carried.back inverse

/-- The statements of a source without their regions. -/
def parseBare (m : Markers) (source : List Char) : Option (List Statement) :=
  (parseSource m source).toOption.map bareAll

theorem parseSource_of_carries {φ : Nat → Nat} {source source' : List Char} {ss : List Statement}
    (mono : Monotone φ) (reads : parseSource m source = .ok ss)
    (fault : (Lexemes.ofSource m source').fault.isSome = (Lexemes.ofSource m source).fault.isSome)
    (carries : Carries φ (Lexemes.ofSource m source).list (Lexemes.ofSource m source').list) :
    ∃ ss', parseSource m source' = .ok ss' ∧ bareAll ss' = bareAll ss := by
  obtain ⟨faultless, derived⟩ := parseSource_eq_ok_iff.mp reads
  have faultless' : (Lexemes.ofSource m source').fault = none := by
    rw [← Option.isNone_iff_eq_none, ← Option.not_isSome, fault, faultless]
    rfl
  exact ⟨_, parseSource_eq_ok_iff.mpr ⟨faultless', derived.carried mono carries⟩,
    bareAll_relocateAll ..⟩

/-- Lexemes that differ in their places denote the same tree, or none. -/
theorem parseBare_of_mirrors {φ ψ : Nat → Nat} {source source' : List Char} (mono : Monotone φ)
    (mono' : Monotone ψ) (inverse : ∀ n, ψ (φ n) = n)
    (mirrors : (Lexemes.ofSource m source).Mirrors φ (Lexemes.ofSource m source')) :
    parseBare m source = parseBare m source' := by
  unfold parseBare
  cases reads : parseSource m source with
  | ok ss =>
    obtain ⟨ss', reads', same⟩ := parseSource_of_carries mono reads mirrors.fault mirrors.list
    rw [reads']
    exact congrArg some same.symm
  | error f =>
    cases reads' : parseSource m source' with
    | error f' => rfl
    | ok ss' =>
      obtain ⟨ss, reads'', -⟩ := parseSource_of_carries mono' reads' mirrors.fault.symm
        (mirrors.list.back inverse)
      rw [reads] at reads''
      cases reads''

theorem parseBare_blankLine {a b blanks ret : List Char} (ends : EndsLine a)
    (blank : ∀ c ∈ blanks, isBlank c = true) (isReturn : IsReturn ret) :
    parseBare m (a ++ b) = parseBare m (a ++ (blanks ++ (ret ++ '\n' :: b))) :=
  parseBare_of_mirrors (monotone_spread ..) (monotone_gather ..) (gather_spread _ _)
    (Lexemes.ofSource_blankLine ends blank isReturn)

theorem parseBare_return {a b : List Char} (noReturn : a.getLast? ≠ some '\r') :
    parseBare m (a ++ '\n' :: b) = parseBare m (a ++ '\r' :: '\n' :: b) :=
  parseBare_of_mirrors (monotone_spread ..) (monotone_gather ..) (gather_spread _ _)
    (Lexemes.ofSource_return noReturn)

theorem parseBare_lastFeed {a : List Char} (noReturn : a.getLast? ≠ some '\r') :
    parseBare m a = parseBare m (a ++ ['\n']) :=
  parseBare_of_mirrors monotone_id monotone_id (fun _ => rfl) (Lexemes.ofSource_lastFeed noReturn)

/-- Every line feed behind a carriage return. -/
def withReturns (source : List Char) : List Char :=
  source.flatMap fun c => if c = '\n' then ['\r', '\n'] else [c]

/-- The line ends are replaced one by one, behind a front in which they have been. -/
theorem parseBare_withReturns {front source : List Char} (noReturn : front.getLast? ≠ some '\r')
    (none : '\r' ∉ source) :
    parseBare m (front ++ source) = parseBare m (front ++ withReturns source) := by
  induction source generalizing front with
  | nil => rfl
  | cons c source ih =>
    have later : '\r' ∉ source := fun mem => none (List.mem_cons_of_mem c mem)
    by_cases feed : c = '\n'
    · subst feed
      calc parseBare m (front ++ '\n' :: source)
          = parseBare m (front ++ '\r' :: '\n' :: source) := parseBare_return noReturn
        _ = parseBare m ((front ++ ['\r', '\n']) ++ source) := by simp
        _ = parseBare m ((front ++ ['\r', '\n']) ++ withReturns source) :=
          ih (by simp) later
        _ = parseBare m (front ++ withReturns ('\n' :: source)) := by simp [withReturns]
    · have other : c ≠ '\r' := fun is => none (is ▸ List.mem_cons_self)
      calc parseBare m (front ++ c :: source)
          = parseBare m ((front ++ [c]) ++ source) := by simp
        _ = parseBare m ((front ++ [c]) ++ withReturns source) := ih (by simpa using other) later
        _ = parseBare m (front ++ withReturns (c :: source)) := by simp [withReturns, feed]

/-! ## Templates -/

/-- The same template, but for its regions. -/
structure Template.Agrees (t t' : Template) : Prop where
  tree : bareAll t.statements = bareAll t'.statements
  succeeds {c c' : Context} {out : String} :
    t.render c = (.ok out, c') ↔ t'.render c = (.ok out, c')
  fails {c c' : Context} {e : Error} :
    t.render c = (.error e, c') → ∃ e', t'.render c = (.error e', c') ∧ e'.Agrees e

theorem renderBlock_placeless_of_bare {ss ss' : List Statement} (same : bareAll ss = bareAll ss') :
    (renderBlock ss).placeless = (renderBlock ss').placeless := by
  rw [← renderBlock_relocate Region.forget ss, ← renderBlock_relocate Region.forget ss']
  exact congrArg (fun ss => (renderBlock ss).placeless) same

theorem Template.agrees_of_tree {t t' : Template}
    (tree : bareAll t.statements = bareAll t'.statements) : t.Agrees t' where
  tree := tree
  succeeds := by
    intro c c' out
    rw [render_eq_ok_iff, render_eq_ok_iff]
    have same := renderBlock_placeless_of_bare tree
    constructor
    · rintro ⟨nodes, runs, rfl⟩
      exact ⟨nodes, Render.run_ok_of_placeless same runs, rfl⟩
    · rintro ⟨nodes, runs, rfl⟩
      exact ⟨nodes, Render.run_ok_of_placeless same.symm runs, rfl⟩
  fails := by
    intro c c' e renders
    obtain ⟨failure, runs, rfl⟩ := render_eq_error_iff.mp renders
    obtain ⟨failure', runs', cause⟩ :=
      Render.run_error_of_placeless (renderBlock_placeless_of_bare tree) runs
    exact ⟨_, render_eq_error_iff.mpr ⟨failure', runs', rfl⟩, Failure.toError_agrees cause ..⟩

/-- Both sources compile, to templates that agree, or neither does. -/
inductive Template.CompilesAlike : Except Error Template → Except Error Template → Prop where
  | compiled {t t' : Template} (agrees : t.Agrees t') : CompilesAlike (.ok t) (.ok t')
  | failed (e e' : Error) : CompilesAlike (.error e) (.error e')

theorem Template.compilesAlike_of_bare {name name' : Option String} {source source' : String}
    (same : parseBare m source.toList = parseBare m source'.toList) :
    CompilesAlike (compile m name source) (compile m name' source') := by
  unfold parseBare at same
  unfold compile
  cases reads : parseSource m source.toList with
  | ok ss =>
    cases reads' : parseSource m source'.toList with
    | ok ss' =>
      rw [reads, reads'] at same
      exact .compiled (agrees_of_tree (Option.some.inj same))
    | error f' =>
      rw [reads, reads'] at same
      cases same
  | error f =>
    cases reads' : parseSource m source'.toList with
    | ok ss' =>
      rw [reads, reads'] at same
      cases same
    | error f' => exact .failed ..

/-- A template does not depend on whether its lines end with a line feed or with a carriage return
and a line feed. -/
theorem Template.compile_withReturns {name name' : Option String} {source : String}
    (noReturn : '\r' ∉ source.toList) :
    CompilesAlike (compile m name source)
      (compile m name' (String.ofList (withReturns source.toList))) := by
  refine compilesAlike_of_bare ?_
  rw [String.toList_ofList]
  have nothing : ([] : List Char).getLast? ≠ some '\r' := nofun
  exact parseBare_withReturns nothing noReturn

/-- A tag around a text line. -/
theorem Template.compiles_block : ∃ t, compile .standard none "p:\n -x\n" = .ok t := by
  have lexemes : Lexemes.ofSource .standard "p:\n -x\n".toList =
      ⟨[⟨.identifier, 0, ['p']⟩, ⟨.colon, 1, [':']⟩, ⟨.newline, 2, ['\n']⟩, ⟨.indent, 3, [' ']⟩,
        ⟨.marker, 4, ['-']⟩, ⟨.text, 5, ['x']⟩, ⟨.newline, 6, ['\n']⟩, ⟨.dedent, 7, []⟩], none⟩ :=
    Lexemes.ofSource_of_within (n := 20) (by decide +kernel)
  have line : Grammar.Line .standard
      [⟨.marker, 4, ['-']⟩, ⟨.text, 5, ['x']⟩, ⟨.newline, 6, ['\n']⟩] _ :=
    .text rfl (.text rfl .nil) nofun rfl
  obtain ⟨ss, derived⟩ : ∃ ss, Grammar.Lines .standard
      (Lexemes.ofSource .standard "p:\n -x\n".toList).list ss := by
    rw [lexemes]
    exact ⟨_, .cons (.tag rfl .bare (.mk rfl rfl rfl (.cons line .nil) nofun rfl)) .nil⟩
  have reads := parseSource_eq_ok_iff.mpr ⟨congrArg Lexemes.fault lexemes, derived⟩
  exact ⟨⟨none, _, ss⟩, compile_eq_ok_iff.mpr ⟨reads, rfl, rfl⟩⟩

theorem Template.CompilesAlike.of_ok {x y : Except Error Template} {t : Template}
    (alike : CompilesAlike x y) (compiles : x = .ok t) : ∃ t', y = .ok t' ∧ t.Agrees t' := by
  subst compiles
  obtain ⟨agrees⟩ := alike
  exact ⟨_, rfl, agrees⟩

/-- The line ends in front of a block and behind a text line. -/
theorem Template.compile_block_withReturns : '\r' ∉ "p:\n -x\n".toList ∧
    ∃ t t', compile .standard none "p:\n -x\n" = .ok t ∧
      compile .standard none "p:\r\n -x\r\n" = .ok t' ∧ t.Agrees t' := by
  have noReturn : '\r' ∉ "p:\n -x\n".toList := by decide
  have returns : String.ofList (withReturns "p:\n -x\n".toList) = "p:\r\n -x\r\n" := by
    decide
  obtain ⟨t, compiles⟩ := compiles_block
  have alike : CompilesAlike (compile .standard none "p:\n -x\n")
      (compile .standard none (String.ofList (withReturns "p:\n -x\n".toList))) :=
    compile_withReturns noReturn
  rw [returns] at alike
  obtain ⟨t', compiles', agrees⟩ := alike.of_ok compiles
  exact ⟨noReturn, t, t', compiles, compiles', agrees⟩

/-- A template depends neither on blank lines, be they in blocks or within brackets, nor on the line
feed behind its last line. -/
theorem Template.compile_blankLines {name name' : Option String} :
    (∀ {a b blanks ending : String}, EndsLine a.toList → (∀ c ∈ blanks.toList, isBlank c = true) →
      ending = "\n" ∨ ending = "\r\n" →
        CompilesAlike (compile m name (a ++ b)) (compile m name' (a ++ (blanks ++ ending) ++ b))) ∧
      ∀ {source : String}, source.toList.getLast? ≠ some '\r' →
        CompilesAlike (compile m name source) (compile m name' (source ++ "\n")) := by
  constructor
  · intro a b blanks ending ends blank lineEnd
    refine compilesAlike_of_bare ?_
    obtain ⟨ret, isReturn, whole⟩ : ∃ ret, IsReturn ret ∧ ending.toList = ret ++ ['\n'] := by
      rcases lineEnd with rfl | rfl
      · exact ⟨[], .inl rfl, rfl⟩
      · exact ⟨['\r'], .inr rfl, rfl⟩
    have same := parseBare_blankLine (m := m) (b := b.toList) ends blank isReturn
    simpa [whole] using same
  · intro source noReturn
    refine compilesAlike_of_bare ?_
    have same := parseBare_lastFeed (m := m) noReturn
    simpa using same

/-- A blank line with white space of its own in front of a block, and a line feed behind it. -/
theorem Template.compile_block_blankLines :
    EndsLine "p:\n".toList ∧ (∀ c ∈ " \t".toList, isBlank c = true) ∧
      "p:\n -x\n".toList.getLast? ≠ some '\r' ∧
      ∃ t t' t'', compile .standard none "p:\n -x\n" = .ok t ∧
        compile .standard none "p:\n \t\r\n -x\n" = .ok t' ∧ t.Agrees t' ∧
        compile .standard none "p:\n -x\n\n" = .ok t'' ∧ t.Agrees t'' := by
  have ends : EndsLine "p:\n".toList := .inr rfl
  have blank : ∀ c ∈ " \t".toList, isBlank c = true := by simp [isBlank]
  have noReturn : "p:\n -x\n".toList.getLast? ≠ some '\r' := by decide
  obtain ⟨t, compiles⟩ := compiles_block
  have alike : CompilesAlike (compile .standard none ("p:\n" ++ " -x\n"))
      (compile .standard none ("p:\n" ++ (" \t" ++ "\r\n") ++ " -x\n")) :=
    compile_blankLines.1 ends blank (.inr rfl)
  have alike' : CompilesAlike (compile .standard none "p:\n -x\n")
      (compile .standard none ("p:\n -x\n" ++ "\n")) := compile_blankLines.2 noReturn
  obtain ⟨t', compiles', agrees⟩ := alike.of_ok compiles
  obtain ⟨t'', compiles'', agrees'⟩ := alike'.of_ok compiles
  exact ⟨ends, blank, noReturn, t, t', t'', compiles, compiles', agrees, compiles'', agrees'⟩

end HtmlTemplate
