import HtmlTemplate.Proofs.Grammar.Exact
import HtmlTemplate.Proofs.Grammar.Relocation
import HtmlTemplate.Proofs.Lexing.Concatenation
import HtmlTemplate.Proofs.Rendering.Relocation

/-!
# Templates one behind the other

Where a source ends with a line feed, another one can follow: the statements of the two together are
those of the one and then those of the other, and they are rendered one after the other, the second
ones in the context that the first have left.
-/

namespace HtmlTemplate

variable {m : Markers}

/-! ## Statements -/

theorem carries_shift (n : Nat) (ts : List Lexeme) :
    Carries (· + n) ts (ts.map (Lexeme.shift n)) := by
  rw [Carries, List.forall₂_map_right_iff]
  exact List.forall₂_same.mpr fun t _ => ⟨rfl, fun _ => ⟨rfl, t.region_shift n⟩⟩

theorem Grammar.Lines.append : ∀ {ts us : List Lexeme} {ss ss' : List Statement},
    Lines m ts ss → Lines m us ss' → Lines m (ts ++ us) (ss ++ ss')
  | _, _, _, _, .nil, derived' => derived'
  | _, _, _, _, .cons line later, derived' => by
    rw [List.append_assoc, List.cons_append]
    exact .cons line (later.append derived')

theorem Grammar.Lines.no_indent {ts : List Lexeme} {ss : List Statement}
    (derived : Lines m ts ss) : ∀ t ∈ ts.head?, t.token ≠ .indent := by
  cases derived with
  | nil => nofun
  | cons line later =>
    obtain ⟨t, rest, rfl, starts⟩ := line.starts
    rintro _ ⟨⟩ is
    rw [is] at starts
    cases starts

theorem parseSource_append {a b : List Char} {ss ss' : List Statement} (ends : EndsLine a)
    (reads : parseSource m a = .ok ss) (reads' : parseSource m b = .ok ss') :
    parseSource m (a ++ b) = .ok (ss ++ relocateAll (Region.shift (byteLength a)) ss') := by
  obtain ⟨faultless, derived⟩ := parseSource_eq_ok_iff.mp reads
  obtain ⟨faultless', derived'⟩ := parseSource_eq_ok_iff.mp reads'
  obtain ⟨ts, n, p, q, front, whole⟩ :=
    Lexemes.ofSource_append ends faultless faultless' derived'.no_indent
  rw [parseSource_eq_ok_iff, whole]
  refine ⟨rfl, .append ?_ ?_⟩
  · rw [front] at derived
    have closed := derived.carried monotone_id
      (List.rel_append (carries_refl ts) (carries_dedents id n p q))
    rwa [show Region.along id = id from rfl, relocateAll_id] at closed
  · exact derived'.carried (fun _ _ le => Nat.add_le_add_right le _) (carries_shift _ _)

/-! ## Rendering -/

/-- The same error, but for its place and the name of its template. -/
structure Error.Agrees (e e' : Error) : Prop where
  kind : e.kind = e'.kind
  reason : e.reason = e'.reason
  help : e.help = e'.help

theorem Failure.toError_agrees {f f' : Failure} (same : f.cause = f'.cause)
    (source source' : List Char) (name name' : Option String) :
    (f.toError source name).Agrees (f'.toError source' name') := by
  unfold toError Error.orName Error.orPointer
  rw [same]
  split <;> exact ⟨rfl, rfl, rfl⟩

theorem Template.render_eq_ok_iff {t : Template} {c c' : Context} {out : String} :
    t.render c = (.ok out, c') ↔
      ∃ nodes, renderBlock t.statements c = (.ok nodes, c') ∧
        out = String.ofList (Node.writeAll nodes) := by
  unfold render forest
  rcases renderBlock t.statements c with ⟨failure | nodes, mid⟩
  · constructor
    · rintro ⟨⟩
    · rintro ⟨_, ⟨⟩, _⟩
  · constructor
    · rintro ⟨⟩
      exact ⟨nodes, rfl, rfl⟩
    · rintro ⟨_, ⟨⟩, rfl⟩
      rfl

theorem Template.render_eq_error_iff {t : Template} {c c' : Context} {e : Error} :
    t.render c = (.error e, c') ↔
      ∃ f, renderBlock t.statements c = (.error f, c') ∧ e = f.toError t.source.toList t.name := by
  unfold render forest
  rcases renderBlock t.statements c with ⟨failure | nodes, mid⟩
  · constructor
    · rintro ⟨⟩
      exact ⟨failure, rfl, rfl⟩
    · rintro ⟨_, ⟨⟩, rfl⟩
      rfl
  · constructor
    · rintro ⟨⟩
    · rintro ⟨_, ⟨⟩, _⟩

theorem renderBlock_append_run (ss ss' : List Statement) (c : Context) :
    renderBlock (ss ++ ss') c = match renderBlock ss c with
      | (.ok nodes, c') => match renderBlock ss' c' with
        | (.ok nodes', c'') => (.ok (nodes ++ nodes'), c'')
        | (.error f, c'') => (.error f, c'')
      | (.error f, c') => (.error f, c') := by
  rw [renderBlock_append, Render.bind_run]
  rcases renderBlock ss c with ⟨failure | nodes, c'⟩
  · rfl
  · dsimp only
    rw [Render.bind_run]
    rcases renderBlock ss' c' with ⟨failure | nodes', c''⟩ <;> rfl

/-- Renders what one template does and, where that has left off, what another does. -/
structure Template.Chains (t first second : Template) : Prop where
  succeeds {c c' c'' : Context} {out out' : String} : first.render c = (.ok out, c') →
    second.render c' = (.ok out', c'') → t.render c = (.ok (out ++ out'), c'')
  firstFails {c c' : Context} {e : Error} : first.render c = (.error e, c') →
    ∃ e', t.render c = (.error e', c') ∧ e'.Agrees e
  secondFails {c c' c'' : Context} {out : String} {e : Error} :
    first.render c = (.ok out, c') → second.render c' = (.error e, c'') →
      ∃ e', t.render c = (.error e', c'') ∧ e'.Agrees e

theorem Template.chains_of_statements {t first second : Template} {f : Region → Region}
    (statements : t.statements = first.statements ++ relocateAll f second.statements) :
    t.Chains first second where
  succeeds := by
    intro c c' c'' out out' renders renders'
    obtain ⟨nodes, runs, rfl⟩ := render_eq_ok_iff.mp renders
    obtain ⟨nodes', runs', rfl⟩ := render_eq_ok_iff.mp renders'
    have moved := renderBlock_relocate_ok f runs'
    refine render_eq_ok_iff.mpr ⟨nodes ++ nodes', ?_, by simp⟩
    rw [statements, renderBlock_append_run, runs]
    dsimp only
    rw [moved]
  firstFails := by
    intro c c' e renders
    obtain ⟨failure, runs, rfl⟩ := render_eq_error_iff.mp renders
    refine ⟨_, render_eq_error_iff.mpr ⟨failure, ?_, rfl⟩, Failure.toError_agrees rfl ..⟩
    rw [statements, renderBlock_append_run, runs]
  secondFails := by
    intro c c' c'' out e renders renders'
    obtain ⟨nodes, runs, rfl⟩ := render_eq_ok_iff.mp renders
    obtain ⟨failure, runs', rfl⟩ := render_eq_error_iff.mp renders'
    obtain ⟨failure', moved, same⟩ := renderBlock_relocate_error f runs'
    refine ⟨_, render_eq_error_iff.mpr ⟨failure', ?_, rfl⟩, Failure.toError_agrees same ..⟩
    rw [statements, renderBlock_append_run, runs]
    dsimp only
    rw [moved]

/-- A source that ends its last line can be put in front of another: the statements of the two
together are those of the first and then, further on in the source, those of the second, and they
are rendered in turn. -/
theorem Template.compile_append {a b : String} {name name' name'' : Option String}
    {first second : Template} (ends : EndsLine a.toList)
    (compiles : compile m name a = .ok first) (compiles' : compile m name' b = .ok second) :
    ∃ t, compile m name'' (a ++ b) = .ok t ∧
      t.statements = first.statements ++
        relocateAll (Region.shift (byteLength a.toList)) second.statements ∧
      t.Chains first second := by
  have whole := parseSource_append ends (compile_eq_ok_iff.mp compiles).1
    (compile_eq_ok_iff.mp compiles').1
  rw [← String.toList_append] at whole
  exact ⟨⟨name'', a ++ b, _⟩, compile_eq_ok_iff.mpr ⟨whole, rfl, rfl⟩, rfl,
    chains_of_statements rfl⟩

/-- A block that is still open at the end of the first source, and a blank line in front of the
second. -/
theorem Template.compile_behind_block :
    EndsLine "p:\n -x\n".toList ∧ ∃ first second t,
      compile .standard none "p:\n -x\n" = .ok first ∧
        compile .standard none "\r\nq\n" = .ok second ∧
        compile .standard (some "page") ("p:\n -x\n" ++ "\r\nq\n") = .ok t ∧
        t.statements = first.statements ++
          relocateAll (Region.shift (byteLength "p:\n -x\n".toList)) second.statements ∧
        t.Chains first second := by
  have ends : EndsLine "p:\n -x\n".toList := .inr rfl
  have lexemes : Lexemes.ofSource .standard "p:\n -x\n".toList =
      ⟨[⟨.identifier, 0, ['p']⟩, ⟨.colon, 1, [':']⟩, ⟨.newline, 2, ['\n']⟩, ⟨.indent, 3, [' ']⟩,
        ⟨.marker, 4, ['-']⟩, ⟨.text, 5, ['x']⟩, ⟨.newline, 6, ['\n']⟩, ⟨.dedent, 7, []⟩], none⟩ :=
    Lexemes.ofSource_of_within (n := 20) (by decide +kernel)
  have lexemes' : Lexemes.ofSource .standard "\r\nq\n".toList =
      ⟨[⟨.identifier, 2, ['q']⟩, ⟨.newline, 3, ['\n']⟩], none⟩ :=
    Lexemes.ofSource_of_within (n := 20) (by decide +kernel)
  have line : Grammar.Line .standard
      [⟨.marker, 4, ['-']⟩, ⟨.text, 5, ['x']⟩, ⟨.newline, 6, ['\n']⟩] _ :=
    .text rfl (.text rfl .nil) nofun rfl
  obtain ⟨ss, derived⟩ : ∃ ss, Grammar.Lines .standard
      (Lexemes.ofSource .standard "p:\n -x\n".toList).list ss := by
    rw [lexemes]
    exact ⟨_, .cons (.tag rfl .bare (.mk rfl rfl rfl (.cons line .nil) nofun rfl)) .nil⟩
  obtain ⟨ss', derived'⟩ : ∃ ss, Grammar.Lines .standard
      (Lexemes.ofSource .standard "\r\nq\n".toList).list ss := by
    rw [lexemes']
    exact ⟨_, .cons (.emptyTag rfl .bare rfl) .nil⟩
  have reads := parseSource_eq_ok_iff.mpr ⟨congrArg Lexemes.fault lexemes, derived⟩
  have reads' := parseSource_eq_ok_iff.mpr ⟨congrArg Lexemes.fault lexemes', derived'⟩
  have compiles : compile .standard none "p:\n -x\n" = .ok ⟨none, _, ss⟩ :=
    compile_eq_ok_iff.mpr ⟨reads, rfl, rfl⟩
  have compiles' : compile .standard none "\r\nq\n" = .ok ⟨none, _, ss'⟩ :=
    compile_eq_ok_iff.mpr ⟨reads', rfl, rfl⟩
  obtain ⟨t, whole, statements, chains⟩ := compile_append ends compiles compiles'
  exact ⟨ends, _, _, t, compiles, compiles', whole, statements, chains⟩

end HtmlTemplate
