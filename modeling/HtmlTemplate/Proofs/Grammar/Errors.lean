import HtmlTemplate.Engine
import HtmlTemplate.Proofs.Grammar.Faults

/-!
# Errors of templates that do not compile

Whatever keeps a source from compiling is told in the same way: as a syntactic error with help and
a pointer into the source, under the name that the template was to have.
-/

namespace HtmlTemplate

/-- A position lies on one of the lines that it is counted among. -/
theorem Position.among_line_lt {ls : List (List Char)} (line offset : Nat) (some : ls ≠ []) :
    (Position.among line offset ls).line < line + ls.length := by
  induction ls generalizing line offset with
  | nil => exact absurd rfl some
  | cons l ls ih =>
    cases ls with
    | nil => simp [among]
    | cons l' ls =>
      simp only [among]
      split
      · simp
      · have below := ih (line + 1) (offset - (byteLength l + 1)) (by simp)
        simp only [List.length_cons] at below ⊢
        omega

theorem Position.ofOffset_line_lt (source : List Char) (offset : Nat) :
    (ofOffset source offset).line < (lines source).length := by
  have below := among_line_lt 0 offset (lines_ne_nil source)
  rwa [Nat.zero_add] at below

/-- Tells what is wrong with a source: help in words, and a pointer to one of its places. -/
structure Error.Explains (source : List Char) (e : Error) : Prop where
  syntactic : e.kind = .syntactic
  help : ∃ text, e.help = some text
  pointer : ∃ region, e.visual = some (.pointer (.ofRegion source region)) ∧
    Boundary source region.start ∧ region.start ≤ byteLength source
  line : ∃ line column, e.position? = some (line, column) ∧ 1 ≤ line ∧
    line ≤ (lines source).length

theorem Fault.explains {source : List Char} {f : Fault} (name : Option String)
    (boundary : Boundary source f.region.start) :
    (f.toError source name).Explains source where
  syntactic := rfl
  help := ⟨f.cause.help, rfl⟩
  pointer := ⟨f.region, rfl, boundary, boundary.le⟩
  line := ⟨_, _, rfl, Nat.le_add_left .., Position.ofOffset_line_lt source f.region.start⟩

theorem Template.explains_of_compile {m : Markers} {name : Option String} {source : String}
    {e : Error} (h : compile m name source = .error e) :
    e.Explains source.toList ∧ e.name = name := by
  unfold compile at h
  split at h
  · cases h
  · next f reads =>
    cases h
    exact ⟨f.explains name (boundary_of_parseSource m reads), rfl⟩

theorem Engine.explains_of_replace {engine : Engine} {name source : String} {e : Error}
    (h : engine.replace name source = .error e) :
    e.Explains source.toList ∧ e.name = some name := by
  unfold replace at h
  cases compiled : Template.compile engine.markers (some name) source with
  | error e' =>
    rw [compiled] at h
    cases h
    exact Template.explains_of_compile compiled
  | ok t =>
    rw [compiled] at h
    cases h

/-- A source that does not compile is told what is wrong with it, whichever way it came. A name that
is taken is the only other reason to refuse a template. -/
theorem Template.failure_explains (engine : Engine) (m : Markers) (source : String) (e : Error) :
    (∀ name, compile m name source = .error e → e.Explains source.toList ∧ e.name = name) ∧
      (engine.compile source = .error e → e.Explains source.toList ∧ e.name = none) ∧
      (∀ name, engine.replace name source = .error e →
        e.Explains source.toList ∧ e.name = some name) ∧
      ∀ name, engine.add name source = .error e →
        if (engine.get? name).isSome then e = Engine.duplicate name
        else e.Explains source.toList ∧ e.name = some name := by
  refine ⟨fun name => explains_of_compile, explains_of_compile,
    fun name => Engine.explains_of_replace, fun name h => ?_⟩
  unfold Engine.add at h
  split at h
  · next taken =>
    cases h
    rw [if_pos taken]
  · next free =>
    rw [if_neg free]
    exact Engine.explains_of_replace h

/-- A tag whose block is missing at the end of the source. -/
theorem Template.missing_block_explained :
    ∃ e, ({} : Engine).add "page" "é:" = .error e ∧ e.Explains "é:".toList ∧
      e.name = some "page" := by
  have lexemes : Lexemes.ofSource .standard "é:".toList =
      ⟨[⟨.identifier, 0, ['é']⟩, ⟨.colon, 2, [':']⟩, ⟨.newline, 3, []⟩], none⟩ :=
    Lexemes.ofSource_of_within (n := 20) (by decide +kernel)
  have block : parseBlock .standard [⟨.colon, 2, [':']⟩, ⟨.newline, 3, []⟩] =
      .error (.outOfLexemes .noBlockAtEnd) := by
    rw [parseBlock]
    rfl
  have statement : parseStatement .standard
      [⟨.identifier, 0, ['é']⟩, ⟨.colon, 2, [':']⟩, ⟨.newline, 3, []⟩] =
        .error (.outOfLexemes .noBlockAtEnd) := by
    rw [parseStatement]
    change (parseBlock .standard [⟨.colon, 2, [':']⟩, ⟨.newline, 3, []⟩] >>= _) = _
    rw [block]
    rfl
  have reads : parseSource .standard "é:".toList = .error ⟨.point 3, .noBlockAtEnd⟩ := by
    rw [parseSource, lexemes, Lexemes.parse, parseStatements, statement]
    rfl
  have fails : ({} : Engine).add "page" "é:" = .error
      (Fault.toError "é:".toList (some "page") ⟨.point 3, .noBlockAtEnd⟩) := by
    change (compile .standard (some "page") "é:" >>= _) = _
    rw [compile, reads]
    rfl
  exact ⟨_, fails, (failure_explains {} .standard "é:" _).2.2.2 "page" fails⟩

end HtmlTemplate
