import HtmlTemplate.Token.Lexer

/-!
# Runs of a lexer

A lexer that owes no lexeme takes one step, returns what the step found, and goes on. A run lists
these steps up to the end of the source or to a fault. Every lexer has exactly one run, and its
lexemes are those of the run.
-/

namespace HtmlTemplate

/-- What was read before stands in front of what is still read. -/
def Lexemes.after (later : Lexemes) (read : List Lexeme) : Lexemes :=
  ⟨read ++ later.list, later.fault⟩

@[simp] theorem Lexemes.after_nil (later : Lexemes) : later.after [] = later := rfl

theorem Lexemes.after_after (later : Lexemes) (ts us : List Lexeme) :
    (later.after us).after ts = later.after (ts ++ us) := by
  simp [after]

namespace Lexer

/-- The lexer once everything pending has been returned. -/
def idle (l : Lexer) : Lexer := { l with pending := [] }

@[simp] theorem idle_pending (l : Lexer) : l.idle.pending = [] := rfl

theorem idle_eq {l : Lexer} (owes : l.pending = []) : l.idle = l := by
  obtain ⟨⟩ := l
  cases owes
  rfl

theorem effort_idle (l : Lexer) : l.idle.effort ≤ l.effort := by
  simp only [effort, remaining, idle, List.length_nil]
  omega

theorem next_of_pending {l : Lexer} {t : Lexeme} {ts : List Lexeme} (owes : l.pending = t :: ts) :
    l.next = .ok (some t, { l with pending := ts }) := by
  rw [Lexer.next]
  split
  · next u us eq =>
    rw [owes] at eq
    cases eq
    rfl
  · next eq =>
    rw [owes] at eq
    cases eq

theorem lexemes_of_pending {l : Lexer} {t : Lexeme} {ts : List Lexeme}
    (owes : l.pending = t :: ts) :
    l.lexemes = { l with pending := ts }.lexemes.after [t] := by
  have next := next_of_pending owes
  rw [lexemes]
  split
  · next eq => rw [next] at eq; cases eq
  · next eq => rw [next] at eq; cases eq
  · next eq =>
    rw [next] at eq
    cases eq
    rfl

/-- Whatever is pending comes first. -/
theorem lexemes_eq_after_pending (l : Lexer) : l.lexemes = l.idle.lexemes.after l.pending := by
  generalize owed : l.pending = ts
  induction ts generalizing l with
  | nil => rw [Lexemes.after_nil, idle_eq owed]
  | cons t ts ih =>
    rw [lexemes_of_pending owed, ih { l with pending := ts } rfl, Lexemes.after_after]
    rfl

theorem next_of_done {l : Lexer} (owes : l.pending = []) (mode : l.mode = .done) :
    l.next = .ok (none, l) := by
  rw [Lexer.next]
  split
  · next eq => rw [owes] at eq; cases eq
  · rw [dif_neg (not_not_intro mode)]

theorem lexemes_of_done {l : Lexer} (owes : l.pending = []) (mode : l.mode = .done) :
    l.lexemes = ⟨[], none⟩ := by
  have next := next_of_done owes mode
  rw [lexemes]
  split
  · next eq => rw [next] at eq; cases eq
  · rfl
  · next eq => rw [next] at eq; cases eq

theorem next_of_step {l l' : Lexer} (owes : l.pending = []) (active : l.mode ≠ .done)
    (step : l.step = .ok l') : l.next = l'.next := by
  rw [Lexer.next]
  split
  · next eq => rw [owes] at eq; cases eq
  · rw [dif_pos active]
    split
    · next eq =>
      rw [step] at eq
      cases eq
      rfl
    · next eq => rw [step] at eq; cases eq

theorem lexemes_of_step {l l' : Lexer} (owes : l.pending = []) (active : l.mode ≠ .done)
    (step : l.step = .ok l') : l.lexemes = l'.idle.lexemes.after l'.pending := by
  rw [← lexemes_eq_after_pending, lexemes, lexemes]
  have next := next_of_step owes active step
  split <;> split <;> simp_all

theorem next_of_fault {l : Lexer} {f : Fault} (owes : l.pending = []) (active : l.mode ≠ .done)
    (step : l.step = .error f) : l.next = .error f := by
  rw [Lexer.next]
  split
  · next eq => rw [owes] at eq; cases eq
  · rw [dif_pos active]
    split
    · next eq => rw [step] at eq; cases eq
    · next eq =>
      rw [step] at eq
      cases eq
      rfl

theorem lexemes_of_fault {l : Lexer} {f : Fault} (owes : l.pending = []) (active : l.mode ≠ .done)
    (step : l.step = .error f) : l.lexemes = ⟨[], some f⟩ := by
  have next := next_of_fault owes active step
  rw [lexemes]
  split
  · next eq =>
    rw [next] at eq
    cases eq
    rfl
  · next eq => rw [next] at eq; cases eq
  · next eq => rw [next] at eq; cases eq

/-- The steps of a lexer up to the end or to a fault, with the lexemes they find. -/
inductive Run : Lexer → Lexemes → Prop where
  | done {l : Lexer} (owes : l.pending = []) (mode : l.mode = .done) : Run l ⟨[], none⟩
  | fault {l : Lexer} {f : Fault} (owes : l.pending = []) (active : l.mode ≠ .done)
      (step : l.step = .error f) : Run l ⟨[], some f⟩
  | step {l l' : Lexer} {later : Lexemes} (owes : l.pending = []) (active : l.mode ≠ .done)
      (step : l.step = .ok l') (run : Run l'.idle later) : Run l (later.after l'.pending)

theorem Run.lexemes_eq {l : Lexer} {found : Lexemes} (run : Run l found) : l.lexemes = found := by
  induction run with
  | done owes mode => exact lexemes_of_done owes mode
  | fault owes active step => exact lexemes_of_fault owes active step
  | step owes active step _ ih => rw [lexemes_of_step owes active step, ih]

theorem run_lexemes {l : Lexer} (owes : l.pending = []) : Run l l.lexemes := by
  by_cases mode : l.mode = .done
  · rw [lexemes_of_done owes mode]
    exact .done owes mode
  · cases step : l.step with
    | error f =>
      rw [lexemes_of_fault owes mode step]
      exact .fault owes mode step
    | ok l' =>
      have less := step_effort mode step
      have least := effort_idle l'
      rw [lexemes_of_step owes mode step]
      exact .step owes mode step (run_lexemes l'.idle_pending)
termination_by l.effort
decreasing_by omega

/-- The lexemes of a lexer that ends within a number of steps. Unlike the lexemes themselves, they
can be computed by evaluation. -/
def lexemesWithin : Nat → Lexer → Option Lexemes
  | 0, _ => none
  | n + 1, l =>
    if l.mode = .done then some ⟨[], none⟩
    else
      match l.step with
      | .ok l' => (lexemesWithin n l'.idle).map (·.after l'.pending)
      | .error f => some ⟨[], some f⟩

theorem lexemes_of_within {n : Nat} {l : Lexer} {found : Lexemes} (owes : l.pending = [])
    (within : lexemesWithin n l = some found) : l.lexemes = found := by
  induction n generalizing l found with
  | zero => cases within
  | succ n ih =>
    rw [lexemesWithin] at within
    split at within
    · next mode =>
      cases within
      exact lexemes_of_done owes mode
    · next active =>
      split at within
      · next l' step =>
        obtain ⟨later, within', rfl⟩ := Option.map_eq_some_iff.mp within
        rw [lexemes_of_step owes active step, ih l'.idle_pending within']
      · next f step =>
        cases within
        exact lexemes_of_fault owes active step

/-- One lexer reads some lexemes and is left with what the other reads. -/
def Leads (l : Lexer) (ts : List Lexeme) (l' : Lexer) : Prop := l.lexemes = l'.lexemes.after ts

theorem Leads.refl (l : Lexer) : l.Leads [] l := rfl

theorem Leads.trans {l l' l'' : Lexer} {ts us : List Lexeme} (first : l.Leads ts l')
    (later : l'.Leads us l'') : l.Leads (ts ++ us) l'' := by
  unfold Leads at *
  rw [first, later, Lexemes.after_after]

/-- Two lexers that come to the same one. -/
theorem Leads.of_common {l l' l'' : Lexer} {ts us : List Lexeme} (first : l.Leads (ts ++ us) l'')
    (later : l'.Leads us l'') : l.Leads ts l' := by
  unfold Leads at *
  rw [first, later, Lexemes.after_after]

theorem Leads.back {l l' : Lexer} (leads : l.Leads [] l') : l'.Leads [] l := Eq.symm leads

theorem leads_of_step {l l' : Lexer} (owes : l.pending = []) (active : l.mode ≠ .done)
    (step : l.step = .ok l') : l.Leads l'.pending l'.idle := lexemes_of_step owes active step

/-- A step that returns some lexemes and is then another lexer. -/
theorem leads_of_found {l l' : Lexer} {ts : List Lexeme} (owes : l.pending = [])
    (owes' : l'.pending = []) (active : l.mode ≠ .done)
    (step : l.step = .ok { l' with pending := ts }) : l.Leads ts l' := by
  have leads := leads_of_step owes active step
  have same : ({ l' with pending := ts } : Lexer).idle = l' := idle_eq owes'
  rwa [same] at leads

theorem leads_of_skip {l : Lexer} {chars rest : List Char} (owes : l.pending = [])
    (active : l.mode ≠ .done) (step : l.step = .ok (l.skip chars rest)) :
    l.Leads [] (l.skip chars rest) := by
  have leads := leads_of_step owes active step
  have owes' : (l.skip chars rest).pending = [] := owes
  rwa [owes', idle_eq owes'] at leads

end Lexer

theorem Lexemes.ofSource_of_within {n : Nat} {m : Markers} {source : List Char} {found : Lexemes}
    (within : Lexer.lexemesWithin n { markers := m, rest := source } = some found) :
    ofSource m source = found := Lexer.lexemes_of_within rfl within

end HtmlTemplate
