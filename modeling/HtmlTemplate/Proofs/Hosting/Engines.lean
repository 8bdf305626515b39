import HtmlTemplate.Proofs.Grammar.Errors

/-!
# Runs of an engine

An engine is a map from names to sources. Whatever was asked of it, it keeps under each name the
source that was added last with success, compiled with its own markers, and answers from these. A
call that fails changes nothing.
-/

namespace HtmlTemplate.Engine

/-- What a host asks of an engine. -/
inductive Call where
  | add (name source : String)
  | replace (name source : String)
  | get (name : String)
  | render (name : String) (c : Context)

inductive Answer where
  | added
  | refused (e : Error)
  | found (t : Option Template)
  | rendered (result : Except Error String) (after : Context)

/-- The name and source of a call that adds a template. -/
def Call.template? : Call → Option (String × String)
  | .add name source | .replace name source => some (name, source)
  | _ => none

/-- An engine that refuses a template stays as it was. -/
def settle (e : Engine) : Except Error Engine → Answer × Engine
  | .ok e' => (.added, e')
  | .error f => (.refused f, e)

def perform (e : Engine) : Call → Answer × Engine
  | .add name source => e.settle (e.add name source)
  | .replace name source => e.settle (e.replace name source)
  | .get name => (.found (e.get? name), e)
  | .render name c => (.rendered (e.render name c).1 (e.render name c).2, e)

/-- Calls with their answers, in order. -/
abbrev Log := List (Call × Answer)

def run (e : Engine) : List Call → Log × Engine
  | [] => ([], e)
  | call :: later =>
    let first := e.perform call
    let rest := first.2.run later
    ((call, first.1) :: rest.1, rest.2)

/-- Added a template under the name. -/
def Adds (name source : String) (entry : Call × Answer) : Prop :=
  entry.1.template? = some (name, source) ∧ entry.2 = .added

/-- The last template that was added under the name came from this source. -/
def Latest (log : Log) (name source : String) : Prop :=
  ∃ before entry later, log = before ++ entry :: later ∧ Adds name source entry ∧
    ∀ other ∈ later, ∀ source', ¬ Adds name source' other

/-! ## Logs -/

section

variable {log : Log} {entry : Call × Answer} {name source : String}

theorem Adds.unique {name' source' : String} (adds : Adds name source entry)
    (adds' : Adds name' source' entry) : name' = name ∧ source' = source := by
  have same := adds'.1.symm.trans adds.1
  cases same
  exact ⟨rfl, rfl⟩

theorem not_latest_nil : ¬ Latest [] name source := by
  rintro ⟨before, entry, later, none, -⟩
  simp at none

/-- The last entry decides, unless it adds nothing under the name. -/
theorem latest_concat_iff : Latest (log ++ [entry]) name source ↔
    Adds name source entry ∨ Latest log name source ∧ ∀ source', ¬ Adds name source' entry := by
  constructor
  · rintro ⟨before, first, later, whole, adds, last⟩
    rcases List.eq_nil_or_concat later with rfl | ⟨later, final, rfl⟩
    · obtain ⟨-, rfl⟩ := List.append_singleton_inj.mp whole
      exact .inl adds
    · rw [List.concat_eq_append, ← List.cons_append, ← List.append_assoc] at whole
      obtain ⟨rfl, rfl⟩ := List.append_singleton_inj.mp whole
      have earlier : ∀ other ∈ later, ∀ source', ¬ Adds name source' other :=
        fun other mem => last other (by simp [mem])
      exact .inr ⟨⟨before, first, later, rfl, adds, earlier⟩, last _ (by simp)⟩
  · rintro (adds | ⟨⟨before, first, later, rfl, adds, last⟩, none⟩)
    · exact ⟨log, entry, [], rfl, adds, List.forall_mem_nil _⟩
    · refine ⟨before, first, later ++ [entry], by simp, adds, ?_⟩
      rintro other mem
      rcases List.mem_append.mp mem with mem | mem
      · exact last other mem
      · rw [List.mem_singleton.mp mem]
        exact none

/-- Under the name of a new template that one counts, under any other nothing changes. -/
theorem latest_concat_of_adds (adds : Adds name source entry) (other source' : String) :
    Latest (log ++ [entry]) other source' ↔
      if name = other then source' = source else Latest log other source' := by
  rw [latest_concat_iff]
  split
  · next same =>
    subst same
    constructor
    · rintro (adds' | ⟨-, none⟩)
      · exact (adds.unique adds').2
      · exact absurd adds (none source)
    · rintro rfl
      exact .inl adds
  · next different =>
    have none (source'' : String) : ¬ Adds other source'' entry :=
      fun adds' => different (adds.unique adds').1.symm
    constructor
    · rintro (adds' | ⟨latest, -⟩)
      · exact absurd adds' (none _)
      · exact latest
    · exact fun latest => .inr ⟨latest, none⟩

theorem latest_concat_of_none (none : ∀ name source, ¬ Adds name source entry)
    (name source : String) : Latest (log ++ [entry]) name source ↔ Latest log name source := by
  simp [latest_concat_iff, none]

/-- What was ever added under a name was added under it last by some call. -/
theorem exists_latest_iff : (∃ source, Latest log name source) ↔
    ∃ entry ∈ log, ∃ source, Adds name source entry := by
  constructor
  · rintro ⟨source, before, entry, later, rfl, adds, -⟩
    exact ⟨entry, by simp, source, adds⟩
  · induction log using List.reverseRecOn with
    | nil => rintro ⟨_, ⟨⟩, _⟩
    | append_singleton log last ih =>
      rintro ⟨entry, mem, source, adds⟩
      by_cases decided : ∃ source', Adds name source' last
      · obtain ⟨source', adds'⟩ := decided
        exact ⟨source', latest_concat_iff.mpr (.inl adds')⟩
      · have earlier : entry ∈ log := by
          refine (List.mem_append.mp mem).resolve_right fun mem => decided ?_
          rw [← List.mem_singleton.mp mem]
          exact ⟨source, adds⟩
        obtain ⟨source', latest⟩ := ih ⟨entry, earlier, source, adds⟩
        exact ⟨source', latest_concat_iff.mpr (.inr ⟨latest, fun s is => decided ⟨s, is⟩⟩)⟩

end

/-! ## One call -/

/-- A call either adds a template that compiles or leaves the engine as it was. -/
inductive Effect (e : Engine) (entry : Call × Answer) : Engine → Prop where
  | adds {name source : String} {t : Template} (adds : Adds name source entry)
      (compiled : Template.compile e.markers (some name) source = .ok t) :
      Effect e entry { e with templates := e.templates.put name t }
  | keeps (none : ∀ name source, ¬ Adds name source entry) : Effect e entry e

section

variable {e : Engine} {name source : String}

theorem replace_of_ok {t : Template}
    (compiles : Template.compile e.markers (some name) source = .ok t) :
    e.replace name source = .ok { e with templates := e.templates.put name t } := by
  rw [replace, compiles]
  rfl

theorem replace_of_error {f : Error}
    (fails : Template.compile e.markers (some name) source = .error f) :
    e.replace name source = .error f := by
  rw [replace, fails]
  rfl

theorem get?_put (e : Engine) (name other : String) (t : Template) :
    { e with templates := e.templates.put name t : Engine }.get? other =
      if name = other then some t else e.get? other := Entries.get?_put ..

theorem effect_of_settle {call : Call} (e : Engine) (is : call.template? = some (name, source)) :
    Effect e (call, (e.settle (e.replace name source)).1)
      (e.settle (e.replace name source)).2 := by
  cases compiled : Template.compile e.markers (some name) source with
  | ok t =>
    rw [replace_of_ok compiled]
    exact .adds ⟨is, rfl⟩ compiled
  | error f =>
    rw [replace_of_error compiled]
    exact .keeps (by rintro _ _ ⟨-, ⟨⟩⟩)

theorem effect_of_perform (e : Engine) (call : Call) :
    Effect e (call, (e.perform call).1) (e.perform call).2 := by
  cases call with
  | add name source =>
    rw [perform, add]
    split
    · exact .keeps (by rintro _ _ ⟨-, ⟨⟩⟩)
    · exact effect_of_settle e rfl
  | replace name source => exact effect_of_settle e rfl
  | get | render => exact .keeps (by rintro _ _ ⟨⟨⟩, -⟩)

end

/-! ## Runs -/

/-- The engine keeps what the log says was added last. -/
structure Keeps (m : Markers) (log : Log) (e : Engine) : Prop where
  markers : e.markers = m
  stored : ∀ name t, e.get? name = some t ↔
    ∃ source, Latest log name source ∧ Template.compile m (some name) source = .ok t
  compiles : ∀ name source, Latest log name source →
    ∃ t, Template.compile m (some name) source = .ok t

theorem keeps_nil (m : Markers) : Keeps m [] { markers := m } where
  markers := rfl
  stored := by
    intro name t
    constructor
    · rintro ⟨⟩
    · rintro ⟨source, latest, -⟩
      exact absurd latest not_latest_nil
  compiles := fun name source latest => absurd latest not_latest_nil

theorem Keeps.step {m : Markers} {log : Log} {e e' : Engine} {entry : Call × Answer}
    (keeps : Keeps m log e) (effect : Effect e entry e') : Keeps m (log ++ [entry]) e' := by
  cases effect with
  | @adds name source t adds compiled =>
    rw [keeps.markers] at compiled
    refine ⟨keeps.markers, fun other t' => ?_, fun other source' => ?_⟩
    · simp only [latest_concat_of_adds adds, get?_put]
      split
      · next same =>
        subst same
        constructor
        · rintro ⟨⟩
          exact ⟨source, rfl, compiled⟩
        · rintro ⟨_, rfl, compiled'⟩
          rw [compiled] at compiled'
          cases compiled'
          rfl
      · exact keeps.stored other t'
    · rw [latest_concat_of_adds adds]
      split
      · next same =>
        rintro rfl
        exact ⟨t, same ▸ compiled⟩
      · exact keeps.compiles other source'
  | keeps none =>
    exact ⟨keeps.markers, by simpa only [latest_concat_of_none none] using keeps.stored,
      by simpa only [latest_concat_of_none none] using keeps.compiles⟩

theorem Keeps.steps {m : Markers} {log : Log} {e : Engine} (keeps : Keeps m log e)
    (calls : List Call) : Keeps m (log ++ (e.run calls).1) (e.run calls).2 := by
  induction calls generalizing log e with
  | nil => simpa [Engine.run] using keeps
  | cons call later ih =>
    have next := ih (keeps.step (effect_of_perform e call))
    rwa [List.append_assoc] at next

/-- The engine answers as the map does from the names to the templates that the log says were added
last, each compiled under its name. -/
structure IsMap (m : Markers) (log : Log) (e : Engine) : Prop where
  present : ∀ name, (e.get? name).isSome ↔ ∃ entry ∈ log, ∃ source, Adds name source entry
  latest : ∀ name t, e.get? name = some t ↔
    ∃ source, Latest log name source ∧ Template.compile m (some name) source = .ok t
  gets : ∀ name, e.perform (.get name) = (.found (e.get? name), e)
  refused : ∀ call f e', e.perform call = (.refused f, e') → e' = e
  add_refused : ∀ name source,
    (∃ f e', e.perform (.add name source) = (.refused f, e') ∧ f.kind = .template) ↔
      (e.get? name).isSome
  add_added : ∀ name source, e.get? name = none →
    ((∃ e', e.perform (.add name source) = (.added, e')) ↔
      ∃ t, Template.compile m (some name) source = .ok t)
  replace_added : ∀ name source, (∃ e', e.perform (.replace name source) = (.added, e')) ↔
    ∃ t, Template.compile m (some name) source = .ok t
  renders : ∀ name t c, e.get? name = some t →
    e.perform (.render name c) = (.rendered (t.render c).1 (t.render c).2, e)
  misses : ∀ name c, e.get? name = none →
    ∃ f, e.perform (.render name c) = (.rendered (.error f) c, e) ∧ f.kind = .template

theorem settle_replace_iff (e : Engine) (name source : String) :
    (∃ e', e.settle (e.replace name source) = (.added, e')) ↔
      ∃ t, Template.compile e.markers (some name) source = .ok t := by
  cases compiled : Template.compile e.markers (some name) source with
  | ok t =>
    rw [replace_of_ok compiled]
    exact ⟨fun _ => ⟨t, rfl⟩, fun _ => ⟨_, rfl⟩⟩
  | error f =>
    rw [replace_of_error compiled]
    constructor
    · rintro ⟨_, ⟨⟩⟩
    · rintro ⟨_, ⟨⟩⟩

theorem Keeps.isMap {m : Markers} {log : Log} {e : Engine} (keeps : Keeps m log e) :
    IsMap m log e where
  present := by
    intro name
    rw [← exists_latest_iff, Option.isSome_iff_exists]
    constructor
    · rintro ⟨t, found⟩
      obtain ⟨source, latest, -⟩ := (keeps.stored name t).mp found
      exact ⟨source, latest⟩
    · rintro ⟨source, latest⟩
      obtain ⟨t, compiled⟩ := keeps.compiles name source latest
      exact ⟨t, (keeps.stored name t).mpr ⟨source, latest, compiled⟩⟩
  latest := keeps.stored
  gets := fun name => rfl
  refused := by
    intro call f e' performs
    have effect := effect_of_perform e call
    rw [performs] at effect
    cases effect with
    | adds adds => cases adds.2
    | keeps => rfl
  add_refused := by
    intro name source
    rw [perform, add]
    split
    · next taken => exact ⟨fun _ => taken, fun _ => ⟨duplicate name, e, rfl, rfl⟩⟩
    · next free =>
      refine ⟨?_, fun taken => absurd taken free⟩
      rintro ⟨f, e', settles, kind⟩
      cases replaced : e.replace name source with
      | ok e'' =>
        rw [replaced] at settles
        cases settles
      | error g =>
        rw [replaced] at settles
        cases settles
        rw [(explains_of_replace replaced).1.syntactic] at kind
        cases kind
  add_added := by
    intro name source free
    rw [perform, add, if_neg (by simp [free]), ← keeps.markers]
    exact settle_replace_iff e name source
  replace_added := by
    intro name source
    rw [perform, ← keeps.markers]
    exact settle_replace_iff e name source
  renders := by
    intro name t c found
    rw [perform, render, found]
  misses := by
    intro name c free
    rw [perform, render, free]
    exact ⟨missing name, rfl, rfl⟩

/-- After any calls an engine is the map of the templates that were added last. -/
theorem run_isMap (m : Markers) (calls : List Call) :
    IsMap m (run { markers := m } calls).1 (run { markers := m } calls).2 :=
  ((keeps_nil m).steps calls).isMap

end HtmlTemplate.Engine
