import HtmlTemplate.Proofs.Rendering.Scopes

/-!
# Frames that a host holds

A host binds names, pushes frames and releases them innermost first, and it may put another context
in the place of the current one while frames are held. Every release belongs to a push, and what is
done between the two is balanced: each frame pushed there was released there. So without a
replacement in between the release brings back the stack from before the push, and with one it only
cuts the stack that has come in its place.
-/

namespace HtmlTemplate

/-- What a host does with a context. -/
inductive Action where
  | insert (name : String) (read : Except String Value)
  | insertFunction (name : String) (f : HostFunction)
  | assign (name : String) (b : Binding)
  | push (bindings : List (String × Binding))
  | release
  | replace (c : Context)

namespace Action

/-- The binding that an action makes. -/
def binding? : Action → Option (String × Binding)
  | .insert name (.ok v) => some (name, .value v)
  | .insertFunction name f => some (name, .function f)
  | .assign name b => some (name, b)
  | _ => none

/-- Neither pushes a frame nor releases one. -/
def Plain : Action → Prop
  | .push _ | .release => False
  | _ => True

/-- Whatever is pushed is released, and nothing else. -/
inductive Balanced : List Action → Prop where
  | nil : Balanced []
  | plain {a : Action} {later : List Action} (plain : a.Plain) (rest : Balanced later) :
      Balanced (a :: later)
  | frame {bindings : List (String × Binding)} {inner later : List Action}
      (held : Balanced inner) (rest : Balanced later) :
      Balanced (.push bindings :: inner ++ .release :: later)

theorem Balanced.append {first later : List Action} (balanced : Balanced first)
    (rest : Balanced later) : Balanced (first ++ later) := by
  induction balanced with
  | nil => exact rest
  | plain plain _ ih => exact .plain plain ih
  | frame held _ _ ih =>
    rw [List.append_assoc, List.cons_append]
    exact .frame held ih

end Action

namespace Scope

/-- A value that is not read leaves the context alone; there must be a frame to be released. -/
def perform (s : Scope) : Action → Option Scope
  | .insert name read =>
    match s.context.insert name read with
    | .ok c => some { s with context := c }
    | .error _ => some s
  | .insertFunction name f => some { s with context := s.context.insertFunction name f }
  | .assign name b => some { s with context := s.context.assign name b }
  | .push bindings => some (s.push bindings)
  | .release => s.pop?
  | .replace c => some (s.replace c)

def run : List Action → Scope → Option Scope
  | [], s => some s
  | a :: later, s => (s.perform a).bind (run later)

theorem run_append (first later : List Action) (s : Scope) :
    run (first ++ later) s = (run first s).bind (run later) := by
  induction first generalizing s with
  | nil => rfl
  | cons a first ih =>
    rw [List.cons_append, run, run, Option.bind_assoc]
    exact congrArg _ (funext ih)

/-- The run up to the last action. -/
theorem run_concat_eq_some {actions : List Action} {a : Action} {start s : Scope}
    (runs : run (actions ++ [a]) start = some s) :
    ∃ s₀, run actions start = some s₀ ∧ s₀.perform a = some s := by
  rw [run_append] at runs
  obtain ⟨s₀, runs₀, last⟩ := Option.bind_eq_some_iff.mp runs
  refine ⟨s₀, runs₀, ?_⟩
  rw [run] at last
  obtain ⟨s', performs, rest⟩ := Option.bind_eq_some_iff.mp last
  cases rest
  exact performs

/-- An action that makes a binding makes it in the innermost frame. -/
theorem perform_binding {a : Action} {name : String} {b : Binding} (s : Scope)
    (binds : a.binding? = some (name, b)) :
    s.perform a = some { s with context := s.context.assign name b } := by
  cases a with
  | insert target read =>
    cases read with
    | ok v => cases binds; rfl
    | error why => cases binds
  | insertFunction target f => cases binds; rfl
  | assign target b => cases binds; rfl
  | push | release | replace => cases binds

/-- A plain action keeps the held frames and, unless it replaces the context, the outer ones. -/
theorem perform_plain {a : Action} (s : Scope) (plain : a.Plain) :
    ∃ c, s.perform a = some ⟨c, s.held⟩ ∧ ((∀ r, a ≠ .replace r) → c.outer = s.context.outer) := by
  cases a with
  | insert name read =>
    cases read with
    | ok v => exact ⟨_, rfl, fun _ => rfl⟩
    | error why => exact ⟨_, rfl, fun _ => rfl⟩
  | insertFunction name f => exact ⟨_, rfl, fun _ => rfl⟩
  | assign name b => exact ⟨_, rfl, fun _ => rfl⟩
  | push bindings => exact absurd plain id
  | release => exact absurd plain id
  | replace c => exact ⟨c, rfl, fun none => absurd rfl (none c)⟩

/-- Balanced actions can always be performed. They keep the held frames and, unless the context is
replaced, the outer ones. -/
theorem run_balanced {actions : List Action} (balanced : Action.Balanced actions) (s : Scope) :
    ∃ c, run actions s = some ⟨c, s.held⟩ ∧
      ((∀ r, .replace r ∉ actions) → c.outer = s.context.outer) := by
  induction balanced generalizing s with
  | nil => exact ⟨s.context, rfl, fun _ => rfl⟩
  | @plain a later plain _ ih =>
    obtain ⟨c, performs, outer⟩ := perform_plain s plain
    obtain ⟨c', runs, outer'⟩ := ih ⟨c, s.held⟩
    refine ⟨c', by rw [run, performs]; exact runs, fun kept => ?_⟩
    rw [outer' fun r mem => kept r (List.mem_cons_of_mem _ mem)]
    exact outer fun r is => kept r (is ▸ List.mem_cons_self)
  | @frame bindings inner later _ _ ihInner ihLater =>
    obtain ⟨c, runs, outer⟩ := ihInner (s.push bindings)
    obtain ⟨c', runs', outer'⟩ := ihLater ⟨c.release s.context.depth, s.held⟩
    refine ⟨c', ?_, fun kept => ?_⟩
    · change run (inner ++ .release :: later) (s.push bindings) = _
      rw [run_append, runs]
      exact runs'
    · have keptInner : ∀ r, .replace r ∉ inner := fun r mem => kept r (by simp [mem])
      have keptLater : ∀ r, .replace r ∉ later := fun r mem => kept r (by simp [mem])
      have back : c.release s.context.depth = s.context :=
        Context.release_of_outer (outer keptInner)
      rw [outer' keptLater, back]

/-- A frame that is held was pushed, and since then everything is balanced. -/
theorem exists_push {start : Scope} (fresh : start.held = []) {actions : List Action} {s : Scope}
    {d : Nat} {ds : List Nat} (runs : run actions start = some s) (held : s.held = d :: ds) :
    ∃ before bindings between s₁, actions = before ++ .push bindings :: between ∧
      Action.Balanced between ∧ run before start = some s₁ ∧ s₁.context.depth = d ∧
      s₁.held = ds := by
  induction size : actions.length using Nat.strongRecOn generalizing actions s d ds with
  | ind n ih =>
    rcases List.eq_nil_or_concat actions with rfl | ⟨earlier, a, rfl⟩
    · cases runs
      rw [fresh] at held
      cases held
    · rw [List.concat_eq_append] at runs size ⊢
      rw [List.length_append, List.length_singleton] at size
      obtain ⟨s₀, runs₀, performs⟩ := run_concat_eq_some runs
      by_cases plain : a.Plain
      · obtain ⟨c, performs', -⟩ := perform_plain s₀ plain
        rw [performs] at performs'
        cases performs'
        obtain ⟨before, bindings, between, s₁, rfl, balanced, first⟩ :=
          ih earlier.length (by omega) runs₀ held rfl
        refine ⟨before, bindings, between ++ [a], s₁, by simp, ?_, first⟩
        exact balanced.append (.plain plain .nil)
      · cases a with
        | push bindings =>
          cases performs
          cases held
          exact ⟨earlier, bindings, [], s₀, rfl, .nil, runs₀, rfl, rfl⟩
        | release =>
          -- The frame released last was itself pushed while the one in question was held.
          change s₀.pop? = some s at performs
          unfold pop? at performs
          split at performs
          · cases performs
          · next e es held₀ =>
            cases performs
            obtain ⟨before, bindings, between, s₁, rfl, balanced, runs₁, -, held₁⟩ :=
              ih earlier.length (by omega) runs₀ held₀ rfl
            have shorter : before.length < n := by
              rw [List.length_append, List.length_cons] at size
              omega
            obtain ⟨before', bindings', between', s₂, rfl, balanced', first⟩ :=
              ih before.length shorter runs₁ (held₁.trans held) rfl
            have frame : Action.Balanced (.push bindings :: between ++ [.release]) :=
              .frame balanced .nil
            exact ⟨before', bindings', _, s₂, by simp, balanced'.append frame, first⟩
        | insert | insertFunction | assign | replace => exact absurd trivial plain

end Scope

/-- A release cuts frames off from the inside. -/
theorem Context.frames_release_suffix (d : Nat) (c : Context) :
    (c.release d).frames <:+ c.frames := by
  fun_induction release d c with
  | case1 => exact List.suffix_rfl
  | case2 _ f fs shallow =>
    simp only [if_pos shallow]
    exact List.suffix_rfl
  | case3 g f fs deep ih =>
    rw [if_neg deep]
    exact ih.trans (List.suffix_cons g _)

namespace Scope

/-- In every state that a host can reach, a binding counts from when it is made and hides no other
name, and the innermost frame that is held can be released. The release cuts the stack to the depth
at which the frame was pushed, if it is deeper, and where the context was not replaced meanwhile,
everything is as it was before the push. -/
theorem run_faithful {c : Context} {actions : List Action} {s : Scope}
    (runs : run actions { context := c } = some s) :
    1 ≤ s.context.depth ∧
      (∀ a name b, a.binding? = some (name, b) → ∃ c', s.perform a = some ⟨c', s.held⟩ ∧
        c'.outer = s.context.outer ∧
        ∀ other, c'.lookup other = if name = other then some b else s.context.lookup other) ∧
      ∀ d ds, s.held = d :: ds → ∃ before bindings between s₁ s₂,
        actions = before ++ .push bindings :: between ∧ Action.Balanced between ∧
          run before { context := c } = some s₁ ∧ s₁.context.depth = d ∧ s₁.held = ds ∧
          s.perform .release = some s₂ ∧ s₂.held = ds ∧
          s₂.context.depth = min s.context.depth d ∧ 1 ≤ s₂.context.depth ∧
          s₂.context.frames <:+ s.context.frames ∧
          ((∀ r, .replace r ∉ between) → s₂ = s₁) := by
  refine ⟨Nat.le_add_left .., fun a name b binds => ?_, fun d ds held => ?_⟩
  · exact ⟨_, perform_binding s binds, rfl, fun other => Context.lookup_assign ..⟩
  · obtain ⟨before, bindings, between, s₁, rfl, balanced, runs₁, rfl, rfl⟩ :=
      exists_push rfl runs held
    obtain ⟨c', runs', outer⟩ := run_balanced balanced (s₁.push bindings)
    rw [run_append, runs₁] at runs
    change run between (s₁.push bindings) = some s at runs
    rw [runs'] at runs
    cases runs
    have positive : 1 ≤ s₁.context.depth := Nat.le_add_left ..
    refine ⟨before, bindings, between, s₁, ⟨c'.release s₁.context.depth, s₁.held⟩, rfl, balanced,
      runs₁, rfl, rfl, rfl, rfl, ?_, Nat.le_add_left .., Context.frames_release_suffix .., ?_⟩
    · rw [Context.depth_release, Nat.max_eq_left positive]
    · intro kept
      rw [Context.release_of_outer (outer kept)]

/-- A frame that hides a name of the context put in place before, and another one that is pushed and
released within it. -/
theorem run_hidden_name : ∃ s,
    run [.replace ⟨[("x", .value .nothing)], [[]]⟩, .push [("x", .value (.bool true))], .push [],
      .release] { context := .empty } = some s ∧ s.held = [2] ∧
        ∃ before bindings between s₁ s₂,
          [Action.replace ⟨[("x", .value .nothing)], [[]]⟩, .push [("x", .value (.bool true))],
            .push [], .release] = before ++ .push bindings :: between ∧ Action.Balanced between ∧
          run before { context := .empty } = some s₁ ∧ s₁.context.depth = 2 ∧ s₁.held = [] ∧
          s.perform .release = some s₂ ∧ s₂.held = [] ∧
          s₂.context.depth = min s.context.depth 2 ∧ 1 ≤ s₂.context.depth ∧
          s₂.context.frames <:+ s.context.frames ∧
          ((∀ r, .replace r ∉ between) → s₂ = s₁) := by
  let c : Context := ⟨[("x", .value (.bool true))], [[("x", .value .nothing)], []]⟩
  have runs : run [.replace ⟨[("x", .value .nothing)], [[]]⟩, .push [("x", .value (.bool true))],
      .push [], .release] { context := .empty } = some ⟨c, [2]⟩ := by
    change some (Scope.mk ((c.push []).release c.depth) [2]) = some ⟨c, [2]⟩
    rw [Context.release_push]
  exact ⟨_, runs, rfl, (run_faithful runs).2.2 2 [] rfl⟩

end Scope

end HtmlTemplate
