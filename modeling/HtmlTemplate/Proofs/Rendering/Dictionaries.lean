import HtmlTemplate.Proofs.Rendering.Loops
import Mathlib.Data.List.Induction

/-!
# Dictionaries

A dictionary is put together from one entry after the other. A key counts by its text: it keeps the
place at which this text came first, and has the value with which it came last. The first key or
value that fails ends the evaluation.
-/

namespace HtmlTemplate

open Render

/-! ## Pairs put in turn -/

section Pairs

variable {α : Type} {pairs : List (String × α)} {name : String} {a : α}

/-- The last pair of this name has this value. -/
def IsLastOf (pairs : List (String × α)) (name : String) (a : α) : Prop :=
  ∃ before after, pairs = before ++ (name, a) :: after ∧ ∀ p ∈ after, p.1 ≠ name

theorem not_isLastOf_nil : ¬ IsLastOf [] name a := by
  rintro ⟨before, after, split, -⟩
  simp at split

theorem isLastOf_concat {p : String × α} :
    IsLastOf (pairs ++ [p]) name a ↔ if p.1 = name then p.2 = a else IsLastOf pairs name a := by
  constructor
  · rintro ⟨before, after, split, fresh⟩
    rcases List.eq_nil_or_concat after with rfl | ⟨after, q, rfl⟩
    · obtain ⟨-, last⟩ := List.append_inj' split rfl
      cases last
      simp
    · rw [List.concat_eq_append, ← List.cons_append, ← List.append_assoc] at split
      obtain ⟨split', last⟩ := List.append_inj' split rfl
      cases last
      rw [if_neg (fresh p (by simp))]
      exact ⟨before, after, split', fun q mem => fresh q (by simp [mem])⟩
  · intro last
    split at last
    · next same =>
      subst same last
      exact ⟨pairs, [], rfl, nofun⟩
    · next other =>
      obtain ⟨before, after, rfl, fresh⟩ := last
      refine ⟨before, after ++ [p], by simp, ?_⟩
      exact List.forall_mem_append.mpr ⟨fresh, List.forall_mem_singleton.mpr other⟩

namespace Entries

theorem ofPairs_concat (pairs : List (String × α)) (p : String × α) :
    ofPairs (pairs ++ [p]) = (ofPairs pairs).put p.1 p.2 := by
  simp [ofPairs]

/-- Names stand in the order in which they came first. -/
theorem names_ofPairs (pairs : List (String × α)) :
    names (ofPairs pairs) = (pairs.map (·.1)).eraseDups := by
  induction pairs using List.reverseRecOn with
  | nil => rfl
  | append_singleton pairs p ih =>
    rw [ofPairs_concat, names_put, ih, List.map_append, List.map_singleton, List.eraseDups_append]
    by_cases known : p.1 ∈ pairs.map (·.1)
    · rw [if_pos (List.mem_eraseDups.mpr known)]
      simp [List.removeAll, known]
    · rw [if_neg (mt List.mem_eraseDups.mp known)]
      simp [List.removeAll, known, List.eraseDups_cons]

theorem nodup_names_ofPairs (pairs : List (String × α)) : (names (ofPairs pairs)).Nodup := by
  induction pairs using List.reverseRecOn with
  | nil => exact List.nodup_nil
  | append_singleton pairs p ih =>
    rw [ofPairs_concat]
    exact nodup_names_put ih

theorem get?_ofPairs (pairs : List (String × α)) :
    get? name (ofPairs pairs) = some a ↔ IsLastOf pairs name a := by
  induction pairs using List.reverseRecOn with
  | nil => simp [ofPairs, get?, not_isLastOf_nil]
  | append_singleton pairs p ih =>
    rw [ofPairs_concat, get?_put, isLastOf_concat]
    split
    · rw [Option.some.injEq]
    · exact ih

end Entries

end Pairs

/-! ## Keys -/

/-- The texts of the values that may be keys. -/
inductive TextForm : Value → String → Prop where
  | string (s : String) : TextForm (.string s) s
  | number (n : Number) : TextForm (.number n) (String.ofList n.text)
  | true : TextForm (.bool true) "True"
  | false : TextForm (.bool false) "False"

theorem keyOf_eq_ok_iff {v : Value} {name : String} : keyOf v = .ok name ↔ TextForm v name := by
  constructor
  · intro key
    cases v with
    | string s => cases key; exact .string _
    | number n => cases key; exact .number n
    | bool b =>
      cases b with
      | true => cases key; exact .true
      | false => cases key; exact .false
    | nothing | array | dict => cases key
  · rintro ⟨⟩ <;> rfl

theorem keyOf_of_no_text {v : Value} (noText : ∀ name, ¬ TextForm v name) :
    keyOf v = .error (.badKey v) := by
  cases key : keyOf v with
  | ok name => exact absurd (keyOf_eq_ok_iff.mp key) (noText name)
  | error cause =>
    unfold keyOf at key
    split at key <;> cases key
    rfl

/-! ## Entries -/

/-- Key and value of an entry evaluate, and the key to a value that has a text. -/
structure EntryGives (c : Context) (entry : Expr × Expr) (pair : String × Value) : Prop where
  key : ∃ k, entry.1.eval c = .ok k ∧ TextForm k pair.1
  value : entry.2.eval c = .ok pair.2

/-- The failure of an entry. The key comes before the value. -/
inductive EntryFails (c : Context) (entry : Expr × Expr) : Failure → Prop where
  | key {f : Failure} (fails : entry.1.eval c = .error f) : EntryFails c entry f
  | noText {k : Value} (evaluates : entry.1.eval c = .ok k) (noText : ∀ name, ¬ TextForm k name) :
      EntryFails c entry ⟨entry.1.region, .badKey k⟩
  | value {k : Value} {name : String} {f : Failure} (evaluates : entry.1.eval c = .ok k)
      (text : TextForm k name) (fails : entry.2.eval c = .error f) : EntryFails c entry f

section

variable {c : Context} {entry : Expr × Expr} {entries before after : List (Expr × Expr)}
  {pairs : List (String × Value)} {f : Failure}

theorem gives_or_fails (c : Context) (entry : Expr × Expr) :
    (∃ pair, EntryGives c entry pair) ∨ ∃ f, EntryFails c entry f := by
  cases key : entry.1.eval c with
  | error f => exact .inr ⟨f, .key key⟩
  | ok k =>
    by_cases text : ∃ name, TextForm k name
    · obtain ⟨name, text⟩ := text
      cases value : entry.2.eval c with
      | error f => exact .inr ⟨f, .value key text value⟩
      | ok v => exact .inl ⟨(name, v), ⟨k, key, text⟩, value⟩
    · exact .inr ⟨_, .noText key (not_exists.mp text)⟩

theorem evalEntries_of_gives {pair : String × Value} (gives : EntryGives c entry pair)
    (read : Entries Value) (later : List (Expr × Expr)) :
    evalEntries c read (entry :: later) = evalEntries c (read.put pair.1 pair.2) later := by
  obtain ⟨⟨k, key, text⟩, value⟩ := gives
  rw [evalEntries, key, value]
  have named := keyOf_eq_ok_iff.mpr text
  simp [bind, Except.bind, failAt, named]

theorem evalEntries_of_fails (fails : EntryFails c entry f) (read : Entries Value)
    (later : List (Expr × Expr)) : evalEntries c read (entry :: later) = .error f := by
  rw [evalEntries]
  cases fails with
  | key fails => rw [fails]; rfl
  | noText evaluates noText =>
    rw [evaluates]
    simp [bind, Except.bind, failAt, keyOf_of_no_text noText]
  | value evaluates text fails =>
    rw [evaluates, fails]
    simp [bind, Except.bind, failAt, keyOf_eq_ok_iff.mpr text]

/-- Entries that evaluate are put in turn, and the others come then. -/
theorem evalEntries_append (gives : List.Forall₂ (EntryGives c) before pairs) (read : Entries Value)
    (later : List (Expr × Expr)) :
    evalEntries c read (before ++ later) =
      evalEntries c (pairs.foldl (fun es p => es.put p.1 p.2) read) later := by
  induction gives generalizing read with
  | nil => rfl
  | cons first _ ih => rw [List.cons_append, evalEntries_of_gives first, ih, List.foldl_cons]

theorem all_give_or_first_fails (c : Context) (entries : List (Expr × Expr)) :
    (∃ pairs, List.Forall₂ (EntryGives c) entries pairs) ∨
      ∃ before entry after pairs f, entries = before ++ entry :: after ∧
        List.Forall₂ (EntryGives c) before pairs ∧ EntryFails c entry f := by
  induction entries with
  | nil => exact .inl ⟨[], .nil⟩
  | cons entry entries ih =>
    rcases gives_or_fails c entry with ⟨pair, gives⟩ | ⟨f, fails⟩
    · rcases ih with ⟨pairs, all⟩ | ⟨before, entry', after, pairs, f, rfl, first, fails⟩
      · exact .inl ⟨pair :: pairs, .cons gives all⟩
      · exact .inr ⟨entry :: before, entry', after, pair :: pairs, f, rfl, .cons gives first, fails⟩
    · exact .inr ⟨[], entry, entries, [], f, rfl, .nil, fails⟩

theorem eval_dict_of_gives (gives : List.Forall₂ (EntryGives c) entries pairs) (region : Region) :
    (Expr.dict entries region).eval c = .ok (.dict (Entries.ofPairs pairs)) := by
  have put := evalEntries_append gives [] []
  rw [List.append_nil, evalEntries] at put
  rw [Expr.eval, put]
  rfl

theorem eval_dict_of_fails (gives : List.Forall₂ (EntryGives c) before pairs)
    (fails : EntryFails c entry f) (after : List (Expr × Expr)) (region : Region) :
    (Expr.dict (before ++ entry :: after) region).eval c = .error f := by
  rw [Expr.eval, evalEntries_append gives, evalEntries_of_fails fails]
  rfl

/-- What fails with a key of another type is a failure of types, and the key is to blame. -/
theorem EntryFails.of_no_text {k : Value} (fails : EntryFails c entry f)
    (evaluates : entry.1.eval c = .ok k) (noText : ∀ name, ¬ TextForm k name) :
    f = ⟨entry.1.region, .badKey k⟩ := by
  cases fails with
  | key fails =>
    rw [evaluates] at fails
    cases fails
  | noText evaluates' =>
    rw [evaluates] at evaluates'
    cases evaluates'
    rfl
  | value evaluates' text =>
    rw [evaluates] at evaluates'
    cases evaluates'
    exact absurd text (noText _)

end

/-- A dictionary has the texts of its keys in the order in which they came first, each with the
value that came last, and a loop visits them in this order. If an entry fails, the first one that
does says how. -/
theorem Expr.dict_eval (c : Context) (entries : List (Expr × Expr)) (region : Region) :
    (∀ pairs, List.Forall₂ (EntryGives c) entries pairs → ∃ result,
      (Expr.dict entries region).eval c = .ok (.dict result) ∧
      Entries.names result = (pairs.map (·.1)).eraseDups ∧ (Entries.names result).Nodup ∧
      (∀ name v, Entries.get? name result = some v ↔ IsLastOf pairs name v) ∧
      ∀ (x : Ident) (body : List Statement),
        (Statement.loop x (.dict entries region) body).render c =
          ((((Entries.names result).map Value.string).mapM (passNodes c x body)).map List.flatten,
            c)) ∧
    (∀ before entry after pairs f, entries = before ++ entry :: after →
      List.Forall₂ (EntryGives c) before pairs → EntryFails c entry f →
        (Expr.dict entries region).eval c = .error f ∧
        ∀ k, entry.1.eval c = .ok k → (∀ name, ¬ TextForm k name) →
          ∀ source name, (f.toError source name).kind = .typeMismatch) ∧
    ((∃ pairs, List.Forall₂ (EntryGives c) entries pairs) ∨
      ∃ before entry after pairs f, entries = before ++ entry :: after ∧
        List.Forall₂ (EntryGives c) before pairs ∧ EntryFails c entry f) := by
  refine ⟨fun pairs gives => ?_, ?_, all_give_or_first_fails c entries⟩
  · have evaluates := eval_dict_of_gives gives region
    refine ⟨Entries.ofPairs pairs, evaluates, Entries.names_ofPairs pairs,
      Entries.nodup_names_ofPairs pairs, fun name v => Entries.get?_ofPairs pairs,
      fun x body => ?_⟩
    exact Statement.render_loop body evaluates (.keys _)
  · rintro before entry after pairs f rfl gives fails
    refine ⟨eval_dict_of_fails gives fails after region, fun k key noText source name => ?_⟩
    rw [fails.of_no_text key noText]
    rfl

end HtmlTemplate
