import HtmlTemplate.Proofs.Grammar.Completeness

/-!
# Levels

Each indent goes one level further in and each dedent one back. What the grammar derives ends on the
level on which it begins and never goes below it, because only blocks change the level.
-/

namespace HtmlTemplate

/-- The level behind a token. Nothing goes back from level zero. -/
def Token.level (n : Nat) : Token → Option Nat
  | .indent => some (n + 1)
  | .dedent => if n = 0 then none else some (n - 1)
  | _ => some n

def levelAfter (n : Nat) (ts : List Lexeme) : Option Nat :=
  ts.foldlM (fun n t => t.token.level n) n

/-- Goes neither in nor back. -/
def Token.isFlat : Token → Bool
  | .indent | .dedent => false
  | _ => true

def Flat (ts : List Lexeme) : Prop := ∀ t ∈ ts, t.token.isFlat = true

/-- May stand between brackets: it belongs neither to a text nor to the layout of lines. -/
def Token.isInner : Token → Bool
  | .newline | .indent | .dedent | .marker | .text | .openSplice | .closeSplice => false
  | _ => true

def Inner (ts : List Lexeme) : Prop := ∀ t ∈ ts, t.token.isInner = true

section

variable {n k : Nat} {t u : Lexeme} {token : Token} {ts us : List Lexeme}

theorem levelAfter_cons (n : Nat) (t : Lexeme) (ts : List Lexeme) :
    levelAfter n (t :: ts) = (t.token.level n).bind fun k => levelAfter k ts := rfl

theorem levelAfter_append (n : Nat) (ts us : List Lexeme) :
    levelAfter n (ts ++ us) = (levelAfter n ts).bind fun k => levelAfter k us :=
  List.foldlM_append

theorem levelAfter_dedents (dedents : ∀ t ∈ ts, t.token = .dedent)
    (level : levelAfter n ts = some k) : n = k + ts.length := by
  induction ts generalizing n with
  | nil =>
    cases level
    rfl
  | cons t ts ih =>
    obtain ⟨first, later⟩ := List.forall_mem_cons.mp dedents
    rw [levelAfter_cons, first, Token.level] at level
    split at level
    · cases level
    · have further := ih later level
      rw [List.length_cons]
      omega

theorem levelAfter_replicate (n k offset : Nat) :
    levelAfter (n + k) (List.replicate k ⟨.dedent, offset, []⟩) = some n := by
  induction k with
  | zero => rfl
  | succ k ih =>
    rw [List.replicate_succ, levelAfter_cons, ← Nat.add_assoc]
    exact ih

theorem Token.level_of_isFlat (flat : token.isFlat = true) (n : Nat) :
    token.level n = some n := by
  unfold level
  split
  · cases flat
  · cases flat
  · rfl

theorem flat_nil : Flat [] := List.forall_mem_nil _

theorem flat_cons (is : t.token = token) (flat : token.isFlat = true) (later : Flat ts) :
    Flat (t :: ts) := List.forall_mem_cons.mpr ⟨is ▸ flat, later⟩

theorem flat_append (first : Flat ts) (later : Flat us) : Flat (ts ++ us) :=
  List.forall_mem_append.mpr ⟨first, later⟩

theorem Token.isFlat_of_isInner (inner : token.isInner = true) : token.isFlat = true := by
  cases token <;> first | rfl | cases inner

theorem Token.ne_of_isInner {token' : Token} (inner : token.isInner = true)
    (outer : token'.isInner = false) : token ≠ token' := by
  rintro rfl
  rw [inner] at outer
  cases outer

theorem Inner.flat (inner : Inner ts) : Flat ts :=
  fun t mem => Token.isFlat_of_isInner (inner t mem)

theorem inner_nil : Inner [] := List.forall_mem_nil _

theorem inner_cons (is : t.token = token) (inner : token.isInner = true) (later : Inner ts) :
    Inner (t :: ts) := List.forall_mem_cons.mpr ⟨is ▸ inner, later⟩

theorem inner_append (first : Inner ts) (later : Inner us) : Inner (ts ++ us) :=
  List.forall_mem_append.mpr ⟨first, later⟩

theorem Flat.levelAfter (flat : Flat ts) (n : Nat) : levelAfter n ts = some n := by
  induction ts with
  | nil => rfl
  | cons t ts ih =>
    obtain ⟨first, later⟩ := List.forall_mem_cons.mp flat
    rw [levelAfter_cons, Token.level_of_isFlat first, Option.bind_some, ih later]

/-- Lists are split in the same place if both are split at the first token of some kind. -/
theorem eq_of_append_of_stops {p : Token → Bool} {vs ws : List Lexeme}
    (before : ∀ v ∈ ts, p v.token = true) (before' : ∀ v ∈ vs, p v.token = true)
    (stops : p t.token = false) (stops' : p u.token = false)
    (whole : ts ++ t :: us = vs ++ u :: ws) : ts = vs ∧ t :: us = u :: ws := by
  have front {ts us : List Lexeme} {t : Lexeme} (before : ∀ v ∈ ts, p v.token = true)
      (stops : p t.token = false) : (ts ++ t :: us).takeWhile (p ·.token) = ts := by
    rw [List.takeWhile_append_of_pos before, List.takeWhile_cons_of_neg (by simp [stops]),
      List.append_nil]
  obtain rfl : ts = vs := by rw [← front before stops, whole, front before' stops']
  exact ⟨rfl, List.append_cancel_left whole⟩

/-- Ends on the level on which it begins. -/
def Balanced (ts : List Lexeme) : Prop := ∀ n, levelAfter n ts = some n

theorem Flat.balanced (flat : Flat ts) : Balanced ts := flat.levelAfter

theorem Balanced.append (first : Balanced ts) (later : Balanced us) : Balanced (ts ++ us) := by
  intro n
  rw [levelAfter_append, first n, Option.bind_some, later n]

theorem balanced_cons (is : t.token = token) (flat : token.isFlat = true) :
    Balanced (t :: ts) ↔ Balanced ts := by
  unfold Balanced
  simp only [levelAfter_cons, is, Token.level_of_isFlat flat, Option.bind_some]

/-- Between an indent and a dedent. -/
theorem Balanced.block (indent : t.token = .indent) (inside : Balanced ts)
    (dedent : u.token = .dedent) : Balanced (t :: (ts ++ [u])) := by
  intro n
  rw [levelAfter_cons, indent, Token.level, Option.bind_some, levelAfter_append, inside (n + 1),
    Option.bind_some, levelAfter_cons, dedent, Token.level, if_neg n.succ_ne_zero]
  rfl

end

namespace Grammar

/-! ## Expressions -/

mutual

theorem Sum.inner : ∀ {ts e}, Sum ts e → Inner ts
  | _, _, .product derived => derived.inner
  | _, _, .binary left sign _ right => inner_append left.inner (inner_cons sign rfl right.inner)

theorem Product.inner : ∀ {ts e}, Product ts e → Inner ts
  | _, _, .atom derived => derived.inner
  | _, _, .binary left sign _ right => inner_append left.inner (inner_cons sign rfl right.inner)

theorem Atom.inner : ∀ {ts e}, Atom ts e → Inner ts
  | _, _, .number is _ => inner_cons is rfl inner_nil
  | _, _, .plus sign number _ _ => inner_cons sign rfl (inner_cons number rfl inner_nil)
  | _, _, .minus sign number _ _ => inner_cons sign rfl (inner_cons number rfl inner_nil)
  | _, _, .string is _ => inner_cons is rfl inner_nil
  | _, _, @Atom.word t _ is => by
    refine inner_cons rfl ?_ inner_nil
    revert is
    cases t.token <;> simp [Token.value?, Token.isInner]
  | _, _, .parens opens derived closes =>
    inner_append (inner_cons opens rfl derived.inner) (inner_cons closes rfl inner_nil)
  | _, _, .array opens derived closes =>
    inner_append (inner_cons opens rfl derived.inner) (inner_cons closes rfl inner_nil)
  | _, _, .dict opens derived closes =>
    inner_append (inner_cons opens rfl derived.inner) (inner_cons closes rfl inner_nil)
  | _, _, .var is => inner_cons is rfl inner_nil
  | _, _, .call name opens derived closes =>
    inner_append (inner_cons name rfl (inner_cons opens rfl derived.inner))
      (inner_cons closes rfl inner_nil)

theorem Items.inner : ∀ {ts items}, Items ts items → Inner ts
  | _, _, .nil => inner_nil
  | _, _, .last derived => derived.inner
  | _, _, .cons derived comma later => inner_append derived.inner (inner_cons comma rfl later.inner)

theorem Entries.inner : ∀ {ts entries}, Entries ts entries → Inner ts
  | _, _, .nil => inner_nil
  | _, _, .last key colon value => inner_append key.inner (inner_cons colon rfl value.inner)
  | _, _, .cons key colon value comma later =>
    inner_append (inner_append key.inner (inner_cons colon rfl value.inner))
      (inner_cons comma rfl later.inner)

end

theorem Sum.flat {ts e} (derived : Sum ts e) : Flat ts := derived.inner.flat

theorem Attributes.flat {ts attributes} (derived : Attributes ts attributes) : Flat ts := by
  induction derived with
  | nil => exact flat_nil
  | last name assign derived => exact flat_cons name rfl (flat_cons assign rfl derived.flat)
  | cons name assign derived comma _ ih =>
    exact flat_append (flat_cons name rfl (flat_cons assign rfl derived.flat))
      (flat_cons comma rfl ih)

theorem Head.flat {ts attributes} (derived : Head ts attributes) : Flat ts := by
  cases derived with
  | bare => exact flat_nil
  | listed opens derived closes =>
    exact flat_append (flat_cons opens rfl derived.flat) (flat_cons closes rfl flat_nil)

variable {m : Markers}

theorem Parts.flat {ts parts} (derived : Parts m ts parts) : Flat ts := by
  induction derived with
  | nil => exact flat_nil
  | text is _ ih => exact flat_cons is rfl ih
  | splice opens derived closes _ ih =>
    exact flat_append (flat_cons opens rfl derived.flat) (flat_cons closes rfl ih)

/-! ## Lines -/

mutual

theorem Line.balanced : ∀ {ts s}, Line m ts s → Balanced ts
  | _, _, .assign keyword name assign derived newline =>
    (flat_append (flat_cons keyword rfl (flat_cons name rfl (flat_cons assign rfl derived.flat)))
      (flat_cons newline rfl flat_nil)).balanced
  | _, _, .text marker derived _ newline =>
    (flat_append (flat_cons marker rfl derived.flat) (flat_cons newline rfl flat_nil)).balanced
  | _, _, .choice keyword derived => (balanced_cons keyword rfl).mpr derived.balanced
  | _, _, .loop keyword name inKw derived body =>
    (flat_cons keyword rfl (flat_cons name rfl (flat_cons inKw rfl derived.flat))).balanced.append
      body.balanced
  | _, _, .tag name head body => (flat_cons name rfl head.flat).balanced.append body.balanced
  | _, _, .emptyTag name head newline =>
    (flat_append (flat_cons name rfl head.flat) (flat_cons newline rfl flat_nil)).balanced

theorem Branches.balanced : ∀ {ts s}, Branches m ts s → Balanced ts
  | _, _, .alone condition body => condition.flat.balanced.append body.balanced
  | _, _, .elif condition body keyword later =>
    (condition.flat.balanced.append body.balanced).append
      ((balanced_cons keyword rfl).mpr later.balanced)
  | _, _, .otherwise condition body keyword other =>
    (condition.flat.balanced.append body.balanced).append
      ((balanced_cons keyword rfl).mpr other.balanced)

theorem Block.balanced : ∀ {ts body}, Block m ts body → Balanced ts
  | _, _, .mk colon newline indent derived _ dedent =>
    (balanced_cons colon rfl).mpr
      ((balanced_cons newline rfl).mpr (derived.balanced.block indent dedent))

theorem Lines.balanced : ∀ {ts ss}, Lines m ts ss → Balanced ts
  | _, _, .nil => flat_nil.balanced
  | _, _, .cons line later => line.balanced.append later.balanced

end

end Grammar

end HtmlTemplate
