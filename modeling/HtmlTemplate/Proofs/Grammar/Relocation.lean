import HtmlTemplate.Proofs.Grammar.Basic
import HtmlTemplate.Proofs.Trees.Relocation
import Mathlib.Data.List.Forall2
import Mathlib.Order.MinMax

/-!
# Derivations in another place

What a list of lexemes denotes does not depend on where the lexemes stand, as long as those that
touch still touch: elsewhere the same tokens denote the same tree with other regions. Where lines
and blocks begin and end does not enter the tree at all.
-/

namespace HtmlTemplate

/-- The region between the new places of its ends. -/
def Region.along (φ : Nat → Nat) (r : Region) : Region := ⟨φ r.start, φ r.stop⟩

theorem Region.along_join {φ : Nat → Nat} (mono : Monotone φ) (r s : Region) :
    (r.join s).along φ = (r.along φ).join (s.along φ) := by
  simp [along, join, mono.map_min, mono.map_max]

/-- The same lexeme in another place. For the layout only the token counts. -/
structure Lexeme.Carried (φ : Nat → Nat) (t u : Lexeme) : Prop where
  token : u.token = t.token
  said : t.token.isLayout = false → u.chars = t.chars ∧ u.region = t.region.along φ

abbrev Carries (φ : Nat → Nat) : List Lexeme → List Lexeme → Prop :=
  List.Forall₂ (Lexeme.Carried φ)

theorem carries_refl (ts : List Lexeme) : Carries id ts ts :=
  List.forall₂_same.mpr fun _ _ => ⟨rfl, fun _ => ⟨rfl, rfl⟩⟩

/-- It does not matter where a block ends. -/
theorem carries_dedents (φ : Nat → Nat) (n p q : Nat) :
    Carries φ (List.replicate n ⟨.dedent, p, []⟩) (List.replicate n ⟨.dedent, q, []⟩) := by
  induction n with
  | zero => exact .nil
  | succ n ih => exact .cons ⟨rfl, nofun⟩ ih

section

variable {φ : Nat → Nat} {t u : Lexeme} {token : Token}

theorem Lexeme.Carried.token_eq (carried : t.Carried φ u) (is : t.token = token) :
    u.token = token := carried.token.trans is

theorem Lexeme.Carried.chars_eq (carried : t.Carried φ u) (is : t.token = token)
    (plain : token.isLayout = false) : u.chars = t.chars := (carried.said (is ▸ plain)).1

theorem Lexeme.Carried.region_eq (carried : t.Carried φ u) (is : t.token = token)
    (plain : token.isLayout = false) : u.region = t.region.along φ := (carried.said (is ▸ plain)).2

theorem Lexeme.Carried.join_eq {t' u' : Lexeme} {token' : Token} (mono : Monotone φ)
    (first : t.Carried φ u) (last : t'.Carried φ u') (is : t.token = token)
    (is' : t'.token = token') (plain : token.isLayout = false) (plain' : token'.isLayout = false) :
    (t.region.join t'.region).along φ = u.region.join u'.region := by
  rw [Region.along_join mono, first.region_eq is plain, last.region_eq is' plain']

/-- Lexemes that touch do so in their new places. -/
theorem Lexeme.Carried.touches {t' u' : Lexeme} {token' : Token} (first : t.Carried φ u)
    (last : t'.Carried φ u') (is : t.token = token) (is' : t'.token = token')
    (plain : token.isLayout = false) (plain' : token'.isLayout = false)
    (touches : t.region.stop = t'.region.start) : u.region.stop = u'.region.start := by
  rw [first.region_eq is plain, last.region_eq is' plain']
  exact congrArg φ touches

theorem Lexeme.Carried.ident_eq (carried : t.Carried φ u) (is : t.token = .identifier) :
    u.ident = t.ident.relocate (Region.along φ) := by
  simp [Lexeme.ident, Ident.relocate, Lexeme.word, carried.chars_eq is rfl,
    carried.region_eq is rfl]

theorem Carries.split : ∀ {ts us vs : List Lexeme}, Carries φ (ts ++ us) vs →
    ∃ ts' us', vs = ts' ++ us' ∧ Carries φ ts ts' ∧ Carries φ us us'
  | [], _, _, carried => ⟨[], _, rfl, .nil, carried⟩
  | _ :: _, _, _, .cons first later => by
    obtain ⟨ts', us', rfl, left, right⟩ := split later
    exact ⟨_ :: ts', us', rfl, .cons first left, right⟩

theorem Carries.splitAt {ts us vs : List Lexeme} (carried : Carries φ (ts ++ t :: us) vs) :
    ∃ ts' u us', vs = ts' ++ u :: us' ∧ Carries φ ts ts' ∧ t.Carried φ u ∧ Carries φ us us' := by
  obtain ⟨ts', _, rfl, left, _ | ⟨first, right⟩⟩ := carried.split
  exact ⟨ts', _, _, rfl, left, first, right⟩

end

namespace Grammar

variable {φ : Nat → Nat}

mutual

theorem Sum.carried (mono : Monotone φ) : ∀ {ts e us}, Sum ts e → Carries φ ts us →
    Sum us (e.relocate (Region.along φ))
  | _, _, _, .product derived, carried => .product (derived.carried mono carried)
  | _, _, _, .binary left sign sum right, carried => by
    obtain ⟨_, _, _, rfl, front, sign', back⟩ := Carries.splitAt carried
    exact .binary (left.carried mono front) (sign'.token_eq sign) sum (right.carried mono back)

theorem Product.carried (mono : Monotone φ) : ∀ {ts e us}, Product ts e → Carries φ ts us →
    Product us (e.relocate (Region.along φ))
  | _, _, _, .atom derived, carried => .atom (derived.carried mono carried)
  | _, _, _, .binary left sign product right, carried => by
    obtain ⟨_, _, _, rfl, front, sign', back⟩ := Carries.splitAt carried
    exact .binary (left.carried mono front) (sign'.token_eq sign) product (right.carried mono back)

theorem Atom.carried (mono : Monotone φ) : ∀ {ts e us}, Atom ts e → Carries φ ts us →
    Atom us (e.relocate (Region.along φ))
  | _, _, _, .number is reads, .cons is' .nil => by
    rw [Expr.relocate, ← is'.region_eq is rfl]
    exact .number (is'.token_eq is) (is'.chars_eq is rfl ▸ reads)
  | _, _, _, .plus sign number touches reads, .cons sign' (.cons number' .nil) => by
    rw [Expr.relocate, sign'.join_eq mono number' sign number rfl rfl]
    exact .plus (sign'.token_eq sign) (number'.token_eq number)
      (sign'.touches number' sign number rfl rfl touches) (number'.chars_eq number rfl ▸ reads)
  | _, _, _, .minus sign number touches reads, .cons sign' (.cons number' .nil) => by
    rw [Expr.relocate, sign'.join_eq mono number' sign number rfl rfl]
    exact .minus (sign'.token_eq sign) (number'.token_eq number)
      (sign'.touches number' sign number rfl rfl touches) (number'.chars_eq number rfl ▸ reads)
  | _, _, _, .string is reads, .cons is' .nil => by
    rw [Expr.relocate, ← is'.region_eq is rfl]
    exact .string (is'.token_eq is) (is'.chars_eq is rfl ▸ reads)
  | _, _, _, @Atom.word t v is, .cons is' .nil => by
    have plain : t.token.isLayout = false := by
      revert is
      cases t.token <;> simp [Token.value?, Token.isLayout]
    rw [Expr.relocate, ← is'.region_eq rfl plain]
    exact .word (is'.token ▸ is)
  | _, _, _, .parens opens derived closes, .cons opens' carried => by
    obtain ⟨_, _, _, rfl, front, closes', ⟨⟩⟩ := Carries.splitAt carried
    exact .parens (opens'.token_eq opens) (derived.carried mono front) (closes'.token_eq closes)
  | _, _, _, .array opens derived closes, .cons opens' carried => by
    obtain ⟨_, _, _, rfl, front, closes', ⟨⟩⟩ := Carries.splitAt carried
    rw [Expr.relocate, opens'.join_eq mono closes' opens closes rfl rfl]
    exact .array (opens'.token_eq opens) (derived.carried mono front) (closes'.token_eq closes)
  | _, _, _, .dict opens derived closes, .cons opens' carried => by
    obtain ⟨_, _, _, rfl, front, closes', ⟨⟩⟩ := Carries.splitAt carried
    rw [Expr.relocate, opens'.join_eq mono closes' opens closes rfl rfl]
    exact .dict (opens'.token_eq opens) (derived.carried mono front) (closes'.token_eq closes)
  | _, _, _, .var is, .cons is' .nil => by
    rw [Expr.relocate, ← is'.ident_eq is]
    exact .var (is'.token_eq is)
  | _, _, _, .call name opens derived closes, .cons name' (.cons opens' carried) => by
    obtain ⟨_, _, _, rfl, front, closes', ⟨⟩⟩ := Carries.splitAt carried
    rw [Expr.relocate, name'.join_eq mono closes' name closes rfl rfl, ← name'.ident_eq name]
    exact .call (name'.token_eq name) (opens'.token_eq opens) (derived.carried mono front)
      (closes'.token_eq closes)

theorem Items.carried (mono : Monotone φ) : ∀ {ts items us}, Items ts items → Carries φ ts us →
    Items us (relocateItems (Region.along φ) items)
  | _, _, _, .nil, .nil => .nil
  | _, _, _, .last derived, carried => .last (derived.carried mono carried)
  | _, _, _, .cons derived comma later, carried => by
    obtain ⟨_, _, _, rfl, front, comma', back⟩ := Carries.splitAt carried
    exact .cons (derived.carried mono front) (comma'.token_eq comma) (later.carried mono back)

theorem Entries.carried (mono : Monotone φ) : ∀ {ts entries us}, Entries ts entries →
    Carries φ ts us → Entries us (relocateEntries (Region.along φ) entries)
  | _, _, _, .nil, .nil => .nil
  | _, _, _, .last key colon value, carried => by
    obtain ⟨_, _, _, rfl, front, colon', back⟩ := Carries.splitAt carried
    exact .last (key.carried mono front) (colon'.token_eq colon) (value.carried mono back)
  | _, _, _, .cons key colon value comma later, carried => by
    obtain ⟨_, _, _, rfl, entry, comma', back⟩ := Carries.splitAt carried
    obtain ⟨_, _, _, rfl, front, colon', middle⟩ := Carries.splitAt entry
    exact .cons (key.carried mono front) (colon'.token_eq colon) (value.carried mono middle)
      (comma'.token_eq comma) (later.carried mono back)

end

theorem Attributes.carried {ts attributes us} (mono : Monotone φ)
    (derived : Attributes ts attributes) (carried : Carries φ ts us) :
    Attributes us (relocateAttributes (Region.along φ) attributes) := by
  induction derived generalizing us with
  | nil =>
    cases carried
    exact .nil
  | last name assign derived =>
    obtain _ | ⟨name', _ | ⟨assign', carried⟩⟩ := carried
    rw [relocateAttributes, List.map_singleton, ← name'.ident_eq name]
    exact .last (name'.token_eq name) (assign'.token_eq assign) (derived.carried mono carried)
  | cons name assign derived comma _ ih =>
    obtain _ | ⟨name', _ | ⟨assign', carried⟩⟩ := carried
    obtain ⟨_, _, _, rfl, front, comma', back⟩ := Carries.splitAt carried
    rw [relocateAttributes, List.map_cons, ← name'.ident_eq name]
    exact .cons (name'.token_eq name) (assign'.token_eq assign) (derived.carried mono front)
      (comma'.token_eq comma) (ih back)

theorem Head.carried {ts attributes us} (mono : Monotone φ) (derived : Head ts attributes)
    (carried : Carries φ ts us) : Head us (relocateAttributes (Region.along φ) attributes) := by
  cases derived with
  | bare =>
    cases carried
    exact .bare
  | listed opens derived closes =>
    obtain _ | ⟨opens', carried⟩ := carried
    obtain ⟨_, _, _, rfl, front, closes', ⟨⟩⟩ := Carries.splitAt carried
    exact .listed (opens'.token_eq opens) (derived.carried mono front) (closes'.token_eq closes)

variable {m : Markers}

theorem Parts.carried {ts parts us} (mono : Monotone φ) (derived : Parts m ts parts)
    (carried : Carries φ ts us) : Parts m us (parts.map (Part.relocate (Region.along φ))) := by
  induction derived generalizing us with
  | nil =>
    cases carried
    exact .nil
  | text is _ ih =>
    obtain _ | ⟨is', carried⟩ := carried
    rw [List.map_cons, Part.relocate, ← is'.chars_eq is rfl]
    exact .text (is'.token_eq is) (ih carried)
  | splice opens derived closes _ ih =>
    obtain _ | ⟨opens', carried⟩ := carried
    obtain ⟨_, _, _, rfl, front, closes', back⟩ := Carries.splitAt carried
    exact .splice (opens'.token_eq opens) (derived.carried mono front) (closes'.token_eq closes)
      (ih back)

mutual

theorem Line.carried (mono : Monotone φ) : ∀ {ts s us}, Line m ts s → Carries φ ts us →
    Line m us (s.relocate (Region.along φ))
  | _, _, _, .assign keyword name assign derived newline,
      .cons keyword' (.cons name' (.cons assign' carried)) => by
    obtain ⟨_, _, _, rfl, front, newline', ⟨⟩⟩ := Carries.splitAt carried
    rw [Statement.relocate, ← name'.ident_eq name]
    exact .assign (keyword'.token_eq keyword) (name'.token_eq name) (assign'.token_eq assign)
      (derived.carried mono front) (newline'.token_eq newline)
  | _, _, _, .text marker derived said newline, .cons marker' carried => by
    obtain ⟨_, _, _, rfl, front, newline', ⟨⟩⟩ := Carries.splitAt carried
    exact .text (marker'.token_eq marker) (derived.carried mono front) (by simpa using said)
      (newline'.token_eq newline)
  | _, _, _, .choice keyword derived, .cons keyword' carried =>
    .choice (keyword'.token_eq keyword) (derived.carried mono carried)
  | _, _, _, .loop keyword name inKw derived body,
      .cons keyword' (.cons name' (.cons inKw' carried)) => by
    obtain ⟨_, _, rfl, front, back⟩ := Carries.split carried
    rw [Statement.relocate, ← name'.ident_eq name]
    exact .loop (keyword'.token_eq keyword) (name'.token_eq name) (inKw'.token_eq inKw)
      (derived.carried mono front) (body.carried mono back)
  | _, _, _, .tag name head body, .cons name' carried => by
    obtain ⟨_, _, rfl, front, back⟩ := Carries.split carried
    rw [Statement.relocate, ← name'.ident_eq name]
    exact .tag (name'.token_eq name) (head.carried mono front) (body.carried mono back)
  | _, _, _, .emptyTag name head newline, .cons name' carried => by
    obtain ⟨_, _, _, rfl, front, newline', ⟨⟩⟩ := Carries.splitAt carried
    rw [Statement.relocate, ← name'.ident_eq name, relocateAll]
    exact .emptyTag (name'.token_eq name) (head.carried mono front) (newline'.token_eq newline)

theorem Branches.carried (mono : Monotone φ) : ∀ {ts s us}, Branches m ts s → Carries φ ts us →
    Branches m us (s.relocate (Region.along φ))
  | _, _, _, .alone condition body, carried => by
    obtain ⟨_, _, rfl, front, back⟩ := Carries.split carried
    rw [Statement.relocate, relocateAll]
    exact .alone (condition.carried mono front) (body.carried mono back)
  | _, _, _, .elif condition body keyword later, carried => by
    obtain ⟨_, _, _, rfl, first, keyword', back⟩ := Carries.splitAt carried
    obtain ⟨_, _, rfl, front, middle⟩ := Carries.split first
    rw [Statement.relocate, relocateAll, relocateAll]
    exact .elif (condition.carried mono front) (body.carried mono middle)
      (keyword'.token_eq keyword) (later.carried mono back)
  | _, _, _, .otherwise condition body keyword other, carried => by
    obtain ⟨_, _, _, rfl, first, keyword', back⟩ := Carries.splitAt carried
    obtain ⟨_, _, rfl, front, middle⟩ := Carries.split first
    exact .otherwise (condition.carried mono front) (body.carried mono middle)
      (keyword'.token_eq keyword) (other.carried mono back)

theorem Block.carried (mono : Monotone φ) : ∀ {ts body us}, Block m ts body → Carries φ ts us →
    Block m us (relocateAll (Region.along φ) body)
  | _, body, _, .mk colon newline indent derived said dedent,
      .cons colon' (.cons newline' (.cons indent' carried)) => by
    obtain ⟨_, _, _, rfl, front, dedent', ⟨⟩⟩ := Carries.splitAt carried
    have said' : relocateAll (Region.along φ) body ≠ [] := by
      cases body with
      | nil => exact absurd rfl said
      | cons s ss => simp [relocateAll]
    exact .mk (colon'.token_eq colon) (newline'.token_eq newline) (indent'.token_eq indent)
      (derived.carried mono front) said' (dedent'.token_eq dedent)

theorem Lines.carried (mono : Monotone φ) : ∀ {ts ss us}, Lines m ts ss → Carries φ ts us →
    Lines m us (relocateAll (Region.along φ) ss)
  | _, _, _, .nil, .nil => .nil
  | _, _, _, .cons line later, carried => by
    obtain ⟨_, _, rfl, front, back⟩ := Carries.split carried
    exact .cons (line.carried mono front) (later.carried mono back)

end

end Grammar

end HtmlTemplate
