import HtmlTemplate.Proofs.Grammar.Exact
import HtmlTemplate.Proofs.Lexing.Coverage
import HtmlTemplate.Proofs.Lexing.Respacing
import HtmlTemplate.Proofs.Rendering.Blame

/-!
# Regions of expressions

The regions of a compiled template mirror its tree. Each expression lies around those of which it is
made, which stand side by side in the order of the source, and so do the expressions of different
statements, attributes and parts of a text. Parentheses have no part in this: the region of what
they enclose begins and ends with the lexemes of operands.
-/

namespace HtmlTemplate

namespace Region

def Contains (r s : Region) : Prop := r.start ≤ s.start ∧ s.stop ≤ r.stop

/-- Ends before the other begins. -/
def Precedes (r s : Region) : Prop := r.stop ≤ s.start

theorem join_eq_of_precedes {r s : Region} (left : r.start ≤ r.stop) (right : s.start ≤ s.stop)
    (precedes : r.Precedes s) : r.join s = ⟨r.start, s.stop⟩ := by
  unfold Precedes at precedes
  rw [join, Nat.min_eq_left (by omega), Nat.max_eq_right (by omega)]

end Region

/-! ## Expressions in the order of the source -/

/-- The expressions of which an expression is made. -/
def Expr.operands : Expr → List Expr
  | .literal _ _ | .var _ => []
  | .array items _ => items
  | .dict entries _ => entries.flatMap fun e => [e.1, e.2]
  | .binary _ left right => [left, right]
  | .call _ arguments _ => arguments

theorem subtermsOfItems_eq (es : List Expr) : subtermsOfItems es = es.flatMap Expr.subterms := by
  induction es with
  | nil => rfl
  | cons e es ih => rw [subtermsOfItems, List.flatMap_cons, ih]

theorem subtermsOfEntries_eq (es : List (Expr × Expr)) :
    subtermsOfEntries es = (es.flatMap fun e => [e.1, e.2]).flatMap Expr.subterms := by
  induction es with
  | nil => rfl
  | cons e es ih => simp [subtermsOfEntries, ih]

theorem Expr.subterms_eq (e : Expr) : e.subterms = e :: e.operands.flatMap Expr.subterms := by
  cases e with
  | literal | var => rfl
  | array items => rw [subterms, subtermsOfItems_eq, operands]
  | dict entries => rw [subterms, subtermsOfEntries_eq, operands]
  | binary => simp [subterms, operands]
  | call _ arguments => rw [subterms, subtermsOfItems_eq, operands]

def Part.roots : Part → List Expr
  | .text _ => []
  | .splice e => [e]

mutual

/-- The expressions of a statement that stand within no other one. -/
def Statement.roots : Statement → List Expr
  | .tag _ attributes body => attributes.map (·.2) ++ rootsOf body
  | .text parts => parts.flatMap Part.roots
  | .choice condition body otherwise => condition :: (rootsOf body ++ rootsOf otherwise)
  | .loop _ iterable body => iterable :: rootsOf body
  | .assign _ value => [value]

def rootsOf : List Statement → List Expr
  | [] => []
  | s :: ss => s.roots ++ rootsOf ss

end

mutual

theorem Statement.expressions_eq : ∀ s : Statement, s.expressions = s.roots.flatMap Expr.subterms
  | .tag _ attributes body => by
    rw [Statement.expressions, Statement.roots, List.flatMap_append, List.flatMap_map,
      expressionsOf_eq body]
  | .text parts => by
    have inside : ∀ p : Part, p.expressions = p.roots.flatMap Expr.subterms := by
      intro p
      cases p with
      | text => rfl
      | splice e => exact (List.flatMap_singleton ..).symm
    rw [Statement.expressions, Statement.roots, List.flatMap_assoc]
    exact congrArg (parts.flatMap ·) (funext inside)
  | .choice condition body otherwise => by
    rw [Statement.expressions, Statement.roots, List.flatMap_cons, List.flatMap_append,
      expressionsOf_eq body, expressionsOf_eq otherwise]
  | .loop _ iterable body => by
    rw [Statement.expressions, Statement.roots, List.flatMap_cons, expressionsOf_eq body]
  | .assign _ value => by
    rw [Statement.expressions, Statement.roots, List.flatMap_singleton]

/-- Every expression of a block stands within one of its outermost ones. -/
theorem expressionsOf_eq : ∀ ss : List Statement,
    expressionsOf ss = (rootsOf ss).flatMap Expr.subterms
  | [] => rfl
  | s :: ss => by
    rw [expressionsOf, rootsOf, List.flatMap_append, s.expressions_eq, expressionsOf_eq ss]

end

/-! ## Places of expressions -/

/-- All of the one expression ends before anything of the other begins. -/
def Expr.Before (e e' : Expr) : Prop :=
  ∀ d ∈ e.subterms, ∀ d' ∈ e'.subterms, d.region.Precedes d'.region

/-- The expression covers some text of the source and in it those of which it is made. -/
structure Expr.Located (source : List Char) (e : Expr) : Prop where
  begins : Boundary source e.region.start
  ends : Boundary source e.region.stop
  nonempty : e.region.start < e.region.stop
  contains : ∀ d ∈ e.subterms, e.region.Contains d.region
  inOrder : e.operands.Pairwise Expr.Before
  joins : ∀ {op left right}, e = .binary op left right →
    e.region = ⟨left.region.start, right.region.stop⟩

theorem Expr.before_of_precedes {source : List Char} {e e' : Expr} (first : e.Located source)
    (later : e'.Located source) (precedes : e.region.Precedes e'.region) : e.Before e' := by
  intro d mem d' mem'
  have inFirst := first.contains d mem
  have inLater := later.contains d' mem'
  unfold Region.Contains Region.Precedes at *
  omega

/-! ## Lexemes from left to right -/

/-- Lexemes of a source in order. Layout aside they have a width. -/
structure Sited (source : List Char) (ts : List Lexeme) : Prop where
  inOrder : ts.Pairwise fun t u => t.region.Precedes u.region
  stand : ∀ t ∈ ts, t.StandsIn source
  wide : ∀ t ∈ ts, t.token.isLayout = false → t.region.start < t.region.stop

namespace Sited

variable {source : List Char} {ts us : List Lexeme} {t : Lexeme}

theorem sublist (sited : Sited source us) (within : ts.Sublist us) : Sited source ts where
  inOrder := sited.inOrder.sublist within
  stand t mem := sited.stand t (within.mem mem)
  wide t mem := sited.wide t (within.mem mem)

theorem left (sited : Sited source (ts ++ us)) : Sited source ts :=
  sited.sublist (List.sublist_append_left ts us)

theorem right (sited : Sited source (ts ++ us)) : Sited source us :=
  sited.sublist (List.sublist_append_right ts us)

theorem tail (sited : Sited source (t :: ts)) : Sited source ts :=
  sited.sublist (List.sublist_cons_self t ts)

theorem across (sited : Sited source (ts ++ us)) : ∀ t ∈ ts, ∀ u ∈ us, t.region.Precedes u.region :=
  (List.pairwise_append.mp sited.inOrder).2.2

/-- The first lexeme begins first. -/
theorem first_le (sited : Sited source (t :: ts)) :
    ∀ u ∈ t :: ts, t.region.start ≤ u.region.start := by
  intro u mem
  rcases List.mem_cons.mp mem with rfl | later
  · exact Nat.le_refl _
  · have precedes := (List.pairwise_cons.mp sited.inOrder).1 u later
    exact Nat.le_trans t.region_start_le_stop precedes

/-- The last lexeme ends last. -/
theorem le_last (sited : Sited source (ts ++ [t])) :
    ∀ u ∈ ts ++ [t], u.region.stop ≤ t.region.stop := by
  intro u mem
  rcases List.mem_append.mp mem with before | last
  · have precedes := sited.across u before t (List.mem_singleton_self t)
    exact Nat.le_trans precedes t.region_start_le_stop
  · rw [List.mem_singleton.mp last]

end Sited

theorem sited_ofSource (m : Markers) (source : List Char) :
    Sited source (Lexemes.ofSource m source).list := by
  have trans : IsTrans Lexeme fun t u => t.region.Precedes u.region :=
    ⟨fun t u v first later => Nat.le_trans first (Nat.le_trans u.region_start_le_stop later)⟩
  have run : Lexer.Run { markers := m, rest := source } (Lexemes.ofSource m source) :=
    Lexer.run_lexemes rfl
  constructor
  · exact ((Lexemes.isChain_ofSource m source).imp fun t u before => before.1).pairwise
  · exact (Lexemes.places_ofSource m source).1
  · intro t mem plain
    have said := (run.inLine t mem plain).1
    have width := Nat.le_trans (List.length_pos_iff.mpr said) (length_le_byteLength t.chars)
    simp only [Lexeme.region]
    omega

/-! ## Expressions within lexemes -/

/-- Begins with one of the lexemes and ends with one of them. -/
structure Region.Spans (ts : List Lexeme) (r : Region) : Prop where
  start : ∃ t ∈ ts, r.start = t.region.start
  stop : ∃ t ∈ ts, r.stop = t.region.stop

theorem Region.Spans.mono {ts us : List Lexeme} {r : Region} (spans : r.Spans ts)
    (within : ts ⊆ us) : r.Spans us := by
  obtain ⟨⟨t, memT, start⟩, ⟨u, memU, stop⟩⟩ := spans
  exact ⟨⟨t, within memT, start⟩, ⟨u, within memU, stop⟩⟩

/-- The expressions stand among the lexemes, one behind the other. -/
structure Houses (source : List Char) (ts : List Lexeme) (es : List Expr) : Prop where
  located : ∀ e ∈ es, ∀ d ∈ e.subterms, d.Located source
  spans : ∀ e ∈ es, e.region.Spans ts
  inOrder : es.Pairwise Expr.Before

namespace Houses

variable {source : List Char} {ts us : List Lexeme} {es fs : List Expr} {t u : Lexeme} {e : Expr}

theorem nil : Houses source ts [] := ⟨nofun, nofun, .nil⟩

theorem own (houses : Houses source ts es) (mem : e ∈ es) : e.Located source :=
  houses.located e mem e e.mem_subterms

theorem mono (houses : Houses source ts es) (within : ts ⊆ us) : Houses source us es :=
  { houses with spans := fun e mem => (houses.spans e mem).mono within }

theorem behind (houses : Houses source ts es) : Houses source (t :: ts) es :=
  houses.mono (List.subset_cons_self t ts)

theorem followed (houses : Houses source ts es) : Houses source (ts ++ us) es :=
  houses.mono (List.subset_append_left ts us)

theorem append (first : Houses source ts es) (later : Houses source us fs)
    (sited : Sited source (ts ++ us)) : Houses source (ts ++ us) (es ++ fs) where
  located := List.forall_mem_append.mpr ⟨first.located, later.located⟩
  spans := by
    refine List.forall_mem_append.mpr ⟨fun e mem => ?_, fun e mem => ?_⟩
    · exact (first.spans e mem).mono (List.subset_append_left ts us)
    · exact (later.spans e mem).mono (List.subset_append_right ts us)
  inOrder := by
    refine List.pairwise_append.mpr ⟨first.inOrder, later.inOrder, fun e mem e' mem' => ?_⟩
    obtain ⟨t, memT, stop⟩ := (first.spans e mem).stop
    obtain ⟨u, memU, start⟩ := (later.spans e' mem').start
    have precedes : e.region.Precedes e'.region := by
      rw [Region.Precedes, stop, start]
      exact sited.across t memT u memU
    exact Expr.before_of_precedes (first.own mem) (later.own mem') precedes

/-- An expression around its operands. -/
theorem node (operands : Houses source ts e.operands) (sited : Sited source us)
    (spans : e.region.Spans us) (nonempty : e.region.start < e.region.stop)
    (contains : ∀ d ∈ e.operands, e.region.Contains d.region)
    (joins : ∀ {op left right}, e = .binary op left right →
      e.region = ⟨left.region.start, right.region.stop⟩) : Houses source us [e] := by
  have located : e.Located source := by
    constructor
    · obtain ⟨t, mem, start⟩ := spans.start
      rw [start]
      exact (sited.stand t mem).boundary
    · obtain ⟨t, mem, stop⟩ := spans.stop
      rw [stop]
      exact (sited.stand t mem).boundary_stop
    · exact nonempty
    · intro d mem
      rw [e.subterms_eq] at mem
      rcases List.mem_cons.mp mem with rfl | inside
      · exact ⟨Nat.le_refl _, Nat.le_refl _⟩
      · obtain ⟨operand, memOperand, within⟩ := List.mem_flatMap.mp inside
        have outer := contains operand memOperand
        have inner := (operands.own memOperand).contains d within
        exact ⟨Nat.le_trans outer.1 inner.1, Nat.le_trans inner.2 outer.2⟩
    · exact operands.inOrder
    · exact joins
  refine ⟨?_, List.forall_mem_singleton.mpr spans, List.pairwise_singleton ..⟩
  intro e' here d mem
  rw [List.mem_singleton.mp here, e.subterms_eq] at mem
  rcases List.mem_cons.mp mem with rfl | inside
  · exact located
  · obtain ⟨operand, memOperand, within⟩ := List.mem_flatMap.mp inside
    exact operands.located operand memOperand d within

/-- An expression of one lexeme. -/
theorem leaf (sited : Sited source [t]) (plain : t.token.isLayout = false)
    (region : e.region = t.region) (alone : e.operands = []) : Houses source [t] [e] := by
  have mem := List.mem_singleton_self t
  have operands : Houses source [t] e.operands := alone ▸ .nil
  apply operands.node sited
  · rw [region]
    exact ⟨⟨t, mem, rfl⟩, ⟨t, mem, rfl⟩⟩
  · rw [region]
    exact sited.wide t mem plain
  · rw [alone]
    nofun
  · rintro op left right rfl
    cases alone

/-- An expression from its first lexeme to its last. -/
theorem enclosed (operands : Houses source (t :: ts ++ [u]) e.operands)
    (sited : Sited source (t :: ts ++ [u])) (plain : t.token.isLayout = false)
    (region : e.region = t.region.join u.region)
    (other : ∀ op left right, e ≠ .binary op left right) : Houses source (t :: ts ++ [u]) [e] := by
  have first : t ∈ t :: ts ++ [u] := by simp
  have last : u ∈ t :: ts ++ [u] := by simp
  have precedes : t.region.Precedes u.region :=
    sited.across t List.mem_cons_self u (List.mem_singleton_self u)
  have hull : e.region = ⟨t.region.start, u.region.stop⟩ := by
    rw [region]
    exact Region.join_eq_of_precedes t.region_start_le_stop u.region_start_le_stop precedes
  apply operands.node sited
  · rw [hull]
    exact ⟨⟨t, first, rfl⟩, ⟨u, last, rfl⟩⟩
  · have wide := sited.wide t first plain
    have ordered := u.region_start_le_stop
    rw [hull]
    unfold Region.Precedes at precedes
    dsimp only
    omega
  · intro d mem
    obtain ⟨⟨v, memV, start⟩, ⟨w, memW, stop⟩⟩ := operands.spans d mem
    rw [hull, Region.Contains, start, stop]
    exact ⟨sited.first_le v memV, sited.le_last w memW⟩
  · intro op left right eq
    exact absurd eq (other op left right)

/-- An expression of two lexemes, such as a number behind its sign. -/
theorem pair (sited : Sited source [t, u]) (plain : t.token.isLayout = false)
    (region : e.region = t.region.join u.region) (alone : e.operands = []) :
    Houses source [t, u] [e] := by
  have operands : Houses source (t :: [] ++ [u]) e.operands := alone ▸ .nil
  apply operands.enclosed sited plain region
  rintro op left right rfl
  cases alone

/-- An operation on both sides of its operator. -/
theorem binary {op : Operator} {left right : Expr} (first : Houses source ts [left])
    (later : Houses source us [right]) (sited : Sited source (ts ++ t :: us)) :
    Houses source (ts ++ t :: us) [.binary op left right] := by
  have operands : Houses source (ts ++ t :: us) (Expr.binary op left right).operands :=
    first.append later.behind sited
  have memLeft : left ∈ [left, right] := by simp
  have memRight : right ∈ [left, right] := by simp
  have wideLeft := (operands.own memLeft).nonempty
  have wideRight := (operands.own memRight).nonempty
  have before : left.Before right := (List.pairwise_cons.mp operands.inOrder).1 right (by simp)
  have precedes := before left left.mem_subterms right right.mem_subterms
  have hull : (Expr.binary op left right).region = ⟨left.region.start, right.region.stop⟩ :=
    Region.join_eq_of_precedes (Nat.le_of_lt wideLeft) (Nat.le_of_lt wideRight) precedes
  unfold Region.Precedes at precedes
  apply operands.node sited
  · rw [hull]
    exact ⟨(operands.spans left memLeft).start, (operands.spans right memRight).stop⟩
  · rw [hull]
    dsimp only
    omega
  · intro d mem
    rw [hull, Region.Contains]
    rcases List.mem_cons.mp mem with rfl | mem
    · dsimp only
      omega
    · rw [List.mem_singleton.mp mem]
      dsimp only
      omega
  · rintro _ _ _ ⟨⟩
    exact hull

end Houses

namespace Grammar

variable {source : List Char}

mutual

theorem Sum.houses : ∀ {ts e}, Sum ts e → Sited source ts → Houses source ts [e]
  | _, _, .product derived, sited => derived.houses sited
  | _, _, .binary left _ _ right, sited =>
    (left.houses sited.left).binary (right.houses sited.right.tail) sited

theorem Product.houses : ∀ {ts e}, Product ts e → Sited source ts → Houses source ts [e]
  | _, _, .atom derived, sited => derived.houses sited
  | _, _, .binary left _ _ right, sited =>
    (left.houses sited.left).binary (right.houses sited.right.tail) sited

theorem Atom.houses : ∀ {ts e}, Atom ts e → Sited source ts → Houses source ts [e]
  | _, _, .number is _, sited => .leaf sited (by rw [is]; rfl) rfl rfl
  | _, _, .plus sign _ _ _, sited => .pair sited (by rw [sign]; rfl) rfl rfl
  | _, _, .minus sign _ _ _, sited => .pair sited (by rw [sign]; rfl) rfl rfl
  | _, _, .string is _, sited => .leaf sited (by rw [is]; rfl) rfl rfl
  | _, _, @Atom.word t v is, sited => by
    have plain : t.token.isLayout = false := by
      revert is
      cases t.token <;> simp [Token.value?, Token.isLayout]
    exact .leaf sited plain rfl rfl
  | _, _, .parens _ derived _, sited => (derived.houses sited.left.tail).behind.followed
  | _, _, .array opens derived _, sited =>
    .enclosed (derived.houses sited.left.tail).behind.followed sited (by rw [opens]; rfl) rfl nofun
  | _, _, .dict opens derived _, sited =>
    .enclosed (derived.houses sited.left.tail).behind.followed sited (by rw [opens]; rfl) rfl nofun
  | _, _, .var is, sited => .leaf sited (by rw [is]; rfl) rfl rfl
  | _, _, .call name _ derived _, sited =>
    .enclosed (derived.houses sited.left.tail.tail).behind.behind.followed sited
      (by rw [name]; rfl) rfl nofun

theorem Items.houses : ∀ {ts items}, Items ts items → Sited source ts → Houses source ts items
  | _, _, .nil, _ => .nil
  | _, _, .last derived, sited => derived.houses sited
  | _, _, .cons derived _ later, sited =>
    (derived.houses sited.left).append (later.houses sited.right.tail).behind sited

theorem Entries.houses : ∀ {ts entries}, Entries ts entries → Sited source ts →
    Houses source ts (entries.flatMap fun e => [e.1, e.2])
  | _, _, .nil, _ => .nil
  | _, _, .last key _ value, sited =>
    (key.houses sited.left).append (value.houses sited.right.tail).behind sited
  | _, _, .cons key _ value _ later, sited =>
    ((key.houses sited.left.left).append (value.houses sited.left.right.tail).behind
      sited.left).append (later.houses sited.right.tail).behind sited

end

theorem Attributes.houses {ts attributes} (derived : Attributes ts attributes)
    (sited : Sited source ts) : Houses source ts (attributes.map (·.2)) := by
  induction derived with
  | nil => exact .nil
  | last _ _ value => exact (value.houses sited.tail.tail).behind.behind
  | cons _ _ value _ _ ih =>
    apply (value.houses sited.left.tail.tail).behind.behind.append _ sited
    exact (ih sited.right.tail).behind

theorem Head.houses {ts attributes} (derived : Head ts attributes) (sited : Sited source ts) :
    Houses source ts (attributes.map (·.2)) := by
  cases derived with
  | bare => exact .nil
  | listed _ derived _ => exact (derived.houses sited.left.tail).behind.followed

variable {m : Markers}

theorem Parts.houses {ts parts} (derived : Parts m ts parts) (sited : Sited source ts) :
    Houses source ts (parts.flatMap Part.roots) := by
  induction derived with
  | nil => exact .nil
  | text _ _ ih => exact (ih sited.tail).behind
  | splice _ derived _ _ ih =>
    apply (derived.houses sited.left.tail).behind.append _ sited
    exact (ih sited.right.tail).behind

mutual

theorem Line.houses : ∀ {ts s}, Line m ts s → Sited source ts → Houses source ts s.roots
  | _, _, .assign _ _ _ value _, sited => by
    rw [Statement.roots]
    exact (value.houses sited.left.tail.tail.tail).behind.behind.behind.followed
  | _, _, .text _ parts _ _, sited => by
    rw [Statement.roots]
    exact (parts.houses sited.left.tail).behind.followed
  | _, _, .choice _ branches, sited => (branches.houses sited.tail).behind
  | _, _, .loop _ _ _ iterable body, sited => by
    rw [Statement.roots]
    apply (iterable.houses sited.left.tail.tail.tail).behind.behind.behind.append _ sited
    exact body.houses sited.right
  | _, _, .tag _ head body, sited => by
    rw [Statement.roots]
    exact (head.houses sited.left.tail).behind.append (body.houses sited.right) sited
  | _, _, .emptyTag _ head _, sited => by
    rw [Statement.roots, rootsOf, List.append_nil]
    exact (head.houses sited.left.tail).behind.followed

theorem Branches.houses : ∀ {ts s}, Branches m ts s → Sited source ts → Houses source ts s.roots
  | _, _, .alone condition body, sited => by
    rw [Statement.roots, rootsOf, List.append_nil]
    exact (condition.houses sited.left).append (body.houses sited.right) sited
  | _, _, .elif condition body _ later, sited => by
    rw [Statement.roots, rootsOf, rootsOf, List.append_nil]
    have first :=
      (condition.houses sited.left.left).append (body.houses sited.left.right) sited.left
    exact first.append (later.houses sited.right.tail).behind sited
  | _, _, .otherwise condition body _ other, sited => by
    rw [Statement.roots]
    have first :=
      (condition.houses sited.left.left).append (body.houses sited.left.right) sited.left
    exact first.append (other.houses sited.right.tail).behind sited

theorem Block.houses : ∀ {ts body}, Block m ts body → Sited source ts →
    Houses source ts (rootsOf body)
  | _, _, .mk _ _ _ lines _ _, sited =>
    (lines.houses sited.left.tail.tail.tail).behind.behind.behind.followed

theorem Lines.houses : ∀ {ts ss}, Lines m ts ss → Sited source ts → Houses source ts (rootsOf ss)
  | _, _, .nil, _ => .nil
  | _, _, .cons line later, sited => by
    rw [rootsOf]
    exact (line.houses sited.left).append (later.houses sited.right) sited

end

end Grammar

namespace Template

/-- All expressions of a compiled template are located in its source, and those of different
statements, attributes and parts of a text stand in order. -/
theorem compile_locates {m : Markers} {name : Option String} {source : String} {t : Template}
    (compiles : compile m name source = .ok t) :
    (∀ e ∈ expressionsOf t.statements, e.Located source.toList) ∧
      (rootsOf t.statements).Pairwise Expr.Before := by
  obtain ⟨reads, -, -⟩ := compile_eq_ok_iff.mp compiles
  have derived := (parseSource_eq_ok_iff.mp reads).2
  have houses := derived.houses (sited_ofSource m source.toList)
  refine ⟨?_, houses.inOrder⟩
  intro e mem
  rw [expressionsOf_eq] at mem
  obtain ⟨root, outermost, within⟩ := List.mem_flatMap.mp mem
  exact houses.located root outermost e within

/-- A product of a sum in parentheses and of a call, with another splice behind it. -/
theorem locates_product :
    let source := "- \x7b(a+b)*f([-1])\x7d\x7bc\x7d"
    let sum : Expr := .binary .add (.var ⟨"a", ⟨4, 5⟩⟩) (.var ⟨"b", ⟨6, 7⟩⟩)
    let negative : Expr := .literal (.number (.int ⟨-1, by decide, by decide⟩)) ⟨12, 14⟩
    let call : Expr := .call ⟨"f", ⟨9, 10⟩⟩ [.array [negative] ⟨11, 15⟩] ⟨9, 16⟩
    let product : Expr := .binary .multiply sum call
    let t : Template :=
      ⟨none, source, [.text [.text [' '], .splice product, .splice (.var ⟨"c", ⟨18, 19⟩⟩)]]⟩
    compile .standard none source = .ok t ∧ product.region = ⟨4, 16⟩ ∧
      (∀ e ∈ expressionsOf t.statements, e.Located source.toList) ∧
        (rootsOf t.statements).Pairwise Expr.Before := by
  intro source sum negative call product t
  have lexemes : Lexemes.ofSource .standard source.toList =
      ⟨[⟨.marker, 0, ['-']⟩, ⟨.text, 1, [' ']⟩, ⟨.openSplice, 2, ['{']⟩,
        ⟨.opening .round, 3, ['(']⟩, ⟨.identifier, 4, ['a']⟩, ⟨.operator .add, 5, ['+']⟩,
        ⟨.identifier, 6, ['b']⟩, ⟨.closing .round, 7, [')']⟩, ⟨.operator .multiply, 8, ['*']⟩,
        ⟨.identifier, 9, ['f']⟩, ⟨.opening .round, 10, ['(']⟩, ⟨.opening .square, 11, ['[']⟩,
        ⟨.operator .subtract, 12, ['-']⟩, ⟨.number, 13, ['1']⟩, ⟨.closing .square, 14, [']']⟩,
        ⟨.closing .round, 15, [')']⟩, ⟨.closeSplice, 16, ['}']⟩, ⟨.openSplice, 17, ['{']⟩,
        ⟨.identifier, 18, ['c']⟩, ⟨.closeSplice, 19, ['}']⟩, ⟨.newline, 20, []⟩], none⟩ :=
    Lexemes.ofSource_of_within (n := 40) (by decide +kernel)
  have inParens : Grammar.Atom [⟨.opening .round, 3, ['(']⟩, ⟨.identifier, 4, ['a']⟩,
      ⟨.operator .add, 5, ['+']⟩, ⟨.identifier, 6, ['b']⟩, ⟨.closing .round, 7, [')']⟩] sum :=
    .parens rfl (.binary (.product (.atom (.var rfl))) rfl rfl (.atom (.var rfl))) rfl
  have signed : Grammar.Atom [⟨.operator .subtract, 12, ['-']⟩, ⟨.number, 13, ['1']⟩] negative :=
    .minus rfl rfl rfl rfl
  have called : Grammar.Atom [⟨.identifier, 9, ['f']⟩, ⟨.opening .round, 10, ['(']⟩,
      ⟨.opening .square, 11, ['[']⟩, ⟨.operator .subtract, 12, ['-']⟩, ⟨.number, 13, ['1']⟩,
      ⟨.closing .square, 14, [']']⟩, ⟨.closing .round, 15, [')']⟩] call :=
    .call rfl rfl (.last (.product (.atom (.array rfl (.last (.product (.atom signed))) rfl)))) rfl
  have multiplied : Grammar.Sum _ product :=
    .product (.binary (t := ⟨.operator .multiply, 8, ['*']⟩) (.atom inParens) rfl rfl called)
  have named : Grammar.Sum [⟨.identifier, 18, ['c']⟩] (.var ⟨"c", ⟨18, 19⟩⟩) :=
    .product (.atom (.var rfl))
  have derived : Grammar.Lines .standard (Lexemes.ofSource .standard source.toList).list
      t.statements := by
    rw [lexemes]
    exact .cons (.text rfl (.text rfl (.splice rfl multiplied rfl (.splice rfl named rfl .nil)))
      nofun rfl) .nil
  have reads : parseSource .standard source.toList = .ok t.statements :=
    parseSource_eq_ok_iff.mpr ⟨congrArg Lexemes.fault lexemes, derived⟩
  have compiles : compile .standard none source = .ok t := compile_eq_ok_iff.mpr ⟨reads, rfl, rfl⟩
  exact ⟨compiles, rfl, compile_locates compiles⟩

end Template

end HtmlTemplate
