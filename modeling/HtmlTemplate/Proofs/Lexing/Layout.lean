import HtmlTemplate.Proofs.Grammar.Levels
import Mathlib.Data.List.Induction

/-!
# Layout of lexemes

A small automaton reads lexemes in the order of their lines. It keeps track of the place within a
line and of the brackets that are open there. In what it accepts, lines, brackets and splices come
in the order in which they belong together.
-/

namespace HtmlTemplate

/-- The brackets that are open behind a token, innermost first. Only what may stand between brackets
is read at all. -/
def Token.brackets (opened : List Bracket) (token : Token) : Option (List Bracket) :=
  match token with
  | .opening b => some (b :: opened)
  | .closing b => if opened.head? = some b then some opened.tail else none
  | token => if token.isInner then some opened else none

def bracketsAfter (opened : List Bracket) (ts : List Lexeme) : Option (List Bracket) :=
  ts.foldlM (fun opened t => t.token.brackets opened) opened

/-- Every bracket has its partner. -/
def Paired (ts : List Lexeme) : Prop := bracketsAfter [] ts = some []

/-- A line begins behind these lexemes. -/
def StartsLine (ts : List Lexeme) : Prop := ∀ t ∈ ts.getLast?, t.token.isLayout = true

/-- Where in a line the lexemes have come to. -/
inductive Place where
  /-- In front of all that the line says, be it behind a change of the level. -/
  | start
  | statement (opened : List Bracket)
  | text
  | splice (opened : List Bracket)
  deriving DecidableEq

namespace Place

/-- The brackets that are open, innermost first. -/
def opened : Place → List Bracket
  | .start | .text => []
  | .statement opened | .splice opened => opened

/-- What may come at a place, and the place behind it. -/
inductive Takes : Place → Token → Place → Prop where
  | change {token : Token} (is : token = .indent ∨ token = .dedent) : Takes .start token .start
  | emptyLine : Takes .start .newline .start
  | marker : Takes .start .marker .text
  | first {token : Token} {opened : List Bracket} (brackets : token.brackets [] = some opened) :
      Takes .start token (.statement opened)
  | statement {token : Token} {opened opened' : List Bracket}
      (brackets : token.brackets opened = some opened') :
      Takes (.statement opened) token (.statement opened')
  | endLine : Takes (.statement []) .newline .start
  | text : Takes .text .text .text
  | endText : Takes .text .newline .start
  | openSplice : Takes .text .openSplice (.splice [])
  | splice {token : Token} {opened opened' : List Bracket}
      (brackets : token.brackets opened = some opened') :
      Takes (.splice opened) token (.splice opened')
  | closeSplice : Takes (.splice []) .closeSplice .text

inductive Reads : Place → List Lexeme → Place → Prop where
  | nil (p : Place) : Reads p [] p
  | cons {p q r : Place} {t : Lexeme} {ts : List Lexeme} (takes : p.Takes t.token q)
      (later : Reads q ts r) : Reads p (t :: ts) r

end Place

section

variable {opened opened' outer : List Bracket} {b : Bracket} {token : Token} {t u : Lexeme}
  {ts us : List Lexeme} {p q r : Place}

/-! ## Brackets -/

theorem bracketsAfter_cons (opened : List Bracket) (t : Lexeme) (ts : List Lexeme) :
    bracketsAfter opened (t :: ts) =
      (t.token.brackets opened).bind fun opened => bracketsAfter opened ts := rfl

theorem bracketsAfter_append (opened : List Bracket) (ts us : List Lexeme) :
    bracketsAfter opened (ts ++ us) =
      (bracketsAfter opened ts).bind fun opened => bracketsAfter opened us :=
  List.foldlM_append

theorem Token.isInner_of_brackets (brackets : token.brackets opened = some opened') :
    token.isInner = true := by
  cases token <;> first | rfl | cases brackets

theorem Token.isLayout_of_isInner (inner : token.isInner = true) : token.isLayout = false := by
  cases token <;> first | rfl | cases inner

/-- A token opens a bracket, closes the innermost one or leaves them as they are. -/
theorem Token.brackets_cases (brackets : token.brackets opened = some opened') :
    (∃ b, token = .opening b ∧ opened' = b :: opened) ∨
      (∃ b, token = .closing b ∧ opened = b :: opened') ∨
      (∀ outer, token.brackets outer = some outer) ∧ opened' = opened := by
  cases token with
  | opening b =>
    cases brackets
    exact .inl ⟨b, rfl, rfl⟩
  | closing b =>
    simp only [Token.brackets] at brackets
    split at brackets
    · next head =>
      obtain ⟨outer, rfl⟩ := List.head?_eq_some_iff.mp head
      cases brackets
      exact .inr (.inl ⟨b, rfl, rfl⟩)
    · cases brackets
  | _ =>
    first
    | cases brackets
      exact .inr (.inr ⟨fun _ => rfl, rfl⟩)
    | cases brackets

theorem inner_of_bracketsAfter (brackets : bracketsAfter opened ts = some opened') : Inner ts := by
  induction ts generalizing opened with
  | nil => exact inner_nil
  | cons t ts ih =>
    obtain ⟨_, first, later⟩ := Option.bind_eq_some_iff.mp brackets
    exact inner_cons rfl (Token.isInner_of_brackets first) (ih later)

/-! ## Places -/

namespace Place

theorem Reads.single (takes : p.Takes t.token q) : Reads p [t] q := .cons takes (.nil q)

theorem Reads.append (first : Reads p ts q) (later : Reads q us r) : Reads p (ts ++ us) r := by
  induction first with
  | nil => exact later
  | cons takes _ ih => exact .cons takes (ih later)

theorem Reads.of_append (reads : Reads p (ts ++ us) r) : ∃ q, Reads p ts q ∧ Reads q us r := by
  induction ts generalizing p with
  | nil => exact ⟨p, .nil p, reads⟩
  | cons t ts ih =>
    cases reads with
    | cons takes later =>
      obtain ⟨q, first, later⟩ := ih later
      exact ⟨q, .cons takes first, later⟩

/-- Both sides of a lexeme that is read. -/
theorem Reads.split (reads : Reads p (ts ++ t :: us) r) :
    ∃ q q', Reads p ts q ∧ q.Takes t.token q' ∧ Reads q' us r := by
  obtain ⟨q, first, later⟩ := reads.of_append
  cases later with
  | cons takes later => exact ⟨q, _, first, takes, later⟩

theorem Reads.concat (reads : Reads p (ts ++ [t]) r) : ∃ q, Reads p ts q ∧ q.Takes t.token r := by
  obtain ⟨q, q', first, takes, later⟩ := reads.split
  cases later
  exact ⟨q, first, takes⟩

/-! ### Brackets and their partners -/

/-- Where a token may not stand between brackets, none is open. -/
theorem Takes.brackets (takes : p.Takes token q) :
    token.brackets p.opened = some q.opened ∨
      token.isInner = false ∧ p.opened = [] ∧ q.opened = [] := by
  cases takes with
  | change is => rcases is with rfl | rfl <;> exact .inr ⟨rfl, rfl, rfl⟩
  | first brackets | statement brackets | splice brackets => exact .inl brackets
  | _ => exact .inr ⟨rfl, rfl, rfl⟩

theorem Takes.brackets_of_opened (takes : p.Takes token q) (some : p.opened ≠ [] ∨ q.opened ≠ []) :
    token.brackets p.opened = Option.some q.opened := by
  rcases takes.brackets with brackets | ⟨-, none, none'⟩
  · exact brackets
  · exact (some.elim (· none) (· none')).elim

theorem Takes.of_opening (takes : p.Takes (.opening b) q) : q.opened = b :: p.opened := by
  have brackets := takes.brackets.resolve_right fun none => by simp [Token.isInner] at none
  exact (Option.some.inj brackets).symm

theorem Takes.of_closing (takes : p.Takes (.closing b) q) : p.opened = b :: q.opened := by
  have brackets := takes.brackets.resolve_right fun none => by simp [Token.isInner] at none
  rcases Token.brackets_cases brackets with ⟨c, is, -⟩ | ⟨c, is, opened⟩ | ⟨plain, -⟩
  · cases is
  · cases is
    exact opened
  · cases plain []

/-- A bracket that is open is closed, and what is opened within it is closed before. -/
theorem Reads.closes (reads : Reads p ts r) (inner : List Bracket)
    (opened : p.opened = inner ++ b :: outer) (closed : r.opened = []) :
    ∃ inside u behind, ts = inside ++ u :: behind ∧ u.token = .closing b ∧
      bracketsAfter inner inside = some [] := by
  induction reads generalizing inner with
  | nil =>
    rw [opened] at closed
    cases (List.append_eq_nil_iff.mp closed).2
  | @cons p q r t ts takes later ih =>
    have brackets := takes.brackets_of_opened (.inl (by simp [opened]))
    have further (inner' : List Bracket) (opened' : q.opened = inner' ++ b :: outer)
        (brackets' : t.token.brackets inner = some inner') :
        ∃ inside u behind, t :: ts = inside ++ u :: behind ∧ u.token = .closing b ∧
          bracketsAfter inner inside = some [] := by
      obtain ⟨inside, u, behind, rfl, closes, paired⟩ := ih inner' opened' closed
      refine ⟨t :: inside, u, behind, rfl, closes, ?_⟩
      rw [bracketsAfter_cons, brackets', Option.bind_some, paired]
    rcases Token.brackets_cases brackets with ⟨c, is, opened'⟩ | ⟨c, is, opened'⟩ | ⟨plain, opened'⟩
    · exact further (c :: inner) (by rw [opened', opened]; rfl) (by rw [is]; rfl)
    · rw [opened] at opened'
      cases inner with
      | nil =>
        cases opened'
        exact ⟨[], t, ts, rfl, is, rfl⟩
      | cons d inner =>
        obtain ⟨same, below⟩ := List.cons.inj opened'
        subst same
        exact further inner below.symm (by simp [is, Token.brackets])
    · exact further inner (opened'.trans opened) (plain inner)

/-- A bracket that is open was opened, and what was opened within it and is not open any more was
closed since. -/
theorem Reads.opens (reads : Reads p ts r) (inner : List Bracket) (closed : p.opened = [])
    (opened : r.opened = inner ++ b :: outer) :
    ∃ front o inside, ts = front ++ o :: inside ∧ o.token = .opening b ∧
      bracketsAfter [] inside = some inner := by
  induction ts using List.reverseRecOn generalizing r inner with
  | nil =>
    cases reads
    rw [opened] at closed
    cases (List.append_eq_nil_iff.mp closed).2
  | append_singleton ts t ih =>
    obtain ⟨q, first, takes⟩ := reads.concat
    have further (inner' : List Bracket) (opened' : q.opened = inner' ++ b :: outer)
        (brackets' : t.token.brackets inner' = some inner) :
        ∃ front o inside, ts ++ [t] = front ++ o :: inside ∧ o.token = .opening b ∧
          bracketsAfter [] inside = some inner := by
      obtain ⟨front, o, inside, rfl, opens, paired⟩ := ih first inner' opened'
      refine ⟨front, o, inside ++ [t], by simp, opens, ?_⟩
      rw [bracketsAfter_append, paired, Option.bind_some, bracketsAfter_cons, brackets']
      rfl
    have brackets := takes.brackets_of_opened (.inr (by simp [opened]))
    rcases Token.brackets_cases brackets with ⟨c, is, opened'⟩ | ⟨c, is, opened'⟩ | ⟨plain, opened'⟩
    · rw [opened] at opened'
      cases inner with
      | nil =>
        cases opened'
        exact ⟨ts, t, [], rfl, is, rfl⟩
      | cons d inner =>
        obtain ⟨same, below⟩ := List.cons.inj opened'
        subst same
        exact further inner below.symm (by rw [is]; rfl)
    · exact further (c :: inner) (by rw [opened', opened]; rfl)
        (by simp [is, Token.brackets])
    · exact further inner (opened'.symm.trans opened) (plain inner)

/-! ### Lines -/

theorem Takes.start_iff (takes : p.Takes token q) : q = .start ↔ token.isLayout = true := by
  cases takes with
  | change is => rcases is with rfl | rfl <;> simp [Token.isLayout]
  | first brackets | statement brackets | splice brackets =>
    have inner := Token.isInner_of_brackets brackets
    simp [Token.isLayout_of_isInner inner]
  | _ => simp [Token.isLayout]

theorem Takes.isLayout_eq_false (takes : p.Takes token q) (other : q ≠ .start) :
    token.isLayout = false := Bool.eq_false_iff.mpr (mt takes.start_iff.mpr other)

theorem Takes.from_start (takes : p.Takes token q)
    (is : token = .indent ∨ token = .dedent ∨ token = .marker) : p = .start := by
  cases takes with
  | statement brackets | splice brackets =>
    have inner := Token.isInner_of_brackets brackets
    rcases is with rfl | rfl | rfl <;> cases inner
  | _ => simp_all

theorem Takes.inText (takes : p.Takes token q)
    (is : token = .text ∨ token = .openSplice ∨ token = .closeSplice) :
    p = .text ∨ ∃ opened, p = .splice opened := by
  cases takes with
  | first brackets | statement brackets =>
    have inner := Token.isInner_of_brackets brackets
    rcases is with rfl | rfl | rfl <;> cases inner
  | change change => rcases change with rfl | rfl <;> simp at is
  | _ => simp_all

theorem Takes.of_openSplice (takes : p.Takes .openSplice q) : q = .splice [] := by
  cases takes with
  | openSplice => rfl
  | first brackets | statement brackets | splice brackets => cases brackets
  | change is => simp at is

theorem Takes.of_closeSplice (takes : p.Takes .closeSplice q) : p = .splice [] := by
  cases takes with
  | closeSplice => rfl
  | first brackets | statement brackets | splice brackets => cases brackets
  | change is => simp at is

/-- Only the end of a line or a change of the level leads to the start of a line. -/
theorem Reads.startsLine (reads : Reads .start ts .start) : StartsLine ts := by
  intro t last
  obtain ⟨front, rfl⟩ := List.getLast?_eq_some_iff.mp last
  obtain ⟨q, -, takes⟩ := reads.concat
  exact takes.start_iff.mp rfl

/-- What is said in a line is followed by the end of the line. -/
theorem Reads.endsLine (reads : Reads p ts .start) (within : p ≠ .start) :
    ∃ line newline later, ts = line ++ newline :: later ∧ newline.token = .newline ∧
      ∀ u ∈ line, u.token.isLayout = false := by
  generalize stop : Place.start = r at reads
  induction reads with
  | nil => exact absurd stop.symm within
  | @cons p q r t ts takes _ ih =>
    by_cases ended : q = .start
    · refine ⟨[], t, ts, rfl, ?_, List.forall_mem_nil _⟩
      subst ended
      generalize is : t.token = token at takes
      cases takes with
      | change | emptyLine => exact absurd rfl within
      | endLine | endText => rfl
    · obtain ⟨line, newline, later, rfl, is, inLine⟩ := ih ended stop
      exact ⟨t :: line, newline, later, rfl, is,
        List.forall_mem_cons.mpr ⟨takes.isLayout_eq_false ended, inLine⟩⟩

/-- Texts and splices stand in a line that begins with a marker. -/
theorem Reads.marked (reads : Reads .start ts p)
    (inText : p = .text ∨ ∃ opened, p = .splice opened) :
    ∃ front marker line, ts = front ++ marker :: line ∧ marker.token = .marker ∧
      StartsLine front ∧ ∀ u ∈ line, u.token.isLayout = false := by
  induction ts using List.reverseRecOn generalizing p with
  | nil =>
    cases reads
    simp at inText
  | append_singleton ts t ih =>
    obtain ⟨q, first, takes⟩ := reads.concat
    have here := takes.isLayout_eq_false (by rintro rfl; simp at inText)
    have further (before : q = .text ∨ ∃ opened, q = .splice opened) :
        ∃ front marker line, ts ++ [t] = front ++ marker :: line ∧ marker.token = .marker ∧
          StartsLine front ∧ ∀ u ∈ line, u.token.isLayout = false := by
      obtain ⟨front, marker, line, rfl, is, starts, inLine⟩ := ih first before
      exact ⟨front, marker, line ++ [t], by simp, is, starts,
        List.forall_mem_append.mpr ⟨inLine, List.forall_mem_singleton.mpr here⟩⟩
    generalize is : t.token = token at takes
    cases takes with
    | marker => exact ⟨ts, t, [], rfl, is, first.startsLine, List.forall_mem_nil _⟩
    | text | openSplice => exact further (.inl rfl)
    | splice | closeSplice => exact further (.inr ⟨_, rfl⟩)
    | change | emptyLine | first | statement | endLine | endText => simp at inText

/-! ### Splices -/

/-- A splice ends in its line, and only behind what is opened in it has been closed. -/
theorem Reads.closesSplice (reads : Reads (.splice opened) ts .start) :
    ∃ inside u behind, ts = inside ++ u :: behind ∧ u.token = .closeSplice ∧
      bracketsAfter opened inside = some [] := by
  generalize start : Place.splice opened = p at reads
  generalize stop : Place.start = r at reads
  induction reads generalizing opened with
  | nil =>
    subst start
    cases stop
  | @cons p q r t ts takes _ ih =>
    subst start
    generalize is : t.token = token at takes
    cases takes with
    | closeSplice => exact ⟨[], t, ts, rfl, is, rfl⟩
    | splice brackets =>
      obtain ⟨inside, u, behind, rfl, closes, paired⟩ := ih rfl stop
      refine ⟨t :: inside, u, behind, rfl, closes, ?_⟩
      rw [bracketsAfter_cons, is, brackets, Option.bind_some, paired]

theorem Reads.opensSplice (reads : Reads .start ts (.splice opened)) :
    ∃ front u inside, ts = front ++ u :: inside ∧ u.token = .openSplice ∧
      bracketsAfter [] inside = some opened := by
  induction ts using List.reverseRecOn generalizing opened with
  | nil => cases reads
  | append_singleton ts t ih =>
    obtain ⟨q, first, takes⟩ := reads.concat
    generalize is : t.token = token at takes
    cases takes with
    | openSplice => exact ⟨ts, t, [], rfl, is, rfl⟩
    | splice brackets =>
      obtain ⟨front, u, inside, rfl, opens, paired⟩ := ih first
      refine ⟨front, u, inside ++ [t], by simp, opens, ?_⟩
      rw [bracketsAfter_append, paired, Option.bind_some, bracketsAfter_cons, is, brackets]
      rfl

end Place

/-! ## Levels -/

def countToken (token : Token) (ts : List Lexeme) : Nat := ts.countP (·.token = token)

theorem Token.level_balance {n k : Nat} (level : token.level n = some k) :
    n + (if token = .indent then 1 else 0) = k + (if token = .dedent then 1 else 0) := by
  unfold Token.level at level
  split at level
  · cases level
    simp
  · split at level
    · cases level
    · cases level
      simp
      omega
  · next noIndent noDedent =>
    cases level
    rw [if_neg noIndent, if_neg noDedent]

theorem countToken_of_levelAfter {n k : Nat} (level : levelAfter n ts = some k) :
    n + countToken .indent ts = k + countToken .dedent ts := by
  induction ts generalizing n with
  | nil =>
    cases level
    rfl
  | cons t ts ih =>
    obtain ⟨j, first, later⟩ := Option.bind_eq_some_iff.mp level
    have total := ih later
    have one := Token.level_balance first
    simp only [countToken, List.countP_cons, decide_eq_true_eq] at total ⊢
    omega

/-! ## Structure of a stream -/

/-- The order of a stream of lexemes, each of which is looked at from its own place. -/
structure WellStructured (ts : List Lexeme) : Prop where
  /-- No dedent is without its indent. -/
  levels : ∀ front, front <+: ts → countToken .dedent front ≤ countToken .indent front
  /-- Nor an indent without its dedent. -/
  closesBlocks : countToken .dedent ts = countToken .indent ts
  /-- The level changes between lines only, and markers of text lines stand at their start. -/
  startsLine : ∀ before t after, ts = before ++ t :: after →
    t.token = .indent ∨ t.token = .dedent ∨ t.token = .marker → StartsLine before
  /-- What a line says is followed by one line end. -/
  endsLine : ∀ before t after, ts = before ++ t :: after → t.token.isLayout = false →
    ∃ line newline later, after = line ++ newline :: later ∧ newline.token = .newline ∧
      ∀ u ∈ line, u.token.isLayout = false
  /-- Between a bracket and its partner all others have theirs, and the line goes on. -/
  closes : ∀ before t after b, ts = before ++ t :: after → t.token = .opening b →
    ∃ inside u behind, after = inside ++ u :: behind ∧ u.token = .closing b ∧
      Paired inside ∧ Inner inside
  opens : ∀ before t after b, ts = before ++ t :: after → t.token = .closing b →
    ∃ front u inside, before = front ++ u :: inside ∧ u.token = .opening b ∧
      Paired inside ∧ Inner inside
  /-- Texts and splices stand in lines that begin with a marker. -/
  marked : ∀ before t after, ts = before ++ t :: after →
    t.token = .text ∨ t.token = .openSplice ∨ t.token = .closeSplice →
    ∃ front marker line, before = front ++ marker :: line ∧ marker.token = .marker ∧
      StartsLine front ∧ ∀ u ∈ line, u.token.isLayout = false
  /-- Neither texts nor lines nor other splices begin or end within a splice. -/
  closesSplice : ∀ before t after, ts = before ++ t :: after → t.token = .openSplice →
    ∃ inside u behind, after = inside ++ u :: behind ∧ u.token = .closeSplice ∧
      Paired inside ∧ Inner inside
  opensSplice : ∀ before t after, ts = before ++ t :: after → t.token = .closeSplice →
    ∃ front u inside, before = front ++ u :: inside ∧ u.token = .openSplice ∧
      Paired inside ∧ Inner inside

theorem wellStructured (reads : Place.Reads .start ts .start) (level : levelAfter 0 ts = some 0) :
    WellStructured ts where
  levels := by
    rintro front ⟨back, rfl⟩
    rw [levelAfter_append] at level
    obtain ⟨k, first, -⟩ := Option.bind_eq_some_iff.mp level
    have total := countToken_of_levelAfter first
    omega
  closesBlocks := by
    have total := countToken_of_levelAfter level
    omega
  startsLine := by
    rintro before t after rfl is
    obtain ⟨p, q, first, takes, -⟩ := reads.split
    cases takes.from_start is
    exact first.startsLine
  endsLine := by
    rintro before t after rfl inLine
    obtain ⟨p, q, -, takes, later⟩ := reads.split
    refine later.endsLine fun start => ?_
    rw [takes.start_iff.mp start] at inLine
    cases inLine
  closes := by
    rintro before t after b rfl is
    obtain ⟨p, q, -, takes, later⟩ := reads.split
    rw [is] at takes
    obtain ⟨inside, u, behind, rfl, closes, paired⟩ := later.closes [] takes.of_opening rfl
    exact ⟨inside, u, behind, rfl, closes, paired, inner_of_bracketsAfter paired⟩
  opens := by
    rintro before t after b rfl is
    obtain ⟨p, q, first, takes, -⟩ := reads.split
    rw [is] at takes
    obtain ⟨front, u, inside, rfl, opens, paired⟩ := first.opens [] rfl takes.of_closing
    exact ⟨front, u, inside, rfl, opens, paired, inner_of_bracketsAfter paired⟩
  marked := by
    rintro before t after rfl is
    obtain ⟨p, q, first, takes, -⟩ := reads.split
    exact first.marked (takes.inText is)
  closesSplice := by
    rintro before t after rfl is
    obtain ⟨p, q, -, takes, later⟩ := reads.split
    rw [is] at takes
    cases takes.of_openSplice
    obtain ⟨inside, u, behind, rfl, closes, paired⟩ := later.closesSplice
    exact ⟨inside, u, behind, rfl, closes, paired, inner_of_bracketsAfter paired⟩
  opensSplice := by
    rintro before t after rfl is
    obtain ⟨p, q, first, takes, -⟩ := reads.split
    rw [is] at takes
    cases takes.of_closeSplice
    obtain ⟨front, u, inside, rfl, opens, paired⟩ := first.opensSplice
    exact ⟨front, u, inside, rfl, opens, paired, inner_of_bracketsAfter paired⟩

end

end HtmlTemplate
