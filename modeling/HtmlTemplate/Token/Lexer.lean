import HtmlTemplate.Source.Fault
import HtmlTemplate.Token.Indentation
import HtmlTemplate.Token.Scan

/-!
# Lexer

The lexer reads a source from line to line. What it is reading decides which characters matter: the
start of a line, a statement, the text of a text line, or an expression spliced into it. A step
shortens the rest or settles what is read next, so that the lexemes of a source come to an end.
-/

namespace HtmlTemplate

inductive Mode where
  | lineStart
  | statement
  | text
  | splice
  | done
  deriving DecidableEq

/-- How far a mode is from the end when no characters are left. -/
def Mode.rank : Mode → Nat
  | .lineStart => 2
  | .statement | .text | .splice => 1
  | .done => 0

/-- The line end that is still owed at the end. -/
def Mode.owed : Mode → Nat
  | .lineStart | .statement | .text | .splice => 1
  | .done => 0

theorem Mode.rank_pos {m : Mode} (active : m ≠ .done) : 0 < m.rank ∧ m.owed = 1 := by
  cases m with
  | done => exact absurd rfl active
  | _ => decide

structure Lexer where
  markers : Markers
  rest : List Char
  offset : Nat := 0
  mode : Mode := .lineStart
  /-- The indentations of the open blocks, innermost first. -/
  indents : Indents := []
  /-- The brackets open in the line, innermost first, with their offsets. -/
  nesting : List (Bracket × Nat) := []
  /-- Lexemes to be returned before more is read. -/
  pending : List Lexeme := []
  deriving DecidableEq

namespace Lexer

/-- Passes over characters. -/
def skip (l : Lexer) (chars rest : List Char) : Lexer :=
  { l with rest, offset := l.offset + byteLength chars }

/-- Returns a lexeme of the next characters. -/
def emit (l : Lexer) (token : Token) (chars rest : List Char) : Lexer :=
  { l.skip chars rest with pending := l.pending ++ [⟨token, l.offset, chars⟩] }

/-- Ends the line and closes every block. -/
def finish (l : Lexer) : Except Fault Lexer :=
  match l.nesting with
  | (b, start) :: _ => .error ⟨⟨start, start + 1⟩, .openBracket b⟩
  | [] =>
    if l.mode = .splice then .error ⟨.point l.offset, .openSplice l.markers.closing⟩
    else
      let ending := if l.mode = .lineStart then [] else [⟨.newline, l.offset, []⟩]
      let dedents := List.replicate l.indents.length ⟨.dedent, l.offset, []⟩
      .ok { l with mode := .done, indents := [], pending := l.pending ++ ending ++ dedents }

/-- Blank lines say nothing; the indentation of any other line opens or closes blocks. -/
def startLine (l : Lexer) : Except Fault Lexer :=
  let run := Run.takeWhile isBlank l.rest
  match run.rest with
  | [] => .ok (l.skip run.chars [])
  | '\n' :: cs => .ok (l.skip (run.chars ++ ['\n']) cs)
  | '\r' :: '\n' :: cs => .ok (l.skip (run.chars ++ ['\r', '\n']) cs)
  | c :: cs =>
    match l.indents.change? l.offset run.chars with
    | none => .error ⟨⟨l.offset, l.offset + byteLength run.chars⟩, .indentation⟩
    | some (indents, changes) =>
      let l := { l.skip run.chars run.rest with indents, pending := l.pending ++ changes }
      if c = l.markers.text then .ok { l.emit .marker [c] cs with mode := .text }
      else .ok { l with mode := .statement }

/-- The text of a line, without the carriage return of its line end. -/
def beforeLineEnd (text : List Char) : List Char :=
  if text.getLast? = some '\r' then text.dropLast else text

def readText (l : Lexer) : Lexer :=
  let run := Run.text l.markers l.rest
  match run.rest with
  | [] => l.emit .text run.chars []
  | c :: cs =>
    if c = '\n' then
      let text := beforeLineEnd run.chars
      if text = [] then { (l.skip run.chars run.rest).emit .newline [c] cs with mode := .lineStart }
      else { l.skip run.chars run.rest with pending := l.pending ++ [⟨.text, l.offset, text⟩] }
    else if run.chars = [] then { l.emit .openSplice [c] cs with mode := .splice }
    else l.emit .text run.chars run.rest

def openBracket (l : Lexer) (b : Bracket) (c : Char) (cs : List Char) : Lexer :=
  { l.emit (.opening b) [c] cs with nesting := (b, l.offset) :: l.nesting }

def closeBracket (l : Lexer) (b : Bracket) (c : Char) (cs : List Char) : Except Fault Lexer :=
  match l.nesting with
  | [] => .error ⟨⟨l.offset, l.offset + 1⟩, .unopenedBracket b⟩
  | (expected, _) :: outer =>
    if expected = b then .ok { l.emit (.closing b) [c] cs with nesting := outer }
    else .error ⟨⟨l.offset, l.offset + 1⟩, .wrongBracket expected b⟩

/-- Brackets join lines; a splice ends before its line does. -/
def endLine (l : Lexer) (cs : List Char) : Except Fault Lexer :=
  if l.nesting ≠ [] then .ok (l.skip ['\n'] cs)
  else if l.mode = .splice then
    .error ⟨⟨l.offset, l.offset + 1⟩, .splicedLine l.markers.closing⟩
  else .ok { l.emit .newline ['\n'] cs with mode := .lineStart }

def readString (l : Lexer) (cs : List Char) : Except Fault Lexer :=
  match Run.string false cs with
  | (run, true) => .ok (l.emit .string ('"' :: run.chars) run.rest)
  | (run, false) =>
    .error ⟨⟨l.offset, l.offset + byteLength ('"' :: run.chars)⟩, .openString⟩

def punctuation : Char → Option Token
  | '*' => some (.operator .multiply)
  | '+' => some (.operator .add)
  | '/' => some (.operator .divide)
  | '-' => some (.operator .subtract)
  | '=' => some .assign
  | ',' => some .comma
  | ':' => some .colon
  | _ => none

def opening : Char → Option Bracket
  | '(' => some .round
  | '[' => some .square
  | '{' => some .curly
  | _ => none

def closing : Char → Option Bracket
  | ')' => some .round
  | ']' => some .square
  | '}' => some .curly
  | _ => none

/-- Reads on in a statement or a splice. The marker that closes a splice comes before every other
meaning of its character, but only outside brackets. -/
def readExpression (l : Lexer) (c : Char) (cs : List Char) : Except Fault Lexer :=
  if l.mode = .splice ∧ l.nesting = [] ∧ c = l.markers.closing then
    .ok { l.emit .closeSplice [c] cs with mode := .text }
  else match punctuation c, opening c, closing c with
  | some token, _, _ => .ok (l.emit token [c] cs)
  | _, some b, _ => .ok (l.openBracket b c cs)
  | _, _, some b => l.closeBracket b c cs
  | none, none, none =>
    if c = '"' then l.readString cs
    else if c = '\n' then l.endLine cs
    else if isGap c then
      let run := Run.takeWhile isGap cs
      .ok (l.skip (c :: run.chars) run.rest)
    else if c.isDigit then
      let run := Run.takeWhile isNumeral cs
      .ok (l.emit .number (c :: run.chars) run.rest)
    else if Unicode.isIdentStart c then
      let run := Run.takeWhile Unicode.isIdentContinue cs
      .ok (l.emit (.ofWord (String.ofList (c :: run.chars))) (c :: run.chars) run.rest)
    else .error ⟨⟨l.offset, l.offset + c.utf8Size⟩, .strangeCharacter⟩

def step (l : Lexer) : Except Fault Lexer :=
  match l.rest with
  | [] => l.finish
  | c :: cs =>
    match l.mode with
    | .lineStart => l.startLine
    | .text => .ok l.readText
    | .statement | .splice | .done => l.readExpression c cs

/-! ## Steps come to an end -/

/-- A bound on the lexemes that are still to come. -/
def remaining (l : Lexer) : Nat :=
  2 * l.rest.length + l.indents.length + l.pending.length + l.mode.owed

/-- Shrinks with each step and each lexeme returned. -/
def effort (l : Lexer) : Nat := 3 * l.remaining + l.mode.rank

theorem length_takeWhile (p : Char → Bool) (cs : List Char) :
    (Run.takeWhile p cs).chars.length + (Run.takeWhile p cs).rest.length = cs.length := by
  rw [← List.length_append, Run.takeWhile_append]

theorem finish_effort {l l' : Lexer} (active : l.mode ≠ .done) (rest : l.rest = [])
    (h : l.finish = .ok l') : l'.effort < l.effort := by
  simp only [finish] at h
  split at h
  · cases h
  · split at h
    · cases h
    · cases h
      have ahead := Mode.rank_pos active
      have ended : Mode.rank .done = 0 ∧ Mode.owed .done = 0 := ⟨rfl, rfl⟩
      simp only [effort, remaining, rest, List.length_append, List.length_replicate,
        List.length_nil]
      split
      · simp only [List.length_nil]; omega
      · simp only [List.length_cons, List.length_nil]; omega

theorem startLine_effort {l l' : Lexer} (mode : l.mode = .lineStart) (rest : l.rest ≠ [])
    (h : l.startLine = .ok l') : l'.effort < l.effort := by
  have total := length_takeWhile isBlank l.rest
  have positive := List.length_pos_iff.mpr rest
  simp only [startLine] at h
  split at h
  · cases h
    simp only [effort, remaining, skip, List.length_nil]
    omega
  · next cs eq =>
    cases h
    rw [eq] at total
    simp only [effort, remaining, skip, List.length_cons] at total ⊢
    omega
  · next cs eq =>
    cases h
    rw [eq] at total
    simp only [effort, remaining, skip, List.length_cons] at total ⊢
    omega
  · next c cs _ _ eq =>
    split at h
    · cases h
    · next indents changes change =>
      have levels := Indents.length_change? change
      rw [eq] at total h
      split at h <;> cases h <;>
        simp only [effort, remaining, skip, emit, mode, Mode.rank, Mode.owed,
          List.length_append, List.length_cons, List.length_nil] at total levels ⊢ <;> omega

theorem readText_effort {l : Lexer} (mode : l.mode = .text) (rest : l.rest ≠ []) :
    l.readText.effort < l.effort := by
  have total := congrArg List.length (Run.text_append l.markers l.rest)
  have positive := List.length_pos_iff.mpr rest
  simp only [List.length_append] at total
  simp only [readText]
  split
  · simp only [effort, remaining, skip, emit, List.length_append, List.length_cons, List.length_nil]
    omega
  · next c cs eq =>
    rw [eq] at total
    simp only [List.length_cons] at total
    split
    · split
      · simp only [effort, remaining, skip, emit, mode, Mode.rank, Mode.owed,
          List.length_append, List.length_cons, List.length_nil]
        omega
      · next text =>
        have : (Run.text l.markers l.rest).chars ≠ [] := by
          intro empty; simp [empty, beforeLineEnd] at text
        have := List.length_pos_iff.mpr this
        simp only [effort, remaining, skip, eq, List.length_append, List.length_cons,
          List.length_nil]
        omega
    · split
      · simp only [effort, remaining, skip, emit, mode, Mode.rank, Mode.owed,
          List.length_append, List.length_cons, List.length_nil]
        omega
      · next text =>
        have := List.length_pos_iff.mpr text
        simp only [effort, remaining, skip, emit, eq, List.length_append, List.length_cons,
          List.length_nil]
        omega

/-- Reading on past at least one character. -/
theorem emit_effort {l : Lexer} {c : Char} {cs : List Char} (rest : l.rest = c :: cs)
    (token : Token) (chars rest' : List Char) (shorter : rest'.length ≤ cs.length) :
    (l.emit token chars rest').effort < l.effort := by
  simp only [effort, remaining, skip, emit, rest, List.length_append, List.length_cons,
    List.length_nil]
  omega

theorem skip_effort {l : Lexer} {c : Char} {cs : List Char} (rest : l.rest = c :: cs)
    (chars rest' : List Char) (shorter : rest'.length ≤ cs.length) :
    (l.skip chars rest').effort < l.effort := by
  simp only [effort, remaining, skip, rest, List.length_cons]
  omega

theorem endLine_effort {l l' : Lexer} {c : Char} {cs : List Char} (active : l.mode ≠ .done)
    (rest : l.rest = c :: cs) (h : l.endLine cs = .ok l') : l'.effort < l.effort := by
  simp only [endLine] at h
  split at h
  · cases h
    exact skip_effort rest _ _ (Nat.le_refl _)
  · split at h
    · cases h
    · cases h
      have ahead := Mode.rank_pos active
      have started : Mode.rank .lineStart = 2 ∧ Mode.owed .lineStart = 1 := ⟨rfl, rfl⟩
      simp only [effort, remaining, skip, emit, rest, List.length_append, List.length_cons,
        List.length_nil]
      omega

theorem readExpression_effort {l l' : Lexer} {c : Char} {cs : List Char} (active : l.mode ≠ .done)
    (rest : l.rest = c :: cs) (h : l.readExpression c cs = .ok l') : l'.effort < l.effort := by
  have string := congrArg List.length (Run.string_append false cs)
  have gap := length_takeWhile isGap cs
  have numeral := length_takeWhile isNumeral cs
  have word := length_takeWhile Unicode.isIdentContinue cs
  simp only [List.length_append] at string
  simp only [readExpression] at h
  split at h
  · next splice =>
    cases h
    simp only [effort, remaining, skip, emit, rest, splice.1, Mode.rank, Mode.owed,
      List.length_append, List.length_cons, List.length_nil]
    omega
  · split at h
    · cases h
      exact emit_effort rest _ _ _ (Nat.le_refl _)
    · cases h
      exact emit_effort rest _ _ _ (Nat.le_refl _)
    · simp only [closeBracket] at h
      split at h
      · cases h
      · split at h
        · cases h
          exact emit_effort rest _ _ _ (Nat.le_refl _)
        · cases h
    · split at h
      · simp only [readString] at h
        split at h
        · next eq =>
          cases h
          rw [eq] at string
          dsimp only at string
          exact emit_effort rest _ _ _ (by omega)
        · cases h
      · split at h
        · exact endLine_effort active rest h
        · split at h
          · cases h
            exact skip_effort rest _ _ (by omega)
          · split at h
            · cases h
              exact emit_effort rest _ _ _ (by omega)
            · split at h
              · cases h
                exact emit_effort rest _ _ _ (by omega)
              · cases h

theorem step_effort {l l' : Lexer} (active : l.mode ≠ .done) (h : l.step = .ok l') :
    l'.effort < l.effort := by
  simp only [step] at h
  split at h
  · next rest => exact finish_effort active rest h
  · next c cs rest =>
    have nonempty : l.rest ≠ [] := by simp [rest]
    split at h
    · next mode => exact startLine_effort mode nonempty h
    · next mode => cases h; exact readText_effort mode nonempty
    · exact readExpression_effort active rest h
    · exact readExpression_effort active rest h
    · next mode => exact absurd mode active

/-- The next lexeme, none at the end, and the lexer after it. -/
def next (l : Lexer) : Except Fault (Option Lexeme × Lexer) :=
  match l.pending with
  | t :: pending => .ok (some t, { l with pending })
  | [] =>
    if _ : l.mode ≠ .done then
      match _ : l.step with
      | .ok l' => l'.next
      | .error f => .error f
    else .ok (none, l)
termination_by l.effort
decreasing_by exact step_effort ‹_› ‹_›

theorem next_effort {l l' : Lexer} {t : Lexeme} (h : l.next = .ok (some t, l')) :
    l'.effort < l.effort := by
  fun_induction next l with
  | case1 l t' pending eq =>
    cases h
    simp only [effort, remaining, eq, List.length_cons]
    omega
  | case2 l empty active l'' step ih => exact Nat.lt_trans (ih h) (step_effort active step)
  | case3 => cases h
  | case4 => cases h

end Lexer

/-- The lexemes of a source, up to its end or to a fault behind the last of them. -/
structure Lexemes where
  list : List Lexeme
  fault : Option Fault
  deriving DecidableEq

def Lexer.lexemes (l : Lexer) : Lexemes :=
  match _ : l.next with
  | .error f => ⟨[], some f⟩
  | .ok (none, _) => ⟨[], none⟩
  | .ok (some t, l') =>
    let later := l'.lexemes
    ⟨t :: later.list, later.fault⟩
termination_by l.effort
decreasing_by exact next_effort ‹_›

def Lexemes.ofSource (markers : Markers) (source : List Char) : Lexemes :=
  Lexer.lexemes { markers, rest := source }

end HtmlTemplate
