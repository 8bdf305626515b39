import HtmlTemplate.Number.Literal
import HtmlTemplate.Token.Lexer
import HtmlTemplate.Tree.Basic
import HtmlTemplate.Tree.Escapes

/-!
# Parser

Trees are read from a list of lexemes by recursive descent. What is read always leaves fewer lexemes
than there were, and so every loop and every recursion ends. A reader that is out of lexemes says
what it wanted: what this means depends on why the lexemes ended.
-/

namespace HtmlTemplate

inductive Stop where
  | fault (f : Fault)
  | outOfLexemes (cause : Cause)
  deriving DecidableEq

def stopAt {α : Type} (t : Lexeme) (cause : Cause) : Except Stop α :=
  .error (.fault ⟨t.region, cause⟩)

/-- A value and the lexemes behind it, fewer than `bound`. -/
structure Parsed (α : Type) (bound : Nat) where
  value : α
  rest : List Lexeme
  shorter : rest.length < bound

abbrev Parse (α : Type) (bound : Nat) := Except Stop (Parsed α bound)

def nextIs (token : Token) (ts : List Lexeme) : Bool := ts.head?.any (·.token == token)

def expect (token : Token) : (ts : List Lexeme) → Parse Lexeme ts.length
  | [] => .error (.outOfLexemes (.expectedAtEnd token))
  | t :: rest =>
    if t.token = token then .ok ⟨t, rest, by simp⟩ else stopAt t (.expected token t.token)

def parseIdent (ts : List Lexeme) : Parse Ident ts.length := do
  let ⟨t, rest, h⟩ ← expect .identifier ts
  return ⟨⟨t.word, t.region⟩, rest, h⟩

def Token.operator? (product : Bool) : Token → Option Operator
  | .operator op => if op.isProduct = product then some op else none
  | _ => none

def numberLiteral (chars : List Char) (region : Region) : Except Stop Expr :=
  match NumberLiteral.read? chars with
  | some n => .ok (.literal (.number n) region)
  | none => .error (.fault ⟨region, .number⟩)

def stringLiteral (t : Lexeme) : Except Stop Expr :=
  match decodeString? (insideQuotes t.chars) with
  | some s => .ok (.literal (.string (String.ofList s)) t.region)
  | none => stopAt t .escape

/-- A sign touches its number. A plus says nothing. -/
def signedNumber (sign : Lexeme) (op : Operator) (number : Lexeme) : Except Stop Expr :=
  if sign.region.touches number.region then
    let chars := if op = .subtract then '-' :: number.chars else number.chars
    numberLiteral chars (sign.region.join number.region)
  else stopAt sign (.looseSign number.word)

/-! ## Expressions -/

mutual

def parseExpr (ts : List Lexeme) : Parse Expr ts.length := do
  let ⟨first, rest, h⟩ ← parseProduct ts
  let ⟨e, rest', h'⟩ ← parseSums first rest
  return ⟨e, rest', by omega⟩
termination_by 5 * ts.length + 3

/-- The products added to or subtracted from what stands on their left. -/
def parseSums (left : Expr) (ts : List Lexeme) : Parse Expr (ts.length + 1) :=
  match ts with
  | [] => .ok ⟨left, [], by simp⟩
  | t :: rest =>
    match t.token.operator? false with
    | none => .ok ⟨left, t :: rest, by simp⟩
    | some op => do
      let ⟨right, rest', h⟩ ← parseProduct rest
      let ⟨e, rest'', h'⟩ ← parseSums (.binary op left right) rest'
      return ⟨e, rest'', by simp only [List.length_cons]; omega⟩
termination_by 5 * ts.length

def parseProduct (ts : List Lexeme) : Parse Expr ts.length := do
  let ⟨first, rest, h⟩ ← parseAtom ts
  let ⟨e, rest', h'⟩ ← parseFactors first rest
  return ⟨e, rest', by omega⟩
termination_by 5 * ts.length + 2

def parseFactors (left : Expr) (ts : List Lexeme) : Parse Expr (ts.length + 1) :=
  match ts with
  | [] => .ok ⟨left, [], by simp⟩
  | t :: rest =>
    match t.token.operator? true with
    | none => .ok ⟨left, t :: rest, by simp⟩
    | some op => do
      let ⟨right, rest', h⟩ ← parseAtom rest
      let ⟨e, rest'', h'⟩ ← parseFactors (.binary op left right) rest'
      return ⟨e, rest'', by simp only [List.length_cons]; omega⟩
termination_by 5 * ts.length

def parseAtom (ts : List Lexeme) : Parse Expr ts.length :=
  match ts with
  | [] => .error (.outOfLexemes .anythingAtEnd)
  | t :: rest =>
    match t.token with
    | .number => do
      let e ← numberLiteral t.chars t.region
      return ⟨e, rest, by simp⟩
    | .string => do
      let e ← stringLiteral t
      return ⟨e, rest, by simp⟩
    | .trueWord => .ok ⟨.literal (.bool true) t.region, rest, by simp⟩
    | .falseWord => .ok ⟨.literal (.bool false) t.region, rest, by simp⟩
    | .noneWord => .ok ⟨.literal .nothing t.region, rest, by simp⟩
    | .operator op =>
      if op.isProduct then stopAt t .productSign
      else do
        let ⟨number, rest', h⟩ ← expect .number rest
        let e ← signedNumber t op number
        return ⟨e, rest', by simp only [List.length_cons]; omega⟩
    | .opening .round => do
      let ⟨e, rest', h⟩ ← parseExpr rest
      let ⟨_, rest'', h'⟩ ← expect (.closing .round) rest'
      return ⟨e, rest'', by simp only [List.length_cons]; omega⟩
    | .opening .square => do
      let ⟨items, rest', h⟩ ← parseItems .square rest
      let ⟨close, rest'', h'⟩ ← expect (.closing .square) rest'
      return ⟨.array items (t.region.join close.region), rest'', by
        simp only [List.length_cons]; omega⟩
    | .opening .curly => do
      let ⟨entries, rest', h⟩ ← parseEntries rest
      let ⟨close, rest'', h'⟩ ← expect (.closing .curly) rest'
      return ⟨.dict entries (t.region.join close.region), rest'', by
        simp only [List.length_cons]; omega⟩
    | .identifier =>
      let name : Ident := ⟨t.word, t.region⟩
      match rest with
      | [] => .ok ⟨.var name, [], by simp⟩
      | p :: rest =>
        if p.token = .opening .round then do
          let ⟨arguments, rest', h⟩ ← parseItems .round rest
          let ⟨close, rest'', h'⟩ ← expect (.closing .round) rest'
          return ⟨.call name arguments (t.region.join close.region), rest'', by
            simp only [List.length_cons]; omega⟩
        else .ok ⟨.var name, p :: rest, by simp⟩
    | token => stopAt t (.noExpression token)
termination_by 5 * ts.length + 1

/-- Expressions with commas between them and perhaps one behind, up to a closing bracket. -/
def parseItems (close : Bracket) (ts : List Lexeme) : Parse (List Expr) (ts.length + 1) :=
  if nextIs (.closing close) ts then .ok ⟨[], ts, by simp⟩
  else do
    let ⟨e, rest, h⟩ ← parseExpr ts
    match rest, h with
    | [], h => return ⟨[e], [], by omega⟩
    | c :: rest, h =>
      have : rest.length + 1 < ts.length := h
      if c.token = .comma then
        let ⟨es, rest', h'⟩ ← parseItems close rest
        return ⟨e :: es, rest', by omega⟩
      else return ⟨[e], c :: rest, by omega⟩
termination_by 5 * ts.length + 4

def parseEntries (ts : List Lexeme) : Parse (List (Expr × Expr)) (ts.length + 1) :=
  if nextIs (.closing .curly) ts then .ok ⟨[], ts, by simp⟩
  else do
    let ⟨key, rest, h⟩ ← parseExpr ts
    let ⟨_, rest', h'⟩ ← expect .colon rest
    let ⟨value, rest'', h''⟩ ← parseExpr rest'
    match rest'', h'' with
    | [], h'' => return ⟨[(key, value)], [], by omega⟩
    | c :: rest'', h'' =>
      have : rest''.length + 1 < rest'.length := h''
      if c.token = .comma then
        let ⟨es, rest''', h'''⟩ ← parseEntries rest''
        return ⟨(key, value) :: es, rest''', by omega⟩
      else return ⟨[(key, value)], c :: rest'', by omega⟩
termination_by 5 * ts.length + 4

end

/-! ## Statements -/

/-- The attributes of a tag, with commas as between items. -/
def parseAttributes (ts : List Lexeme) : Parse (List (Ident × Expr)) (ts.length + 1) :=
  if nextIs (.closing .round) ts then .ok ⟨[], ts, by simp⟩
  else do
    let ⟨key, rest, h⟩ ← parseIdent ts
    let ⟨_, rest', h'⟩ ← expect .assign rest
    let ⟨value, rest'', h''⟩ ← parseExpr rest'
    match rest'', h'' with
    | [], h'' => return ⟨[(key, value)], [], by omega⟩
    | c :: rest'', h'' =>
      have : rest''.length + 1 < rest'.length := h''
      if c.token = .comma then
        let ⟨later, rest''', h'''⟩ ← parseAttributes rest''
        return ⟨(key, value) :: later, rest''', by omega⟩
      else return ⟨[(key, value)], c :: rest'', by omega⟩
termination_by ts.length

/-- The parts of a text line up to its end. -/
def parseParts (m : Markers) (ts : List Lexeme) : Parse (List Part) ts.length :=
  match ts with
  | [] => .error (.outOfLexemes .anythingAtEnd)
  | t :: rest =>
    match t.token with
    | .text => do
      let ⟨parts, rest', h⟩ ← parseParts m rest
      return ⟨.text (plainText m t.chars) :: parts, rest', by simp only [List.length_cons]; omega⟩
    | .openSplice => do
      let ⟨e, rest', h⟩ ← parseExpr rest
      let ⟨_, rest'', h'⟩ ← expect .closeSplice rest'
      let ⟨parts, rest''', h''⟩ ← parseParts m rest''
      return ⟨.splice e :: parts, rest''', by simp only [List.length_cons]; omega⟩
    | .newline => .ok ⟨[], rest, by simp⟩
    | token => stopAt t (.noTextPart token)
termination_by ts.length

def parseText (m : Markers) (marker : Lexeme) (ts : List Lexeme) : Parse Statement ts.length := do
  let ⟨parts, rest, h⟩ ← parseParts m ts
  match parts with
  | [] => stopAt marker .emptyText
  | parts => return ⟨.text parts, rest, h⟩

def parseAssign (ts : List Lexeme) : Parse Statement ts.length := do
  let ⟨name, rest, h⟩ ← parseIdent ts
  let ⟨_, rest', h'⟩ ← expect .assign rest
  let ⟨value, rest'', h''⟩ ← parseExpr rest'
  let ⟨_, rest''', h'''⟩ ← expect .newline rest''
  return ⟨.assign name value, rest''', by omega⟩

/-- What stands between the name of a tag and its body. -/
def parseHead (ts : List Lexeme) : Parse (List (Ident × Expr)) (ts.length + 1) :=
  match ts with
  | [] => .ok ⟨[], [], by simp⟩
  | p :: rest =>
    if p.token = .opening .round then do
      let ⟨attributes, rest', h⟩ ← parseAttributes rest
      let ⟨_, rest'', h'⟩ ← expect (.closing .round) rest'
      return ⟨attributes, rest'', by simp only [List.length_cons]; omega⟩
    else .ok ⟨[], p :: rest, by simp⟩

/-- The line end after a colon, and the indentation behind it. -/
def parseIndent (ts : List Lexeme) : Parse Unit ts.length := do
  let ⟨_, rest, h⟩ ← expect .colon ts
  let ⟨_, rest', h'⟩ ← expect .newline rest
  match rest', h' with
  | [], _ => .error (.outOfLexemes .noBlockAtEnd)
  | t :: rest', h' =>
    have : rest'.length + 1 < rest.length := h'
    if t.token = .indent then return ⟨(), rest', by omega⟩
    else stopAt t .noBlock

mutual

def parseStatement (m : Markers) (ts : List Lexeme) : Parse Statement ts.length :=
  match ts with
  | [] => .error (.outOfLexemes .anythingAtEnd)
  | t :: rest =>
    match t.token with
    | .keyword .varKw => do
      let ⟨s, rest', h⟩ ← parseAssign rest
      return ⟨s, rest', by simp only [List.length_cons]; omega⟩
    | .keyword .ifKw => do
      let ⟨s, rest', h⟩ ← parseChoice m rest
      return ⟨s, rest', by simp only [List.length_cons]; omega⟩
    | .keyword .forKw => do
      let ⟨name, rest', h⟩ ← parseIdent rest
      let ⟨_, rest'', h'⟩ ← expect (.keyword .inKw) rest'
      let ⟨iterable, rest''', h''⟩ ← parseExpr rest''
      let ⟨body, rest'''', h'''⟩ ← parseBlock m rest'''
      return ⟨.loop name iterable body, rest'''', by simp only [List.length_cons]; omega⟩
    | .identifier => do
      let name : Ident := ⟨t.word, t.region⟩
      let ⟨attributes, rest', h⟩ ← parseHead rest
      if nextIs .colon rest' then
        let ⟨body, rest'', h'⟩ ← parseBlock m rest'
        return ⟨.tag name attributes body, rest'', by simp only [List.length_cons]; omega⟩
      else
        let ⟨_, rest'', h'⟩ ← expect .newline rest'
        return ⟨.tag name attributes [], rest'', by simp only [List.length_cons]; omega⟩
    | .marker => do
      let ⟨s, rest', h⟩ ← parseText m t rest
      return ⟨s, rest', by simp only [List.length_cons]; omega⟩
    | .keyword .elifKw => stopAt t (.strayBranch .elifKw)
    | .keyword .elseKw => stopAt t (.strayBranch .elseKw)
    | .indent => stopAt t .strayIndent
    | token => stopAt t (.noStatement token)
termination_by 2 * ts.length

/-- A condition, its block, and the branches that belong to it. A further condition is the only
statement of the alternative. -/
def parseChoice (m : Markers) (ts : List Lexeme) : Parse Statement ts.length := do
  let ⟨condition, rest, h⟩ ← parseExpr ts
  let ⟨body, rest', h'⟩ ← parseBlock m rest
  match rest', h' with
  | [], h' => return ⟨.choice condition body [], [], by omega⟩
  | t :: rest', h' =>
    have : rest'.length + 1 < rest.length := h'
    if t.token = .keyword .elifKw then
      let ⟨next, rest'', h''⟩ ← parseChoice m rest'
      return ⟨.choice condition body [next], rest'', by omega⟩
    else if t.token = .keyword .elseKw then
      let ⟨otherwise, rest'', h''⟩ ← parseBlock m rest'
      return ⟨.choice condition body otherwise, rest'', by omega⟩
    else return ⟨.choice condition body [], t :: rest', by omega⟩
termination_by 2 * ts.length

def parseBlock (m : Markers) (ts : List Lexeme) : Parse (List Statement) ts.length := do
  let ⟨_, rest, h⟩ ← parseIndent ts
  let ⟨body, rest', h'⟩ ← parseBody m rest
  let ⟨_, rest'', h''⟩ ← expect .dedent rest'
  return ⟨body, rest'', by omega⟩
termination_by 2 * ts.length

/-- The statements of a block up to the end of its indentation. -/
def parseBody (m : Markers) (ts : List Lexeme) : Parse (List Statement) (ts.length + 1) :=
  if nextIs .dedent ts then .ok ⟨[], ts, by simp⟩
  else do
    let ⟨s, rest, h⟩ ← parseStatement m ts
    let ⟨later, rest', h'⟩ ← parseBody m rest
    return ⟨s :: later, rest', by omega⟩
termination_by 2 * ts.length + 1

end

def parseStatements (m : Markers) (ts : List Lexeme) : Except Stop (List Statement) :=
  match ts with
  | [] => .ok []
  | t :: rest => do
    let ⟨s, rest', _⟩ ← parseStatement m (t :: rest)
    let later ← parseStatements m rest'
    return s :: later
termination_by ts.length
decreasing_by assumption

/-- The statements of a source of the given length. A fault behind the lexemes counts as soon as
nothing wrong was found in front of it. -/
def Lexemes.parse (m : Markers) (length : Nat) (lexemes : Lexemes) :
    Except Fault (List Statement) :=
  match parseStatements m lexemes.list, lexemes.fault with
  | .error (.fault f), _ => .error f
  | .error (.outOfLexemes _), some f => .error f
  | .error (.outOfLexemes cause), none => .error ⟨.point length, cause⟩
  | .ok _, some f => .error f
  | .ok statements, none => .ok statements

/-- Reads a whole source. -/
def parseSource (m : Markers) (source : List Char) : Except Fault (List Statement) :=
  (Lexemes.ofSource m source).parse m (byteLength source)

end HtmlTemplate
