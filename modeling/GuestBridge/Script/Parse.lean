import GuestBridge.Script.Syntax

/-!
# The parser's monad

A parser reads an array of lexemes from a position on, and either moves on with a result or refuses
the script. Which refusal is reported follows fixed rules: a token that could not be cut wins over
the parser's own complaint, also when it comes later in the script, and so does a bracket that is
never closed when the complaint is about a later line.
-/

namespace GuestBridge.Script

/-- What is parsed: the lexemes, and the class whose body they belong to. -/
structure Source where
  lexemes : Array Lexeme
  owner : Option String

/-- Parsers: readers of lexemes with a position that may refuse the script. -/
abbrev Parse := ReaderT Source (StateT Nat (Except Failure))

/-- The name that a name stands for inside a class: one that starts with two underscores and does
not end with two is marked with the name of the class. -/
def ownName (owner : Option String) (id : String) : String :=
  match owner with
  | none => id
  | some c =>
    let bare := c.toList.dropWhile (· == '_')
    if id.startsWith "__" && !id.endsWith "__" && !bare.isEmpty then
      "_" ++ String.ofList bare ++ id
    else id

namespace Parse

/-- The lexemes that are parsed. -/
def lexemes : Parse (Array Lexeme) := do
  return (← read).lexemes

/-- The lexeme at a position; past the end, the last one. -/
def lexemeAt (ls : Array Lexeme) (i : Nat) : Lexeme :=
  ls.getD i (ls.back?.getD ⟨.endMarker, 0, [], [], 0⟩)

/-- The refusal of a bracket that is never closed. -/
def neverClosed (bracket : Char) (line : Nat) (start : List Char) : Failure :=
  ⟨.grammar, "'" ++ String.singleton bracket ++ "' was never closed", line, .bracket start, none⟩

/-- The refusal to report instead of `own`, which the parser made when it had read up to position
`i`: that of a later token, or that of a bracket left open on an earlier line. -/
def prevailing (ls : Array Lexeme) (i : Nat) (own : Failure) : Failure :=
  let rest := ls.toList.drop i
  let reached := max own.line (lexemeAt ls i).line
  let later := rest.findSome? fun l => match l.token with
    | .invalid why => some why
    | .unclosed b line start => if reached > line then some (neverClosed b line start) else none
    | _ => none
  later.getD own

/-- Refuses the script with the parser's own message about the given line. -/
def fail {α : Type} (message : String) (line : Nat) (kind : FailureKind := .grammar) : Parse α := do
  let ls ← lexemes
  let i ← get
  let l := lexemeAt ls i
  throw (prevailing ls i ⟨kind, message, line, if l.line == line then l.pointer else .line, none⟩)

/-- The lexeme under the position. -/
def here : Parse Lexeme := do
  return lexemeAt (← lexemes) (← get)

/-- Refuses the script because of the token under the position. -/
def unexpected {α : Type} : Parse α := do
  let ls ← lexemes
  let i ← get
  let l := lexemeAt ls i
  match l.token with
  | .invalid why => throw why
  | .unclosed b line start => throw (neverClosed b line start)
  | .indent => throw ⟨.indentation, "unexpected indent", l.line, l.pointer, none⟩
  | .dedent => throw ⟨.indentation, "unexpected unindent", l.line, .line, none⟩
  | _ => throw (prevailing ls i ⟨.grammar, "invalid syntax", l.line, l.pointer, none⟩)

/-- The token under the position; one that could not be cut refuses the script. -/
def peek : Parse Token := do
  match (← here).token with
  | .invalid why => throw why
  | .unclosed b line start => throw (neverClosed b line start)
  | t => return t

/-- The token `k` places further, without complaint. -/
def peekAhead (k : Nat) : Parse Token := do
  return (lexemeAt (← lexemes) ((← get) + k)).token

/-- What a parser gives from here and the position it reaches, without moving; `none` where it
refuses the script, except because a bracket is never closed, which nothing else can mend. -/
def attempt {α : Type} (p : Parse α) : Parse (Option (α × Nat)) := do
  let i ← get
  let r ← tryCatch (do let a ← p; return some (a, ← get)) fun why =>
    match why.pointer with
    | .bracket _ => throw why
    | _ => pure none
  set i
  return r

/-- Whether a parser accepts what stands here. -/
def accepts {α : Type} (p : Parse α) : Parse Bool :=
  return (← attempt p).isSome

/-- The line of the token under the position. -/
def line : Parse Nat := do
  return (← here).line

/-- Moves past the token under the position. -/
def advance : Parse Unit :=
  modify (· + 1)

/-- Whether a token is the given operator. -/
def isOp (o : String) : Token → Bool
  | .op t => t == o
  | _ => false

/-- Whether a token is the given reserved word. -/
def isWord (w : String) : Token → Bool
  | .name t => t == w
  | _ => false

/-- Whether the given operator stands under the position. -/
def atOp (o : String) : Parse Bool :=
  return isOp o (← peek)

/-- Whether the given reserved word stands under the position. -/
def atWord (w : String) : Parse Bool :=
  return isWord w (← peek)

/-- Moves past the given operator if it stands there, and says whether it did. -/
def acceptOp (o : String) : Parse Bool := do
  if ← atOp o then advance; return true else return false

/-- Moves past the given reserved word if it stands there, and says whether it did. -/
def acceptWord (w : String) : Parse Bool := do
  if ← atWord w then advance; return true else return false

/-- Moves past the given operator or refuses the script. -/
def expectOp (o : String) : Parse Unit := do
  unless ← acceptOp o do unexpected

/-- Moves past the given reserved word or refuses the script. -/
def expectWord (w : String) : Parse Unit := do
  unless ← acceptWord w do unexpected

/-- Moves past the given operator or complains that it was expected. -/
def forceOp (o : String) : Parse Unit := do
  unless ← acceptOp o do fail ("expected '" ++ o ++ "'") (← line)

/-- Moves past the colon of a compound statement; at a line end its absence is named. -/
def expectColon : Parse Unit := do
  match ← peek with
  | .op ":" => advance
  | .newline => fail "expected ':'" (← line)
  | _ => unexpected

/-- An identifier that is not reserved. -/
def identifier : Parse String := do
  match ← peek with
  | .name id => if isKeyword id then unexpected else advance; return id
  | _ => unexpected

/-- Whether a token is an identifier that is not reserved. -/
def isIdentifier : Token → Bool
  | .name id => !isKeyword id
  | _ => false

/-- Whether a token is the end of a line. -/
def isNewline : Token → Bool
  | .newline => true
  | _ => false

/-- The name that a word stands for where it is parsed. -/
def own (id : String) : Parse String :=
  return ownName (← read).owner id

/-- An identifier as the name that it stands for. -/
def ownIdentifier : Parse String := do
  own (← identifier)

/-- Whether a token can start an operand and cannot continue the one before it. -/
def startsOperand : Token → Bool
  | .name id => !isKeyword id || ["None", "True", "False", "not", "lambda"].contains id
  | .int _ _ | .float _ | .imaginary _ | .str _ _ => true
  | .op o => ["\x7b", "~", "..."].contains o
  | _ => false

/-- Whether a token can start an expression. -/
def startsExpression : Token → Bool
  | .name id => !isKeyword id || ["None", "True", "False", "not", "lambda", "yield"].contains id
  | .int _ _ | .float _ | .imaginary _ | .str _ _ => true
  | .op o => ["(", "[", "\x7b", "-", "+", "~", "...", "*", "**"].contains o
  | _ => false

end Parse

end GuestBridge.Script
