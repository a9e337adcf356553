import GuestBridge.Script.Expressions

/-!
# Parsing statements

Simple statements, compound statements with their blocks, and whole scripts. `Script.parse` is the
entry for both modes.
-/

namespace GuestBridge.Script

open Parse

/-- A script after parsing. -/
inductive Program
  | statements (body : List Stmt)
  | expression (e : Expr)
  deriving Inhabited

/-- Refuses an expression that cannot be assigned to, with the given verb. -/
def checkTarget (verb : String) (e : Expr) (l : Nat) : Parse Unit :=
  match invalidTarget? e with
  | none => pure ()
  | some bad => fail (verb ++ " " ++ bad.kindName) l

/-- The operator of an augmented assignment. -/
def augmentation? : Token → Option BinaryOp
  | .op "+=" => some .add
  | .op "-=" => some .sub
  | .op "*=" => some .mul
  | .op "/=" => some .div
  | .op "//=" => some .floorDiv
  | .op "%=" => some .mod
  | .op "**=" => some .pow
  | .op "&=" => some .bitAnd
  | .op "|=" => some .bitOr
  | .op "^=" => some .bitXor
  | .op "<<=" => some .shiftLeft
  | .op ">>=" => some .shiftRight
  | _ => none

/-- An expression list or a `yield`. -/
def rightSide (n : Nat) : Parse Expr := do
  if ← atWord "yield" then yieldExpr n else expressionList n

/-- The values after the equals signs of an assignment whose first target is parsed: the further
targets, last one first, and the value. -/
def assignmentChain : Nat → List Expr → Parse (List Expr × Expr)
  | 0, _ => unexpected
  | n + 1, targets => do
    let e ← rightSide n
    if ← acceptOp "=" then
      match e with
      | .yieldValue _ _ => fail "assignment to yield expression not possible" (← line)
      | e => checkTarget "cannot assign to" e (← line)
      assignmentChain n (e :: targets)
    else return (targets, e)

/-- Refuses `e = ...`, which starts at a position, if `e` cannot be assigned to; a slip for a
comparison is pointed out. -/
def checkAssigned (n start : Nat) (e : Expr) (l : Nat) : Parse Unit := do
  if (invalidTarget? e).isSome then slips n start
  match e with
  | .yieldValue _ _ => fail "assignment to yield expression not possible" l
  | e => checkTarget "cannot assign to" e l

/-- Refuses an annotation of what cannot have one. -/
def checkAnnotated (n : Nat) (e : Expr) (l : Nat) : Parse Unit := do
  if ← accepts (do advance; expression n) then
    match e with
    | .list _ _ => fail "only single target (not list) can be annotated" l
    | .tuple _ _ => fail "only single target (not tuple) can be annotated" l
    | .starred _ _ | .yieldValue _ _ => pure ()
    | _ => fail "illegal target for annotation" l

/-- A dotted module name. -/
def dottedName : Nat → Parse String
  | 0 => unexpected
  | n + 1 => do
    let id ← identifier
    if ← acceptOp "." then return id ++ "." ++ (← dottedName n) else return id

/-- The names of a plain import statement. -/
def importNames : Nat → Parse (List ImportName)
  | 0 => unexpected
  | n + 1 => do
    let path ← dottedName n
    let bound ← if ← acceptWord "as" then some <$> identifier else pure none
    if ← acceptOp "," then return ⟨path, bound⟩ :: (← importNames n) else return [⟨path, bound⟩]

/-- The names taken from a module, up to a closing bracket if `bracketed`. -/
def fromNames : Nat → (bracketed : Bool) → Parse (List ImportName)
  | 0, _ => unexpected
  | n + 1, bracketed => do
    let path ← identifier
    let bound ← if ← acceptWord "as" then some <$> identifier else pure none
    if ← acceptOp "," then
      if bracketed then
        if ← atOp ")" then return [⟨path, bound⟩]
        else return ⟨path, bound⟩ :: (← fromNames n bracketed)
      else if ← pure (match ← peek with | .newline => true | _ => false) then
        fail "trailing comma not allowed without surrounding parentheses" (← line)
      else return ⟨path, bound⟩ :: (← fromNames n bracketed)
    else return [⟨path, bound⟩]

/-- Names separated by commas. -/
def nameList : Nat → Parse (List String)
  | 0 => unexpected
  | n + 1 => do
    let id ← ownIdentifier
    if ← acceptOp "," then return id :: (← nameList n) else return [id]

/-- The target expressions of an expression list. -/
def targetsOf : Expr → List Expr
  | .tuple _ es => es
  | e => [e]

/-- The dots before the name of a relative module. -/
def dots : Nat → Parse Nat
  | 0 => unexpected
  | n + 1 => do
    if ← acceptOp "." then return (← dots n) + 1
    else if ← acceptOp "..." then return (← dots n) + 3
    else return 0

/-- An import of names from a module, after its first word. -/
def importFromRest (n l : Nat) : Parse Stmt := do
  let level ← dots n
  let module ← if level > 0 && (← atWord "import") then pure "" else dottedName n
  expectWord "import"
  if ← acceptOp "*" then return .importAll l level module
  else if ← acceptOp "(" then
    let names ← fromNames n true
    expectOp ")"
    return .importFrom l level module names
  else return .importFrom l level module (← fromNames n false)

/-- A statement that starts with an expression. -/
def expressionStatement (n l : Nat) : Parse Stmt := do
  let start ← get
  let bracketed ← atOp "("
  let e ← rightSide n
  match ← peek with
  | .op "=" =>
    checkAssigned n start e (← line)
    advance
    let (targets, value) ← assignmentChain n [e]
    return .assign l targets.reverse value
  | .op ":" =>
    match e with
    | .name _ _ | .attribute _ _ _ _ | .subscript _ _ _ =>
      advance
      let annotation ← expression n
      let value ← if ← acceptOp "=" then some <$> rightSide n else pure none
      let simple := match e with
        | .name _ _ => !bracketed
        | _ => false
      return .annotate l simple e annotation value
    | _ =>
      checkAnnotated n e l
      unexpected
  | .op ":=" =>
    match e with
    | .name _ _ | .tuple _ _ => unexpected
    | _ =>
      advance
      if ← accepts (expression n) then
        fail ("cannot use assignment expressions with " ++ e.kindName) l
      discard (expression n)
      unexpected
  | t =>
    match augmentation? t with
    | some op =>
      match e with
      | .name _ _ | .attribute _ _ _ _ | .subscript _ _ _ =>
        advance
        return .augment l e op (← rightSide n)
      | .yieldValue _ _ => unexpected
      | _ =>
        let i ← get
        advance
        discard (rightSide n)
        set i
        fail ("'" ++ e.kindName ++ "' is an illegal expression for augmented assignment") l
    | none => return .expr l e

/-- A statement that opens no block. -/
def simpleStatement (n : Nat) : Parse Stmt := do
  let l ← line
  match ← peek with
  | .name "pass" => advance; return .skip l
  | .name "break" => advance; return .breakLoop l
  | .name "continue" => advance; return .continueLoop l
  | .name "return" =>
    advance
    if startsExpression (← peek) && !(← atWord "yield") then
      return .returnValue l (some (← expressionList n))
    else return .returnValue l none
  | .name "raise" =>
    advance
    if startsExpression (← peek) then
      let e ← expression n
      let cause ← if ← acceptWord "from" then some <$> expression n else pure none
      return .raiseError l (some e) cause
    else return .raiseError l none none
  | .name "assert" =>
    advance
    let test ← expression n
    let message ← if ← acceptOp "," then some <$> expression n else pure none
    return .assertTrue l test message
  | .name "del" =>
    advance
    let e ← expressionList n
    let targets := targetsOf e
    for t in targets do
      match t with
      | .starred _ _ => fail "cannot delete starred" l
      | t => checkTarget "cannot delete" t l
    return .deleteTargets l targets
  | .name "global" => advance; return .global l (← nameList n)
  | .name "nonlocal" => advance; return .nonlocal l (← nameList n)
  | .name "import" => advance; return .importModules l (← importNames n)
  | .name "from" => advance; importFromRest n l
  | _ => expressionStatement n l

mutual

/-- The simple statements of one line. -/
def simpleStatements : Nat → Parse (List Stmt)
  | 0 => unexpected
  | n + 1 => do
    let s ← simpleStatement n
    if ← acceptOp ";" then
      if isNewline (← peek) then advance; return [s]
      else return s :: (← simpleStatements n)
    else if isNewline (← peek) then advance; return [s]
    else unexpected

/-- Statements up to the end of the block or script. -/
def statements : Nat → Parse (List Stmt)
  | 0 => unexpected
  | n + 1 => do
    match ← peek with
    | .endMarker | .dedent => return []
    | _ =>
      let ss ← statement n
      return ss ++ (← statements n)

/-- The block after a colon; `what` describes its statement, which starts on line `l`. -/
def block : Nat → (what : String) → (l : Nat) → Parse (List Stmt)
  | 0, _, _ => unexpected
  | n + 1, what, l => do
    if isNewline (← peek) then
      advance
      match ← peek with
      | .indent =>
        advance
        let ss ← statements n
        match ← peek with
        | .dedent => advance; return ss
        | _ => unexpected
      | _ =>
        fail ("expected an indented block after " ++ what ++ " on line " ++ toString l) (← line)
          .indentation
    else simpleStatements n

/-- One statement; a line of simple statements gives several. -/
def statement : Nat → Parse (List Stmt)
  | 0 => unexpected
  | n + 1 => do
    let l ← line
    match ← peek with
    | .name "if" =>
      advance
      return [← ifRest n "'if' statement" l]
    | .name "while" =>
      advance
      let test ← namedExpression n
      expectColon
      let body ← block n "'while' statement" l
      let orelse ← elseBlock n
      return [.whileLoop l test body orelse]
    | .name "for" =>
      advance
      let target ← loopTarget n
      checkTarget "cannot assign to" target l
      expectWord "in"
      let iter ← expressionList n
      expectColon
      let body ← block n "'for' statement" l
      let orelse ← elseBlock n
      return [.forLoop l target iter body orelse]
    | .name "try" =>
      advance
      forceOp ":"
      let body ← block n "'try' statement" l
      let handlers ← exceptClauses n
      if handlers.isEmpty then
        if ← atWord "finally" then
          let final ← finallyBlock n
          return [.tryBlock l body [] [] final]
        else fail "expected 'except' or 'finally' block" (← line)
      else
        let orelse ← elseBlock n
        let final ← finallyBlock n
        return [.tryBlock l body handlers orelse final]
    | .name "def" => return [← definition n []]
    | .name "class" => return [← definition n []]
    | .op "@" =>
      let ds ← decorators n
      return [← definition n ds]
    | _ => simpleStatements n

/-- The rest of an `if` or `elif` after its word. -/
def ifRest : Nat → (what : String) → (l : Nat) → Parse Stmt
  | 0, _, _ => unexpected
  | n + 1, what, l => do
    let test ← namedExpression n
    expectColon
    let body ← block n what l
    let l' ← line
    if ← acceptWord "elif" then
      return .ifElse l test body [← ifRest n "'elif' statement" l']
    else
      let orelse ← elseBlock n
      return .ifElse l test body orelse

/-- An `else` block, empty if there is none. -/
def elseBlock : Nat → Parse (List Stmt)
  | 0 => unexpected
  | n + 1 => do
    let l ← line
    if ← acceptWord "else" then
      forceOp ":"
      block n "'else' statement" l
    else return []

/-- A `finally` block, empty if there is none. -/
def finallyBlock : Nat → Parse (List Stmt)
  | 0 => unexpected
  | n + 1 => do
    let l ← line
    if ← acceptWord "finally" then
      forceOp ":"
      block n "'finally' statement" l
    else return []

/-- The `except` clauses of a `try`. -/
def exceptClauses : Nat → Parse (List Handler)
  | 0 => unexpected
  | n + 1 => do
    let l ← line
    if ← acceptWord "except" then
      let kind ← match ← peek with
        | .op ":" | .newline => pure none
        | _ => some <$> expression n
      if ← atOp "," then
        failIf (moreKinds n) "multiple exception types must be parenthesized" l
      let id ← if kind.isSome && (← acceptWord "as") then some <$> ownIdentifier else pure none
      expectColon
      let body ← block n "'except' statement" l
      return .mk l kind id body :: (← exceptClauses n)
    else return []

/-- What follows the first kind of exception where several stand without brackets. -/
def moreKinds : Nat → Parse Unit
  | 0 => unexpected
  | n + 1 => do
    expectOp ","
    discard <| expressionList n
    if ← acceptWord "as" then discard ownIdentifier
    expectOp ":"

/-- The decorators before a definition. -/
def decorators : Nat → Parse (List Expr)
  | 0 => unexpected
  | n + 1 => do
    if ← acceptOp "@" then
      let e ← namedExpression n
      if isNewline (← peek) then
        advance
        return e :: (← decorators n)
      else unexpected
    else return []

/-- The definition of a function or a class. -/
def definition : Nat → List Expr → Parse Stmt
  | 0, _ => unexpected
  | n + 1, ds => do
    let l ← line
    if ← acceptWord "def" then
      let id ← identifier
      forceOp "("
      let ps ← parameters n true ⟨false, false, false⟩ []
      expectOp ")"
      let returns ← if ← acceptOp "->" then some <$> expression n else pure none
      forceOp ":"
      let body ← block n "function definition" l
      return .functionDef l ds id (← own id) ps returns body
    else
      expectWord "class"
      let id ← identifier
      let args ← if ← acceptOp "(" then
          let args ← arguments n false []
          expectOp ")"
          pure args
        else pure []
      expectColon
      let body ← withReader (fun s => { s with owner := some id }) (block n "class definition" l)
      return .classDef l ds id (← own id) args body

end

/-- A whole script in the given mode. -/
def program (mode : Mode) (n : Nat) : Parse Program := do
  match mode with
  | .statements =>
    let body ← statements n
    match ← peek with
    | .endMarker => return .statements body
    | _ => unexpected
  | .expression =>
    let l ← line
    let e ← expression n
    let e ← if ← atOp "," then pure (.tuple l (e :: (← plainTail n))) else pure e
    skipNewlines n
    match ← peek with
    | .endMarker => return .expression e
    | _ => unexpected
where
  /-- The expressions after the first one, none of them starred. -/
  plainTail : Nat → Parse (List Expr)
    | 0 => unexpected
    | n + 1 => do
      if ← acceptOp "," then
        let t ← peek
        if startsExpression t && !isOp "*" t then
          let e ← expression n
          return e :: (← plainTail n)
        else return []
      else return []
  /-- Moves past line ends. -/
  skipNewlines : Nat → Parse Unit
    | 0 => pure ()
    | n + 1 => do
      if isNewline (← peek) then
        advance
        skipNewlines n

/-- Parses the text of a script. -/
def parse (mode : Mode) (source : String) : Except Failure Program := do
  let ls := tokens mode source
  let (p, _) ← (program mode (64 * ls.size + 64)).run ⟨ls, none⟩ |>.run 0
  return p

end GuestBridge.Script
