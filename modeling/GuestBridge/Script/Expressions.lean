import GuestBridge.Script.Strings

/-!
# Parsing expressions

A recursive descent over the lexemes, one function for each level of precedence that needs its own
treatment; the binary operators share one function that climbs by precedence. The first argument of
each function bounds the depth of the descent.
-/

namespace GuestBridge.Script

open Parse

/-- What an expression is called when it cannot be assigned to. -/
def Expr.kindName : Expr → String
  | .const _ .none => "None"
  | .const _ (.bool true) => "True"
  | .const _ (.bool false) => "False"
  | .const _ .ellipsis => "ellipsis"
  | .const _ _ => "literal"
  | .name _ _ => "name"
  | .tuple _ _ => "tuple"
  | .list _ _ => "list"
  | .set _ _ => "set display"
  | .dict _ _ => "dict literal"
  | .unary _ _ _ | .binary _ _ _ _ | .all _ _ | .any _ _ => "expression"
  | .compare _ _ _ => "comparison"
  | .cond _ _ _ _ => "conditional expression"
  | .lambda _ _ _ => "lambda"
  | .call _ _ _ => "function call"
  | .attribute _ _ _ _ => "attribute"
  | .subscript _ _ _ => "subscript"
  | .slice _ _ _ _ => "slice"
  | .starred _ _ => "starred"
  | .formatted _ _ => "f-string expression"
  | .listComp _ _ _ => "list comprehension"
  | .setComp _ _ _ => "set comprehension"
  | .dictComp _ _ _ _ => "dict comprehension"
  | .generator _ _ _ => "generator expression"
  | .walrus _ _ _ => "named expression"
  | .yieldValue _ _ => "yield expression"

/-- The first part of an expression that cannot be assigned to. -/
def invalidTarget? : Expr → Option Expr
  | .name _ _ | .attribute _ _ _ _ | .subscript _ _ _ => none
  | .starred _ e => invalidTarget? e
  | .tuple _ es => es.attach.findSome? fun ⟨e, _⟩ => invalidTarget? e
  | .list _ es => es.attach.findSome? fun ⟨e, _⟩ => invalidTarget? e
  | e => some e

/-- Whether an expression opens with a list, a tuple or a constant that has a name. An equals sign
after such an expression is not taken for a slip. -/
def Expr.opensPlain : Expr → Bool
  | .list _ _ | .tuple _ _ | .generator _ _ _ | .const _ .none | .const _ (.bool _) => true
  | .binary _ _ e _ | .attribute _ e _ _ | .subscript _ e _ | .call _ e _ => e.opensPlain
  | _ => false

/-- The binary operator of a token with its precedence, if it is one. -/
def binaryOperator? : Token → Option (BinaryOp × Nat)
  | .op "|" => some (.bitOr, 1)
  | .op "^" => some (.bitXor, 2)
  | .op "&" => some (.bitAnd, 3)
  | .op "<<" => some (.shiftLeft, 4)
  | .op ">>" => some (.shiftRight, 4)
  | .op "+" => some (.add, 5)
  | .op "-" => some (.sub, 5)
  | .op "*" => some (.mul, 6)
  | .op "/" => some (.div, 6)
  | .op "//" => some (.floorDiv, 6)
  | .op "%" => some (.mod, 6)
  | _ => none

/-- The comparison operator at the position, and how many tokens it takes. -/
def comparison? : Parse (Option (CompareOp × Nat)) := do
  match ← peek with
  | .op "<" => return some (.lt, 1)
  | .op "<=" => return some (.le, 1)
  | .op ">" => return some (.gt, 1)
  | .op ">=" => return some (.ge, 1)
  | .op "==" => return some (.eq, 1)
  | .op "!=" => return some (.ne, 1)
  | .name "in" => return some (.isIn, 1)
  | .name "not" => if isWord "in" (← peekAhead 1) then return some (.notIn, 2) else return none
  | .name "is" =>
    if isWord "not" (← peekAhead 1) then return some (.isNot, 2) else return some (.is, 1)
  | _ => return none

/-- The literal of a decimal integer, which must not be too long. -/
def integerLiteral (n digits line : Nat) : Parse Expr :=
  if digits > 4300 then
    fail ("Exceeds the limit (4300 digits) for integer string conversion: value has " ++
      toString digits ++ " digits; use sys.set_int_max_str_digits() to increase the limit - " ++
      "Consider hexadecimal for huge integer literals to avoid decimal conversion limits.") line
  else return .const line (.int n)

/-- Joins the parts of adjacent string literals into one expression. -/
def joinPieces (line : Nat) (formatted : Bool) (ps : List Piece) : Expr :=
  if formatted then .formatted line ps
  else .const line <| .str <| ps.foldl (fun t p => match p with | .text u => t ++ u | _ => t) .empty

/-- A refusal inside a field of a formatted string. Those of the parser say that they are about such
a string; those of the cutting into tokens do not. -/
def inField (lexemes : Array Lexeme) (text : List Char) (f : Failure) : Failure :=
  let fromTokens := lexemes.any fun l => match l.token with
    | .invalid why => why.message == f.message
    | _ => false
  { f with
    message := if fromTokens then f.message else "f-string: " ++ f.message
    text := some (f.text.getD text) }

/-- What is said of an equals sign where a comparison was meant. -/
def slipMessage : String := "invalid syntax. Maybe you meant '==' or ':=' instead of '='?"

/-- The same when the left side cannot be assigned to. -/
def assignmentSlip (e : Expr) : String :=
  "cannot assign to " ++ e.kindName ++ " here. Maybe you meant '==' instead of '='?"

/-- Whether neither a further equals sign nor `:=` stands here. -/
def notAssigned : Parse Bool := do
  let t ← peek
  return !(isOp "=" t || isOp ":=" t)

/-- Refuses the script with a message if a parser accepts what stands here. -/
def failIf {α : Type} (p : Parse α) (message : String) (l : Nat) : Parse Unit := do
  if ← accepts p then fail message l

/-- The statements of old that look like calls without brackets. -/
def isLegacyStatement (id : String) : Bool := id == "print" || id == "exec"

/-- Words that are reserved in some places only. -/
def softKeywords : List String := ["_", "case", "match"]

/-- Whether positional arguments follow ones given by keyword, and what is said about it. -/
def misplacedArgument (acc : List Argument) : Option String :=
  if acc.any fun | .unpackDict _ => true | _ => false then
    some "positional argument follows keyword argument unpacking"
  else if acc.any fun | .keyword _ _ => true | _ => false then
    some "positional argument follows keyword argument"
  else none

/-- What is said of a generator expression that needs brackets of its own. -/
def bareGenerator : String := "Generator expression must be parenthesized"

/-- What is said of the elements before a comprehension. -/
def bareTarget : String := "did you forget parentheses around the comprehension target?"

/-- What is said of a starred element of a comprehension. -/
def starredElement : String := "iterable unpacking cannot be used in comprehension"

/-- Where a parameter list stands in its order: which marks it has passed, and whether a default has
been given. -/
structure ParamState where
  slash : Bool
  star : Bool
  defaulted : Bool

mutual

/-- An expression: a lambda, or a disjunction with an optional condition. -/
def expression : Nat → Parse Expr
  | 0 => unexpected
  | n + 1 => do
    let first ← here
    let second ← peekAhead 1
    if ← atWord "lambda" then lambdaExpr n
    else
      let e ← disjunction n
      if startsOperand (← peek) then adjacent n first second
      if ← acceptWord "if" then
        let test ← disjunction n
        unless ← atWord "else" do
          unless ← atOp ":" do fail "expected 'else' after 'if' expression" (← line)
        expectWord "else"
        let no ← expression n
        return .cond first.line test e no
      else return e

/-- Complains about an operand that stands next to another one, the expression before it opening
with the given tokens. -/
def adjacent : Nat → (first : Lexeme) → (second : Token) → Parse Unit
  | 0, _, _ => pure ()
  | n + 1, first, second => do
    let word := match first.token with
      | .name id => if isKeyword id then "" else id
      | _ => ""
    let beforeString := word != "" && match second with
      | .str _ _ => true
      | _ => false
    let operand : Parse Expr := do
      if ← atWord "lambda" then lambdaExpr n else disjunction n
    if !beforeString && !softKeywords.contains word && !isLegacyStatement word then
      match ← attempt operand with
      | none => pure ()
      | some (_, i) =>
        let ls ← lexemes
        if (lexemeAt ls (i - 1)).level != 0 then
          let why := "invalid syntax. Perhaps you forgot a comma?"
          let next ← here
          let pointer := if next.line == first.line then next.pointer else .line
          throw (prevailing ls i ⟨.grammar, why, first.line, pointer, none⟩)
    if isLegacyStatement word && startsOperand second then
      failIf operand ("Missing parentheses in call to '" ++ word ++ "'. Did you mean " ++ word ++
        "(...)?") first.line

/-- A lambda expression. -/
def lambdaExpr : Nat → Parse Expr
  | 0 => unexpected
  | n + 1 => do
    let l ← line
    expectWord "lambda"
    let ps ← parameters n false ⟨false, false, false⟩ []
    expectOp ":"
    let body ← expression n
    return .lambda l ps body

/-- The rest of a parameter list, `acc` being the parameters read, the last one first; `annotated`
for those of a `def`, where annotations may follow the names. -/
def parameters : Nat → (annotated : Bool) → ParamState → List Param → Parse (List Param)
  | 0, _, _, _ => unexpected
  | n + 1, annotated, s, acc => do
    let closing (t : Token) : Bool := isOp (if annotated then ")" else ":") t
    let continueWith (s : ParamState) (acc : List Param) : Parse (List Param) := do
      if ← acceptOp "," then parameters n annotated s acc else return acc.reverse
    let annotation : Parse (Option Expr) := do
      if !annotated then return none
      else if ← acceptOp ":" then return some (← expression n)
      else return none
    match ← peek with
    | .op "/" =>
      if acc.isEmpty && !s.star then
        if isOp "," (← peekAhead 1) then fail "at least one argument must precede /" (← line)
        else unexpected
      if s.star then fail "/ must be ahead of *" (← line)
      if s.slash then fail "/ may appear only once" (← line)
      advance
      if ← atOp "*" then fail "expected comma between / and *" (← line)
      let acc := acc.map fun
        | .mk id .ordinary d a => .mk id .positionalOnly d a
        | p => p
      continueWith { s with slash := true } acc
    | .op "*" =>
      let next ← peekAhead 1
      if s.star then
        if isIdentifier next || isOp "," next then fail "* argument may appear only once" (← line)
        else unexpected
      let third ← peekAhead 2
      if closing next || (isOp "," next && (closing third || isOp "**" third)) then
        fail "named arguments must follow bare *" (← line)
      advance
      match ← peek with
      | .op "," => continueWith { s with star := true } acc
      | _ =>
        let id ← ownIdentifier
        let a ← annotation
        if ← atOp "=" then fail "var-positional argument cannot have default value" (← line)
        continueWith { s with star := true } (.mk id .variadic none a :: acc)
    | .op "**" =>
      advance
      let id ← ownIdentifier
      let a ← annotation
      if ← atOp "=" then fail "var-keyword argument cannot have default value" (← line)
      if ← acceptOp "," then
        let t ← peek
        if isIdentifier t || isOp "*" t || isOp "**" t || isOp "/" t then
          fail "arguments cannot follow var-keyword argument" (← line)
      return (.mk id .keywords none a :: acc).reverse
    | .op "(" =>
      let plain := !s.star && !s.slash && !s.defaulted
      if ← pure plain <&&> accepts (bracketedNames n) then
        fail (if annotated then "Function parameters cannot be parenthesized"
          else "Lambda expression parameters cannot be parenthesized") (← line)
      unexpected
    | .name w =>
      if isKeyword w then unexpected
      else
        let l ← line
        let id ← ownIdentifier
        let a ← annotation
        let kind := if s.star then ParamKind.keywordOnly else .ordinary
        if ← acceptOp "=" then
          let t ← peek
          if closing t || isOp "," t then fail "expected default value expression" (← line)
          let d ← expression n
          continueWith { s with defaulted := s.defaulted || !s.star }
            (.mk id kind (some d) a :: acc)
        else
          if s.defaulted && !s.star then
            let t ← peek
            if closing t || isOp "," t then fail "non-default argument follows default argument" l
          continueWith s (.mk id kind none a :: acc)
    | _ => return acc.reverse

/-- Names between round brackets. -/
def bracketedNames : Nat → Parse Unit
  | 0 => unexpected
  | n + 1 => do
    expectOp "("
    names n
    expectOp ")"

/-- Names separated by commas, the last of which may be followed by one. -/
def names : Nat → Parse Unit
  | 0 => unexpected
  | n + 1 => do
    discard identifier
    if ← acceptOp "," then
      if isIdentifier (← peek) then names n

/-- Operands joined by `or`. -/
def disjunction : Nat → Parse Expr
  | 0 => unexpected
  | n + 1 => do
    let l ← line
    let e ← conjunction n
    if ← atWord "or" then return .any l (e :: (← disjuncts n)) else return e

/-- The operands after the first `or`. -/
def disjuncts : Nat → Parse (List Expr)
  | 0 => unexpected
  | n + 1 => do
    if ← acceptWord "or" then
      let e ← conjunction n
      return e :: (← disjuncts n)
    else return []

/-- Operands joined by `and`. -/
def conjunction : Nat → Parse Expr
  | 0 => unexpected
  | n + 1 => do
    let l ← line
    let e ← inversion n
    if ← atWord "and" then return .all l (e :: (← conjuncts n)) else return e

/-- The operands after the first `and`. -/
def conjuncts : Nat → Parse (List Expr)
  | 0 => unexpected
  | n + 1 => do
    if ← acceptWord "and" then
      let e ← inversion n
      return e :: (← conjuncts n)
    else return []

/-- A negated or plain comparison. -/
def inversion : Nat → Parse Expr
  | 0 => unexpected
  | n + 1 => do
    let l ← line
    if ← acceptWord "not" then return .unary l .not (← inversion n)
    else
      let e ← arithmetic n 1
      let rest ← comparisons n
      return if rest.isEmpty then e else .compare l e rest

/-- The operators and operands of a chain of comparisons. -/
def comparisons : Nat → Parse (List Comparison)
  | 0 => unexpected
  | n + 1 => do
    match ← comparison? with
    | none => return []
    | some (op, k) =>
      modify (· + k)
      let e ← arithmetic n 1
      return .mk op e :: (← comparisons n)

/-- Binary operators of at least the given precedence. -/
def arithmetic : Nat → (precedence : Nat) → Parse Expr
  | 0, _ => unexpected
  | n + 1, precedence => do
    let l ← line
    let e ← factor n
    operands n l precedence e

/-- Continues the left operand `e`, which starts on line `l`. -/
def operands : Nat → (l precedence : Nat) → Expr → Parse Expr
  | 0, _, _, _ => unexpected
  | n + 1, l, precedence, e => do
    match binaryOperator? (← peek) with
    | none => return e
    | some (op, p) =>
      if p < precedence then return e
      else
        advance
        let r ← arithmetic n (p + 1)
        operands n l precedence (.binary l op e r)

/-- A signed operand, or a power. -/
def factor : Nat → Parse Expr
  | 0 => unexpected
  | n + 1 => do
    let l ← line
    match ← peek with
    | .op "-" => advance; return .unary l .neg (← factor n)
    | .op "+" => advance; return .unary l .pos (← factor n)
    | .op "~" => advance; return .unary l .invert (← factor n)
    | _ =>
      let e ← atom n
      let e ← trailers n l e
      if ← acceptOp "**" then return .binary l .pow e (← factor n) else return e

/-- Calls, subscripts and attributes after the primary `e`, which starts on line `l`. -/
def trailers : Nat → (l : Nat) → Expr → Parse Expr
  | 0, _, _ => unexpected
  | n + 1, l, e => do
    match ← peek with
    | .op "." =>
      advance
      let nameLine ← line
      let id ← ownIdentifier
      trailers n l (.attribute l e id nameLine)
    | .op "(" =>
      advance
      let args ← arguments n true []
      expectOp ")"
      trailers n l (.call l e args)
    | .op "[" =>
      advance
      let start ← line
      let first ← subscriptItem n
      if ← atOp "," then
        let rest ← subscriptItems n
        expectOp "]"
        trailers n l (.subscript l e (.tuple start (first :: rest)))
      else
        expectOp "]"
        let index := match first with
          | .starred _ _ => .tuple start [first]
          | _ => first
        trailers n l (.subscript l e index)
    | _ => return e

/-- The items after the first one in a subscript. -/
def subscriptItems : Nat → Parse (List Expr)
  | 0 => unexpected
  | n + 1 => do
    if ← acceptOp "," then
      if ← atOp "]" then return []
      else
        let e ← subscriptItem n
        return e :: (← subscriptItems n)
    else return []

/-- An index or a slice. -/
def subscriptItem : Nat → Parse Expr
  | 0 => unexpected
  | n + 1 => do
    let bound : Parse (Option Expr) := do
      let t ← peek
      if isOp ":" t || isOp "]" t || isOp "," t then return none else return some (← expression n)
    let l ← line
    let bounds (lower : Option Expr) : Parse Expr := do
      let upper ← bound
      let step ← if ← acceptOp ":" then bound else pure none
      return .slice l lower upper step
    if ← acceptOp ":" then bounds none
    else if ← acceptOp "*" then return .starred l (← expression n)
    else
      let e ← namedExpression n
      if ← atOp ":" then
        match e with
        | .walrus _ _ _ => unexpected
        | _ =>
          advance
          bounds (some e)
      else return e

/-- The arguments of a call up to its closing bracket, `acc` being those read, the last one first.
Only a call of a function takes a generator without brackets of its own. -/
def arguments : Nat → (ofCall : Bool) → List Argument → Parse (List Argument)
  | 0, _, _ => unexpected
  | n + 1, ofCall, acc => do
    let continueWith (a : Argument) : Parse (List Argument) := do
      if ← acceptOp "," then arguments n ofCall (a :: acc) else return (a :: acc).reverse
    let positional := acc.countP fun
      | .positional _ | .unpackList _ => true
      | _ => false
    match ← peek with
    | .op ")" => return acc.reverse
    | .op "*" =>
      if acc.any fun | .unpackDict _ => true | _ => false then
        fail "iterable argument unpacking follows keyword argument unpacking" (← line)
      advance
      let e ← expression n
      if positional > 0 && (← atWord "for") then failIf (clauses n) bareGenerator (← line)
      continueWith (.unpackList e)
    | .op "**" =>
      advance
      continueWith (.unpackDict (← expression n))
    | t =>
      let l ← line
      let assigned := isOp "=" (← peekAhead 1)
      let walrus := isOp ":=" (← peekAhead 1)
      match t with
      | .name "True" | .name "False" | .name "None" =>
        if assigned then
          fail ("cannot assign to " ++ (match t with | .name id => id | _ => "")) l
      | _ => pure ()
      match t, isIdentifier t && assigned with
      | .name id, true =>
        advance
        advance
        let e ← expression n
        if ← atWord "for" then failIf (clauses n) slipMessage l
        continueWith (.keyword id e)
      | _, _ =>
        let e ← if isIdentifier t && walrus then namedExpression n else expression n
        if ← atOp "=" then
          fail "expression cannot contain assignment, perhaps you meant \"==\"?" l
        if ← atWord "for" then
          if !acc.isEmpty then failIf (clauses n) bareGenerator l
          unless ofCall do
            failIf (do discard (clauses n); expectOp ",") bareGenerator l
            unexpected
          let cs ← clauses n
          if ← atOp "," then fail bareGenerator l
          continueWith (.positional (.generator l e cs))
        else
          match misplacedArgument acc with
          | some message => fail message (← line)
          | none => continueWith (.positional e)

/-- An expression that may bind a name with `:=`. -/
def namedExpression : Nat → Parse Expr
  | 0 => unexpected
  | n + 1 => do
    let l ← line
    let t ← peek
    if isIdentifier t && isOp ":=" (← peekAhead 1) then
      let id ← ownIdentifier
      advance
      return .walrus l id (← expression n)
    else
      let start ← get
      let e ← expression n
      match ← peek with
      | .op ":=" =>
        advance
        if ← accepts (expression n) then
          fail ("cannot use assignment expressions with " ++ e.kindName) l
        else
          discard (expression n)
          return e
      | .op "=" =>
        slips n start
        return e
      | _ => return e

/-- Complains about an equals sign after what started at a position, if it can be taken for a
slip. -/
def slips : Nat → (start : Nat) → Parse Unit
  | 0, _ => pure ()
  | n + 1, start => do
    let i ← get
    set start
    let l ← line
    let bound : Parse Expr := do
      let e ← arithmetic n 1
      expectOp "="
      discard (arithmetic n 1)
      unless ← notAssigned do unexpected
      return e
    if isIdentifier (← peek) && isOp "=" (← peekAhead 1) then failIf bound slipMessage l
    match ← attempt bound with
    | some (e, _) => if !e.opensPlain then fail (assignmentSlip e) l
    | none => pure ()
    set i

/-- A starred or named expression. -/
def starOrNamed : Nat → Parse Expr
  | 0 => unexpected
  | n + 1 => do
    let l ← line
    if ← acceptOp "*" then return .starred l (← arithmetic n 1) else namedExpression n

/-- A starred or plain expression. -/
def starOrPlain : Nat → Parse Expr
  | 0 => unexpected
  | n + 1 => do
    let l ← line
    if ← acceptOp "*" then return .starred l (← arithmetic n 1) else expression n

/-- Starred or plain expressions separated by commas; several of them, or a comma after the one,
make a tuple. -/
def expressionList : Nat → Parse Expr
  | 0 => unexpected
  | n + 1 => do
    let l ← line
    let e ← starOrPlain n
    if ← atOp "," then return .tuple l (e :: (← expressionTail n)) else return e

/-- The expressions after the first one of a list without brackets. -/
def expressionTail : Nat → Parse (List Expr)
  | 0 => unexpected
  | n + 1 => do
    if ← acceptOp "," then
      if startsExpression (← peek) then
        let e ← starOrPlain n
        return e :: (← expressionTail n)
      else return []
    else return []

/-- The elements after the first one of a display. -/
def listTail : Nat → Parse (List Expr)
  | 0 => unexpected
  | n + 1 => do
    if ← acceptOp "," then
      if startsExpression (← peek) then
        let e ← starOrNamed n
        return e :: (← listTail n)
      else return []
    else return []

/-- The target of a loop: operands without comparisons, so that `in` ends it. -/
def loopTarget : Nat → Parse Expr
  | 0 => unexpected
  | n + 1 => do
    let l ← line
    let e ← starTarget n
    if ← atOp "," then return .tuple l (e :: (← loopTargets n)) else return e

/-- One target of a loop. -/
def starTarget : Nat → Parse Expr
  | 0 => unexpected
  | n + 1 => do
    let l ← line
    if ← acceptOp "*" then return .starred l (← arithmetic n 1) else arithmetic n 1

/-- The targets after the first one of a loop. -/
def loopTargets : Nat → Parse (List Expr)
  | 0 => unexpected
  | n + 1 => do
    if ← acceptOp "," then
      if startsExpression (← peek) then
        let e ← starTarget n
        return e :: (← loopTargets n)
      else return []
    else return []

/-- The `for` clauses of a comprehension. -/
def clauses : Nat → Parse (List Clause)
  | 0 => unexpected
  | n + 1 => do
    let l ← line
    if ← acceptWord "for" then
      let target ← loopTarget n
      expectWord "in"
      match invalidTarget? target with
      | some bad => fail ("cannot assign to " ++ bad.kindName) l
      | none => pure ()
      let iter ← disjunction n
      let conditions ← clauseConditions n
      return .mk l target iter conditions :: (← clauses n)
    else return []

/-- The conditions after a `for` clause. -/
def clauseConditions : Nat → Parse (List Expr)
  | 0 => unexpected
  | n + 1 => do
    if ← acceptWord "if" then
      let e ← disjunction n
      return e :: (← clauseConditions n)
    else return []

/-- A `yield` expression without brackets. -/
def yieldExpr : Nat → Parse Expr
  | 0 => unexpected
  | n + 1 => do
    let l ← line
    expectWord "yield"
    if startsExpression (← peek) then return .yieldValue l (some (← expressionList n))
    else return .yieldValue l none

/-- Names, constants, strings and everything in brackets. -/
def atom : Nat → Parse Expr
  | 0 => unexpected
  | n + 1 => do
    let l ← line
    match ← peek with
    | .name "None" => advance; return .const l .none
    | .name "True" => advance; return .const l (.bool true)
    | .name "False" => advance; return .const l (.bool false)
    | .name _ => return .name l (← ownIdentifier)
    | .int k digits =>
      advance
      integerLiteral k digits l
    | .float bits => advance; return .const l (.float bits)
    | .imaginary bits => advance; return .const l (.imaginary bits)
    | .op "..." => advance; return .const l .ellipsis
    | .str _ _ =>
      let all ← literals n
      if all.all fun (kind, _, _) => kind.bytes then
        let parts ← all.mapM fun (kind, body, _) => decodeBody kind body
        return .const l (.bytes (parts.flatten.map UInt8.ofNat))
      else if all.any fun (kind, _, _) => kind.bytes then
        fail "cannot mix bytes and nonbytes literals" l
      else return joinPieces l (all.any fun (kind, _, _) => kind.formatted) (← strings n all)
    | .op "(" =>
      advance
      if ← acceptOp ")" then return .tuple l []
      else if ← atOp "**" then
        advance
        if ← accepts (do discard (expression n); expectOp ")") then
          fail "cannot use double starred expression here" l
        modify (· - 1)
        unexpected
      else if ← atWord "yield" then
        let e ← yieldExpr n
        expectOp ")"
        return e
      else
        let e ← starOrNamed n
        let isStar := match e with
          | .starred _ _ => true
          | _ => false
        if ← atWord "for" then
          if isStar then failIf (clauses n) starredElement l
          let cs ← clauses n
          expectOp ")"
          return .generator l e cs
        else if ← atOp "," then
          let es ← listTail n
          expectOp ")"
          return .tuple l (e :: es)
        else
          if isStar && (← atOp ")") then fail "cannot use starred expression here" l
          expectOp ")"
          return e
    | .op "[" =>
      advance
      if ← acceptOp "]" then return .list l []
      else
        let e ← starOrNamed n
        if ← atWord "for" then
          checkElement n e l
          let cs ← clauses n
          expectOp "]"
          return .listComp l e cs
        else
          let es ← listTail n
          if ← atWord "for" then failIf (clauses n) bareTarget l
          expectOp "]"
          return .list l (e :: es)
    | .op "\x7b" =>
      advance
      if ← acceptOp "\x7d" then return .dict l []
      else if ← acceptOp "**" then
        let first := DictItem.unpack (← arithmetic n 1)
        if ← atWord "for" then
          failIf (do discard (clauses n); expectOp "\x7d")
            "dict unpacking cannot be used in dict comprehension" l
        let rest ← dictItems n
        expectOp "\x7d"
        return .dict l (first :: rest)
      else
        let e ← starOrNamed n
        let isKey := match e with
          | .starred _ _ | .walrus _ _ _ => false
          | _ => true
        if isKey && (← atOp ":") then
          let v ← dictValue n
          if ← atWord "for" then
            let cs ← clauses n
            expectOp "\x7d"
            return .dictComp l e v cs
          else
            let rest ← dictItems n
            expectOp "\x7d"
            return .dict l (.pair e v :: rest)
        else if ← atWord "for" then
          checkElement n e l
          let cs ← clauses n
          expectOp "\x7d"
          return .setComp l e cs
        else
          let es ← listTail n
          if ← atWord "for" then failIf (clauses n) bareTarget l
          expectOp "\x7d"
          return .set l (e :: es)
    | _ => unexpected

/-- Refuses a starred element before the clauses of a comprehension. -/
def checkElement : Nat → Expr → (l : Nat) → Parse Unit
  | 0, _, _ => pure ()
  | n + 1, e, l => do
    match e with
    | .starred _ _ => failIf (clauses n) starredElement l
    | _ => pure ()

/-- The colon after a key of a dictionary display, and the value. -/
def dictValue : Nat → Parse Expr
  | 0 => unexpected
  | n + 1 => do
    let l ← line
    expectOp ":"
    let t ← peek
    if isOp "*" t then
      if ← accepts (do advance; arithmetic n 1) then
        fail "cannot use a starred expression in a dictionary value" (← line)
    if isOp "\x7d" t || isOp "," t then
      fail "expression expected after dictionary key and ':'" l
    expression n

/-- The entries after the first one of a dictionary display. -/
def dictItems : Nat → Parse (List DictItem)
  | 0 => unexpected
  | n + 1 => do
    if ← acceptOp "," then
      if ← atOp "\x7d" then return []
      else if ← acceptOp "**" then
        let e ← arithmetic n 1
        return .unpack e :: (← dictItems n)
      else
        let l ← line
        let k ← expression n
        unless ← atOp ":" do fail "':' expected after dictionary key" l
        let v ← dictValue n
        return .pair k v :: (← dictItems n)
    else return []

/-- The string literals that stand here, with their lines. -/
def literals : Nat → Parse (List (StringKind × List Char × Nat))
  | 0 => unexpected
  | n + 1 => do
    let l ← line
    match ← peek with
    | .str kind body =>
      advance
      return (kind, body, l) :: (← literals n)
    | _ => return []

/-- The parts of adjacent strings. -/
def strings : Nat → List (StringKind × List Char × Nat) → Parse (List Piece)
  | 0, _ => unexpected
  | _ + 1, [] => return []
  | n + 1, (kind, body, l) :: rest => do
    let ps ← if kind.formatted then
        pieces n kind l (divide kind.raw (4 * body.length + 4) 0 0 body []).1
      else do
        pure [Piece.text ⟨← decodeBody kind body⟩]
    return ps ++ (← strings n rest)

/-- The parts of a formatted string that starts on line `l`. -/
def pieces : Nat → StringKind → (l : Nat) → List RawPiece → Parse (List Piece)
  | 0, _, _, _ => unexpected
  | _ + 1, _, _, [] => return []
  | n + 1, kind, l, .text body :: rest => do
    let ps ← decodeBody kind body
    return .text ⟨ps⟩ :: (← pieces n kind l rest)
  | _ + 1, _, _, .fault message :: _ => do fail message (← line)
  | n + 1, kind, l, .field source lines conversion spec :: rest => do
    let text := '(' :: source ++ [')']
    let lexemes := (tokens .expression (String.ofList text)).map
      fun x => { x with line := l + lines + (x.line - 1) }
    match ((expressionList n).run ⟨lexemes, (← read).owner⟩).run 0 with
    | .error f => throw (inField lexemes text f)
    | .ok (e, _) =>
      let spec ← pieces n kind l spec
      return .field e conversion spec :: (← pieces n kind l rest)

end

end GuestBridge.Script
