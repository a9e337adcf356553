import GuestBridge.Script.Scope

/-!
# Rules about names

What a script may not do with names, although its grammar is in order: declare a name to belong
elsewhere after it was used, bind the variable of a comprehension inside of it, and the like. The
rules look at each body with the bodies around it. They are checked for the whole script before any
of it is compiled.
-/

namespace GuestBridge.Script

/-- What a body is. -/
inductive BodyKind
  | script | function | classBody
  /-- A comprehension, with what it is called. -/
  | comprehension (what : String)
  deriving DecidableEq, Repr, Inhabited

/-- What is known of a name in a body. -/
structure NameUse where
  parameter : Bool := false
  bound : Bool := false
  used : Bool := false
  annotated : Bool := false
  global : Bool := false
  nonlocal : Bool := false
  /-- The variable of a comprehension. -/
  iteration : Bool := false
  deriving Repr, Inhabited

/-- A body on the way through a script. -/
structure BodyScope where
  kind : BodyKind
  line : Nat
  names : List (String × NameUse)
  /-- Whether the variables of a comprehension are being bound. -/
  binding : Bool := false
  /-- Whether the iterable of a comprehension is being evaluated. -/
  iterating : Bool := false
  deriving Repr, Inhabited

namespace BodyScope

/-- What is known of a name. -/
def use (b : BodyScope) (id : String) : NameUse := (b.names.lookup id).getD {}

/-- Sets what is known of a name. -/
def set (b : BodyScope) (id : String) (u : NameUse) : BodyScope :=
  { b with names := (id, u) :: b.names.filter (·.1 != id) }

/-- Whether a body is a comprehension. -/
def isComprehension (b : BodyScope) : Bool :=
  match b.kind with
  | .comprehension _ => true
  | _ => false

/-- Whether the variables of a body can be seen from bodies inside of it. -/
def isFunction (b : BodyScope) : Bool :=
  match b.kind with
  | .function | .comprehension _ => true
  | _ => false

end BodyScope

/-- A check of names: the bodies around the place, the innermost first. -/
abbrev NameCheck := StateT (List BodyScope) (Except Failure)

namespace NameCheck

/-- Refuses the script. -/
def fail {α : Type} (message : String) (line : Nat) : NameCheck α :=
  throw ⟨.grammar, message, line, .line, none⟩

/-- The innermost body. -/
def current : NameCheck BodyScope := do
  return (← get).headD default

/-- Changes the innermost body. -/
def change (f : BodyScope → BodyScope) : NameCheck Unit :=
  modify fun
    | b :: bs => f b :: bs
    | [] => []

/-- Notes the use of a name. -/
def read (id : String) : NameCheck Unit :=
  change fun b => b.set id { b.use id with used := true }

/-- Notes that a name is bound on a line. -/
def bind (id : String) (line : Nat) : NameCheck Unit := do
  let b ← current
  let u := b.use id
  if b.binding then
    if u.global || u.nonlocal then
      fail ("comprehension inner loop cannot rebind assignment expression target '" ++ id ++ "'")
        line
    change fun b => b.set id { u with bound := true, iteration := true }
  else change fun b => b.set id { u with bound := true }

/-- Notes a parameter of a function that starts on a line. -/
def parameter (id : String) (line : Nat) : NameCheck Unit := do
  let u := (← current).use id
  if u.parameter then
    fail ("duplicate argument '" ++ id ++ "' in function definition") line
  change fun b => b.set id { u with parameter := true }

/-- Checks what may be declared to belong elsewhere; `word` is the word of the declaration. -/
def declarable (word id : String) (line : Nat) : NameCheck Unit := do
  let u := (← current).use id
  if u.parameter then fail ("name '" ++ id ++ "' is parameter and " ++ word) line
  if u.used then fail ("name '" ++ id ++ "' is used prior to " ++ word ++ " declaration") line
  if u.annotated then fail ("annotated name '" ++ id ++ "' can't be " ++ word) line
  if u.bound then
    fail ("name '" ++ id ++ "' is assigned to before " ++ word ++ " declaration") line

/-- Declares a name to belong to the module. -/
def declareGlobal (id : String) (line : Nat) : NameCheck Unit := do
  declarable "global" id line
  change fun b => b.set id { b.use id with global := true }

/-- Declares a name to belong to an enclosing function, one of which must bind it. -/
def declareNonlocal (visible : List String) (id : String) (line : Nat) : NameCheck Unit := do
  declarable "nonlocal" id line
  if (← get).length ≤ 1 then fail "nonlocal declaration not allowed at module level" line
  if (← current).use id |>.global then fail ("name '" ++ id ++ "' is nonlocal and global") line
  unless visible.contains id do fail ("no binding for nonlocal '" ++ id ++ "' found") line
  change fun b => b.set id { b.use id with nonlocal := true }

/-- Checks a name that is bound with `:=` inside comprehensions: it belongs to the body around
them. -/
def bindAround (id : String) (line : Nat) : List BodyScope → NameCheck Unit
  | [] => pure ()
  | b :: bs =>
    match b.kind with
    | .comprehension _ =>
      if (b.use id).iteration then
        fail ("assignment expression cannot rebind comprehension iteration variable '" ++ id ++ "'")
          line
      else bindAround id line bs
    | .classBody =>
      fail "assignment expression within a comprehension cannot be used in a class body" line
    | .script => change fun c => c.set id { c.use id with global := true }
    | .function => change fun c => c.set id { c.use id with nonlocal := true }

/-- Checks a body inside the current one. -/
def inside (kind : BodyKind) (line : Nat) (check : NameCheck Unit) : NameCheck Unit := do
  let outer ← get
  let iterating := (outer.headD default).iterating
  set ({ kind, line, names := [], iterating : BodyScope } :: outer)
  check
  set outer

/-- Checks the iterable of a comprehension. -/
def iterable (check : NameCheck Unit) : NameCheck Unit := do
  let before := (← current).iterating
  change fun b => { b with iterating := true }
  check
  change fun b => { b with iterating := before }

/-- Checks the variables of a comprehension. -/
def bindingNames (check : NameCheck Unit) : NameCheck Unit := do
  change fun b => { b with binding := true }
  check
  change fun b => { b with binding := false }

end NameCheck

open NameCheck

/-- Checks the parameters of a function that starts on a line. -/
def checkParameters (l : Nat) : List Param → NameCheck Unit
  | [] => pure ()
  | .mk id _ _ _ :: ps => do
    parameter id l
    checkParameters l ps

mutual

/-- Checks an expression; `visible` are the variables of the functions around the body. -/
def checkExpr (visible : List String) : Expr → NameCheck Unit
  | .const _ _ => pure ()
  | .name _ id => read id
  | .tuple _ es | .list _ es | .set _ es | .all _ es | .any _ es => checkExprs visible es
  | .dict _ items => checkItems visible items
  | .unary _ _ e | .attribute _ e _ _ | .starred _ e => checkExpr visible e
  | .binary _ _ a b | .subscript _ a b => do
    checkExpr visible a
    checkExpr visible b
  | .compare _ e rest => do
    checkExpr visible e
    checkComparisons visible rest
  | .cond _ t a b => do
    checkExpr visible t
    checkExpr visible a
    checkExpr visible b
  | .lambda l ps body => do
    checkDefaults visible ps
    inside .function l do
      checkParameters l ps
      checkExpr (visible ++ paramIds ps ++ body.bindings.locals) body
  | .call _ f args => do
    checkExpr visible f
    checkArguments visible args
  | .slice _ a b c => do
    checkOption visible a
    checkOption visible b
    checkOption visible c
  | .formatted _ ps => checkPieces visible ps
  | .listComp l e cs => checkComprehension visible "list comprehension" l cs (checkExpr visible e)
  | .setComp l e cs => checkComprehension visible "set comprehension" l cs (checkExpr visible e)
  | .dictComp l k v cs => checkComprehension visible "dict comprehension" l cs do
      checkExpr visible v
      checkExpr visible k
  | .generator l e cs =>
    checkComprehension visible "generator expression" l cs (checkExpr visible e)
  | .walrus l id e => do
    let b ← current
    if b.iterating then
      fail "assignment expression cannot be used in a comprehension iterable expression" l
    if b.isComprehension then bindAround id l (← get)
    checkExpr visible e
    bind id l
  | .yieldValue l e => do
    checkOption visible e
    match (← current).kind with
    | .comprehension what => fail ("'yield' inside " ++ what) l
    | _ => pure ()
where
  /-- The names of parameters. -/
  paramIds (ps : List Param) : List String := ps.map fun | .mk id _ _ _ => id

/-- Checks a comprehension, whose element is checked by `element`. -/
def checkComprehension (visible : List String) (what : String) (l : Nat) :
    List Clause → (element : NameCheck Unit) → NameCheck Unit
  | [], element => element
  | .mk l' target iter conditions :: cs, element => do
    iterable (checkExpr visible iter)
    inside (.comprehension what) l do
      bindingNames (checkBinding l' visible target)
      checkExprs visible conditions
      checkClauses visible cs
      element

/-- Checks the clauses of a comprehension after the first. -/
def checkClauses (visible : List String) : List Clause → NameCheck Unit
  | [] => pure ()
  | .mk l target iter conditions :: cs => do
    bindingNames (checkBinding l visible target)
    iterable (checkExpr visible iter)
    checkExprs visible conditions
    checkClauses visible cs

/-- Checks an expression that is assigned to on a line. -/
def checkBinding (l : Nat) (visible : List String) : Expr → NameCheck Unit
  | .name _ id => bind id l
  | .starred _ e => checkBinding l visible e
  | .tuple _ es | .list _ es => checkBindings l visible es
  | .attribute _ e _ _ => checkExpr visible e
  | .subscript _ a b => do
    checkExpr visible a
    checkExpr visible b
  | _ => pure ()

/-- Checks several targets. -/
def checkBindings (l : Nat) (visible : List String) : List Expr → NameCheck Unit
  | [] => pure ()
  | e :: es => do
    checkBinding l visible e
    checkBindings l visible es

/-- Checks an optional expression. -/
def checkOption (visible : List String) : Option Expr → NameCheck Unit
  | none => pure ()
  | some e => checkExpr visible e

/-- Checks several expressions. -/
def checkExprs (visible : List String) : List Expr → NameCheck Unit
  | [] => pure ()
  | e :: es => do
    checkExpr visible e
    checkExprs visible es

/-- Checks the entries of a dictionary display. -/
def checkItems (visible : List String) : List DictItem → NameCheck Unit
  | [] => pure ()
  | .pair k v :: is => do
    checkExpr visible k
    checkExpr visible v
    checkItems visible is
  | .unpack e :: is => do
    checkExpr visible e
    checkItems visible is

/-- Checks a chain of comparisons. -/
def checkComparisons (visible : List String) : List Comparison → NameCheck Unit
  | [] => pure ()
  | .mk _ e :: cs => do
    checkExpr visible e
    checkComparisons visible cs

/-- Checks the arguments of a call. -/
def checkArguments (visible : List String) : List Argument → NameCheck Unit
  | [] => pure ()
  | .positional e :: as | .unpackList e :: as | .keyword _ e :: as | .unpackDict e :: as => do
    checkExpr visible e
    checkArguments visible as

/-- Checks the parts of a formatted string. -/
def checkPieces (visible : List String) : List Piece → NameCheck Unit
  | [] => pure ()
  | .text _ :: ps => checkPieces visible ps
  | .field e _ spec :: ps => do
    checkExpr visible e
    checkPieces visible spec
    checkPieces visible ps

/-- Checks the defaults and annotations of parameters. -/
def checkDefaults (visible : List String) : List Param → NameCheck Unit
  | [] => pure ()
  | .mk _ _ d a :: ps => do
    checkOption visible d
    checkOption visible a
    checkDefaults visible ps

end

mutual

/-- Checks a statement. -/
def checkStmt (visible : List String) : Stmt → NameCheck Unit
  | .expr _ e => checkExpr visible e
  | .assign l ts v => do
    checkBindings l visible ts
    checkExpr visible v
  | .augment l t _ v => do
    checkBinding l visible t
    checkExpr visible v
  | .annotate l simple t annotation v => do
    match t, simple with
    | .name _ id, true => do
      let u := (← current).use id
      if (← get).length > 1 then
        if u.global then NameCheck.fail ("annotated name '" ++ id ++ "' can't be global") l
        if u.nonlocal then NameCheck.fail ("annotated name '" ++ id ++ "' can't be nonlocal") l
      change fun b => b.set id { u with annotated := true, bound := true }
    | .name _ _, false => if v.isSome then checkBinding l visible t
    | t, _ => checkBinding l visible t
    checkExpr visible annotation
    checkOption visible v
  | .deleteTargets l ts => checkBindings l visible ts
  | .skip _ | .breakLoop _ | .continueLoop _ => pure ()
  | .importModules l ns => for n in ns do bind n.target l
  | .importFrom l _ _ ns => for n in ns do bind (n.bound.getD n.path) l
  | .importAll l _ _ => do
    if (← get).length > 1 then NameCheck.fail "import * only allowed at module level" l
  | .raiseError _ e c => do
    checkOption visible e
    checkOption visible c
  | .assertTrue _ t m => do
    checkExpr visible t
    checkOption visible m
  | .ifElse _ t a b | .whileLoop _ t a b => do
    checkExpr visible t
    checkBlock visible a
    checkBlock visible b
  | .forLoop l t i a b => do
    checkBinding l visible t
    checkExpr visible i
    checkBlock visible a
    checkBlock visible b
  | .tryBlock _ a hs b c => do
    checkBlock visible a
    checkHandlers visible hs
    checkBlock visible b
    checkBlock visible c
  | .functionDef l ds _ id ps r body => do
    bind id l
    checkDefaults visible ps
    checkOption visible r
    checkExprs visible ds
    inside .function l do
      checkParameters l ps
      let own := (ps.map fun | .mk id _ _ _ => id) ++ (blockBindings body).locals
      checkBlock (visible ++ own) body
  | .classDef l ds _ id args body => do
    bind id l
    checkArguments visible args
    checkExprs visible ds
    inside .classBody l do checkBlock visible body
  | .returnValue _ e => checkOption visible e
  | .global l ids => for id in ids do declareGlobal id l
  | .nonlocal l ids => for id in ids do declareNonlocal visible id l

/-- Checks the statements of a block. -/
def checkBlock (visible : List String) : List Stmt → NameCheck Unit
  | [] => pure ()
  | s :: ss => do
    checkStmt visible s
    checkBlock visible ss

/-- Checks `except` clauses. -/
def checkHandlers (visible : List String) : List Handler → NameCheck Unit
  | [] => pure ()
  | .mk l k id body :: hs => do
    checkOption visible k
    match id with
    | some id => bind id l
    | none => pure ()
    checkBlock visible body
    checkHandlers visible hs

end

/-- A script before anything of it is checked. -/
def scriptScope : List BodyScope := [{ kind := .script, line := 1, names := [] }]

end GuestBridge.Script
