import GuestBridge.Script.Code
import GuestBridge.Script.Declaration
import GuestBridge.Script.Statements

/-!
# Compiling scripts

From syntax to units of code. Names are resolved here: to variables of the running function, of an
enclosing function, or of the module. Every instruction remembers the line of the expression or
statement that it belongs to.
-/

namespace GuestBridge.Script

/-- The unit under construction and the units already finished. -/
structure Builder where
  instrs : Array Instr
  lines : Array Nat
  labels : Array Nat
  line : Nat
  units : Array Code

/-- Building code, which may still refuse the script. -/
abbrev Build := StateT Builder (Except Failure)

/-- Where an expression or statement stands. -/
structure Env where
  file : String
  kind : UnitKind
  locals : List String
  globals : List String
  nonlocals : List String
  /-- The variables of the enclosing functions. -/
  outer : List String
  /-- What the qualified names of definitions start with. -/
  path : String
  /-- The innermost loop: where it continues, and how many values it keeps on the stack. -/
  loop : Option (Nat × Nat)

namespace Build

/-- Appends an instruction. -/
def emit (i : Instr) : Build Unit :=
  modify fun b => { b with instrs := b.instrs.push i, lines := b.lines.push b.line }

/-- Appends an instruction that belongs to line `l`. -/
def emitAt (l : Nat) (i : Instr) : Build Unit :=
  modify fun b => { b with instrs := b.instrs.push i, lines := b.lines.push l }

/-- Sets the line of what follows. -/
def setLine (l : Nat) : Build Unit :=
  modify fun b => { b with line := l }

/-- A fresh label. -/
def newLabel : Build Nat := do
  let b ← get
  set { b with labels := b.labels.push 0 }
  return b.labels.size

/-- Puts a label here. -/
def place (l : Nat) : Build Unit :=
  modify fun b => { b with labels := b.labels.set! l b.instrs.size }

/-- Builds another unit with `body` and gives its number. -/
def nested (env : Env) (name qualifiedName : String) (line : Nat) (signature : Signature)
    (isGenerator : Bool) (doc : Option Text) (body : Build Unit) : Build Nat := do
  let saved ← get
  set { saved with instrs := #[], lines := #[], labels := #[], line := line }
  body
  let b ← get
  let code : Code := ⟨name, qualifiedName, env.file, line, env.kind, signature, isGenerator,
    b.instrs, b.lines, b.labels, 0, doc, [], []⟩
  set { saved with units := b.units.push code.shortcut }
  return b.units.size

end Build

open Build

/-- Where a name is found. -/
inductive Place
  | namespace | module | variable | outer | namespaceOrOuter

/-- Resolves a name for reading. -/
def Env.resolve (env : Env) (id : String) : Place :=
  if env.globals.contains id then (if env.kind == .script then .namespace else .module)
  else match env.kind with
    | .script => .namespace
    | .classBody => if env.outer.contains id then .namespaceOrOuter else .namespace
    | .function =>
      if env.locals.contains id then .variable
      else if env.outer.contains id then .outer
      else .module

/-- The variables that code inside sees: those of the functions around it, and the class in whose
body a function stands. -/
def Env.around (env : Env) : List String :=
  match env.kind with
  | .script => env.outer
  | .function => (env.locals ++ env.outer).filter (!env.globals.contains ·)
  | .classBody => "__class__" :: env.outer

/-- Resolves a name for binding. -/
def Env.resolveTarget (env : Env) (id : String) : Place :=
  match env.resolve id with
  | .namespaceOrOuter => if env.nonlocals.contains id then .outer else .namespace
  | p => p

/-- Reads a name. -/
def load (env : Env) (line : Nat) (id : String) : Build Unit :=
  emitAt line <| match env.resolve id with
    | .namespace => .loadName id
    | .module => .loadGlobal id
    | .variable => .loadLocal id
    | .outer => .loadOuter id
    | .namespaceOrOuter => .loadNameOrOuter id

/-- Refuses to bind or unbind the name that tells whether a script is checked. -/
def checkName (l : Nat) (verb id : String) : Build Unit :=
  if id == "__debug__" then throw (refuse ("cannot " ++ verb ++ " __debug__") l) else pure ()

/-- Refuses such a name among parameters. -/
def checkParameterNames (l : Nat) (ps : List Param) : Build Unit :=
  ps.forM fun | .mk id _ _ _ => checkName l "assign to" id

/-- Binds a name to the top of the stack. -/
def store (env : Env) (id : String) : Build Unit := do
  checkName (← get).line "assign to" id
  emit <| match env.resolveTarget id with
    | .namespace | .namespaceOrOuter => .storeName id
    | .module => .storeGlobal id
    | .variable => .storeLocal id
    | .outer => .storeOuter id

/-- Unbinds a name. -/
def unbind (env : Env) (line : Nat) (id : String) : Build Unit := do
  checkName line "delete" id
  emitAt line <| match env.resolveTarget id with
    | .namespace | .namespaceOrOuter => .deleteName id
    | .module => .deleteGlobal id
    | .variable => .deleteLocal id
    | .outer => .deleteOuter id

/-- The signature of a parameter list. -/
def signatureOf (ps : List Param) : Signature :=
  let named (k : ParamKind) := ps.filterMap fun | .mk id k' _ _ => if k == k' then some id else none
  ⟨named .positionalOnly, named .ordinary, (named .variadic).head?, named .keywordOnly,
    (named .keywords).head?⟩

/-- The names of all parameters. -/
def paramNames (ps : List Param) : List String :=
  ps.map fun | .mk id _ _ _ => id

/-- The surroundings inside a function whose body has the given bindings. -/
def Env.enter (env : Env) (name : String) (params : List String) (b : Bindings) : Env :=
  { env with
    kind := .function
    locals := params ++ b.locals
    globals := b.globals
    nonlocals := b.nonlocals
    outer := env.around
    path := env.path ++ name ++ ".<locals>."
    loop := none }

/-- The signature of a comprehension: its only argument is the first iterator. -/
def comprehensionSignature : Signature := ⟨[], [".0"], none, [], none⟩

/-- Whether a call has no unpacked arguments. -/
def isPlainCall (args : List Argument) : Bool :=
  args.all fun | .positional _ | .keyword _ _ => true | _ => false

/-- Refuses a call that gives an argument twice, or one with a name that nothing may have. -/
def checkKeywords : List Argument → Build Unit
  | [] => pure ()
  | .keyword id e :: as => do
    checkName e.line "assign to" id
    let again := as.findSome? fun
      | .keyword id' e' => if id' == id then some e'.line else none
      | _ => none
    if let some l := again then throw (refuse ("keyword argument repeated: " ++ id) l)
    checkKeywords as
  | .positional _ :: as | .unpackList _ :: as | .unpackDict _ :: as => checkKeywords as

/-- Goes to a label if the truth of the value of `e`, which is on top, is `want`. -/
def emitTest (l : Nat) (e : Expr) (want : Bool) (target : Nat) : Build Unit :=
  let line := match e with
    | .compare l' _ _ => l'
    | _ => l
  emitAt line (if want then .jumpIfTrue target else .jumpIfFalse target)

/-- The text that a body starts with, which describes it. -/
def docText? : List Stmt → Option Text
  | .expr _ (.const _ (.str t)) :: _ => some t
  | _ => none

mutual

/-- Whether the value of an expression is known before it runs. -/
def isKnown : Expr → Bool
  | .const _ _ => true
  | .tuple _ es => areKnown es
  | .unary _ _ e => isKnown e
  | .binary _ _ a b => isKnown a && isKnown b
  | _ => false

/-- Whether the values of all expressions are known before they run. -/
def areKnown : List Expr → Bool
  | [] => true
  | e :: es => isKnown e && areKnown es

end

mutual

/-- Pushes the value of an expression. -/
def compileExpr (env : Env) : Expr → Build Unit
  | .const l c => emitAt l (.const c)
  | .name l id => load env l id
  | .tuple l es => do
    if hasStar es then
      emitAt l (.buildList 0)
      compileInto env l es
      emitAt l .listToTuple
    else
      compileExprs env es
      emitAt l (.buildTuple es.length)
  | .list l es => do
    if hasStar es then
      emitAt l (.buildList 0)
      compileInto env l es
    else
      compileExprs env es
      emitAt l (.buildList es.length)
  | .set l es => do
    if hasStar es then
      emitAt l (.buildSet 0)
      compileIntoSet env l es
    else
      compileExprs env es
      emitAt l (.buildSet es.length)
      if es.length > 2 && areKnown es then emit .settleSet
  | .dict l items => do
    emitAt l .buildDict
    compileItems env l items
  | .unary l op e => do
    compileExpr env e
    emitAt l (.unary op)
  | .binary l op a b => do
    compileExpr env a
    compileExpr env b
    emitAt l (.binary op)
  | .compare l e rest => do
    compileExpr env e
    compileComparisons env l rest
  | .all l es => compileChain env l true es
  | .any l es => compileChain env l false es
  | .cond l t a b => do
    let no ← newLabel
    let done ← newLabel
    compileExpr env t
    emitTest l t false no
    compileExpr env a
    emit (.jump done)
    place no
    compileExpr env b
    place done
  | .lambda l ps body => do
    checkParameterNames l ps
    let b := body.bindings
    let env' := env.enter "<lambda>" (paramNames ps) b
    compileDefaults env ps
    compileKeywordDefaults env ps
    let u ← nested env' "<lambda>" (env.path ++ "<lambda>") l (signatureOf ps) b.yields none do
      compileExpr env' body
      emit .returnValue
    emitFunction l u ps
  | .call l f args => do
    checkKeywords args
    compileExpr env f
    if isPlainCall args then
      let n ← compilePositional env args
      let ks ← compileKeywords env args
      -- calling a method is blamed on the line of its name
      emitAt (match f with
        | .attribute _ _ _ nameLine => nameLine
        | _ => l) (.call n ks)
    else
      match args.filter fun | .positional _ | .unpackList _ => true | _ => false with
      | [.unpackList _] => compileOnly env args
      | _ => do
        emit (.buildList 0)
        compileSpread env args
      emit .buildDict
      compileSpreadKeywords env l args
      emitAt l .callSpread
  | .attribute _ e id l => do
    compileExpr env e
    emitAt l (.loadAttr id)
  | .subscript l e k => do
    compileExpr env e
    compileExpr env k
    emitAt l .loadItem
  | .slice l a b c => do
    compileBound env a
    compileBound env b
    match c with
    | none => emitAt l (.buildSlice false)
    | some c => do
      compileExpr env c
      emitAt l (.buildSlice true)
  | .starred l _ => throw (refuse "can't use starred expression here" l)
  | .formatted l ps => do
    compilePieces env l ps
    emitAt l (.concat ps.length)
  | .listComp l e cs => do
    let env' := env.enter "<listcomp>" [".0"] (comprehensionBindings cs)
    let u ← nested env' "<listcomp>" (env.path ++ "<listcomp>") l comprehensionSignature false
      none do
      emit (.buildList 0)
      compileClauses env' cs 0 fun depth => do
        compileExpr env' e
        emit (.listAppend depth)
      emit .returnValue
    emitAt l (.makeFunction u 0 [] [])
    compileFirstIter env cs
    emitAt l (.call 1 [])
  | .setComp l e cs => do
    let env' := env.enter "<setcomp>" [".0"] (comprehensionBindings cs)
    let u ← nested env' "<setcomp>" (env.path ++ "<setcomp>") l comprehensionSignature false none do
      emit (.buildSet 0)
      compileClauses env' cs 0 fun depth => do
        compileExpr env' e
        emit (.setAdd depth)
      emit .returnValue
    emitAt l (.makeFunction u 0 [] [])
    compileFirstIter env cs
    emitAt l (.call 1 [])
  | .dictComp l k v cs => do
    let env' := env.enter "<dictcomp>" [".0"] (comprehensionBindings cs)
    let u ← nested env' "<dictcomp>" (env.path ++ "<dictcomp>") l comprehensionSignature false
      none do
      emit .buildDict
      compileClauses env' cs 0 fun depth => do
        compileExpr env' k
        compileExpr env' v
        emit (.dictPut depth)
      emit .returnValue
    emitAt l (.makeFunction u 0 [] [])
    compileFirstIter env cs
    emitAt l (.call 1 [])
  | .generator l e cs => do
    let env' := env.enter "<genexpr>" [".0"] (comprehensionBindings cs)
    let u ← nested env' "<genexpr>" (env.path ++ "<genexpr>") l comprehensionSignature true none do
      compileClauses env' cs 0 fun _ => do
        compileExpr env' e
        emitAt l .yieldValue
        emit .pop
      emit (.const .none)
      emit .returnValue
    emitAt l (.makeFunction u 0 [] [])
    compileFirstIter env cs
    emitAt l (.call 1 [])
  | .walrus _ id e => do
    compileExpr env e
    emit .dup
    store env id
  | .yieldValue l e => do
    if env.kind != .function then throw (refuse "'yield' outside function" l)
    compileBound env e
    emitAt l .yieldValue
where
  /-- Whether an expression list has starred elements. -/
  hasStar (es : List Expr) : Bool := es.any fun | .starred _ _ => true | _ => false
  /-- The names that the clauses of a comprehension bind inside it. -/
  comprehensionBindings (cs : List Clause) : Bindings :=
    cs.foldl (fun b c => match c with | .mk _ t _ _ => b ++ t.targetBindings) .empty
  /-- Makes a function of unit `u` from the defaults on the stack. -/
  emitFunction (l u : Nat) (ps : List Param) : Build Unit :=
    let defaults := ps.countP fun
      | .mk _ .ordinary (some _) _ | .mk _ .positionalOnly (some _) _ => true
      | _ => false
    let keyword := ps.filterMap fun
      | .mk id .keywordOnly (some _) _ => some id
      | _ => none
    emitAt l (.makeFunction u defaults keyword [])

/-- Pushes an optional value, `None` if it is absent. -/
def compileBound (env : Env) : Option Expr → Build Unit
  | none => emit (.const .none)
  | some e => compileExpr env e

/-- Pushes the values of expressions in order. -/
def compileExprs (env : Env) : List Expr → Build Unit
  | [] => pure ()
  | e :: es => do
    compileExpr env e
    compileExprs env es

/-- Adds the values of expressions, starred ones element by element, to the list on top. -/
def compileInto (env : Env) (l : Nat) : List Expr → Build Unit
  | [] => pure ()
  | .starred _ e :: es => do
    compileExpr env e
    emitAt l .listExtend
    compileInto env l es
  | e :: es => do
    compileExpr env e
    emitAt l (.listAppend 0)
    compileInto env l es

/-- The same for the set on top. -/
def compileIntoSet (env : Env) (l : Nat) : List Expr → Build Unit
  | [] => pure ()
  | .starred _ e :: es => do
    compileExpr env e
    emitAt l .setExtend
    compileIntoSet env l es
  | e :: es => do
    compileExpr env e
    emitAt l (.setAdd 0)
    compileIntoSet env l es

/-- Puts entries into the dictionary on top. -/
def compileItems (env : Env) (l : Nat) : List DictItem → Build Unit
  | [] => pure ()
  | .pair k v :: is => do
    compileExpr env k
    compileExpr env v
    emitAt l (.dictPut 0)
    compileItems env l is
  | .unpack e :: is => do
    compileExpr env e
    emitAt l .dictUpdate
    compileItems env l is

/-- Continues a chain of comparisons whose left operand is on top. -/
def compileComparisons (env : Env) (l : Nat) : List Comparison → Build Unit
  | [] => pure ()
  | [.mk op e] => do
    compileExpr env e
    emitAt l (.compare op)
  | .mk op e :: cs => do
    let stop ← newLabel
    let done ← newLabel
    compileExpr env e
    emit .dup
    emit (.rotate 3)
    emit (.rotate 2)
    emitAt l (.compare op)
    emit (.jumpIfFalseKeep stop)
    compileComparisons env l cs
    emit (.jump done)
    place stop
    emit (.rotate 2)
    emit .pop
    place done

/-- Operands joined by `and` (`conj`) or `or`. -/
def compileChain (env : Env) (l : Nat) (conj : Bool) : List Expr → Build Unit
  | [] => pure ()
  | [e] => compileExpr env e
  | e :: es => do
    let done ← newLabel
    compileExpr env e
    emitAt l (if conj then .jumpIfFalseKeep done else .jumpIfTrueKeep done)
    compileChain env l conj es
    place done

/-- Pushes the positional arguments of a plain call and counts them. -/
def compilePositional (env : Env) : List Argument → Build Nat
  | [] => return 0
  | .positional e :: as => do
    compileExpr env e
    return (← compilePositional env as) + 1
  | .unpackList _ :: as | .unpackDict _ :: as | .keyword _ _ :: as => compilePositional env as

/-- Pushes the keyword values of a plain call and lists their names. -/
def compileKeywords (env : Env) : List Argument → Build (List String)
  | [] => return []
  | .keyword id e :: as => do
    compileExpr env e
    return id :: (← compileKeywords env as)
  | .unpackList _ :: as | .unpackDict _ :: as | .positional _ :: as => compileKeywords env as

/-- Collects positional arguments into the list on top. -/
def compileSpread (env : Env) : List Argument → Build Unit
  | [] => pure ()
  | .positional e :: as => do
    compileExpr env e
    emit (.listAppend 0)
    compileSpread env as
  | .unpackList e :: as => do
    compileExpr env e
    emit .listExtend
    compileSpread env as
  | .keyword _ _ :: as | .unpackDict _ :: as => compileSpread env as

/-- Pushes the only argument that stands after a star. -/
def compileOnly (env : Env) : List Argument → Build Unit
  | [] => pure ()
  | .unpackList e :: _ => compileExpr env e
  | _ :: as => compileOnly env as

/-- Collects keyword arguments into the dictionary on top. -/
def compileSpreadKeywords (env : Env) (l : Nat) : List Argument → Build Unit
  | [] => pure ()
  | .keyword id e :: as => do
    emit .buildDict
    emit (.const (.str (Text.ofString id)))
    compileExpr env e
    emit (.dictPut 0)
    emitAt l .dictMerge
    compileSpreadKeywords env l as
  | .unpackDict e :: as => do
    compileExpr env e
    emitAt l .dictMerge
    compileSpreadKeywords env l as
  | .positional _ :: as | .unpackList _ :: as => compileSpreadKeywords env l as

/-- Pushes the parts of a formatted string. -/
def compilePieces (env : Env) (l : Nat) : List Piece → Build Unit
  | [] => pure ()
  | .text t :: ps => do
    emitAt l (.const (.str t))
    compilePieces env l ps
  | .field e c [] :: ps => do
    compileExpr env e
    emitAt l (.format c false)
    compilePieces env l ps
  | .field e c spec :: ps => do
    compileExpr env e
    compilePieces env l spec
    emitAt l (.concat spec.length)
    emitAt l (.format c true)
    compilePieces env l ps

/-- Pushes the defaults of positional parameters. -/
def compileDefaults (env : Env) : List Param → Build Unit
  | [] => pure ()
  | .mk _ .ordinary (some e) _ :: ps | .mk _ .positionalOnly (some e) _ :: ps => do
    compileExpr env e
    compileDefaults env ps
  | .mk _ _ _ _ :: ps => compileDefaults env ps

/-- Pushes the defaults of keyword-only parameters. -/
def compileKeywordDefaults (env : Env) : List Param → Build Unit
  | [] => pure ()
  | .mk _ .keywordOnly (some e) _ :: ps => do
    compileExpr env e
    compileKeywordDefaults env ps
  | .mk _ _ _ _ :: ps => compileKeywordDefaults env ps

/-- Pushes the annotations of the parameters of some kinds and lists their names. -/
def compileAnnotations (env : Env) (kinds : List ParamKind) : List Param → Build (List String)
  | [] => return []
  | .mk id kind _ (some e) :: ps => do
    if kinds.contains kind then
      compileExpr env e
      return id :: (← compileAnnotations env kinds ps)
    else compileAnnotations env kinds ps
  | .mk _ _ _ none :: ps => compileAnnotations env kinds ps

/-- Pushes the iterator of the first clause, which is evaluated outside the comprehension. -/
def compileFirstIter (env : Env) : List Clause → Build Unit
  | [] => pure ()
  | .mk _ _ iter _ :: _ => do
    compileExpr env iter
    emit .getIter

/-- The loops of a comprehension, `depth` iterators being on the stack, around `inner`. -/
def compileClauses (env : Env) : List Clause → (depth : Nat) → (inner : Nat → Build Unit) →
    Build Unit
  | [], depth, inner => inner depth
  | .mk _ target iter conds :: cs, depth, inner => do
    if depth == 0 then emit (.loadLocal ".0")
    else
      compileExpr env iter
      emit .getIter
    let again ← newLabel
    let done ← newLabel
    place again
    emit (.forIter done)
    compileTarget env target
    compileConditions env again conds
    compileClauses env cs (depth + 1) inner
    emit (.jump again)
    place done

/-- Goes back to `again` where a condition fails. -/
def compileConditions (env : Env) (again : Nat) : List Expr → Build Unit
  | [] => pure ()
  | e :: es => do
    compileExpr env e
    emitTest (← get).line e false again
    compileConditions env again es

/-- Assigns the top of the stack to a target. -/
def compileTarget (env : Env) : Expr → Build Unit
  | .name l id => do
    checkName l "assign to" id
    store env id
  | .attribute _ e id l => do
    compileExpr env e
    checkName l "assign to" id
    emitAt l (.storeAttr id)
  | .subscript l e k => do
    compileExpr env e
    compileExpr env k
    emitAt l .storeItem
  | .tuple l es | .list l es => do
    emitAt l (← unpackOf es)
    compileTargets env es
  | .starred l _ => throw (refuse "starred assignment target must be in a list or tuple" l)
  | _ => emit .pop
where
  /-- The instruction that takes a value apart for the given targets. -/
  unpackOf (es : List Expr) : Build Instr :=
    let stars := es.filterMap fun | .starred l _ => some l | _ => none
    match es.findIdx? fun | .starred _ _ => true | _ => false with
    | none => return .unpack es.length
    | some i =>
      if stars.length > 1 then
        throw (refuse "multiple starred expressions in assignment" (stars.headD 0))
      else return .unpackStar i (es.length - i - 1)

/-- Assigns the values on the stack, the first one on top, to targets. -/
def compileTargets (env : Env) : List Expr → Build Unit
  | [] => pure ()
  | .starred _ e :: es => do
    compileTarget env e
    compileTargets env es
  | e :: es => do
    compileTarget env e
    compileTargets env es

end

/-- Assigns the top of the stack to each target, the first one first. -/
def compileAssignments (env : Env) : List Expr → Build Unit
  | [] => emit .pop
  | [t] => compileTarget env t
  | t :: ts => do
    emit .dup
    compileTarget env t
    compileAssignments env ts

/-- The expressions of which the key of a subscript is made. -/
def partsOfKey : Expr → List Expr
  | .tuple _ es => es.flatMap fun
    | .slice _ a b c => [a, b, c].reduceOption
    | e => [e]
  | .slice _ a b c => [a, b, c].reduceOption
  | e => [e]

/-- Evaluates expressions whose values nothing needs. -/
def compileUnused (env : Env) (es : List Expr) : Build Unit :=
  es.forM fun e => do
    compileExpr env e
    emit .pop

mutual

/-- Deletes a target. -/
def compileDelete (env : Env) : Expr → Build Unit
  | .name l id => unbind env l id
  | .attribute _ e id l => do
    compileExpr env e
    emitAt l (.deleteAttr id)
  | .subscript l e k => do
    compileExpr env e
    compileExpr env k
    emitAt l .deleteItem
  | .tuple _ es | .list _ es => compileDeletes env es
  | _ => pure ()

/-- Deletes targets, the first one first. -/
def compileDeletes (env : Env) : List Expr → Build Unit
  | [] => pure ()
  | e :: es => do
    compileDelete env e
    compileDeletes env es

end

/-- Applies the decorators on the stack to the definition on top, the last one first. A decorator
that fails is blamed by its own line. -/
def applyDecorators (ds : List Expr) : Build Unit :=
  ds.reverse.forM fun d => emitAt d.line (.call 1 [])

mutual

/-- Whether a body has an annotated assignment of its own. -/
def Stmt.annotates : Stmt → Bool
  | .annotate _ _ _ _ _ => true
  | .ifElse _ _ a b | .forLoop _ _ _ a b | .whileLoop _ _ a b => annotatesAny a || annotatesAny b
  | .tryBlock _ a hs b c => annotatesAny a || handlersAnnotate hs || annotatesAny b ||
      annotatesAny c
  | _ => false

/-- The same for a block. -/
def annotatesAny : List Stmt → Bool
  | [] => false
  | s :: ss => s.annotates || annotatesAny ss

/-- The same for `except` clauses. -/
def handlersAnnotate : List Handler → Bool
  | [] => false
  | .mk _ _ _ body :: hs => annotatesAny body || handlersAnnotate hs

end

/-- A `try` without its `finally` part, from its body, its `else` part and its `except` clauses,
which get the label to go to when an exception is handled. -/
def buildTry (body orelse : Build Unit) (clauses : Option (Nat → Build Unit)) : Build Unit := do
  match clauses with
  | none =>
    body
    orelse
  | some clauses =>
    let handlers ← newLabel
    let done ← newLabel
    emit (.openExcept handlers)
    body
    emit .closeRegion
    orelse
    emit (.jump done)
    place handlers
    clauses done
    emit .reraise
    place done

mutual

/-- The instructions of a statement. -/
def compileStmt (env : Env) : Stmt → Build Unit
  | .expr l e => do
    setLine l
    compileExpr env e
    emit .pop
  | .assign l ts v => do
    setLine l
    compileExpr env v
    compileAssignments env ts
  | .augment l t op v => do
    setLine l
    match t with
    | .name l' id => do
      load env l' id
      compileExpr env v
      emit (.augment op)
      store env id
    | .attribute _ e id l' => do
      compileExpr env e
      emit .dup
      emitAt l' (.loadAttr id)
      compileExpr env v
      emit (.augment op)
      emit (.rotate 2)
      emitAt l' (.storeAttr id)
    | .subscript l' e k => do
      compileExpr env e
      compileExpr env k
      emit .dupTwo
      emitAt l' .loadItem
      compileExpr env v
      emit (.augment op)
      emit (.rotate 3)
      emit (.rotate 3)
      emitAt l' .storeItem
    | _ => pure ()
  | .annotate l simple t told v => do
    setLine l
    match v with
    | some v => do
      compileExpr env v
      compileTarget env t
    | none =>
      match t with
      | .name l' id => checkName l' "assign to" id
      | .attribute _ e id l' => do
        checkName l' "assign to" id
        compileUnused env [e]
      | .subscript _ e k => compileUnused env (e :: partsOfKey k)
      | _ => pure ()
    if env.kind != .function then
      match t, simple with
      | .name _ id, true => do
        compileExpr env told
        emit (.loadName "__annotations__")
        emit (.const (.str (Text.ofString id)))
        emit .storeItem
      | _, _ => compileUnused env [told]
  | .deleteTargets l ts => do
    setLine l
    compileDeletes env ts
  | .skip _ | .global _ _ | .nonlocal _ _ => pure ()
  | .importModules l ns => do
    setLine l
    for n in ns do
      emit (.importModule n.path 0 none)
      if n.bound.isSome then
        for part in (n.path.splitOn ".").drop 1 do
          emit (.importFrom part)
          emit (.rotate 2)
          emit .pop
      store env n.target
  | .importFrom l level m ns => do
    setLine l
    emit (.importModule m level (some (ns.map ImportName.path)))
    for n in ns do
      emit (.importFrom n.path)
      store env (n.bound.getD n.path)
    emit .pop
  | .importAll l level m => do
    setLine l
    emit (.importModule m level (some ["*"]))
    emit .importAll
  | .raiseError l e c => do
    setLine l
    match e with
    | none => emit (.raiseError 0)
    | some e => do
      compileExpr env e
      match c with
      | none => emitAt l (.raiseError 1)
      | some c => do
        compileExpr env c
        emitAt l (.raiseError 2)
  | .assertTrue l t m => do
    setLine l
    let ok ← newLabel
    compileExpr env t
    emitTest l t true ok
    match m with
    | none => emitAt l (.assertionError false)
    | some m => do
      compileExpr env m
      emitAt l (.assertionError true)
    place ok
  | .ifElse l t a b => do
    setLine l
    let no ← newLabel
    let done ← newLabel
    compileExpr env t
    emitTest l t false no
    compileBlock env a
    emit (.jump done)
    place no
    compileBlock env b
    place done
  | .forLoop l t i a b => do
    setLine l
    let again ← newLabel
    let ended ← newLabel
    let done ← newLabel
    emit (.openLoop done)
    compileExpr env i
    emitAt l .getIter
    place again
    emitAt l (.forIter ended)
    compileTarget env t
    compileBlock { env with loop := some (again, 1) } a
    emit (.jump again)
    place ended
    emit .closeRegion
    compileBlock env b
    place done
  | .whileLoop l t a b => do
    setLine l
    let again ← newLabel
    let ended ← newLabel
    let done ← newLabel
    emit (.openLoop done)
    place again
    setLine l
    compileExpr env t
    emitTest l t false ended
    compileBlock { env with loop := some (again, 0) } a
    emit (.jump again)
    place ended
    emit .closeRegion
    compileBlock env b
    place done
  | .breakLoop l => do
    setLine l
    match env.loop with
    | none => throw (refuse "'break' outside loop" l)
    | some _ => emit .breakLoop
  | .continueLoop l => do
    setLine l
    match env.loop with
    | none => throw (refuse "'continue' not properly in loop" l)
    | some (again, keep) => emit (.continueLoop again keep)
  | .tryBlock _ a hs b c => do
    let guarded := buildTry (compileBlock env a) (compileBlock env b)
      (if hs.isEmpty then none else some fun done => compileHandlers env done hs)
    if c.isEmpty then guarded
    else
      let final ← newLabel
      emit (.openFinal final)
      guarded
      emit .closeRegion
      emit .enterFinal
      place final
      compileBlock env c
      emit .endFinal
  | .functionDef l ds id bound ps r body => do
    setLine l
    checkParameterNames l ps
    compileExprs env ds
    compileDefaults env ps
    compileKeywordDefaults env ps
    let ordinary ← compileAnnotations env [.ordinary] ps
    let first ← compileAnnotations env [.positionalOnly] ps
    let others ← compileAnnotations env [.variadic, .keywordOnly, .keywords] ps
    let result ← match r with
      | some e => do
        compileExpr env e
        pure ["return"]
      | none => pure []
    let b := blockBindings body
    let qualified := if env.globals.contains bound then id else env.path ++ id
    let env' := { env.enter id (paramNames ps) b with path := qualified ++ ".<locals>." }
    let doc := docText? body
    let u ← nested env' id qualified l (signatureOf ps) b.yields doc do
      compileBody env' doc.isSome body
      emit (.const .none)
      emit .returnValue
    setLine l
    emit (functionInstr u ps (ordinary ++ first ++ others ++ result))
    applyDecorators ds
    setLine l
    store env bound
  | .classDef l ds id bound args body => do
    setLine l
    compileExprs env ds
    let qualified := if env.globals.contains bound then id else env.path ++ id
    let b := blockBindings body
    let env' : Env := { env with
      kind := .classBody, locals := [], globals := b.globals, nonlocals := b.nonlocals,
      outer := env.around, path := qualified ++ ".", loop := none }
    let doc := docText? body
    let u ← nested env' id qualified l ⟨[], [], none, [], none⟩ false none do
      if annotatesAny body then emit .setupAnnotations
      match doc with
      | some t => do
        emitAt (body.head?.elim l Stmt.line) (.const (.str t))
        store env' "__doc__"
      | none => pure ()
      compileBody env' doc.isSome body
      emit (.const .none)
      emit .returnValue
    setLine l
    checkKeywords args
    if isPlainCall args then
      let n ← compilePositional env args
      let ks ← compileKeywords env args
      emit (.makeClass u id n ks)
    else
      emit (.buildList 0)
      compileSpread env args
      emit .buildDict
      compileSpreadKeywords env l args
      emit (.makeClassSpread u id)
    applyDecorators ds
    setLine l
    store env bound
  | .returnValue l e => do
    setLine l
    if env.kind != .function then throw (refuse "'return' outside function" l)
    compileBound env e
    emitAt l .returnValue
where
  /-- Makes the function of unit `u` with the named annotations. -/
  functionInstr (u : Nat) (ps : List Param) (annotations : List String) : Instr :=
    .makeFunction u
      (ps.countP fun
        | .mk _ .ordinary (some _) _ | .mk _ .positionalOnly (some _) _ => true
        | _ => false)
      (ps.filterMap fun
        | .mk id .keywordOnly (some _) _ => some id
        | _ => none)
      annotations

/-- The instructions of a body; the text that it starts with is left out if that is given. -/
def compileBody (env : Env) (hasDoc : Bool) : List Stmt → Build Unit
  | [] => pure ()
  | s :: ss => do
    if !hasDoc then compileStmt env s
    compileBlock env ss

/-- The instructions of a block. -/
def compileBlock (env : Env) : List Stmt → Build Unit
  | [] => pure ()
  | s :: ss => do
    compileStmt env s
    compileBlock env ss

/-- The `except` clauses; the exception is on top of the stack. -/
def compileHandlers (env : Env) (done : Nat) : List Handler → Build Unit
  | [] => pure ()
  | .mk l kind id body :: hs => do
    setLine l
    let next ← newLabel
    match kind with
    | none => if !hs.isEmpty then throw (refuse "default 'except:' must be last" l)
    | some k => do
      compileExpr env k
      emitAt l (.matchException next)
    match id with
    | none => do
      emit .pop
      compileBlock env body
    | some id => do
      store env id
      let clean ← newLabel
      emit (.openFinal clean)
      compileBlock env body
      emit .closeRegion
      emit .enterFinal
      place clean
      emit (.const .none)
      store env id
      unbind env l id
      emit .endFinal
    emit .endHandler
    emit (.jump done)
    place next
    compileHandlers env done hs

end

/-- Refuses a script that breaks the rules about names. -/
def checkProgram (p : Program) : Except Failure Unit := do
  let check := match p with
    | .statements ss => checkBlock [] ss
    | .expression e => checkExpr [] e
  discard <| check.run scriptScope

/-- The units of a script; the last one is the script itself. -/
def compileProgram (file : String) (p : Program) : Except Failure (Array Code) := do
  checkProgram p
  let env : Env := ⟨file, .script, [], [], [], [], "", none⟩
  let body : Build Unit := match p with
    | .statements ss => do
      let env := { env with globals := (blockBindings ss).globals }
      if annotatesAny ss then emit .setupAnnotations
      let doc := docText? ss
      match doc with
      | some t => do
        emitAt (ss.head?.elim 1 Stmt.line) (.const (.str t))
        store env "__doc__"
      | none => pure ()
      compileBody env doc.isSome ss
      emit (.const .none)
      emit .returnValue
    | .expression e => do
      compileExpr env e
      emit .returnValue
  let (_, b) ← body.run ⟨#[], #[], #[], 1, #[]⟩
  let own : Code := ⟨"<module>", "<module>", file, 1, .script, ⟨[], [], none, [], none⟩, false,
    b.instrs, b.lines, b.labels, 0, none, [], []⟩
  return shareVariables (b.units.push own.shortcut)

/-- Compiles the text of a script: its units, the script itself last. -/
def compile (mode : Mode) (file source : String) : Except Failure (Array Code) := do
  compileProgram file (← parse mode source)

end GuestBridge.Script
