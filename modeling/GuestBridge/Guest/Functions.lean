import GuestBridge.Guest.ClassBody
import GuestBridge.Guest.Import
import GuestBridge.Guest.Method.Stream
import GuestBridge.Guest.Notation
import GuestBridge.Guest.Coding

/-!
# Functions of the built-in modules

What scripts call by name: conversions and questions about objects, iteration, printing, compiling
and running code, and a few functions of the library's modules.
-/

namespace GuestBridge.Guest

open Number Script

/-- How many arguments the functions that every script sees take. -/
def globalArity : String → Arity
  | "abs" | "all" | "any" | "ascii" | "bin" | "callable" | "chr" | "hash" | "hex" | "id" | "len"
  | "oct" | "ord" | "repr" => .one
  | "delattr" | "hasattr" | "isinstance" | "issubclass" | "divmod" => .between 2 2
  | "setattr" => .between 3 3
  | "getattr" => .between 2 3
  | "iter" | "next" | "format" => .between 1 2
  | "eval" => .between 1 3
  | "dir" | "vars" | "input" => .between 0 1
  | "globals" | "locals" => .none
  | _ => .any

section
variable [Ops]

/-! ### Printing -/

/-- Writes a text to a stream. -/
def writeTo (file text : Ref) : Exec Unit := do
  discard <| Ops.call (← getAttr file "write") (.of [text])

/-- Writes objects to a stream, divided by a separator. -/
def writeAll (file sep : Ref) : (first : Bool) → List Ref → Exec Unit
  | _, [] => return ()
  | first, x :: xs => do
    unless first do writeTo file sep
    let write ← getAttr file "write"
    let text ← if (← classOf x) == .builtin .str then pure x else newText (← Ops.str x)
    discard <| Ops.call write (.of [text])
    writeAll file sep false xs

/-- Prints objects. -/
def printObjects (a : Args) : Exec Ref := do
  onlyKeywords "print" ["sep", "end", "file", "flush"] a
  let given := (a.keyword? "file").filter (!isNone ·)
  let file ← match given with
    | some f => pure (some f)
    | none =>
      match ← getName (← moduleDict (← get).system) "stdout" with
      | some f => pure (if isNone f then none else some f)
      | none => raiseError .runtimeError "lost sys.stdout"
  match file with
  | none => return noneRef
  | some file =>
    let textOr (id default : String) : Exec Ref := do
      match (a.keyword? id).filter (!isNone ·) with
      | some r =>
        match ← text? r with
        | some _ => return r
        | none => typeError (id ++ " must be None or a string, not " ++ (← typeNameOf r))
      | none => newStr default
    let sep ← textOr "sep" " "
    let ending ← textOr "end" "\n"
    writeAll file sep true a.positional
    writeTo file ending
    match a.keyword? "flush" with
    | some f => if ← isTrue f then discard <| Ops.call (← getAttr file "flush") (.of [])
    | none => pure ()
    return noneRef

/-! ### Compiling and running -/

/-- The text of a script given as an argument. -/
def sourceText (shown : String) (r : Ref) : Exec String := do
  let check (t : Text) : Exec String := do
    match t.toString? with
    | some s =>
      if s.contains '\x00' then valueError "source code string cannot contain null bytes"
      else return s
    | none =>
      discard <| encodeWith "utf-8" "strict" t
      return ""
  match ← dataOf r with
  | .str t => check t
  | .bytes bs | .bytearray bs => do
    let t ← recover (decodeWith "utf-8" "strict" bs) .unicodeDecodeError fun e => do
      raiseError .syntaxError ("(unicode error) " ++ (← Ops.str e.value).lossy)
    check t
  | _ => typeError shown

/-- The modes of compiling by their names. -/
def modeNamed? : String → Option Mode
  | "exec" | "single" => some .statements
  | "eval" => some .expression
  | _ => none

/-- Compiles a script. -/
def compileScript (a : Args) : Exec Ref := do
  let vs ← bindNamed "compile" ⟨["source", "filename", "mode", "flags", "dont_inherit", "optimize",
    "_feature_version"], 3, 6⟩ a
  let source := orNone (parameter? vs 0)
  let file := orNone (parameter? vs 1)
  let name ← match ← dataOf file with
    | .str t => pure t.lossy
    | .bytes bs => pure (Text.mk (bs.map UInt8.toNat)).lossy
    | _ => typeError ("expected str, bytes or os.PathLike object, not " ++ (← typeNameOf file))
  if name.contains '\x00' then valueError "embedded null character"
  let mode ← textArg "compile()" "argument 'mode'" (orNone (parameter? vs 2))
  let some mode := modeNamed? mode.lossy
    | valueError "compile() mode must be 'exec', 'eval' or 'single'"
  match ← dataOf source with
  | .code _ => return source
  | _ =>
    let text ← sourceText "compile() arg 1 must be a string, bytes or AST object" source
    alloc (.of .code (.code (← loadCode mode name text)))

/-- The unit of code that is given as code or as the text of a script. -/
def codeArgument (shown : String) (mode : Mode) (r : Ref) : Exec Nat := do
  match ← dataOf r with
  | .code unit => return unit
  | _ =>
    let text ← sourceText shown r
    let text := if mode == .expression
      then String.ofList (text.toList.dropWhile fun c => c == ' ' || c == '\t') else text
    loadCode mode "<string>" text

/-- The dictionary of the names that the running code sees first. -/
def currentLocals : Exec Ref := do
  match (← get).frames.head? with
  | none => return noneRef
  | some f =>
    match f.names with
    | some names => return names
    | none => newNameDict (← (← f.data).seen)

/-- Whether an object can be asked for the values of names. -/
def isMapping (r : Ref) : Exec Bool := do
  match ← dataOf r with
  | .dict _ | .defaultDict _ _ | .proxy _ | .list _ | .tuple _ | .str _ | .bytes _ | .bytearray _
  | .range _ _ _ | .memory _ _ => return true
  | _ => return (← userSpecial? r "__getitem__").isSome

/-- Runs code in the dictionaries given as arguments, or in those of the caller. -/
def runScript (id : String) (mode : Mode) (source : Ref) (globals locals : Option Ref) :
    Exec Ref := do
  let globals := globals.filter (!isNone ·)
  let locals := locals.filter (!isNone ·)
  let isExec := id == "exec"
  if !isExec then
    match locals with
    | some l => unless ← isMapping l do typeError "locals must be a mapping"
    | none => pure ()
  match globals with
  | some g =>
    unless ← isDict g do
      if isExec then typeError ("exec() globals must be a dict, not " ++ (← typeNameOf g))
      else if ← isMapping g then
        typeError "globals must be a real dict; try eval(code, {}, mapping)"
      else typeError "globals must be a dict"
  | none => pure ()
  match locals with
  | some l =>
    unless ← isMapping l do
      typeError ("locals must be a mapping or None, not " ++ (← typeNameOf l))
  | none => pure ()
  let (g, l) ← match globals, locals with
    | some g, some l => pure (g, l)
    | some g, none => pure (g, g)
    | none, some l => do pure (orNone (← currentGlobals?), l)
    | none, none => do pure (orNone (← currentGlobals?), ← currentLocals)
  ensureBuiltins g
  let unit ← codeArgument (id ++ "() arg 1 must be a string, bytes or code object") mode source
  let v ← runUnit unit g l
  return if isExec then noneRef else v

/-! ### Iteration -/

/-- Whether a test holds for the truth of some element. -/
def anyElement (wanted : Bool) (it : Ref) : (fuel : Nat) → Exec Bool
  | 0 => return false
  | fuel + 1 => do
    match ← Ops.next it with
    | none => return false
    | some x => if (← isTrue x) == wanted then return true else anyElement wanted it fuel

/-- The least or greatest of elements with their keys. -/
def extreme (greatest : Bool) (best : Ref × Ref) : List (Ref × Ref) → Exec Ref
  | [] => return best.2
  | x :: xs => do
    let better ← isTrue (← Ops.compare (if greatest then .gt else .lt) x.1 best.1)
    extreme greatest (if better then x else best) xs

/-- `min` and `max`. -/
def extremeOf (id : String) (a : Args) : Exec Ref := do
  if a.positional.isEmpty then typeError (id ++ " expected at least 1 argument, got 0")
  let vs ← bindNamed id ⟨["key", "default"], 0, 0⟩ ⟨[], a.keywords⟩
  let usual := parameter? vs 1
  if usual.isSome && a.positional.length > 1 then
    typeError ("Cannot specify a default for " ++ id ++ "() with multiple positional arguments")
  let items ← match a.positional with
    | [x] => elements x
    | xs => pure xs
  let pairs ← items.mapM fun x => do
    match (parameter? vs 0).filter (!isNone ·) with
    | some f => return (← Ops.call f (.of [x]), x)
    | none => return (x, x)
  match pairs, usual with
  | p :: ps, _ => extreme (id == "max") p ps
  | [], some d => return d
  | [], none => valueError (id ++ "() arg is an empty sequence")

/-! ### Names -/

/-- A name given as an argument. -/
def nameArg (shown : String) (r : Ref) : Exec String := do
  match ← text? r with
  | some t => return t.lossy
  | none => typeError (shown ++ ": attribute name must be string")

/-- The name of an attribute that is to be changed. -/
def changedName (r : Ref) : Exec String := do
  match ← text? r with
  | some t => return t.lossy
  | none => typeError ("attribute name must be string, not '" ++ (← typeNameOf r) ++ "'")

/-- The names that a class gives to its instances, or to itself. -/
def namesOfClass (c : Class) : Exec (List String) := do
  match c with
  | .builtin k => return k.slots ++ k.methods ++ k.classMethods ++ k.staticMethods ++
      k.attributes.1 ++ k.attributes.2
  | .user u =>
    return (← classData u).names.map (·.1) ++ ["__module__"]

/-- The names that an object has. -/
def namesOfObject (r : Ref) : Exec (List String) := do
  let names ← match ← class? r, ← dataOf r with
    | some c, _ => do pure (← (← c.order).mapM namesOfClass).flatten
    | none, .module d => do pure ((← namesOf d).map (·.1))
    | none, _ => do
      let inherited ← (← (← classOf r).order).mapM namesOfClass
      pure ((← ownAttrs r).map (·.1) ++ inherited.flatten)
  return names.eraseDups.mergeSort (fun a b => a ≤ b)

/-- The names that an object tells, in order. -/
def dirOf (r : Ref) : Exec Ref := do
  let told ← match ← userSpecial? r "__dir__", ← dataOf r with
    | some f, _ => some <$> callValue f r []
    | none, .module d =>
      match ← getName d "__dir__" with
      | some f => some <$> Ops.call f (.of [])
      | none => pure none
    | none, _ => pure none
  match told with
  | some names => do newList (← sortElements (← elements names) none false)
  | none => do newList (← (← namesOfObject r).mapM newStr)

/-- The dictionary that `vars` gives. -/
def varsOf (r : Ref) : Exec Ref := do
  match ← getAttr? r "__dict__" with
  | some d => return d
  | none => typeError "vars() argument must have __dict__ attribute"

/-! ### Numbers -/

/-- A whole number in some base, with its sign and prefix. -/
def basedText (base : Nat) (mark : String) (n : Int) : Exec Ref :=
  newStr ((if n < 0 then "-" else "") ++ mark ++ String.ofList (Nat.toDigits base n.natAbs))

/-- The sum of the elements of an iterator, added to `acc`. -/
def sumFrom (it : Ref) : (fuel : Nat) → (acc : Ref) → Exec Ref
  | 0, acc => return acc
  | fuel + 1, acc => do
    match ← Ops.next it with
    | none => return acc
    | some x => do sumFrom it fuel (← binaryOp .add acc x)

/-- `round`: to the nearest, a half to the even one. -/
def roundNumber (x : Ref) (digits : Option Ref) : Exec Ref := do
  let given := digits.filter (!isNone ·)
  match ← callSpecial? x "__round__" given.toList with
  | some r => return r
  | none =>
    match ← dataOf x with
    | .int n => intMethod n "__round__" (.of given.toList)
    | .float b => floatMethod b "__round__" (.of given.toList)
    | _ => typeError ("type " ++ (← typeNameOf x) ++ " doesn't define __round__ method")

/-- A power of a whole number, reduced by a modulus at each step. -/
def powerModulo (base modulus : Int) : (fuel exponent : Nat) → Int
  | 0, _ => 1 % modulus
  | fuel + 1, e =>
    if e == 0 then 1 % modulus
    else
      let half := powerModulo base modulus fuel (e / 2)
      let square := half * half % modulus
      if e % 2 == 1 then square * base % modulus else square

/-- A number whose product with another leaves one modulo a modulus. -/
def inverseModulo? (a : Int) (modulus : Nat) : Option Int :=
  let rec go : (fuel : Nat) → (r r' s s' : Int) → Int × Int
    | 0, r, _, s, _ => (r, s)
    | fuel + 1, r, r', s, s' =>
      if r' == 0 then (r, s) else go fuel r' (r - r / r' * r') s' (s - r / r' * s')
  let (g, s) := go (modulus.log2 * 2 + 4) (a % modulus) modulus 1 0
  if g == 1 then some (s % modulus) else none

/-- `pow` with a modulus. -/
def powModulo (x y z : Ref) : Exec Ref := do
  match ← callSpecial? x "__pow__" [y, z] with
  | some r => if r != notImplementedRef then return r
  | none => pure ()
  match ← dataOf x, ← dataOf y, ← dataOf z with
  | .int a, .int e, .int m =>
    if m == 0 then valueError "pow() 3rd argument cannot be 0"
    let size : Int := m.natAbs
    let base ← if e < 0 then
        match inverseModulo? a m.natAbs with
        | some b => pure b
        | none => valueError "base is not invertible for the given modulus"
      else pure (a % size)
    let r := powerModulo base size (e.natAbs.log2 + 2) e.natAbs
    newInt (if m < 0 && r != 0 then r + m else r)
  | d, e, _ =>
    if (d.num?).isSome && (e.num?).isSome then
      match d with
      | .complex _ _ => valueError "complex modulo"
      | _ => typeError "pow() 3rd argument not allowed unless all arguments are integers"
    else
      typeError ("unsupported operand type(s) for ** or pow(): '" ++ (← typeNameOf x) ++ "', '" ++
        (← typeNameOf y) ++ "', '" ++ (← typeNameOf z) ++ "'")

/-- The quotient and the remainder of a division. -/
def divideWithRest (x y : Ref) : Exec Ref := do
  let user ← match ← callSpecial? x "__divmod__" [y] with
    | some r => pure (if r == notImplementedRef then none else some r)
    | none => pure none
  match user with
  | some r => return r
  | none =>
    let reflected ← match ← callSpecial? y "__rdivmod__" [x] with
      | some r => pure (if r == notImplementedRef then none else some r)
      | none => pure none
    match reflected, (← dataOf x).num?, (← dataOf y).num? with
    | some r, _, _ => return r
    | none, some (.complex _ _), some _ | none, some _, some (.complex _ _)
    | none, none, _ | none, _, none =>
      typeError ("unsupported operand type(s) for divmod(): '" ++ (← typeNameOf x) ++ "' and '" ++
        (← typeNameOf y) ++ "'")
    | none, some a, some b =>
      match a, b with
      | .int _, .int _ => pure ()
      | _, _ => if !b.truth then raiseError .zeroDivisionError "float divmod()"
      newTuple [← binaryOp .floorDiv x y, ← binaryOp .mod x y]

/-- The absolute value of a number. -/
def absolute (x : Ref) : Exec Ref := do
  match ← callSpecial? x "__abs__" [] with
  | some r => return r
  | none =>
    match (← dataOf x).num? with
    | some (.int n) => newInt n.natAbs
    | some (.float b) => newFloat (b % binary64.signBit)
    | some (.complex re im) =>
      let size := Num.hypotenuse re im
      if !binary64.isFinite size && binary64.isFinite re && binary64.isFinite im then
        raiseError .overflowError "absolute value too large"
      newFloat size
    | none => typeError ("bad operand type for abs(): '" ++ (← typeNameOf x) ++ "'")

/-- The number of the only character of a text. -/
def characterNumber (x : Ref) : Exec Ref := do
  let one (n : Nat) (p : Option Nat) : Exec Ref := do
    match n, p with
    | 1, some p => newInt p
    | _, _ => typeError ("ord() expected a character, but string of length " ++ toString n ++
        " found")
  match ← dataOf x with
  | .str t => one t.length t.points.head?
  | .bytes bs | .bytearray bs => one bs.length (bs.head?.map UInt8.toNat)
  | _ => typeError ("ord() expected string of length 1, but " ++ (← typeNameOf x) ++ " found")

/-- `sum`. -/
def sumOf (a : Args) : Exec Ref := do
  let vs ← bindNamed "sum" (.requiring 1 ["", "start"]) a
  let start ← match parameter? vs 1 with
    | some s =>
      match ← dataOf s with
      | .str _ => typeError "sum() can't sum strings [use ''.join(seq) instead]"
      | .bytes _ => typeError "sum() can't sum bytes [use b''.join(seq) instead]"
      | .bytearray _ => typeError "sum() can't sum bytearray [use b''.join(seq) instead]"
      | _ => pure s
    | none => newInt 0
  sumFrom (← iter (orNone (parameter? vs 0))) loopLimit start

/-- The module that `__import__` loads. -/
def importNamed (a : Args) : Exec Ref := do
  let vs ← bindNamed "__import__"
    (.requiring 1 ["name", "globals", "locals", "fromlist", "level"]) a
  let level ← match parameter? vs 4 with
    | some l => smallArg l
    | none => pure 0
  let some name ← text? (orNone (parameter? vs 0))
    | typeError "module name must be a string"
  if level < 0 then valueError "level must be >= 0"
  let names ← match (parameter? vs 3).filter (!isNone ·) with
    | some l => if ← isTrue l then elements l else pure []
    | none => pure []
  importModule name.lossy (parameter? vs 1) names level.toNat

/-! ### The functions that every script sees -/

/-- A function that asks an object about its attributes or its class, or changes them; `none` for
the others. -/
def objectFunction? (id : String) (a : Args) : Exec (Option Ref) := do
  let x := a.at 0
  match id with
  | "callable" => return some (boolRef (← isCallable x))
  | "delattr" => do
    deleteAttr x (← changedName (a.at 1))
    return some noneRef
  | "setattr" => do
    setAttr x (← changedName (a.at 1)) (a.at 2)
    return some noneRef
  | "hasattr" => do
    return some (boolRef (← getAttr? x (← nameArg "hasattr()" (a.at 1))).isSome)
  | "getattr" =>
    let id ← nameArg "getattr()" (a.at 1)
    match a.at? 2 with
    | none => some <$> getAttr x id
    | some d => return some ((← getAttr? x id).getD d)
  | "dir" =>
    match a.at? 0 with
    | some x => some <$> dirOf x
    | none => do
      let names ← namesOf (← currentLocals)
      some <$> newList (← ((names.map (·.1)).mergeSort (fun a b => a ≤ b)).mapM newStr)
  | "vars" =>
    match a.at? 0 with
    | some x => some <$> varsOf x
    | none => some <$> currentLocals
  | "globals" => return some (orNone (← currentGlobals?))
  | "locals" => some <$> currentLocals
  | "hash" => do some <$> newInt (← Ops.hash x)
  | "id" => some <$> newInt (140000000000000 + x.id * 16)
  | "isinstance" => return some (boolRef (← Ops.isInstance x (a.at 1)))
  | "issubclass" =>
    match ← class? x with
    | some c => return some (boolRef (← isSubclass c 100 (a.at 1)))
    | none => typeError "issubclass() arg 1 must be a class"
  | "len" => do some <$> newInt (← length x)
  | "repr" => do some <$> newText (← Ops.repr x)
  | "ascii" => do some <$> newText (← asciiRepr x)
  | "format" =>
    let spec ← match a.at? 1 with
      | some s => textArg "format()" "argument 2" s
      | none => pure .empty
    some <$> newText (← formatObject x spec)
  | _ => return none

/-- A function of numbers or characters; `none` for the others. -/
def numberFunction? (id : String) (a : Args) : Exec (Option Ref) := do
  let x := a.at 0
  match id with
  | "abs" => some <$> absolute x
  | "bin" => do some <$> basedText 2 "0b" (← index x)
  | "oct" => do some <$> basedText 8 "0o" (← index x)
  | "hex" => do some <$> basedText 16 "0x" (← index x)
  | "chr" =>
    let n ← smallArg x
    if 0 ≤ n && n < 0x110000 then some <$> newChar n.toNat
    else valueError "chr() arg not in range(0x110000)"
  | "ord" => some <$> characterNumber x
  | "divmod" => some <$> divideWithRest x (a.at 1)
  | "pow" =>
    let vs ← bindNamed "pow" (.requiring 2 ["base", "exp", "mod"]) a
    let base := orNone (parameter? vs 0)
    let exponent := orNone (parameter? vs 1)
    match (parameter? vs 2).filter (!isNone ·) with
    | none => some <$> binaryOp .pow base exponent
    | some m => some <$> powModulo base exponent m
  | "round" =>
    let vs ← bindNamed "round" (.requiring 1 ["number", "ndigits"]) a
    some <$> roundNumber (orNone (parameter? vs 0)) (parameter? vs 1)
  | "sum" => some <$> sumOf a
  | "max" | "min" => some <$> extremeOf id a
  | _ => return none

/-- The next element of an iterator, or else the exception by which it ends. -/
def nextOrStop (x : Ref) : Exec Ref := do
  match ← userSpecial? x "__next__", ← dataOf x with
  | some f, _ => callValue f x []
  | none, .generator _ _ _ _ _ =>
    match ← resume x (.ok noneRef) with
    | .yielded v => return v
    | .finished v => stopIteration v
  | none, _ =>
    match ← Ops.next x with
    | some v => return v
    | none => stopIteration noneRef

/-- A function that every script sees. -/
def globalFunction (id : String) (a : Args) : Exec Ref := do
  let x := a.at 0
  match ← objectFunction? id a with
  | some r => return r
  | none =>
    match ← numberFunction? id a with
    | some r => return r
    | none =>
      match id with
      | "all" => do return boolRef !(← anyElement false (← iter x) loopLimit)
      | "any" => do return boolRef (← anyElement true (← iter x) loopLimit)
      | "compile" => compileScript a
      | "eval" => runScript "eval" .expression x (a.at? 1) (a.at? 2)
      | "exec" =>
        let vs ← bindNamed "exec" ⟨["", "", "", "closure"], 1, 3⟩ a
        runScript "exec" .statements x (parameter? vs 1) (parameter? vs 2)
      | "iter" =>
        match a.at? 1 with
        | none => iter x
        | some s =>
          if ← isCallable x then newCursor .callableIterator (.calls x s)
          else typeError "iter(v, w): v must be callable"
      | "next" =>
        if !(← isIterator x) then
          typeError ("'" ++ (← typeNameOf x) ++ "' object is not an iterator")
        match a.at? 1 with
        | some d => recover (nextOrStop x) .stopIteration fun _ => return d
        | none => nextOrStop x
      | "print" => printObjects a
      | "sorted" =>
        if a.positional.length != 1 then
          typeError ("sorted expected 1 argument, got " ++ toString a.positional.length)
        newList (← sortNamed "sort" (← elements x) a)
      | "__import__" => importNamed a
      | "__build_class__" => classFromArgs a
      | "input" => raiseError .eofError "EOF when reading a line"
      | "open" =>
        let vs ← bindNamed "open" (.requiring 1 ["file", "mode", "buffering", "encoding", "errors",
          "newline", "closefd", "opener"]) a
        let file := orNone (parameter? vs 0)
        match ← text? file with
        | some _ =>
          Ops.call (Kind.error .osError).ref (.of [← newInt 2,
            ← newStr "No such file or directory", file]) >>= raiseRef
        | none =>
          typeError ("expected str, bytes or os.PathLike object, not " ++ (← typeNameOf file))
      | _ => raiseError .notImplementedError id

/-! ### Functions of the module `math` -/

/-- A floating-point argument of a mathematical function. -/
def realArg (r : Ref) : Exec Nat := do
  match ← realNumber? r with
  | some b => return b
  | none => typeError ("must be real number, not " ++ (← typeNameOf r))

/-- The product of the naturals up to a bound. -/
def factorial : Nat → Nat
  | 0 => 1
  | n + 1 => (n + 1) * factorial n

/-- The product of `k` naturals downwards from `n`. -/
def fallingProduct : (n k : Nat) → Nat
  | _, 0 => 1
  | n, k + 1 => n * fallingProduct (n - 1) k

/-- The natural whose square is the greatest that is not above another; `fuel` bounds the digits. -/
def wholeRoot : (fuel n : Nat) → Nat
  | 0, _ => 0
  | fuel + 1, n =>
    if n == 0 then 0
    else
      let r := 2 * wholeRoot fuel (n / 4)
      if (r + 1) * (r + 1) ≤ n then r + 1 else r

/-- How many arguments the functions of the module take. -/
def mathArity : String → Arity
  | "pow" | "atan2" | "copysign" | "fmod" | "ldexp" | "comb" => .between 2 2
  | "log" | "perm" => .between 1 2
  | "gcd" | "lcm" | "hypot" | "prod" | "isclose" => .any
  | _ => .one

/-- The functions of one real number. -/
def realFunction? : String → Option (Float → Float)
  | "sqrt" => some Float.sqrt
  | "exp" => some Float.exp
  | "exp2" => some Float.exp2
  | "cbrt" => some Float.cbrt
  | "fabs" => some Float.abs
  | "sin" => some Float.sin
  | "cos" => some Float.cos
  | "tan" => some Float.tan
  | "asin" => some Float.asin
  | "acos" => some Float.acos
  | "atan" => some Float.atan
  | "sinh" => some Float.sinh
  | "cosh" => some Float.cosh
  | "tanh" => some Float.tanh
  | "degrees" => some fun x => x * (180.0 / 3.14159265358979323846)
  | "radians" => some fun x => x * (3.14159265358979323846 / 180.0)
  | _ => none

/-- The result of a function of real numbers; what is undefined or too large is refused. -/
def realResult (given : List Nat) (y : Float) : Exec Ref := do
  if y.isNaN && given.all (!binary64.isNaN ·) then valueError "math domain error"
  else if y.isInf && given.all binary64.isFinite then
    raiseError .overflowError "math range error"
  else newFloat (Num.pattern y)

/-- The logarithm of a number to a base, or the natural one. Whole numbers of any size have one. -/
def logarithm (f : Float → Float) (r : Ref) : Exec Nat := do
  match ← dataOf r with
  | .int n =>
    if n ≤ 0 then valueError "math domain error"
    match ofInt? binary64 n with
    | some b => return Num.pattern (f (Num.host b))
    | none =>
      let shift := n.natAbs.log2 - 60
      let top := (ofInt? binary64 (n / Nat.pow 2 shift)).getD 0
      return Num.pattern (f (Num.host top) + f 2 * Float.ofNat shift)
  | _ =>
    let b ← realArg r
    if Num.isZero b || (binary64.isNegative b && !binary64.isNaN b) then
      valueError "math domain error"
    return Num.pattern (f (Num.host b))

/-- A whole number that is not negative. -/
def naturalArg (what : String) (r : Ref) : Exec Nat := do
  let n ← index r
  if n < 0 then valueError (what ++ " must be a non-negative integer") else return n.toNat

/-- A function of whole numbers; `none` for the others. -/
def wholeFunction? (id : String) (a : Args) : Exec (Option Ref) := do
  let natural (n : Nat) : Exec (Option Ref) := do some <$> newInt n
  match id with
  | "floor" | "ceil" | "trunc" =>
    let special := "__" ++ id ++ "__"
    match ← callSpecial? (a.at 0) special [] with
    | some r => return some r
    | none =>
      match ← dataOf (a.at 0) with
      | .int n => some <$> newInt n
      | .float b => some <$> floatMethod b special (.of [])
      | _ =>
        if id == "trunc" then
          typeError ("type " ++ (← typeNameOf (a.at 0)) ++ " doesn't define __trunc__ method")
        some <$> floatMethod (← realArg (a.at 0)) special (.of [])
  | "factorial" =>
    let n ← index (a.at 0)
    if n < 0 then valueError "factorial() not defined for negative values"
    natural (factorial n.toNat)
  | "gcd" => do
    let ns ← a.positional.mapM index
    natural (ns.foldl (fun g n => Nat.gcd g n.natAbs) 0)
  | "lcm" => do
    let ns ← a.positional.mapM index
    natural (ns.foldl (fun g n => Nat.lcm g n.natAbs) 1)
  | "isqrt" =>
    let n ← index (a.at 0)
    if n < 0 then valueError "isqrt() argument must be nonnegative"
    natural (wholeRoot (n.toNat.log2 / 2 + 2) n.toNat)
  | "comb" | "perm" => do
    let n ← naturalArg "n" (a.at 0)
    let k ← match (a.at? 1).filter (!isNone ·) with
      | some k => naturalArg "k" k
      | none => pure n
    if k > n then natural 0
    else if id == "perm" then natural (fallingProduct n k)
    else natural (fallingProduct n k / factorial k)
  | "prod" =>
    let vs ← bindNamed "prod" ⟨["", "start"], 1, 1⟩ a
    let mut acc ← match parameter? vs 1 with
      | some s => pure s
      | none => newInt 1
    for x in ← elements (a.at 0) do acc ← binaryOp .mul acc x
    return some acc
  | _ => return none

/-- A function of the module `math`. -/
def mathFunction (id : String) (a : Args) : Exec Ref := do
  checkArity ("math." ++ id) id (mathArity id) a
  match realFunction? id, ← wholeFunction? id a with
  | some f, _ => do
    let b ← realArg (a.at 0)
    realResult [b] (f (Num.host b))
  | none, some r => return r
  | none, none =>
    match id with
    | "log" => do
      let x ← logarithm Float.log (a.at 0)
      match a.at? 1 with
      | none => newFloat x
      | some base => do
        let y ← logarithm Float.log base
        if Num.isZero y then raiseError .zeroDivisionError "float division by zero"
        newFloat (Num.pattern (Num.host x / Num.host y))
    | "log2" => do newFloat (← logarithm Float.log2 (a.at 0))
    | "log10" => do newFloat (← logarithm Float.log10 (a.at 0))
    | "pow" | "atan2" | "copysign" | "fmod" => do
      let x ← realArg (a.at 0)
      let y ← realArg (a.at 1)
      match id with
      | "copysign" => newFloat (withSign binary64 (binary64.isNegative y) (x % binary64.signBit))
      | "fmod" =>
        if !binary64.isFinite x || Num.isZero y then
          if binary64.isNaN x || binary64.isNaN y then newFloat binary64.notANumber
          else valueError "math domain error"
        else newFloat (Num.plainRemainder x y)
      | "atan2" => newFloat (Num.pattern (Float.atan2 (Num.host x) (Num.host y)))
      | _ =>
        if Num.isZero x && binary64.isNegative y && binary64.isFinite y then
          valueError "math domain error"
        realResult [x, y] ((Num.host x).pow (Num.host y))
    | "ldexp" => do
      let x ← realArg (a.at 0)
      let n ← index (a.at 1)
      realResult [x] ((Num.host x).scaleB n)
    | "hypot" => do
      let xs ← a.positional.mapM realArg
      newFloat (xs.foldl Num.hypotenuse 0)
    | "isclose" => do
      let vs ← bindNamed "isclose" ⟨["a", "b", "rel_tol", "abs_tol"], 2, 2⟩ a
      let real (i usual : Nat) : Exec Float := do
        match parameter? vs i with
        | some r => return Num.host (← realArg r)
        | none => return Num.host usual
      let x ← real 0 0
      let y ← real 1 0
      let relative ← real 2 (Num.pattern 1e-9)
      let absolute ← real 3 0
      if relative < 0 || absolute < 0 then valueError "tolerances must be non-negative"
      let gap := (x - y).abs
      return boolRef (x == y || (!x.isInf && !y.isInf &&
        (gap ≤ relative * x.abs || gap ≤ relative * y.abs || gap ≤ absolute)))
    | "isnan" => do return boolRef (binary64.isNaN (← realArg (a.at 0)))
    | "isinf" => do
      let b ← realArg (a.at 0)
      return boolRef (!binary64.isFinite b && !binary64.isNaN b)
    | "isfinite" => do return boolRef (binary64.isFinite (← realArg (a.at 0)))
    | "modf" => do
      let b ← realArg (a.at 0)
      let x := Num.host b
      let whole := if x < 0 then x.ceil else x.floor
      let part := if x.isInf then Float.ofScientific 0 false 0 else x - whole
      let signed := fun x =>
        withSign binary64 (binary64.isNegative b) (Num.pattern x % binary64.signBit)
      newTuple [← newFloat (signed part), ← newFloat (signed whole)]
    | _ => raiseError .notImplementedError id

/-! ### Functions of other modules -/

/-- A function of the module `sys`. -/
def systemFunction (id : String) (a : Args) : Exec Ref := do
  match id with
  | "exit" =>
    checkArity "exit" "exit" (.between 0 1) a
    let status := a.at 0
    match ← dataOf status with
    | .tuple items => raiseRef (← newError .systemExit items)
    | _ =>
      if isNone status then raiseRef (← newError .systemExit [])
      else if ← isError status .systemExit then raiseRef status
      else raiseRef (← newError .systemExit [status])
  | "getrefcount" =>
    checkArity "sys.getrefcount" "getrefcount" .one a
    let m ← get
    newInt ((m.references (a.at 0) + 2 : Nat) : Int)
  | "intern" => do
    checkArity "sys.intern" "intern" .one a
    intern (← textArg "intern()" "argument" (a.at 0))
  | "getrecursionlimit" => newInt 1000
  | "getdefaultencoding" => newStr "utf-8"
  | "exc_info" =>
    match (← get).handling.head? with
    | some e => newTuple [(← classOf e).ref, e, ← getAttr e "__traceback__"]
    | none => newTuple [noneRef, noneRef, noneRef]
  | "exception" => return orNone (← get).handling.head?
  | _ => raiseError .notImplementedError id

/-- The place after the last slash of a path. -/
def tailStart (path : String) : Nat :=
  path.length - (path.toList.reverse.takeWhile (· != '/')).length

/-- A path taken apart before its last part; the slashes between are dropped. -/
def splitPath (path : String) : String × String :=
  let i := tailStart path
  let head := path.toList.take i
  let bare := (head.reverse.dropWhile (· == '/')).reverse
  (String.ofList (if bare.isEmpty then head else bare), String.ofList (path.toList.drop i))

/-- A path taken apart before the last dot of its last part; leading dots do not count. -/
def splitExtension (path : String) : String × String :=
  let i := tailStart path
  let name := path.toList.drop i
  let dots := name.takeWhile (· == '.')
  let rest := name.drop dots.length
  let extension := (rest.reverse.takeWhile (· != '.')).reverse
  if extension.length == rest.length then (path, "")
  else
    let cut := path.length - extension.length - 1
    (String.ofList (path.toList.take cut), String.ofList (path.toList.drop cut))

/-- A path and another one after it; an absolute path stands for itself. -/
def joinPaths (a b : String) : String :=
  if b.startsWith "/" then b
  else if a.isEmpty || a.endsWith "/" then a ++ b
  else a ++ "/" ++ b

/-- A function of paths. -/
def pathFunction (id : String) (a : Args) : Exec Ref := do
  let paths ← a.positional.mapM fun r => do
    match ← text? r with
    | some t => return t.lossy
    | none => typeError ("expected str, bytes or os.PathLike object, not " ++ (← typeNameOf r))
  let path := paths.headD ""
  let pair (p : String × String) : Exec Ref := do newTuple [← newStr p.1, ← newStr p.2]
  match id with
  | "join" => newStr ((paths.drop 1).foldl joinPaths path)
  | "split" => pair (splitPath path)
  | "splitext" => pair (splitExtension path)
  | "basename" => newStr (splitPath path).2
  | "dirname" => newStr (splitPath path).1
  | "isabs" => return boolRef (path.startsWith "/")
  | _ => raiseError .notImplementedError id

/-- Calls a function of a built-in module. -/
def callBuiltin (module id : String) (a : Args) : Exec Ref := do
  match module with
  | "builtins" =>
    checkArity id id (globalArity id) a
    globalFunction id a
  | "math" => mathFunction id a
  | "sys" => systemFunction id a
  | "json" => writeNotation a
  | "posixpath" => pathFunction id a
  | _ => raiseError .notImplementedError id

end

end GuestBridge.Guest
