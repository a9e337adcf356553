import GuestBridge.Guest.Construct
import GuestBridge.Script.Lexer
import GuestBridge.Script.Compile

/-!
# Running code

Compiling the text of a script into the machine, making frames for its units, and binding the
arguments of a call to the parameters of a function.
-/

namespace GuestBridge.Guest

open Script

/-! ### Loading -/

/-- Raises the exception for a script that is refused. -/
def raiseFailure {α : Type} (mode : Mode) (file source : String) (f : Failure) : Exec α := do
  let k := match f.kind with
    | .indentation => ErrorKind.indentationError
    | .tabs => .tabError
    | .grammar => .syntaxError
  let b := f.blame (textOf mode source)
  let shown ← match b.shown with
    | some t => newStr t
    | none => pure noneRef
  let info ← newTuple [← newStr file, ← newInt f.line, ← newInt b.column, shown, ← newInt b.endLine,
    ← newInt b.endColumn]
  raiseRef (← newError k [← newStr f.message, info])

/-- Compiles a script into the machine and gives the unit of the script itself. -/
def loadCode (mode : Mode) (file source : String) : Exec Nat := do
  match compile mode file source with
  | .error f => raiseFailure mode file source f
  | .ok units =>
    let base := (← get).code.size
    modify fun m => { m with code := m.code ++ units.map fun c => { c with base } }
    return base + units.size - 1

/-- A frame at the start of the unit that is told by what the frame has. -/
def startFrame (d : FrameData) : Exec Frame := do
  let store ← alloc (.of .frame (.frame d))
  return ⟨d.unit, 0, [], [], [], d.globals, d.names, d.cells, store, [], none⟩

section
variable [Ops]

/-- Runs a unit whose names are those of a dictionary, inside a module's. -/
def runUnit (unit : Nat) (globals names : Ref) : Exec Ref := do
  match ← Ops.run (← startFrame ⟨unit, 0, globals, some names, [], [], none⟩) with
  | .returned v => return v
  | .yielded v _ => return v

/-- Makes sure that a dictionary of globals knows the built-in names. -/
def ensureBuiltins (globals : Ref) : Exec Unit := do
  match ← getName globals "__builtins__" with
  | some _ => return ()
  | none => putName globals "__builtins__" (← get).builtins

end

/-! ### Binding arguments -/

/-- Names between quotes, as lists in error messages. -/
def nameList (ids : List String) : String :=
  let quotedNames := ids.map fun id => "'" ++ id ++ "'"
  match quotedNames with
  | [a, b] => a ++ " and " ++ b
  | xs =>
    if xs.length ≤ 1 then ", ".intercalate xs
    else ", ".intercalate xs.dropLast ++ ", and " ++ xs.getLast?.getD ""

/-- An `s` for every number but one. -/
def plural (n : Nat) : String := if n == 1 then "" else "s"

/-- Refuses a call that leaves parameters without arguments. -/
def missingArguments {α : Type} (name kind : String) (ids : List String) : Exec α :=
  typeError (name ++ "() missing " ++ toString ids.length ++ " required " ++ kind ++ " argument" ++
    plural ids.length ++ ": " ++ nameList ids)

/-- Refuses a call with too many positional arguments. -/
def tooManyArguments {α : Type} (name : String) (given params defaults keywordOnly : Nat) :
    Exec α :=
  let takes := if defaults == 0 then toString params
    else "from " ++ toString (params - defaults) ++ " to " ++ toString params
  let pluralParams := if defaults == 0 then plural params else "s"
  let extra := if keywordOnly == 0 then ""
    else " positional argument" ++ plural given ++ " (and " ++ toString keywordOnly ++
      " keyword-only argument" ++ plural keywordOnly ++ ")"
  typeError (name ++ "() takes " ++ takes ++ " positional argument" ++ pluralParams ++ " but " ++
    toString given ++ extra ++ (if given == 1 && keywordOnly == 0 then " was" else " were") ++
    " given")

/-- Parameters with their arguments, and the keyword arguments left over. -/
structure Binding where
  bound : List (String × Ref)
  extra : List (Text × Ref)

/-- Binds keyword arguments one after another. -/
def bindKeywords (name : String) (s : Signature) : List (Text × Ref) → Binding → Exec Binding
  | [], b => return b
  | (t, v) :: ks, b => do
    let id := t.lossy
    if s.ordinary.contains id || s.keywordOnly.contains id then
      if (b.bound.lookup id).isSome then
        typeError (name ++ "() got multiple values for argument '" ++ id ++ "'")
      bindKeywords name s ks { b with bound := b.bound ++ [(id, v)] }
    else if s.keywords.isSome then
      bindKeywords name s ks { b with extra := b.extra ++ [(t, v)] }
    else
      let passed := s.positionalOnly.filter fun p =>
        ((t, v) :: ks).any fun (u, _) => u.lossy == p
      if passed.isEmpty then
        typeError (name ++ "() got an unexpected keyword argument '" ++ id ++ "'")
      else
        typeError (name ++ "() got some positional-only arguments passed as keyword arguments: '" ++
          ", ".intercalate passed ++ "'")

/-- Binds the arguments of a call to the parameters of a function. -/
def bindArguments (name : String) (s : Signature) (defaults : List Ref)
    (keywordDefaults : List (String × Ref)) (a : Args) : Exec (List (String × Ref)) := do
  let params := s.positional
  let given := a.positional.length
  let b ← bindKeywords name s a.keywords ⟨params.zip a.positional, []⟩
  let keywordGiven := s.keywordOnly.countP fun id => (b.bound.lookup id).isSome
  if given > params.length && s.variadic.isNone then
    tooManyArguments name given params.length defaults.length keywordGiven
  let required := params.length - defaults.length
  let missing := (params.take required).filter fun id => (b.bound.lookup id).isNone
  if !missing.isEmpty then missingArguments name "positional" missing
  let filled := ((params.drop required).zip defaults).filter fun (id, _) =>
    (b.bound.lookup id).isNone
  let missingKeywords := s.keywordOnly.filter fun id =>
    (b.bound.lookup id).isNone && (keywordDefaults.lookup id).isNone
  if !missingKeywords.isEmpty then missingArguments name "keyword-only" missingKeywords
  let filledKeywords := keywordDefaults.filter fun (id, _) => (b.bound.lookup id).isNone
  let rest ← match s.variadic with
    | some id => do pure [(id, ← newTuple (a.positional.drop params.length))]
    | none => pure []
  let extra ← match s.keywords with
    | some id => do
      let d ← newDict
      for (t, v) in b.extra do
        appendEntry d (textHash t) (← intern t) v
      pure [(id, d)]
    | none => pure []
  return b.bound ++ filled ++ filledKeywords ++ rest ++ extra

/-- The frame of a call of the function `r`. -/
def callFrame (r : Ref) (f : FunctionData) (a : Args) : Exec Frame := do
  let c := (← get).code.getD f.unit default
  let names ← bindArguments f.qualifiedName c.signature f.defaults f.keywordDefaults a
  let cells ← c.shared.mapM fun id => do return (id, ← newCell (names.lookup id))
  let locals := names.filter fun (id, _) => !c.shared.contains id
  startFrame ⟨f.unit, c.line, f.globals, none, locals, cells ++ f.closure, some r⟩

/-- A generator that will run a frame. -/
def newGenerator (f : FunctionData) (frame : Frame) : Exec Ref :=
  alloc (.of .generator (.generator f.name f.qualifiedName (some frame) false false))

end GuestBridge.Guest
