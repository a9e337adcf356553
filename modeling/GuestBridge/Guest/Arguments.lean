import GuestBridge.Guest.Operator

/-!
# Arguments of built-in functions

How many arguments a built-in function takes, and what it says if it gets others. Functions of a
script have named parameters instead; those are bound in `Guest.Running`.
-/

namespace GuestBridge.Guest

/-- How many positional arguments a built-in takes. The cases differ in their error messages. -/
inductive Arity
  | none
  | one
  /-- From a least to a greatest number. -/
  | between (least most : Nat)
  /-- From a least to a greatest number, with messages that show the numbers in another way. -/
  | counted (least most : Nat)
  /-- Any number, and keywords, too; the function checks for itself. -/
  | any
  deriving DecidableEq, Repr, Inhabited

/-- The word for a number of arguments. -/
def argumentWord (n : Nat) : String := if n == 1 then "argument" else "arguments"

/-- Checks the number of arguments that a built-in got. Its full name is `shown`, its own name
`short`. -/
def checkArity (shown short : String) (a : Arity) (args : Args) : Exec Unit := do
  let n := args.positional.length
  if a != .any && !args.keywords.isEmpty then
    typeError (shown ++ "() takes no keyword arguments")
  match a with
  | .any => return ()
  | .none =>
    if n != 0 then typeError (shown ++ "() takes no arguments (" ++ toString n ++ " given)")
  | .one =>
    if n != 1 then
      typeError (shown ++ "() takes exactly one argument (" ++ toString n ++ " given)")
  | .between least most =>
    let refuse (bound : String) (limit : Nat) : Exec Unit :=
      typeError (short ++ " expected " ++ (if least == most then "" else bound) ++
        toString limit ++ " " ++ argumentWord limit ++ ", got " ++ toString n)
    if n < least then refuse "at least " least
    else if n > most then refuse "at most " most
  | .counted least most =>
    let refuse (bound : String) (limit : Nat) : Exec Unit :=
      typeError (short ++ "() takes " ++ (if least == most then "exactly " else bound) ++
        toString limit ++ " " ++ argumentWord limit ++ " (" ++ toString n ++ " given)")
    if n < least then refuse "at least " least
    else if n > most then refuse "at most " most

/-- The argument at a position. -/
def Args.at (a : Args) (i : Nat) : Ref := a.positional.getD i noneRef

/-- The argument at a position, if it was given. -/
def Args.at? (a : Args) (i : Nat) : Option Ref := a.positional[i]?

/-- The argument of a keyword, if it was given. -/
def Args.keyword? (a : Args) (id : String) : Option Ref := a.keywords.lookup (Text.ofString id)

/-- The argument at a position or of a keyword. -/
def Args.named? (a : Args) (i : Nat) (id : String) : Option Ref :=
  match a.at? i with
  | some r => some r
  | none => a.keyword? id

/-- Refuses keywords other than the given ones. -/
def onlyKeywords (shown : String) (ids : List String) (a : Args) : Exec Unit := do
  match a.keywords.find? fun (t, _) => !ids.contains t.lossy with
  | some (t, _) =>
    typeError ("'" ++ t.lossy ++ "' is an invalid keyword argument for " ++ shown ++ "()")
  | none => return ()

/-! ### Named parameters -/

/-- The parameters of a built-in that takes keywords. -/
structure Parameters where
  /-- The names of the parameters; those that only a position can give have none. -/
  names : List String
  /-- How many of them, from the first one on, must be given. -/
  required : Nat
  /-- How many may be given by position. -/
  positional : Nat

/-- The parameters that may be left out and may all be given by position. -/
def Parameters.optional (names : List String) : Parameters := ⟨names, 0, names.length⟩

/-- The parameters of which the first ones are required and all may be given by position. -/
def Parameters.requiring (required : Nat) (names : List String) : Parameters :=
  ⟨names, required, names.length⟩

/-- Refuses a number of arguments. -/
def wrongCount {α : Type} (shown bound what : String) (limit given : Nat) : Exec α :=
  typeError (shown ++ "() takes " ++ bound ++ " " ++ toString limit ++ " " ++ what ++
    argumentWord limit ++ " (" ++ toString given ++ " given)")

/-- The arguments of the parameters one by one, from position `i` on. -/
def takeNamed (shown : String) (p : Parameters) (a : Args) : (i : Nat) → List String →
    Exec (List (Option Ref))
  | _, [] => return []
  | i, id :: ids => do
    let value := match a.at? i with
      | some r => some r
      | none => if id == "" then none else a.keyword? id
    if value.isNone && i < p.required then
      typeError (shown ++ "() missing required argument '" ++ id ++ "' (pos " ++ toString (i + 1) ++
        ")")
    return value :: (← takeNamed shown p a (i + 1) ids)

/-- Binds the arguments of a built-in to its parameters. -/
def bindNamed (shown : String) (p : Parameters) (a : Args) : Exec (List (Option Ref)) := do
  let given := a.positional.length
  let total := given + a.keywords.length
  let most := p.names.length
  if total > most then
    wrongCount shown (if p.required < most then "at most" else "exactly")
      (if given == 0 then "keyword " else "") most total
  if given > p.positional then
    if p.positional == 0 then typeError (shown ++ "() takes no positional arguments")
    else
      wrongCount shown (if p.required < p.positional then "at most" else "exactly") "positional "
        p.positional given
  let hidden := min (p.names.countP (· == "")) p.required
  if given < hidden then
    wrongCount shown (if hidden < p.positional then "at least" else "exactly") "positional " hidden
      given
  let values ← takeNamed shown p a 0 p.names
  match (p.names.zipIdx.take given).find? fun (id, _) =>
      id != "" && (a.keyword? id).isSome with
  | some (id, i) =>
    typeError ("argument for " ++ shown ++ "() given by name ('" ++ id ++ "') and position (" ++
      toString (i + 1) ++ ")")
  | none => onlyKeywords shown (p.names.filter (· != "")) a
  return values

/-- The value of a parameter among those bound. -/
def parameter? (values : List (Option Ref)) (i : Nat) : Option Ref := values.getD i none

section
variable [Ops]

/-! ### Arguments of a type -/

/-- The type of an argument as messages name it. -/
def argumentType (r : Ref) : Exec String := do
  if isNone r then return "None" else typeNameOf r

/-- A text argument. -/
def textArg (shown what : String) (r : Ref) : Exec Text := do
  match ← text? r with
  | some t => return t
  | none => typeError (shown ++ " " ++ what ++ " must be str, not " ++ (← argumentType r))

/-- A whole number that must be the size of something. -/
def sizeArg (r : Ref) : Exec Int := do
  let n ← index r
  if -maxSize - 1 ≤ n && n ≤ maxSize then return n
  else raiseError .overflowError "Python int too large to convert to C ssize_t"

/-- A whole number of ordinary size. -/
def smallArg (r : Ref) : Exec Int := do
  let n ← index r
  if -(Nat.pow 2 31) ≤ n && n < Nat.pow 2 31 then return n
  else raiseError .overflowError "Python int too large to convert to C int"

/-- An optional number; none if absent or negative. -/
def limitArg (r : Option Ref) : Exec (Option Nat) := do
  match r with
  | none => return none
  | some r =>
    let n ← sizeArg r
    return if n < 0 then none else some n.toNat

/-- Refuses texts that no memory could hold. -/
def checkSpace (n : Int) : Exec Unit := do
  if n ≥ Nat.pow 2 32 then raiseError .memoryError ""

end

end GuestBridge.Guest
