import GuestBridge.Guest.Method.Text

/-!
# Methods of text streams

Buffers in memory, the process's own streams, and the sink that collects a session's output. What is
written to a sink is recorded in the machine, with the session to which it belongs.
-/

namespace GuestBridge.Guest

/-- How many arguments the methods of buffers and process streams take. -/
def streamArity : String → Arity
  | "write" | "writelines" => .one
  | "read" | "readline" | "readlines" | "truncate" => .between 0 1
  | "seek" => .between 1 2
  | "__exit__" => .any
  | _ => .none

section
variable [Ops]

/-- Has a stream write each element that is left of an iterator. -/
def writeEach (r it : Ref) : (fuel : Nat) → Exec Unit
  | 0 => raiseError .memoryError ""
  | fuel + 1 => do
    if let some x ← Ops.next it then
      discard <| Ops.call (← getAttr r "write") (.of [x])
      writeEach r it fuel

/-- The lines that are left of an iterator; with a limit, the line that takes their lengths beyond
it is the last. -/
def linesLeft (it : Ref) (limit : Option Int) : (fuel : Nat) → Exec (List Ref)
  | 0 => raiseError .memoryError ""
  | fuel + 1 => do
    match ← Ops.next it with
    | none => return []
    | some x =>
      match limit with
      | none => return x :: (← linesLeft it none fuel)
      | some n =>
        let size := match ← text? x with
          | some t => (t.length : Int)
          | none => 0
        return x :: (← if size > n then pure [] else linesLeft it (some (n - size)) fuel)

/-- Moves the position of a buffer: from the start, or from where it is or the end without going any
further. -/
def seekBuffer (r : Ref) (t : Text) (position : Nat) (a : Args) : Exec Ref := do
  let n ← sizeArg (a.at 0)
  let from' ← match a.at? 1 with
    | some w => smallArg w
    | none => pure 0
  if from' < 0 || from' > 2 then
    valueError ("Invalid whence (" ++ toString from' ++ ", should be 0, 1 or 2)")
  if from' == 0 && n < 0 then valueError ("Negative seek position " ++ toString n)
  if from' != 0 && n != 0 then
    raiseError .osError "Can't do nonzero cur-relative seeks"
  let target := if from' == 0 then n.toNat else if from' == 1 then position else t.length
  setData r (.textBuffer t target)
  newInt target

/-- The methods that a buffer shares with files of every kind; their complaints are sentences. -/
def isFileMethod (id : String) : Bool :=
  ["isatty", "flush", "writelines", "__enter__"].contains id

/-- A method of buffers in memory. -/
def bufferMethod (r : Ref) (t : Text) (position : Nat) (id : String) (a : Args) : Exec Ref := do
  if id == "write" && (← text? (a.at 0)).isNone then
    typeError ("string argument expected, got '" ++ (← typeNameOf (a.at 0)) ++ "'")
  unless ["close", "__exit__", "fileno", "detach", "readlines"].contains id do
    checkOpen r (if isFileMethod id then "." else "")
  let rest := t.points.drop position
  let limit : Exec (Option Nat) := limitArg ((a.at? 0).filter (!isNone ·))
  match id with
  | "close" =>
    putSlot r "closed" trueRef
    return noneRef
  | "write" =>
    let u := (← text? (a.at 0)).getD .empty
    writeBuffer r u
    newInt u.length
  | "writelines" =>
    writeEach r (← iter (a.at 0)) loopLimit
    return noneRef
  | "getvalue" => newText t
  | "read" =>
    let part := match ← limit with
      | some n => rest.take n
      | none => rest
    setData r (.textBuffer t (position + part.length))
    newText ⟨part⟩
  | "readline" =>
    newText (← readLine r (← limit))
  | "readlines" =>
    let most := ((← limit).filter (0 < ·)).map Int.ofNat
    newList (← linesLeft (← iter r) most loopLimit)
  | "tell" => newInt position
  | "seek" => seekBuffer r t position a
  | "truncate" =>
    let n ← match (a.at? 0).filter (!isNone ·) with
      | some k => sizeArg k
      | none => pure (position : Int)
    if n < 0 then valueError ("Negative size value " ++ toString n)
    setData r (.textBuffer ⟨t.points.take n.toNat⟩ position)
    newInt n
  | "readable" | "writable" | "seekable" => return trueRef
  | "isatty" => return falseRef
  | "fileno" | "detach" => raiseError .unsupportedOperation id
  | "__enter__" => return r
  | "__exit__" => Ops.call (← getAttr r "close") (.of [])
  | _ => return noneRef

/-- A method of the process's own streams, which keep nothing. -/
def streamMethod (r : Ref) (name id : String) (a : Args) : Exec Ref := do
  match id with
  | "write" =>
    match ← text? (a.at 0) with
    | some t =>
      discard <| encodeWith "utf-8" "strict" t
      newInt t.length
    | none =>
      typeError ("write() argument must be str, not " ++ (← typeNameOf (a.at 0)))
  | "read" | "readline" => return emptyStrRef
  | "readlines" => newList []
  | "readable" => return boolRef (name == "<stdin>")
  | "writable" => return boolRef (name != "<stdin>")
  | "seekable" | "isatty" => return falseRef
  | "fileno" => newInt (match name with
    | "<stdin>" => 0
    | "<stdout>" => 1
    | _ => 2)
  | "__enter__" => return r
  | _ => return noneRef

/-- The text argument of a sink's `write`. -/
def sinkArgument (a : Args) : Exec Ref := do
  let n := a.positional.length
  if n > 1 then
    typeError ("OutputSink.write() takes 1 positional arguments but " ++ toString n ++
      " were given")
  match a.keywords.find? fun (t, _) => t.lossy != "text" with
  | some (t, _) =>
    typeError ("OutputSink.write() got an unexpected keyword argument '" ++ t.lossy ++ "'")
  | none => pure ()
  match a.at? 0, a.keyword? "text" with
  | some _, some _ =>
    typeError "OutputSink.write() got multiple values for argument 'text'"
  | some r, none | none, some r => return r
  | none, none =>
    typeError "OutputSink.write() missing 1 required positional argument: 'text'"

/-- A method of the sink of a session. -/
def sinkMethod (session : Nat) (id : String) (a : Args) : Exec Ref := do
  match id with
  | "write" =>
    let r ← sinkArgument a
    match ← text? r with
    | none =>
      typeError ("argument 'text': '" ++ (← typeNameOf r) ++ "' object cannot be cast as 'str'")
    | some t =>
      discard <| encodeWith "utf-8" "strict" t
      modify fun m => { m with writes := (session, t.lossy) :: m.writes }
      newInt t.length
  | _ =>
    checkArity ("OutputSink." ++ id) id .none a
    match id with
    | "isatty" => return falseRef
    | "writable" => return trueRef
    | _ => return noneRef

end

end GuestBridge.Guest
