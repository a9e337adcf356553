import GuestBridge.Guest.Compare
import GuestBridge.Text.Quoted

/-!
# Objects as text

The two texts of an object: the one that shows it, and the one that it prints as. A container that
is being shown is shown by dots inside itself.
-/

namespace GuestBridge.Guest

/-- The address by which an object without a better text is shown. -/
def address (r : Ref) : String :=
  "0x7f" ++ String.ofList ((Text.digitsIn 16 (r.id * 16) 10).map Char.ofNat)

/-- The class of an object as texts name it: with its module, unless that is the built-in one. -/
def describedClass (r : Ref) : Exec String := do
  let c ← classOf r
  let q ← c.qualifiedName
  match (← text? (← c.module)).map Text.lossy with
  | some "builtins" | none => c.fullName
  | some m => return m ++ "." ++ q

/-- The text of an object that has no better one. -/
def plainRepr (r : Ref) : Exec Text := do
  return Text.ofString ("<" ++ (← describedClass r) ++ " object at " ++ address r ++ ">")

/-- The text of a class. -/
def classRepr (c : Class) : Exec Text := do
  let q ← c.qualifiedName
  let name ← match (← text? (← c.module)).map Text.lossy with
    | some "builtins" | none => pure q
    | some m => pure (m ++ "." ++ q)
  return Text.ofString ("<class '" ++ name ++ "'>")

/-- The text of a number; an integer with too many digits has none. -/
def numText (n : Num) : Exec Text := do
  match n with
  | .int i =>
    if Num.isTooLong i then
      valueError ("Exceeds the limit (4300 digits) for integer string conversion; " ++
        "use sys.set_int_max_str_digits() to increase the limit")
    else return Text.ofString n.text
  | _ => return Text.ofString n.text

section
variable [Ops]

/-- Texts between brackets, divided by commas. -/
def bracketed (opening : String) (parts : List Text) (closing : String) : Text :=
  Text.ofString opening ++ Text.intercalate ", " parts ++ Text.ofString closing

/-- Shows a container; inside itself it is shown as `dots`. -/
def showing (r : Ref) (dots : String) (x : Exec Text) : Exec Text := do
  if (← get).showing.contains r then return Text.ofString dots
  else
    modify fun m => { m with showing := r :: m.showing }
    let done : Exec Unit := modify fun m => { m with showing := m.showing.drop 1 }
    let t ← tryCatch x fun e => do
      done
      throw e
    done
    return t

/-- The texts of the entries of a dictionary. -/
def entryTexts (es : List Entry) : Exec (List Text) :=
  es.mapM fun e => do
    let k ← Ops.repr e.key
    let v ← Ops.repr e.value
    return k ++ Text.ofString ": " ++ v

/-- The text of a dictionary. -/
def dictText (r : Ref) (es : List Entry) : Exec Text :=
  showing r "\x7b...\x7d" do return bracketed "\x7b" (← entryTexts es) "\x7d"

/-- The text of a list. -/
def listText (r : Ref) (items : List Ref) : Exec Text :=
  showing r "[...]" do return bracketed "[" (← items.mapM Ops.repr) "]"

/-- The text of a tuple. -/
def tupleText (items : List Ref) : Exec Text := do
  match items with
  | [x] => return "(" ++ (← Ops.repr x) ++ Text.ofString ",)"
  | _ => return bracketed "(" (← items.mapM Ops.repr) ")"

/-- The text of a set. -/
def setText (r : Ref) (es : List Entry) : Exec Text := do
  let name ← (← classOf r).shortName
  if es.isEmpty then return Text.ofString (name ++ "()")
  else
    showing r (name ++ "(...)") do
      let parts ← es.mapM fun e => Ops.repr e.key
      if (← classOf r) == .builtin .set then return bracketed "\x7b" parts "\x7d"
      else return bracketed (name ++ "(\x7b") parts "\x7d)"

/-- The text of a deque. -/
def dequeText (r : Ref) (items : List Ref) (limit : Option Nat) : Exec Text := do
  let name ← (← classOf r).shortName
  showing r "[...]" do
    let tail := match limit with
      | some n => "], maxlen=" ++ toString n ++ ")"
      | none => "])"
    return bracketed (name ++ "([") (← items.mapM Ops.repr) tail

/-- The text of a module: its name and where it comes from. -/
def moduleText (dict : Ref) : Exec Text := do
  let spec := ((← getName dict "__spec__").filter (!isNone ·))
  let attrs ← match spec with
    | some s => ownAttrs s
    | none => pure []
  let name ← match attrs.lookup "name" with
    | some n => Ops.repr n
    | none =>
      match ← getName dict "__name__" with
      | some n => Ops.repr n
      | none => pure (Text.ofString "'?'")
  let head := "<module " ++ name
  match attrs.lookup "origin" with
  | some o =>
    if attrs.lookup "has_location" == some trueRef then
      return head ++ Text.ofString " from " ++ (← Ops.repr o) ++ Text.ofString ">"
    else return head ++ Text.ofString " (" ++ (← Ops.str o) ++ Text.ofString ")>"
  | none =>
    match ← getName dict "__file__" with
    | some f => return head ++ Text.ofString " from " ++ (← Ops.repr f) ++ Text.ofString ">"
    | none => return head ++ Text.ofString ">"

/-- The text of an exception: its class and arguments. -/
def errorText (r : Ref) (args : List Ref) : Exec Text := do
  let name := Text.ofString (← (← classOf r).shortName)
  match args with
  | [x] => return name ++ Text.ofString "(" ++ (← Ops.repr x) ++ Text.ofString ")"
  | _ => return name ++ (← tupleText args)

/-- The text of an argument of a generic type or of a member of a union. -/
def typeText (r : Ref) : Exec Text := do
  if isNone r then return "None"
  else
    match ← class? r with
    | some c =>
      let q ← c.qualifiedName
      match (← text? (← c.module)).map Text.lossy with
      | some "builtins" | none => return Text.ofString q
      | some m => return Text.ofString (m ++ "." ++ q)
    | none => if r == ellipsisRef then return "..." else Ops.repr r

/-- The qualified name of something that can be called. -/
def callableName (r : Ref) : Exec String := do
  match ← dataOf r with
  | .function f => return f.qualifiedName
  | .builtin _ n => return n
  | .bound k n _ | .methodOf k n => return k.name ++ "." ++ n
  | .kind k => return k.name
  | .cls c => return c.qualifiedName
  | _ => return "?"

/-- The text of an object by its data. -/
def reprData (r : Ref) (d : Data) : Exec Text := do
  match d with
  | .plain =>
    if r == noneRef then return "None"
    else if r == ellipsisRef then return "Ellipsis"
    else if r == notImplementedRef then return "NotImplemented"
    else if ← isKind r .simpleNamespace then
      let c ← classOf r
      let name ← if c == .builtin .simpleNamespace then pure "namespace" else c.shortName
      showing r (name ++ "(...)") do
        let parts ← (← ownAttrs r).mapM fun (id, v) => do
          return Text.ofString (id ++ "=") ++ (← Ops.repr v)
        return bracketed (name ++ "(") parts ")"
    else plainRepr r
  | .int n =>
    if r == trueRef then return "True"
    else if r == falseRef then return "False"
    else numText (.int n)
  | .float b => numText (.float b)
  | .complex re im => numText (.complex re im)
  | .str t => return t.quoted
  | .bytes bs => return Text.quotedBytes bs
  | .bytearray bs =>
    return Text.ofString ((← (← classOf r).shortName) ++ "(") ++ Text.quotedBytes bs ++
      Text.ofString ")"
  | .list items => listText r items.toList
  | .tuple items => showing r "(...)" (tupleText items)
  | .dict es =>
    if ← isKind r .orderedDict then
      let name ← (← classOf r).shortName
      if es.isEmpty then return Text.ofString (name ++ "()")
      else
        showing r "..." do
          let parts ← es.mapM fun e => do tupleText [e.key, e.value]
          return bracketed (name ++ "([") parts "])"
    else dictText r es
  | .defaultDict es f =>
    let name ← (← classOf r).shortName
    let factory ← Ops.repr f
    let body ← dictText r es
    return Text.ofString (name ++ "(") ++ factory ++ Text.ofString ", " ++ body ++ Text.ofString ")"
  | .set t => setText r t.entries
  | .range a b s =>
    return Text.ofString <| "range(" ++ toString a ++ ", " ++ toString b ++
      (if s == 1 then "" else ", " ++ toString s) ++ ")"
  | .slice a b s => return bracketed "slice(" (← [a, b, s].mapM Ops.repr) ")"
  | .memory _ _ =>
    let what := if ← isReleased r then "<released memory at " else "<memory at "
    return Text.ofString (what ++ address r ++ ">")
  | .kind k => classRepr (.builtin k)
  | .cls _ => classRepr (.user r)
  | .function f =>
    return Text.ofString ("<function " ++ f.qualifiedName ++ " at " ++ address r ++ ">")
  | .builtin _ n =>
    if (← classOf r) == .builtin .function then
      return Text.ofString ("<function " ++ n ++ " at " ++ address r ++ ">")
    else return Text.ofString ("<built-in function " ++ n ++ ">")
  | .methodOf k n =>
    let kind ← match ← classOf r with
      | .builtin .wrapperDescriptor => pure "slot wrapper"
      | .builtin .getsetDescriptor => pure "attribute"
      | .builtin .memberDescriptor => pure "member"
      | _ => pure "method"
    return Text.ofString ("<" ++ kind ++ " '" ++ n ++ "' of '" ++ k.fullName ++ "' objects>")
  | .slotOf owner n =>
    let kind ← match ← classOf r with
      | .builtin .getsetDescriptor => pure "attribute"
      | _ => pure "member"
    return Text.ofString
      ("<" ++ kind ++ " '" ++ n ++ "' of '" ++ (← owner.shortName) ++ "' objects>")
  | .upward above self _ =>
    let name ← above.fullName
    let shown ← match self with
      | none => pure "NULL"
      | some s => pure ("<" ++ (← typeNameOf s) ++ " object>")
    return Text.ofString ("<super: <class '" ++ name ++ "'>, " ++ shown ++ ">")
  | .bound _ n self =>
    if (← classOf r) == .builtin .methodWrapper then
      return Text.ofString ("<method-wrapper '" ++ n ++ "' of " ++ (← typeNameOf self) ++
        " object at " ++ address self ++ ">")
    else
      return Text.ofString ("<built-in method " ++ n ++ " of " ++ (← typeNameOf self) ++
        " object at " ++ address self ++ ">")
  | .method f self =>
    return Text.ofString ("<bound method " ++ (← callableName f) ++ " of ") ++ (← Ops.repr self) ++
      Text.ofString ">"
  | .code u =>
    let c := (← get).code.getD u default
    return Text.ofString ("<code object " ++ c.name ++ " at " ++ address r ++ ", file \"" ++
      c.file ++ "\", line " ++ toString c.line ++ ">")
  | .wrapped f =>
    return Text.ofString ("<" ++ (← (← classOf r).shortName) ++ "(") ++ (← Ops.repr f) ++
      Text.ofString ")>"
  | .module dict => moduleText dict
  | .generator _ q _ _ _ =>
    return Text.ofString ("<generator object " ++ q ++ " at " ++ address r ++ ">")
  | .proxy of => return "mappingproxy(" ++ (← Ops.repr of) ++ Text.ofString ")"
  | .view of part =>
    let es ← entriesOf of
    let name ← (← classOf r).shortName
    match part with
    | .keys => return bracketed (name ++ "([") (← es.mapM fun e => Ops.repr e.key) "])"
    | .values => return bracketed (name ++ "([") (← es.mapM fun e => Ops.repr e.value) "])"
    | .items =>
      return bracketed (name ++ "([") (← es.mapM fun e => tupleText [e.key, e.value]) "])"
  | .error e => errorText r e.args
  | .deque items limit => dequeText r items limit
  | .stream n =>
    return Text.ofString ("<_io.TextIOWrapper name='" ++ n ++ "' mode='" ++
      (if n == "<stdin>" then "r" else "w") ++ "' encoding='utf-8'>")
  | .weakReference target =>
    if (← get).isAlive target then
      let name ← match ← getAttr? target "__name__" with
        | some n => text? n
        | none => pure none
      return Text.ofString ("<weakref at " ++ address r ++ "; to '" ++ (← typeNameOf target) ++
        "' at " ++ address target ++
        ((name.map fun n => " (" ++ n.lossy ++ ")").getD "") ++ ">")
    else return Text.ofString ("<weakref at " ++ address r ++ "; dead>")
  | .union ms => return Text.intercalate " | " (← ms.mapM typeText)
  | .alias o as =>
    return (← typeText o) ++ bracketed "[" (← as.mapM typeText) "]"
  | .traceback _ => return Text.ofString ("<traceback object at " ++ address r ++ ">")
  | .frame d =>
    let c := (← get).code.getD d.unit default
    return Text.ofString ("<frame at " ++ address r ++ ", file ") ++
      (Text.ofString c.file).quoted ++
      Text.ofString (", line " ++ toString d.line ++ ", code " ++ c.name ++ ">")
  | .cell none => return Text.ofString ("<cell at " ++ address r ++ ": empty>")
  | .cell (some v) =>
    return Text.ofString ("<cell at " ++ address r ++ ": " ++ (← typeNameOf v) ++ " object at " ++
      address v ++ ">")
  | _ => plainRepr r

/-- The text that shows an object. -/
def reprObject (r : Ref) : Exec Text := do
  match ← userSpecial? r "__repr__" with
  | some f =>
    let v ← callValue f r []
    match ← text? v with
    | some t => return t
    | none => typeError ("__repr__ returned non-string (type " ++ (← typeNameOf v) ++ ")")
  | none =>
    match ← special r "__repr__" with
    | .member .object _ => plainRepr r
    | _ => reprData r (← dataOf r)

/-! ### The text that is printed -/

/-- The text of an exception's arguments. -/
def argumentText (args : List Ref) : Exec Text := do
  match args with
  | [] => return .empty
  | [x] => Ops.str x
  | _ => tupleText args

/-- A code point as messages about encodings name it. -/
def escapedPoint (p : Nat) : Text :=
  if p < 256 then ⟨Text.pointsOf "\\x" ++ Text.digitsIn 16 p 2⟩
  else if p < 65536 then ⟨Text.pointsOf "\\u" ++ Text.digitsIn 16 p 4⟩
  else ⟨Text.pointsOf "\\U" ++ Text.digitsIn 16 p 8⟩

/-- The text of an encoding error. -/
def encodingText (r : Ref) : Exec Text := do
  match ← slot? r "object" with
  | none => return .empty
  | some object =>
    let start := ((← int? (← errorAttr r "start")).getD 0).toNat
    let stop := ((← int? (← errorAttr r "end")).getD 0).toNat
    let decoding ← isError r .unicodeDecodeError
    let translating ← isError r .unicodeTranslateError
    let verb := if decoding then "decode" else if translating then "translate" else "encode"
    let codec ← if translating then pure Text.empty
      else do pure (Text.ofString "'" ++ (← Ops.str (← errorAttr r "encoding")) ++
        Text.ofString "' codec ")
    let head := codec ++ Text.ofString ("can't " ++ verb ++ " ")
    let why := Text.ofString ": " ++ (← Ops.str (← errorAttr r "reason"))
    let shown? : Option Text ← match ← dataOf object with
      | .str t => pure (t.points[start]?.map fun p =>
          Text.ofString "character '" ++ escapedPoint p ++ Text.ofString "'")
      | .bytes bs => pure (bs[start]?.map fun b =>
          Text.ofString "byte 0x" ++ ⟨Text.digitsIn 16 b.toNat 2⟩)
      | _ => pure none
    match shown?, stop == start + 1 with
    | some shown, true =>
      return head ++ shown ++ Text.ofString (" in position " ++ toString start) ++ why
    | _, _ =>
      return head ++ Text.ofString ((if decoding then "bytes" else "characters") ++
        " in position " ++ toString start ++ "-" ++ toString ((stop : Int) - 1)) ++ why

/-- The last part of a path. -/
def baseName (path : String) : String :=
  ((path.splitOn "/").getLast?).getD path

/-- The text of a syntax error: message, file and line. -/
def syntaxErrorText (r : Ref) : Exec Text := do
  let message ← Ops.str (← errorAttr r "msg")
  let file ← text? (← errorAttr r "filename")
  let line ← int? (← errorAttr r "lineno")
  match file.map (baseName ·.lossy), line with
  | some f, some n => return message ++ Text.ofString (" (" ++ f ++ ", line " ++ toString n ++ ")")
  | some f, none => return message ++ Text.ofString (" (" ++ f ++ ")")
  | none, some n => return message ++ Text.ofString (" (line " ++ toString n ++ ")")
  | none, none => return message

/-- The text of an exception of the operating system, if it describes a failure. -/
def systemErrorText? (r : Ref) : Exec (Option Text) := do
  let shown (id : String) : Exec Text := do Ops.str (← errorAttr r id)
  let head : Exec Text := do
    return Text.ofString "[Errno " ++ (← shown "errno") ++ Text.ofString "] " ++
      (← shown "strerror")
  match ← slot? r "filename" with
  | some f =>
    let head ← head
    let file ← Ops.repr f
    match ← slot? r "filename2" with
    | some g =>
      return some (head ++ Text.ofString ": " ++ file ++ Text.ofString " -> " ++ (← Ops.repr g))
    | none => return some (head ++ Text.ofString ": " ++ file)
  | none =>
    if (← slot? r "errno").isSome && (← slot? r "strerror").isSome then some <$> head
    else return none

/-- The text that an exception prints as, by its built-in type. -/
def errorStr (r : Ref) (e : ErrorData) : Exec Text := do
  if ← isError r .keyError then
    match e.args with
    | [x] => Ops.repr x
    | as => argumentText as
  else if ← isError r .osError then
    match ← systemErrorText? r with
    | some t => return t
    | none => argumentText e.args
  else if ← isError r .importError then
    let message ← errorAttr r "msg"
    match ← text? message, (← classOf message) == .builtin .str with
    | some t, true => return t
    | _, _ => argumentText e.args
  else if ← isError r .syntaxError then syntaxErrorText r
  else if (← isError r .unicodeEncodeError) || (← isError r .unicodeDecodeError) ||
      (← isError r .unicodeTranslateError) then
    encodingText r
  else argumentText e.args

/-- The text that an object prints as. -/
def strObject (r : Ref) : Exec Text := do
  let text (v : Ref) : Exec Text := do
    match ← text? v with
    | some t => return t
    | none => typeError ("__str__ returned non-string (type " ++ (← typeNameOf v) ++ ")")
  match ← special r "__str__" with
  | .value f => text (← callValue f r [])
  | .member .str _ => return (← text? r).getD .empty
  | .member (.error _) _ =>
    match ← dataOf r with
    | .error e => errorStr r e
    | _ => Ops.repr r
  | .member .mappingProxy _ =>
    match ← dataOf r with
    | .proxy of => Ops.str of
    | _ => Ops.repr r
  | _ =>
    match ← callSpecial? r "__repr__" [] with
    | some v => text v
    | none => Ops.repr r

end

end GuestBridge.Guest
