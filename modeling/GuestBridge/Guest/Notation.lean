import GuestBridge.Guest.Numeral
import GuestBridge.Guest.Library
import GuestBridge.Guest.Method.Sequence

/-!
# Data notation

What `json.dumps` writes: the notation of plain data as text, on one line or indented.
-/

namespace GuestBridge.Guest

open Number

/-- How data are written. -/
structure NotationStyle where
  itemSep : List Nat
  keySep : List Nat
  /-- What stands at the start of a line for each level, if elements stand on lines of their own. -/
  indent : Option (List Nat)
  sorted : Bool
  /-- Whether characters that are not ASCII are escaped. -/
  ascii : Bool
  skipKeys : Bool
  allowNan : Bool
  checkCircles : Bool
  /-- Makes objects without a notation into others. -/
  fallback : Option Ref

/-- Where the notation of a value is made: a function of the library, and its lines for each kind of
value. Objects without a notation are left to a function of their own, unless that is the one. -/
structure NotationPlace where
  function : String
  int : Nat
  float : Nat
  list : Nat
  dict : Nat
  other : Option Nat

/-- A value by itself. -/
def NotationPlace.alone : NotationPlace := ⟨"_iterencode", 425, 428, 430, 432, none⟩

/-- An element of a list. -/
def NotationPlace.element : NotationPlace := ⟨"_iterencode_list", 314, 317, 326, 326, some 326⟩

/-- The value of a key. -/
def NotationPlace.value : NotationPlace := ⟨"_iterencode_dict", 395, 398, 406, 406, some 406⟩

/-- A string between double quotes. -/
def quotedNotation (ascii : Bool) (t : Text) : List Nat :=
  let unit (p : Nat) : List Nat := Text.pointsOf "\\u" ++ Text.digitsIn 16 p 4
  34 :: t.points.flatMap (fun p =>
    if p == 34 || p == 92 then [92, p]
    else if p == 10 then Text.pointsOf "\\n"
    else if p == 13 then Text.pointsOf "\\r"
    else if p == 9 then Text.pointsOf "\\t"
    else if p == 8 then Text.pointsOf "\\b"
    else if p == 12 then Text.pointsOf "\\f"
    else if p < 32 then unit p
    else if p < 127 || !ascii then [p]
    else if p < 65536 then unit p
    else unit (0xD800 + (p - 65536) / 1024) ++ unit (0xDC00 + (p - 65536) % 1024)) ++ [34]

/-- Does something at a line of the library, which its exceptions have passed. -/
def within {α : Type} (file function : String) (line : Nat) (x : Exec α) : Exec α :=
  tryCatch x fun e =>
    throw ⟨e.value, ⟨libraryPath ++ "/json/" ++ file, line, function, none⟩ :: e.trace⟩

/-- Does something at a line of the library's writer, which shows only if it writes line by line. -/
def NotationStyle.at {α : Type} (s : NotationStyle) (function : String) (line : Nat) (x : Exec α) :
    Exec α :=
  if s.indent.isSome then within "encoder.py" function line x else x

section
variable [Ops]

/-- Elements between brackets, at a level. -/
def NotationStyle.enclose (s : NotationStyle) (opening closing level : Nat)
    (parts : List (List Nat)) :
    List Nat :=
  if parts.isEmpty then [opening, closing]
  else
    match s.indent with
    | none => opening :: s.itemSep.intercalate parts ++ [closing]
    | some step =>
      let newline (n : Nat) : List Nat := 10 :: (List.replicate n step).flatten
      opening :: newline (level + 1) ++ (s.itemSep ++ newline (level + 1)).intercalate parts ++
        newline level ++ [closing]

/-- The notation of a floating-point number. -/
def floatNotation (s : NotationStyle) (b : Nat) : Exec (List Nat) := do
  let shown := (← numText (.float b)).points
  if binary64.isFinite b then return shown
  else if !s.allowNan then
    let message := "Out of range float values are not JSON compliant"
    s.at "floatstr" 240 <| valueError
      (if s.indent.isSome then message ++ ": " ++ (Text.mk shown).lossy else message)
  else if binary64.isNaN b then return Text.pointsOf "NaN"
  else return Text.pointsOf (if binary64.isNegative b then "-Infinity" else "Infinity")

/-- The notation of a key, if it has one. -/
def keyNotation? (s : NotationStyle) (k : Ref) : Exec (Option (List Nat)) := do
  let at' {α : Type} (line : Nat) (x : Exec α) : Exec α := s.at "_iterencode_dict" line x
  let inQuotes (ps : List Nat) : Option (List Nat) := some (quotedNotation s.ascii ⟨ps⟩)
  if k == trueRef then return inQuotes (Text.pointsOf "true")
  else if k == falseRef then return inQuotes (Text.pointsOf "false")
  else if isNone k then return inQuotes (Text.pointsOf "null")
  else
    match ← dataOf k with
    | .str t => return inQuotes t.points
    | .int n => return inQuotes (← at' 373 (numText (.int n))).points
    | .float b => return inQuotes (← at' 364 (floatNotation s b))
    | _ =>
      if s.skipKeys then return none
      else
        let type ← (← classOf k).shortName
        at' 377 <| typeError ("keys must be str, int, float, bool or None, not " ++ type)

/-- The entries of a dictionary in the order in which they are written. -/
def notationEntries (s : NotationStyle) (r : Ref) : Exec (List (Ref × Ref)) := do
  let pairOf' (p : Ref) : Exec (Ref × Ref) := do
    match ← dataOf p with
    | .tuple [k, v] => return (k, v)
    | _ => valueError "items must return 2-tuples"
  let items ← match ← userSpecial? r "items" with
    | some f => elements (← callValue f r [])
    | none => (← entriesOf r).mapM fun e => newTuple [e.key, e.value]
  let items ← if s.sorted then s.at "_iterencode_dict" 354 (sortElements items none false)
    else pure items
  items.mapM pairOf'

/-- The notation of an object at a place and a level, inside the given objects; `fuel` bounds the
depth. -/
def notationOf (s : NotationStyle) : (fuel : Nat) → (place : NotationPlace) → (level : Nat) →
    (around : List Ref) → Ref → Exec (List Nat)
  | 0, _, _, _, _ =>
    raiseError .recursionError ("maximum recursion depth exceeded" ++
      (if s.indent.isSome then "" else " while encoding a JSON object"))
  | fuel + 1, place, level, around, r => do
    let inside (function : String) (line : Nat) : Exec (List Ref) := do
      if s.checkCircles && around.contains r then
        s.at function line (valueError "Circular reference detected")
      return r :: around
    if isNone r then return Text.pointsOf "null"
    else if r == trueRef then return Text.pointsOf "true"
    else if r == falseRef then return Text.pointsOf "false"
    else
      match ← dataOf r with
      | .str t => return quotedNotation s.ascii t
      | .int n => s.at place.function place.int do return (← numText (.int n)).points
      | .float b => s.at place.function place.float (floatNotation s b)
      | .list _ | .tuple _ =>
        s.at place.function place.list do
          let inner ← inside "_iterencode_list" 285
          let parts ← (← elements r).mapM (notationOf s fuel .element (level + 1) inner)
          return s.enclose 91 93 level parts
      | .dict [] | .defaultDict [] _ => return Text.pointsOf "\x7b\x7d"
      | .dict _ | .defaultDict _ _ =>
        s.at place.function place.dict do
          let inner ← inside "_iterencode_dict" 341
          let parts ← (← notationEntries s r).filterMapM fun (k, v) => do
            match ← keyNotation? s k with
            | some key => return some (key ++ s.keySep ++
                (← notationOf s fuel .value (level + 1) inner v))
            | none => return none
          return s.enclose 123 125 level parts
      | _ =>
        let made : Exec (List Nat) := do
          let inner ← inside "_iterencode" 437
          let type ← (← classOf r).shortName
          let v ← s.at "_iterencode" 439 <| match s.fallback with
            | some f => Ops.call f (.of [r])
            | none => within "encoder.py" "default" 180 <|
                typeError ("Object of type " ++ type ++ " is not JSON serializable")
          s.at "_iterencode" 440 (notationOf s fuel .alone level inner v)
        match place.other with
        | some line => s.at place.function line made
        | none => made

/-- How data are to be written by the keywords of a call, all of which are known. -/
def styleOf (a : Args) (separators : Option (List Ref)) (flag : String → Bool → Bool) :
    Exec NotationStyle := do
  let present (id : String) : Option Ref := (a.keyword? id).filter (!isNone ·)
  let running {α : Type} (line : Nat) (x : Exec α) : Exec α :=
    within "__init__.py" "dumps" 238 <| within "encoder.py" "encode" 200 <|
      within "encoder.py" "iterencode" line x
  let indent ← (present "indent").mapM fun r => do
    match ← text? r with
    | some t => return t.points
    | none =>
      let n ← running 254 <| within "encoder.py" "_make_iterencode" 276 do
        match ← index? r with
        | some n => return n
        | none =>
          typeError ("can't multiply sequence by non-int of type '" ++ (← typeNameOf r) ++ "'")
      return List.replicate n.toNat 32
  let separator (position : Nat) (r : Ref) : Exec (List Nat) := do
    match ← text? r with
    | some t => return t.points
    | none =>
      let type ← typeNameOf r
      running 249 <| typeError
        ("make_encoder() argument " ++ toString position ++ " must be str, not " ++ type)
  let (itemSep, keySep) ← match separators with
    | some [i, k] => do
      let k ← separator 5 k
      pure (← separator 6 i, k)
    | _ => pure (if indent.isSome then [44] else [44, 32], [58, 32])
  return { itemSep, keySep, indent
           sorted := flag "sort_keys" false, ascii := flag "ensure_ascii" true
           skipKeys := flag "skipkeys" false, allowNan := flag "allow_nan" true
           checkCircles := flag "check_circular" true, fallback := present "default" }

/-- The notation of an object for a call of the library at one of its lines. -/
def encode (s : NotationStyle) (line : Nat) (r : Ref) : Exec Ref := do
  let written : Exec (List Nat) :=
    if s.indent.isSome then within "encoder.py" "encode" 202 (notationOf s 995 .alone 0 [] r)
    else within "encoder.py" "encode" 200 <| within "encoder.py" "iterencode" 258 <|
      notationOf s 995 .alone 0 [] r
  newText ⟨← within "__init__.py" "dumps" line written⟩

/-- `json.dumps`. -/
def writeNotation (a : Args) : Exec Ref := do
  let given := a.positional.length
  if given > 1 then
    typeError ("dumps() takes 1 positional argument but " ++ toString given ++ " were given")
  match a.named? 0 "obj" with
  | none => typeError "dumps() missing 1 required positional argument: 'obj'"
  | some r =>
    let keywords := a.keywords.filter fun (t, _) => t.lossy != "obj"
    let flags := [("skipkeys", false, 227), ("ensure_ascii", true, 227),
      ("check_circular", true, 228), ("allow_nan", true, 228), ("sort_keys", false, 230)]
    let told ← flags.mapM fun (id, usual, line) => do
      match a.keyword? id with
      | some v => return (id, ← within "__init__.py" "dumps" line (isTrue v))
      | none => return (id, usual)
    let objects := ["indent", "separators", "default"]
    let known := "cls" :: objects ++ flags.map (·.1)
    let extra := keywords.filter fun (t, _) => !known.contains t.lossy
    let present (id : String) : Option Ref := (a.keyword? id).filter (!isNone ·)
    let usual := told.all (fun (id, b) => flags.any fun (x, u, _) => x == id && u == b) &&
      objects.all (fun id => (present id).isNone) && extra.isEmpty
    match present "cls", extra with
    | some cls, _ =>
      let given ← flags.mapM fun (id, u, _) => do
        return (Text.ofString id, (a.keyword? id).getD (boolRef u))
      let other := objects.map fun id => (Text.ofString id, (a.keyword? id).getD noneRef)
      let writer ← within "__init__.py" "dumps" 234 (Ops.call cls ⟨[], given ++ other ++ extra⟩)
      within "__init__.py" "dumps" 238 do Ops.call (← getAttr writer "encode") (.of [r])
    | none, (t, _) :: _ =>
      within "__init__.py" "dumps" 234 <| typeError
        ("JSONEncoder.__init__() got an unexpected keyword argument '" ++ t.lossy ++ "'")
    | none, [] =>
      let separators ← (present "separators").mapM fun v =>
        within "__init__.py" "dumps" 234 <| within "encoder.py" "__init__" 155 <| unpackInto 2 v
      match ← text? r with
      | some t => newText ⟨quotedNotation ((told.lookup "ensure_ascii").getD true) t⟩
      | none =>
        let style ← styleOf a separators fun id u => (told.lookup id).getD u
        encode style (if usual then 231 else 238) r

end

end GuestBridge.Guest
