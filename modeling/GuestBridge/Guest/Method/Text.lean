import GuestBridge.Guest.Coding
import GuestBridge.Guest.Template
import GuestBridge.Text.Case
import GuestBridge.Text.Search

/-!
# Methods of strings
-/

namespace GuestBridge.Guest

open Text

/-- How many arguments the methods of strings take. -/
def textArity : String → Arity
  | "join" | "__contains__" | "__format__" | "removeprefix" | "removesuffix" | "zfill"
  | "partition" | "rpartition" | "translate" | "format_map" => .one
  | "strip" | "lstrip" | "rstrip" => .between 0 1
  | "startswith" | "endswith" | "find" | "rfind" | "index" | "rindex" | "count" => .counted 1 3
  | "replace" => .between 2 3
  | "center" | "ljust" | "rjust" => .between 1 2
  | "split" | "rsplit" | "splitlines" | "encode" | "format" | "expandtabs" => .any
  | _ => .none

/-- The code points that end lines. -/
def endsTextLine (p : Nat) : Bool :=
  (10 ≤ p && p ≤ 13) || (28 ≤ p && p ≤ 30) || p == 0x85 || p == 0x2028 || p == 0x2029

section
variable [Ops]

/-- The bounds that two optional arguments give in a sequence of length `n`. The first one may lie
beyond the end. -/
def searchBounds (n : Nat) (a b : Option Ref) : Exec (Nat × Nat) := do
  let bound (r : Option Ref) : Exec (Option Int) := match r with
    | none => return none
    | some r => sliceBound r
  let fromEnd (i : Int) : Int := if i < 0 then max 0 (i + n) else i
  let start := ((← bound a).map fromEnd).getD 0
  let stop := ((← bound b).map fun i => min (fromEnd i) n).getD n
  return (start.toNat, stop.toNat)

/-- A part of a list between bounds; `none` if the bounds leave no place even for an empty one. -/
def partBetween? (ps : List Nat) (start stop : Nat) : Option (List Nat) :=
  if start ≤ stop then some ((ps.drop start).take (stop - start)) else none

/-- Where a list occurs between bounds in another one. -/
def searchPart (needle ps : List Nat) (last : Bool) (bounds : Nat × Nat) : Option Nat :=
  (partBetween? ps bounds.1 bounds.2).bind fun part =>
    (if last then Search.findLast needle part else Search.find needle 0 part).map (· + bounds.1)

/-- How often a list occurs between bounds in another one. -/
def countPart (needle ps : List Nat) (bounds : Nat × Nat) : Nat :=
  ((partBetween? ps bounds.1 bounds.2).map (Search.count needle)).getD 0

/-- Whether the part between bounds starts or ends with one of several lists. -/
def hasAffix (needles : List (List Nat)) (ps : List Nat) (atEnd : Bool) (bounds : Nat × Nat) :
    Bool :=
  match partBetween? ps bounds.1 bounds.2 with
  | none => false
  | some part => needles.any fun n => if atEnd then n.isSuffixOf part else n.isPrefixOf part

/-- The texts among which an initial or final part is looked for. -/
def affixes (id : String) (r : Ref) : Exec (List (List Nat)) := do
  match ← dataOf r with
  | .str t => return [t.points]
  | .tuple items =>
    items.mapM fun i => do
      match ← text? i with
      | some t => return t.points
      | none =>
        typeError ("tuple for " ++ id ++ " must only contain str, not " ++ (← typeNameOf i))
  | _ =>
    typeError (id ++ " first arg must be str or a tuple of str, not " ++ (← typeNameOf r))

/-- A text that something is looked for by. -/
def needleArg (r : Ref) : Exec (List Nat) := do
  match ← text? r with
  | some u => return u.points
  | none => typeError ("must be str, not " ++ (← typeNameOf r))

/-- Joins the strings of an iterable. -/
def joinTexts (sep : Text) (r : Ref) : Exec Ref := do
  let items ← match ← iter? r with
    | some _ => elements r
    | none => typeError "can only join an iterable"
  let texts ← items.zipIdx.mapM fun (x, i) => do
    match ← text? x with
    | some t => return t
    | none =>
      typeError ("sequence item " ++ toString i ++ ": expected str instance, " ++
        (← typeNameOf x) ++ " found")
  match items with
  | [x] => if (← classOf x) == .builtin .str then return x else newText (Text.intercalate sep texts)
  | _ => newText (Text.intercalate sep texts)

/-- The character that fills a text up. -/
def fillArg (r : Option Ref) : Exec Nat := do
  match r with
  | none => return 32
  | some r =>
    match (← text? r).map Text.points with
    | some [p] => return p
    | some _ => typeError "The fill character must be exactly one character long"
    | none =>
      typeError ("The fill character must be a unicode character, not " ++ (← typeNameOf r))

/-- Texts divided by white space or by the separator that an argument gives. -/
def splitText (fromBack : Bool) (ps : List Nat) (sep : Option Ref) (limit : Option Nat) :
    Exec (List (List Nat)) := do
  match sep.filter (!isNone ·) with
  | none => return Search.divideBlanks isSpacePoint fromBack limit ps
  | some r =>
    match ← text? r with
    | none => typeError ("must be str or None, not " ++ (← typeNameOf r))
    | some u =>
      if u.points.isEmpty then valueError "empty separator"
      else return Search.divide u.points fromBack limit ps

/-- What a table gives for a code point. -/
def translatePoint (table : Ref) (p : Nat) : Exec (List Nat) := do
  let found ← recover (some <$> getItem table (← newInt p)) .lookupError fun _ => return none
  match found with
  | none => return [p]
  | some v =>
    if isNone v then return []
    else
      match ← dataOf v with
      | .str t => return t.points
      | .int n =>
        if 0 ≤ n && n < 0x110000 then return [n.toNat]
        else valueError "character mapping must be in range(0x110000)"
      | _ => typeError "character mapping must return integer, None or str"

/-- The table that `maketrans` makes. -/
def translationTable (a : Args) : Exec Ref := do
  checkArity "str.maketrans" "maketrans" (.between 1 3) a
  let out ← newDict
  let x := a.at 0
  match a.at? 1 with
  | none =>
    match ← classOf x with
    | .builtin .dict => pure ()
    | _ => typeError "if you give only one argument to maketrans it must be a dict"
    for e in ← entriesOf x do
      match ← dataOf e.key with
      | .str ⟨[p]⟩ => putKey out (← newInt p) e.value
      | .str _ => valueError "string keys in translate table must be of length 1"
      | .int _ => putKey out e.key e.value
      | _ => typeError "keys in translate table must be strings or integers"
  | some y =>
    let froms ← match ← text? x with
      | some t => pure t.points
      | none =>
        typeError "first maketrans argument must be a string if there is a second argument"
    let tos := (← textArg "maketrans()" "argument 2" y).points
    let gone ← match a.at? 2 with
      | some z => pure (← textArg "maketrans()" "argument 3" z).points
      | none => pure []
    if froms.length != tos.length then
      valueError "the first two maketrans arguments must have equal length"
    for (p, q) in froms.zip tos do
      putKey out (← newInt p) (← newInt q)
    for p in gone do
      putKey out (← newInt p) noneRef
  return out

/-- A method of strings that takes keywords. -/
def namedTextMethod (t : Text) (id : String) (a : Args) : Exec Ref := do
  let ps := t.points
  let texts (parts : List (List Nat)) : Exec Ref := do newList (← parts.mapM fun p => newText ⟨p⟩)
  match id with
  | "split" | "rsplit" =>
    let vs ← bindNamed id (.optional ["sep", "maxsplit"]) a
    let limit ← limitArg (parameter? vs 1)
    texts (← splitText (id == "rsplit") ps (parameter? vs 0) limit)
  | "splitlines" =>
    let vs ← bindNamed id (.optional ["keepends"]) a
    let keep ← match parameter? vs 0 with
      | some r => pure ((← smallArg r) != 0)
      | none => pure false
    texts (Search.lines endsTextLine keep [] ps)
  | "expandtabs" =>
    let vs ← bindNamed id (.optional ["tabsize"]) a
    let size ← match parameter? vs 0 with
      | some r => smallArg r
      | none => pure 8
    newText ⟨Search.expandTabs size.toNat 0 ps⟩
  | "encode" =>
    let vs ← bindNamed id (.optional ["encoding", "errors"]) a
    let (encoding, policy) ← codingArgs "encode" (parameter? vs 0) (parameter? vs 1)
    newBytes (← encodeWith encoding policy t)
  | _ =>
    let named ← if a.keywords.isEmpty then pure none
      else do
        let d ← newDict
        for (k, v) in a.keywords do
          putKey d (← newText k) v
        pure (some d)
    newText (← fillBraces ⟨some a.positional, named⟩ t)

/-- A method of strings that asks a question or makes a text of other characters. -/
def textQuestion? (t : Text) (id : String) : Option (Bool ⊕ Text) :=
  let ps := t.points
  let every (f : Nat → Bool) : Option (Bool ⊕ Text) := some (.inl (!ps.isEmpty && ps.all f))
  match id with
  | "lower" => some (.inr (lower t))
  | "upper" => some (.inr (upper t))
  | "casefold" => some (.inr (caseFolded t))
  | "swapcase" => some (.inr (swapCase t))
  | "capitalize" => some (.inr (capitalised t))
  | "title" => some (.inr (titled t))
  | "islower" => some (.inl (isLowerText t))
  | "isupper" => some (.inl (isUpperText t))
  | "istitle" => some (.inl (isTitled t))
  | "isdigit" => every isDigitPoint
  | "isdecimal" => every isDecimalPoint
  | "isnumeric" => every isNumericPoint
  | "isalpha" => every isLetterPoint
  | "isalnum" => every isAlphanumericPoint
  | "isspace" => every isSpacePoint
  | "isascii" => some (.inl (ps.all (· < 128)))
  | "isprintable" => some (.inl (ps.all isPrintable))
  | "isidentifier" => some <| .inl <|
    match ps with
    | [] => false
    | p :: ps => isIdentifierStart p && ps.all isIdentifierContinue
  | _ => none

/-- A method of strings. A method that leaves a string as it is gives the string itself. -/
def textMethod (self : Ref) (t : Text) (id : String) (a : Args) : Exec Ref := do
  let ps := t.points
  let result (qs : List Nat) : Exec Ref := do
    if qs == ps && (← classOf self) == .builtin .str then return self else newText ⟨qs⟩
  let bounds : Exec (Nat × Nat) := searchBounds ps.length (a.at? 1) (a.at? 2)
  match textQuestion? t id with
  | some (.inl b) => return boolRef b
  | some (.inr u) => newText u
  | none =>
  match id with
  | "join" => joinTexts t (a.at 0)
  | "strip" | "lstrip" | "rstrip" =>
    let drop ← match (a.at? 0).filter (!isNone ·) with
      | none => pure isSpacePoint
      | some r =>
        match ← text? r with
        | some u => pure u.points.contains
        | none => typeError (id ++ " arg must be None or str")
    result (Search.trim drop (id != "rstrip") (id != "lstrip") ps)
  | "partition" | "rpartition" =>
    let u ← needleArg (a.at 0)
    if u.isEmpty then valueError "empty separator"
    match Search.cut? u (id == "rpartition") ps with
    | some (before, after) =>
      newTuple [← newText ⟨before⟩, a.at 0, ← newText ⟨after⟩]
    | none =>
      let whole ← result ps
      newTuple (if id == "partition" then [whole, emptyStrRef, emptyStrRef]
        else [emptyStrRef, emptyStrRef, whole])
  | "replace" =>
    let part (i : Nat) : Exec (List Nat) := do
      return (← textArg "replace()" ("argument " ++ toString (i + 1)) (a.at i)).points
    let old ← part 0
    let new ← part 1
    result (Search.replace old new (← limitArg (a.at? 2)) ps)
  | "startswith" | "endswith" =>
    let b ← bounds
    return boolRef (hasAffix (← affixes id (a.at 0)) ps (id == "endswith") b)
  | "find" | "rfind" | "index" | "rindex" =>
    let b ← bounds
    match searchPart (← needleArg (a.at 0)) ps (id == "rfind" || id == "rindex") b with
    | some i => newInt i
    | none => if id.endsWith "find" then newInt (-1) else valueError "substring not found"
  | "count" =>
    let b ← bounds
    newInt (countPart (← needleArg (a.at 0)) ps b)
  | "removeprefix" =>
    let u := (← textArg "removeprefix()" "argument" (a.at 0)).points
    result (if u.isPrefixOf ps then ps.drop u.length else ps)
  | "removesuffix" =>
    let u := (← textArg "removesuffix()" "argument" (a.at 0)).points
    result (if u.isSuffixOf ps then ps.take (ps.length - u.length) else ps)
  | "zfill" =>
    let width ← sizeArg (a.at 0)
    checkSpace width
    result (Search.zeroFill width ps)
  | "center" | "ljust" | "rjust" =>
    let width ← sizeArg (a.at 0)
    let fill ← fillArg (a.at? 1)
    checkSpace width
    result (Search.pad (match id with
      | "ljust" => fun _ => 0
      | "rjust" => fun n => n
      | _ => Search.centred width) fill width ps)
  | "translate" => do
    let parts ← ps.mapM (translatePoint (a.at 0))
    newText ⟨parts.flatten⟩
  | "format_map" => do newText (← fillBraces ⟨none, some (a.at 0)⟩ t)
  | "__format__" => do
    newText (← formatData self (← textArg "__format__()" "argument" (a.at 0)))
  | "__getnewargs__" => newTuple [← newText t]
  | "__sizeof__" => newInt (49 + ps.length)
  | _ => namedTextMethod t id a

end

end GuestBridge.Guest
