import GuestBridge.Guest.Method.Text

/-!
# Methods of byte strings

Byte strings have most methods of strings. Only the letters, digits and blanks of the basic alphabet
count as such.
-/

namespace GuestBridge.Guest

open Text

/-- How many arguments the methods of byte strings take. -/
def bytesArity : String → Arity
  | "decode" | "hex" | "translate" => .any
  | "maketrans" => .between 2 2
  | id => textArity id

/-! ### The basic alphabet -/

/-- Whether a byte is a capital letter. -/
def isCapital (p : Nat) : Bool := 65 ≤ p && p ≤ 90

/-- Whether a byte is a small letter. -/
def isSmall (p : Nat) : Bool := 97 ≤ p && p ≤ 122

/-- Whether a byte is a letter. -/
def isLetter (p : Nat) : Bool := isCapital p || isSmall p

/-- Whether a byte is a blank. -/
def isBlank (p : Nat) : Bool := p == 32 || (9 ≤ p && p ≤ 13)

/-- The small form of a letter. -/
def toSmall (p : Nat) : Nat := if isCapital p then p + 32 else p

/-- The capital form of a letter. -/
def toCapital (p : Nat) : Nat := if isSmall p then p - 32 else p

/-- Bytes with a capital at the start of each word and small letters else. -/
def titledBytes : (inWord : Bool) → List Nat → List Nat
  | _, [] => []
  | inWord, p :: ps =>
    (if inWord then toSmall p else toCapital p) :: titledBytes (isLetter p) ps

/-- Whether each word starts with a capital and goes on with small letters; `found` says that there
was a word. -/
def isTitledBytes : (inWord found : Bool) → List Nat → Bool
  | _, found, [] => found
  | inWord, found, p :: ps =>
    if isCapital p then !inWord && isTitledBytes true true ps
    else if isSmall p then inWord && isTitledBytes true true ps
    else isTitledBytes false found ps

/-- A method of byte strings that asks a question or changes letters. -/
def bytesQuestion? (ps : List Nat) (id : String) : Option (Bool ⊕ List Nat) :=
  let every (f : Nat → Bool) : Option (Bool ⊕ List Nat) := some (.inl (!ps.isEmpty && ps.all f))
  match id with
  | "lower" => some (.inr (ps.map toSmall))
  | "upper" => some (.inr (ps.map toCapital))
  | "swapcase" => some (.inr (ps.map fun p => if isCapital p then toSmall p else toCapital p))
  | "capitalize" => some (.inr ((ps.take 1).map toCapital ++ (ps.drop 1).map toSmall))
  | "title" => some (.inr (titledBytes false ps))
  | "islower" => some (.inl (ps.any isSmall && !ps.any isCapital))
  | "isupper" => some (.inl (ps.any isCapital && !ps.any isSmall))
  | "istitle" => some (.inl (isTitledBytes false false ps))
  | "isdigit" => every isDigit
  | "isalpha" => every isLetter
  | "isalnum" => every fun p => isLetter p || isDigit p
  | "isspace" => every isBlank
  | "isascii" => some (.inl (ps.all (· < 128)))
  | _ => none

/-! ### Bytes as digits -/

/-- The digits of bytes. -/
def hexText (bs : List UInt8) : Text :=
  ⟨bs.flatMap fun b => digitsIn 16 b.toNat 2⟩

/-- Groups of a given size; the last one may be smaller. -/
def groupsOf {α : Type} (size : Nat) : (fuel : Nat) → List α → List (List α)
  | 0, _ | _, [] => []
  | fuel + 1, x :: xs => (x :: xs).take size :: groupsOf size fuel ((x :: xs).drop size)

/-- The digits of bytes in groups of bytes, counted from the back if the size is positive. -/
def groupedHex (sep : Nat) (size : Int) (bs : List UInt8) : Text :=
  let n := size.natAbs
  if n == 0 then hexText bs
  else
    let groups := if size > 0
      then ((groupsOf n bs.length bs.reverse).map List.reverse).reverse
      else groupsOf n bs.length bs
    ⟨[sep].intercalate (groups.map fun g => (hexText g).points)⟩

/-- The value of a digit to base sixteen, if it is one. -/
def hexValue? (p : Nat) : Option Nat :=
  if isDigit p then some (p - 48)
  else if 97 ≤ p && p ≤ 102 then some (p - 87)
  else if 65 ≤ p && p ≤ 70 then some (p - 55)
  else none

/-- The bytes that digits stand for; blanks may stand between bytes. A fault is the place of what is
no digit. -/
def readHex (place : Nat) : List Nat → Except Nat (List UInt8)
  | [] => .ok []
  | p :: ps =>
    if isBlank p then readHex (place + 1) ps
    else
      match hexValue? p, ps with
      | none, _ => .error place
      | some _, [] => .error (place + 1)
      | some high, q :: qs =>
        match hexValue? q with
        | none => .error (place + 1)
        | some low => do return (high * 16 + low).toUInt8 :: (← readHex (place + 2) qs)

/-! ### Arguments -/

/-- A byte string like another one: mutable if that is. -/
def newBytesLike (mutable : Bool) (bs : List UInt8) : Exec Ref :=
  if mutable then alloc (.of .bytearray (.bytearray bs)) else newBytes bs

section
variable [Ops]

/-- The bytes of an argument. -/
def bytesArgument (r : Ref) : Exec (List Nat) := do
  match ← bytes? r with
  | some cs => return cs.map UInt8.toNat
  | none => typeError ("a bytes-like object is required, not '" ++ (← typeNameOf r) ++ "'")

/-- The bytes that something is looked for by: those of an argument, or the argument as a byte. -/
def byteNeedle (r : Ref) : Exec (List Nat) := do
  match ← bytes? r with
  | some cs => return cs.map UInt8.toNat
  | none =>
    match ← index? r with
    | some n =>
      if 0 ≤ n && n < 256 then return [n.toNat] else valueError "byte must be in range(0, 256)"
    | none =>
      typeError ("argument should be integer or bytes-like object, not '" ++
        (← typeNameOf r) ++ "'")

/-- The byte strings among which an initial or final part is looked for. -/
def byteAffixes (id : String) (r : Ref) : Exec (List (List Nat)) := do
  match ← dataOf r with
  | .tuple items => items.mapM bytesArgument
  | _ =>
    match ← bytes? r with
    | some cs => return [cs.map UInt8.toNat]
    | none =>
      typeError (id ++ " first arg must be bytes or a tuple of bytes, not " ++ (← typeNameOf r))

/-- Joins the byte strings of an iterable. -/
def joinBytes (sep : List Nat) (r : Ref) : Exec (List Nat) := do
  let items ← match ← iter? r with
    | some _ => elements r
    | none => typeError "can only join an iterable"
  let parts ← items.zipIdx.mapM fun (x, i) => do
    match ← bytes? x with
    | some cs => return cs.map UInt8.toNat
    | none =>
      typeError ("sequence item " ++ toString i ++ ": expected a bytes-like object, " ++
        (← typeNameOf x) ++ " found")
  return sep.intercalate parts

/-- The byte that fills a byte string up. -/
def byteFill (id : String) (r : Option Ref) : Exec Nat := do
  match r with
  | none => return 32
  | some r =>
    match ← dataOf r with
    | .bytes [b] | .bytearray [b] => return b.toNat
    | _ =>
      typeError (id ++ "() argument 2 must be a byte string of length 1, not " ++
        (← argumentType r))

/-- The separator between digits of bytes. -/
def hexSeparator (r : Ref) : Exec Nat := do
  let single (ps : List Nat) : Exec Nat := do
    match ps with
    | [p] => if p < 128 then return p else valueError "sep must be ASCII."
    | _ => valueError "sep must be length 1."
  match ← dataOf r with
  | .str t => single t.points
  | .bytes bs => single (bs.map UInt8.toNat)
  | _ => typeError "sep must be str or bytes."

/-- The table for `translate` that exchanges bytes. -/
def byteTable (a : Args) : Exec Ref := do
  checkArity "bytes.maketrans" "maketrans" (.between 2 2) a
  let froms ← bytesArgument (a.at 0)
  let tos ← bytesArgument (a.at 1)
  if froms.length != tos.length then
    valueError "maketrans arguments must have same length"
  let pairs := (froms.zip tos).reverse
  newBytes ((List.range 256).map fun p => ((pairs.lookup p).getD p).toUInt8)

/-- The bytes of hexadecimal digits. -/
def bytesFromHex (r : Ref) : Exec (List UInt8) := do
  let t ← textArg "fromhex()" "argument" r
  match readHex 0 t.points with
  | .ok bs => return bs
  | .error i =>
    valueError ("non-hexadecimal number found in fromhex() arg at position " ++ toString i)

/-- A method of byte strings that takes keywords. -/
def namedBytesMethod (mutable : Bool) (bs : List UInt8) (id : String) (a : Args) : Exec Ref := do
  let ps := bs.map UInt8.toNat
  let result (ps : List Nat) : Exec Ref := newBytesLike mutable (ps.map Nat.toUInt8)
  let results (parts : List (List Nat)) : Exec Ref := do newList (← parts.mapM result)
  match id with
  | "split" | "rsplit" =>
    let vs ← bindNamed id (.optional ["sep", "maxsplit"]) a
    let limit ← limitArg (parameter? vs 1)
    match (parameter? vs 0).filter (!isNone ·) with
    | none => results (Search.divideBlanks isBlank (id == "rsplit") limit ps)
    | some r =>
      let sep ← bytesArgument r
      if sep.isEmpty then valueError "empty separator"
      results (Search.divide sep (id == "rsplit") limit ps)
  | "splitlines" =>
    let vs ← bindNamed id (.optional ["keepends"]) a
    let keep ← match parameter? vs 0 with
      | some r => pure ((← smallArg r) != 0)
      | none => pure false
    results (Search.lines (fun p => p == 10 || p == 13) keep [] ps)
  | "expandtabs" =>
    let vs ← bindNamed id (.optional ["tabsize"]) a
    let size ← match parameter? vs 0 with
      | some r => smallArg r
      | none => pure 8
    result (Search.expandTabs size.toNat 0 ps)
  | "decode" =>
    let vs ← bindNamed id (.optional ["encoding", "errors"]) a
    let (encoding, policy) ← codingArgs "decode" (parameter? vs 0) (parameter? vs 1)
    newText (← decodeWith encoding policy bs)
  | "hex" =>
    let vs ← bindNamed id (.optional ["sep", "bytes_per_sep"]) a
    let size ← match parameter? vs 1 with
      | some r => smallArg r
      | none => pure 1
    match parameter? vs 0 with
    | none => newText (hexText bs)
    | some r => do newText (groupedHex (← hexSeparator r) size bs)
  | _ =>
    let vs ← bindNamed id ⟨["", "delete"], 1, 2⟩ a
    let gone ← match parameter? vs 1 with
      | some r => bytesArgument r
      | none => pure []
    let kept := ps.filter fun p => !gone.contains p
    match (parameter? vs 0).filter (!isNone ·) with
    | none => result kept
    | some r =>
      let table ← bytesArgument r
      if table.length != 256 then valueError "translation table must be 256 characters long"
      let table := table.toArray
      result (kept.map fun p => table.getD p p)

/-- A method of byte strings that does not change them. -/
def bytesMethod (mutable : Bool) (self : Ref) (bs : List UInt8) (id : String) (a : Args) :
    Exec Ref := do
  let ps := bs.map UInt8.toNat
  let result (qs : List Nat) : Exec Ref := do
    if qs == ps && (← classOf self) == .builtin .bytes then return self
    else newBytesLike mutable (qs.map Nat.toUInt8)
  let bounds : Exec (Nat × Nat) := searchBounds ps.length (a.at? 1) (a.at? 2)
  match bytesQuestion? ps id with
  | some (.inl b) => return boolRef b
  | some (.inr qs) => newBytesLike mutable (qs.map Nat.toUInt8)
  | none =>
  match id with
  | "join" => do newBytesLike mutable ((← joinBytes ps (a.at 0)).map Nat.toUInt8)
  | "strip" | "lstrip" | "rstrip" =>
    let drop ← match (a.at? 0).filter (!isNone ·) with
      | none => pure isBlank
      | some r => do
        let cs ← bytesArgument r
        pure cs.contains
    result (Search.trim drop (id != "rstrip") (id != "lstrip") ps)
  | "partition" | "rpartition" =>
    let u ← bytesArgument (a.at 0)
    if u.isEmpty then valueError "empty separator"
    let none' ← newBytesLike mutable []
    match Search.cut? u (id == "rpartition") ps with
    | some (before, after) =>
      newTuple [← newBytesLike mutable (before.map Nat.toUInt8),
        ← newBytesLike mutable (u.map Nat.toUInt8), ← newBytesLike mutable (after.map Nat.toUInt8)]
    | none =>
      let whole ← result ps
      let other ← newBytesLike mutable []
      newTuple (if id == "partition" then [whole, none', other] else [none', other, whole])
  | "replace" =>
    let old ← bytesArgument (a.at 0)
    let new ← bytesArgument (a.at 1)
    result (Search.replace old new (← limitArg (a.at? 2)) ps)
  | "startswith" | "endswith" =>
    let b ← bounds
    return boolRef (hasAffix (← byteAffixes id (a.at 0)) ps (id == "endswith") b)
  | "find" | "rfind" | "index" | "rindex" =>
    let b ← bounds
    match searchPart (← byteNeedle (a.at 0)) ps (id == "rfind" || id == "rindex") b with
    | some i => newInt i
    | none => if id.endsWith "find" then newInt (-1) else valueError "subsection not found"
  | "count" =>
    let b ← bounds
    newInt (countPart (← byteNeedle (a.at 0)) ps b)
  | "removeprefix" =>
    let u ← bytesArgument (a.at 0)
    result (if u.isPrefixOf ps then ps.drop u.length else ps)
  | "removesuffix" =>
    let u ← bytesArgument (a.at 0)
    result (if u.isSuffixOf ps then ps.take (ps.length - u.length) else ps)
  | "zfill" =>
    let width ← sizeArg (a.at 0)
    checkSpace width
    result (Search.zeroFill width ps)
  | "center" | "ljust" | "rjust" =>
    let width ← sizeArg (a.at 0)
    let fill ← byteFill id (a.at? 1)
    checkSpace width
    result (Search.pad (match id with
      | "ljust" => fun _ => 0
      | "rjust" => fun n => n
      | _ => Search.centred width) fill width ps)
  | "__getnewargs__" => newTuple [← newBytes bs]
  | "__bytes__" => newBytes bs
  | _ => namedBytesMethod mutable bs id a

end

end GuestBridge.Guest
