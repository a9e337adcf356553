import GuestBridge.Guest.Format
import GuestBridge.Guest.Mapping

/-!
# Operators

A binary operator asks the left operand's class, then the right one's by the reflected method; the
right one goes first if its class extends the left one's. Numbers, sequences, sets and types know
the operators that belong to them.
-/

namespace GuestBridge.Guest

open Script

/-- How an operator is written in error messages. -/
def operatorSymbol : BinaryOp → String
  | .add => "+"
  | .sub => "-"
  | .mul => "*"
  | .div => "/"
  | .floorDiv => "//"
  | .mod => "%"
  | .pow => "** or pow()"
  | .bitOr => "|"
  | .bitAnd => "&"
  | .bitXor => "^"
  | .shiftLeft => "<<"
  | .shiftRight => ">>"

/-- How an augmented assignment is written in error messages. -/
def augmentedSymbol : BinaryOp → String
  | .pow => "**="
  | op => operatorSymbol op ++ "="

/-- The name of an operator's special method without its underscores. -/
def operatorStem : BinaryOp → String
  | .add => "add"
  | .sub => "sub"
  | .mul => "mul"
  | .div => "truediv"
  | .floorDiv => "floordiv"
  | .mod => "mod"
  | .pow => "pow"
  | .bitOr => "or"
  | .bitAnd => "and"
  | .bitXor => "xor"
  | .shiftLeft => "lshift"
  | .shiftRight => "rshift"

section
variable [Ops]

/-- Repeats a list. -/
def repeated {α : Type} (xs : List α) (n : Int) : List α :=
  (List.replicate n.toNat xs).flatten

/-- Whether an object may stand in a union of types. -/
def isUnionMember (r : Ref) : Exec Bool := do
  if isNone r then return true
  else
    match ← dataOf r with
    | .kind _ | .cls _ | .union _ | .alias _ _ => return true
    | _ => return false

/-- The types that a member of a union stands for. -/
def unionMembers (r : Ref) : Exec (List Ref) := do
  match ← dataOf r with
  | .union ms => return ms
  | _ => return [r]

/-- The union of two types; `none` if the operands are not types. -/
def unionOf? (a b : Ref) : Exec (Option Ref) := do
  let types := (← isUnionMember a) && (← isUnionMember b) && !(isNone a && isNone b)
  if types then
    let ms := ((← unionMembers a) ++ (← unionMembers b)).eraseDups
    match ms with
    | [m] => return some m
    | _ => return some (← alloc (.of .unionType (.union ms)))
  else return none

/-! ### Sets -/

/-- The entry of a table that equals a given one. -/
def SetTable.find? (t : SetTable) (e : Entry) : Exec (Option Entry) :=
  findEntry e.key e.hash t.entries

/-- Adds elements one by one, those aside that the table has. -/
def SetTable.addEach : SetTable → List Entry → Exec SetTable
  | t, [] => return t
  | t, e :: es => do
    match ← t.find? e with
    | some _ => t.addEach es
    | none => (t.add e).addEach es

/-- Takes elements out one by one. -/
def SetTable.discardEach : SetTable → List Entry → Exec SetTable
  | t, [] => return t
  | t, e :: es => do
    match ← t.find? e with
    | some f => (t.discard f.key).discardEach es
    | none => t.discardEach es

/-- Takes out the elements that are there and adds the others, one by one. -/
def SetTable.exchangeEach : SetTable → List Entry → Exec SetTable
  | t, [] => return t
  | t, e :: es => do
    match ← t.find? e with
    | some f => (t.discard f.key).exchangeEach es
    | none => (t.add e).exchangeEach es

/-- The entries that are in a table, or those that are not. -/
def SetTable.filterEntries (t : SetTable) (keep : Bool) : List Entry → Exec (List Entry)
  | [] => return []
  | e :: es => do
    let found := (← t.find? e).isSome
    let rest ← t.filterEntries keep es
    return if found == keep then e :: rest else rest

/-- Adds the elements of a table to another one. -/
def SetTable.unite (t u : SetTable) : Exec SetTable := do
  if u.count == 0 then return t
  else if t.filled == 0 then return { u.copy with finger := t.finger }
  else (t.reserve u.count).addEach u.entries

/-- The elements that two tables share, taken from the smaller one. -/
def SetTable.meet (t u : SetTable) : Exec SetTable := do
  let (small, large) := if u.count > t.count then (t, u) else (u, t)
  SetTable.empty.addEach (← large.filterEntries true small.entries)

/-- The elements of a table that another one does not have. -/
def SetTable.minus (t u : SetTable) : Exec SetTable := do
  if t.count / 4 > u.count then return (← t.copy.discardEach u.entries).tidy
  else SetTable.empty.addEach (← u.filterEntries false t.entries)

/-- The elements that one of two tables has, but not both. -/
def SetTable.difference (t u : SetTable) : Exec SetTable := u.copy.exchangeEach t.entries

/-- An operation on sets; `none` if there is no such operation. -/
def setOp? (op : BinaryOp) (t u : SetTable) : Exec (Option SetTable) := do
  match op with
  | .bitOr => some <$> t.copy.unite u
  | .bitAnd => some <$> t.meet u
  | .sub => some <$> t.minus u
  | .bitXor => some <$> t.difference u
  | _ => return none

/-- An operation that changes a set; `none` if there is no such operation. -/
def setUpdate? (op : BinaryOp) (t u : SetTable) : Exec (Option SetTable) := do
  match op with
  | .bitOr => some <$> t.unite u
  | .bitAnd => some <$> t.meet u
  | .sub => return some (← t.discardEach u.entries).tidy
  | .bitXor => some <$> t.exchangeEach u.entries
  | _ => return none

/-- The elements of an iterable as the table of a set. -/
def tableOf (r : Ref) : Exec SetTable := do
  match ← dataOf r with
  | .set t => return t
  | _ =>
    let out ← alloc (.of .set (.set .empty))
    let start ← if (← classOf r) == .builtin .dict
      then pure (SetTable.empty.reserve (← entriesOf r).length) else pure .empty
    setData out (.set start)
    for x in ← elements r do
      putKey out x noneRef
    match ← dataOf out with
    | .set t => return t
    | _ => return .empty

/-- A new set of the kind that the left operand of an operation has. -/
def newSetLike (r : Ref) (t : SetTable) : Exec Ref := do
  let k ← (← classOf r).baseKind
  alloc (.of (if k == .frozenset then .frozenset else .set) (.set t))

/-- Whether an object is a view that behaves like a set. -/
def isSetView (d : Data) : Bool :=
  match d with
  | .view _ .values => false
  | .view _ _ => true
  | _ => false

/-! ### Dictionaries and sequences -/

/-- The dictionary that a read-only view shows; other objects stand for themselves. -/
def unveiled (r : Ref) : Exec Ref := do
  match ← dataOf r with
  | .proxy of => return of
  | _ => return r

/-- The elements of a bounded queue that are left when more were added at the right. -/
def lastOf (limit : Option Nat) (items : List Ref) : List Ref :=
  match limit with
  | none => items
  | some n => items.drop (items.length - n)

/-- Refuses to repeat something so often that no memory could hold it. -/
def checkRepetition (d : Data) (size : Nat) (n : Int) : Exec Unit := do
  let total := size * n.toNat
  if (total : Int) > maxSize then
    match d with
    | .str _ => raiseError .overflowError "repeated string is too long"
    | .bytes _ => raiseError .overflowError "repeated bytes are too long"
    | _ => raiseError .memoryError ""
  else if total ≥ Nat.pow 2 32 then raiseError .memoryError ""

/-- Repeats a sequence with the given data; `none` if it is no sequence. -/
def repeatData? (r : Ref) (d : Data) (n : Int) : Exec (Option Ref) := do
  checkRepetition d ((← sizeOfData d).getD 0) n
  match d with
  | .str t => some <$> newText ⟨repeated t.points n⟩
  | .bytes bs => some <$> newBytes (repeated bs n)
  | .bytearray bs => some <$> alloc (.of .bytearray (.bytearray (repeated bs n)))
  | .list items => some <$> newList (repeated items.toList n)
  | .tuple items => some <$> newTuple (repeated items n)
  | .deque items limit =>
    some <$> alloc { cls := ← classOf r, data := .deque (lastOf limit (repeated items n)) limit }
  | _ => return none

/-- An operator on the data of two objects; `none` if it does not apply. -/
def binaryData (op : BinaryOp) (a b : Ref) (d e : Data) : Exec (Option Ref) := do
  match d.num?, e.num? with
  | some x, some y =>
    let logical := op == .bitAnd || op == .bitOr || op == .bitXor
    let bools := (a == trueRef || a == falseRef) && (b == trueRef || b == falseRef)
    match Num.binary op x y with
    | none => return none
    | some result =>
      if logical && bools then
        match result with
        | .ok n => return some (boolRef n.truth)
        | .error err => raiseNum err
      else return some (← numResult result)
  | _, _ =>
    match op, d, e with
    | .add, .str t, .str u => some <$> newText (t ++ u)
    | .add, .bytes x, .bytes y | .add, .bytes x, .bytearray y => some <$> newBytes (x ++ y)
    | .add, .bytearray x, .bytearray y | .add, .bytearray x, .bytes y =>
      some <$> alloc (.of .bytearray (.bytearray (x ++ y)))
    | .add, .bytes x, .memory of w => do
      if ← isReleased b then return none
      some <$> newBytes (x ++ w.bytes (← bufferBytes of))
    | .add, .bytearray x, .memory of w => do
      if ← isReleased b then return none
      some <$> alloc (.of .bytearray (.bytearray (x ++ w.bytes (← bufferBytes of))))
    | .add, .list x, .list y => some <$> newList (x.toList ++ y.toList)
    | .add, .tuple x, .tuple y => some <$> newTuple (x ++ y)
    | .add, .deque x l, .deque y _ =>
      some <$> alloc { cls := ← classOf a, data := .deque (lastOf l (x ++ y)) l }
    | .mod, .str t, _ => do some <$> newText ⟨← formatTemplate false t.points b⟩
    | .mod, .bytes bs, _ => do
      some <$> newBytes ((← formatTemplate true (bs.map UInt8.toNat) b).map Nat.toUInt8)
    | .mod, .bytearray bs, _ => do
      let ps ← formatTemplate true (bs.map UInt8.toNat) b
      some <$> alloc (.of .bytearray (.bytearray (ps.map Nat.toUInt8)))
    | .bitOr, .dict _, .dict _ | .bitOr, .defaultDict _ _, .dict _
    | .bitOr, .dict _, .defaultDict _ _ | .bitOr, .defaultDict _ _, .defaultDict _ _ =>
      some <$> mergedDict a b
    | .bitOr, .proxy _, _ | .bitOr, _, .proxy _ => do
      let x ← unveiled a
      let y ← unveiled b
      if (← isDict x) && (← isDict y) then
        some <$> mergedDict x y
      else return none
    | _, .set t, .set u =>
      match ← setOp? op t u with
      | some out => some <$> newSetLike a out
      | none => return none
    | _, _, _ =>
      let logical := op == .bitAnd || op == .bitOr || op == .bitXor || op == .sub
      if logical && (isSetView d || isSetView e) then
        match ← setOp? op (← tableOf a) (← tableOf b) with
        | some out => some <$> alloc (.of .set (.set out))
        | none => return none
      else if op == .bitOr then unionOf? a b
      else return none

/-- Repetition of a sequence, on either side of the integer. -/
def repetition? (a b : Ref) (d e : Data) : Exec (Option Ref) := do
  let times (k r : Ref) (s : Data) : Exec (Option Ref) := do
    match s with
    | .str _ | .bytes _ | .bytearray _ | .list _ | .tuple _ | .deque _ _ =>
      match ← index? k with
      | some _ => repeatData? r s (← sizeIndex .overflowError k)
      | none =>
        typeError ("can't multiply sequence by non-int of type '" ++ (← typeNameOf k) ++ "'")
    | _ => return none
  match ← times b a d with
  | some r => return some r
  | none => times a b e


/-- Refuses operands that do not go together. -/
def unsupported {α : Type} (op : BinaryOp) (symbol : String) (a b : Ref) (d : Data) : Exec α := do
  let other ← typeNameOf b
  match op, d with
  | .add, .str _ =>
    typeError ("can only concatenate str (not \"" ++ other ++ "\") to str")
  | .add, .list _ =>
    typeError ("can only concatenate list (not \"" ++ other ++ "\") to list")
  | .add, .tuple _ =>
    typeError ("can only concatenate tuple (not \"" ++ other ++ "\") to tuple")
  | .add, .deque _ _ =>
    typeError ("can only concatenate deque (not \"" ++ other ++ "\") to deque")
  | .add, .bytes _ => typeError ("can't concat " ++ other ++ " to bytes")
  | .add, .bytearray _ => typeError ("can't concat " ++ other ++ " to bytearray")
  | _, _ =>
    typeError ("unsupported operand type(s) for " ++ symbol ++ ": '" ++ (← typeNameOf a) ++
      "' and '" ++ other ++ "'")

/-- A binary operator; `symbol` is how error messages write it. -/
def binaryWith (op : BinaryOp) (symbol : String) (a b : Ref) : Exec Ref := do
  let direct := "__" ++ operatorStem op ++ "__"
  let reflected := "__r" ++ operatorStem op ++ "__"
  let d ← dataOf a
  let e ← dataOf b
  let ca ← classOf a
  let cb ← classOf b
  let rightFirst ←
    if ca == cb then pure false
    else if ← cb.extends ca then (Option.isSome <$> userSpecial? b reflected)
    else pure false
  let ask (self other : Ref) (id : String) : Exec (Option Ref) := do
    match ← callSpecial? self id [other] with
    | some r => return if r == notImplementedRef then none else some r
    | none => return none
  let early ← if rightFirst then ask b a reflected else pure none
  match early with
  | some r => return r
  | none =>
    match ← ask a b direct with
    | some r => return r
    | none =>
      let overridden := (← userSpecial? a direct).isSome
      match ← if overridden then pure none else binaryData op a b d e with
      | some r => return r
      | none =>
        let late ← if rightFirst || ca == cb then pure none else ask b a reflected
        match late with
        | some r => return r
        | none =>
          match ← if op == .mul then repetition? a b d e else pure none with
          | some r => return r
          | none => unsupported op symbol a b d

/-- A binary operator. -/
def binaryOp (op : BinaryOp) (a b : Ref) : Exec Ref :=
  binaryWith op (operatorSymbol op) a b

/-- What an augmented assignment makes of an object that it changes in place; `none` if it changes
nothing in place. -/
def augmentData? (op : BinaryOp) (a b : Ref) : Exec (Option Ref) := do
  let changed (d : Data) : Exec (Option Ref) := do
    setData a d
    return some a
  match op, ← dataOf a with
  | .add, .list _ =>
    let more ← elements b
    match ← dataOf a with
    | .list items => changed (.list (items ++ more.toArray))
    | _ => return none
  | .add, .bytearray bs =>
    match ← bytes? b with
    | some cs =>
      setBytes a (bs ++ cs)
      return some a
    | none => typeError ("can't concat " ++ (← typeNameOf b) ++ " to bytearray")
  | .add, .deque _ limit =>
    let more ← elements b
    match ← dataOf a with
    | .deque items _ => changed (.deque (lastOf limit (items ++ more)) limit)
    | _ => return none
  | .mul, d =>
    match d, ← index? b with
    | .list items, some _ => do
      let n ← sizeIndex .overflowError b
      checkRepetition d items.size n
      changed (.list (repeated items.toList n).toArray)
    | .bytearray bs, some _ => do
      let n ← sizeIndex .overflowError b
      checkRepetition d bs.length n
      setBytes a (repeated bs n)
      return some a
    | .deque items limit, some _ => do
      let n ← sizeIndex .overflowError b
      checkRepetition d items.length n
      changed (.deque (lastOf limit (repeated items n)) limit)
    | _, _ => return none
  | op, .set t =>
    match ← isKind a .frozenset, ← dataOf b with
    | false, .set u =>
      match ← setUpdate? op t u with
      | some out => changed (.set out)
      | none => return none
    | _, _ => return none
  | _, _ => return none

/-- An augmented assignment's new value; lists, sets and dictionaries are changed in place. -/
def augmentOp (op : BinaryOp) (a b : Ref) : Exec Ref := do
  let otherwise : Exec Ref := do
    match op, ← dataOf a with
    | .bitOr, .dict _ | .bitOr, .defaultDict _ _ =>
      if ← isKind a .orderedDict then takeOverOrdered a b else takeOver a b
      return a
    | _, _ =>
      match ← augmentData? op a b with
      | some r => return r
      | none => binaryWith op (augmentedSymbol op) a b
  match ← callSpecial? a ("__i" ++ operatorStem op ++ "__") [b] with
  | some r => if r == notImplementedRef then binaryWith op (augmentedSymbol op) a b else return r
  | none => otherwise

/-- A unary operator. -/
def unaryOp (op : UnaryOp) (a : Ref) : Exec Ref := do
  let numeric (id symbol : String) (f : Num → Option Num) : Exec Ref := do
    match ← callSpecial? a id [] with
    | some r => return r
    | none =>
      match ((← dataOf a).num?).bind f with
      | some n => newNum n
      | none =>
        typeError ("bad operand type for unary " ++ symbol ++ ": '" ++ (← typeNameOf a) ++ "'")
  match op with
  | .not => return boolRef !(← isTrue a)
  | .neg => numeric "__neg__" "-" (some ·.neg)
  | .pos => numeric "__pos__" "+" some
  | .invert => numeric "__invert__" "~" fun | .int n => some (.int (-n - 1)) | _ => none

/-- A comparison, membership and identity included. -/
def compareOp (op : CompareOp) (a b : Ref) : Exec Ref := do
  match op with
  | .is => return boolRef (a == b)
  | .isNot => return boolRef (a != b)
  | .isIn => return boolRef (← contains b a)
  | .notIn => return boolRef !(← contains b a)
  | op => Ops.compare op a b

end

end GuestBridge.Guest
