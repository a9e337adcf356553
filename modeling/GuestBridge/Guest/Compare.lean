import GuestBridge.Guest.Protocol
import GuestBridge.Guest.Reach

/-!
# Comparison and hashing

Two objects are compared by the left one's class, then by the right one's with the sides exchanged;
the right one goes first if its class extends the left one's. Equality falls back on identity.
-/

namespace GuestBridge.Guest

open Script

/-- The special method of a comparison. -/
def compareName : CompareOp → String
  | .lt => "__lt__"
  | .le => "__le__"
  | .gt => "__gt__"
  | .ge => "__ge__"
  | .ne => "__ne__"
  | _ => "__eq__"

/-- How a comparison is written. -/
def compareSymbol : CompareOp → String
  | .lt => "<"
  | .le => "<="
  | .gt => ">"
  | .ge => ">="
  | .ne => "!="
  | _ => "=="

/-- The comparison with its sides exchanged. -/
def swapped : CompareOp → CompareOp
  | .lt => .gt
  | .le => .ge
  | .gt => .lt
  | .ge => .le
  | op => op

/-- What an ordering means for a comparison. -/
def holds (op : CompareOp) (o : Ordering) : Bool :=
  match op with
  | .lt => o == .lt
  | .le => o != .gt
  | .gt => o == .gt
  | .ge => o != .lt
  | .ne => o != .eq
  | _ => o == .eq

/-- Whether a comparison asks for equality or its opposite. -/
def isEquality : CompareOp → Bool
  | .eq | .ne => true
  | _ => false

/-- How lists of naturals compare, element by element. -/
def compareLists : List Nat → List Nat → Ordering
  | [], [] => .eq
  | [], _ :: _ => .lt
  | _ :: _, [] => .gt
  | a :: as, b :: bs =>
    match compare a b with
    | .eq => compareLists as bs
    | o => o

section
variable [Ops]

/-- Where two lists first differ; `none` if one is an initial part of the other. -/
def firstDifference : List Ref → List Ref → Exec (Option (Ref × Ref))
  | a :: as, b :: bs => do
    if ← Ops.equal a b then firstDifference as bs else return some (a, b)
  | _, _ => return none

/-- Compares sequences element by element. -/
def compareSequences (op : CompareOp) (as bs : List Ref) : Exec Ref := do
  if isEquality op && as.length != bs.length then return boolRef (op == .ne)
  match ← firstDifference as bs with
  | none => return boolRef (holds op (compare as.length bs.length))
  | some (a, b) =>
    if isEquality op then return boolRef (op == .ne) else Ops.compare op a b

/-- Whether each entry of a table is in another one with an equal value. -/
def entriesWithin : List Entry → List Entry → Exec Bool
  | [], _ => return true
  | e :: es, fs => do
    match ← findEntry e.key e.hash fs with
    | none => return false
    | some f =>
      if ← Ops.equal e.value f.value then entriesWithin es fs else return false

/-- Whether each key of a table is in another one. -/
def keysWithin : List Entry → List Entry → Exec Bool
  | [], _ => return true
  | e :: es, fs => do
    match ← findEntry e.key e.hash fs with
    | none => return false
    | some _ => keysWithin es fs

/-- Compares sets by inclusion. -/
def compareSets (op : CompareOp) (as bs : List Entry) : Exec Ref := do
  match op with
  | .lt => boolRef <$> (pure (as.length < bs.length) <&&> keysWithin as bs)
  | .le => boolRef <$> (pure (as.length ≤ bs.length) <&&> keysWithin as bs)
  | .gt => boolRef <$> (pure (bs.length < as.length) <&&> keysWithin bs as)
  | .ge => boolRef <$> (pure (bs.length ≤ as.length) <&&> keysWithin bs as)
  | op =>
    let same ← pure (as.length == bs.length) <&&> keysWithin as bs
    return boolRef (same == (op == .eq))

/-- The keys of a set or of a view of a dictionary's keys, as a table. -/
def keyTable? (d : Data) : Exec (Option (List Entry)) := do
  match d with
  | .set t => return some t.entries
  | .view of .keys => return some (← entriesOf of)
  | .view of .items =>
    let items ← (← entriesOf of).mapM fun e => do
      let pair ← newTuple [e.key, e.value]
      return (⟨← Ops.hash pair, pair, pair, 0⟩ : Entry)
    return some items
  | _ => return none

/-- Compares objects by their data; `none` if the data do not go together. -/
def compareData (op : CompareOp) (a b : Ref) (d e : Data) : Exec (Option Ref) := do
  match d, e with
  | .str t, .str u => return some (boolRef (holds op (compareLists t.points u.points)))
  | .bytes x, .bytes y | .bytes x, .bytearray y | .bytearray x, .bytes y
  | .bytearray x, .bytearray y =>
    return some (boolRef (holds op (compareLists (x.map UInt8.toNat) (y.map UInt8.toNat))))
  | .list x, .list y => return some (← compareSequences op x.toList y.toList)
  | .tuple x, .tuple y => return some (← compareSequences op x y)
  | .deque x _, .deque y _ => return some (← compareSequences op x y)
  | .dict x, .dict y | .dict x, .defaultDict y _ | .defaultDict x _, .dict y
  | .defaultDict x _, .defaultDict y _ =>
    if isEquality op then
      let ordered := (← isKind a .orderedDict) && (← isKind b .orderedDict)
      let inOrder : Exec Bool := do
        if ordered then
          return (← firstDifference (x.map (·.key)) (y.map (·.key))).isNone
        else return true
      let same ← pure (x.length == y.length) <&&> (entriesWithin x y <&&> inOrder)
      return some (boolRef (same == (op == .eq)))
    else return none
  | .range a₁ b₁ s₁, .range a₂ b₂ s₂ =>
    if isEquality op then
      let n := rangeLength a₁ b₁ s₁
      let same := n == rangeLength a₂ b₂ s₂ && (n == 0 || a₁ == a₂ && (n == 1 || s₁ == s₂))
      return some (boolRef (same == (op == .eq)))
    else return none
  | .slice a₁ b₁ s₁, .slice a₂ b₂ s₂ =>
    return some (← compareSequences op [a₁, b₁, s₁] [a₂, b₂, s₂])
  | .method f x, .method g y =>
    if isEquality op then return some (boolRef ((f == g && x == y) == (op == .eq))) else return none
  | .bound k n x, .bound l m y =>
    if isEquality op then
      return some (boolRef ((k == l && n == m && x == y) == (op == .eq)))
    else return none
  | .memory of w, .memory of' w' => do
    if !isEquality op then return none
    if (← isReleased a) || (← isReleased b) then return some (boolRef ((a == b) == (op == .eq)))
    let xs ← windowItems a of w
    let ys ← windowItems b of' w'
    if xs.length != ys.length then return some (boolRef (op == .ne))
    return some (boolRef ((← firstDifference xs ys).isNone == (op == .eq)))
  | .memory of w, .bytes bs | .memory of w, .bytearray bs => do
    if !isEquality op then return none
    if ← isReleased a then return some (boolRef (op == .ne))
    let xs ← windowItems a of w
    let ys ← bs.mapM fun b => newInt b.toNat
    if xs.length != ys.length then return some (boolRef (op == .ne))
    return some (boolRef ((← firstDifference xs ys).isNone == (op == .eq)))
  | .proxy of, _ => return some (← Ops.compare op of b)
  | .weakReference x, .weakReference y =>
    if !isEquality op then return none
    else
      let alive := (← get).alive
      if alive.getD x.id false && alive.getD y.id false then return some (← Ops.compare op x y)
      else return some (boolRef ((a == b) == (op == .eq)))
  | .union xs, .union ys =>
    if isEquality op then
      let same := xs.all ys.contains && ys.all xs.contains
      return some (boolRef (same == (op == .eq)))
    else return none
  | .alias o xs, .alias p ys =>
    if isEquality op then
      let sameArgs : Exec Bool := do return (← firstDifference xs ys).isNone
      let same ← Ops.equal o p <&&> (pure (xs.length == ys.length) <&&> sameArgs)
      return some (boolRef (same == (op == .eq)))
    else return none
  | _, _ =>
    match d.num?, e.num? with
    | some x, some y =>
      if isEquality op then return some (boolRef (x.equal y == (op == .eq)))
      else
        match x, y with
        | .complex _ _, _ | _, .complex _ _ => return none
        | _, _ => return some (boolRef (((Num.compare? x y).map (holds op)).getD false))
    | _, _ =>
      match ← keyTable? d, ← keyTable? e with
      | some x, some y => return some (← compareSets op x y)
      | _, _ =>
        if isEquality op && a == b then return some (boolRef (op == .eq)) else return none

/-- Asks the left object's class for a comparison; `none` if it does not apply. -/
def tryCompare (op : CompareOp) (a b : Ref) : Exec (Option Ref) := do
  let answer (r : Ref) : Option Ref := if r == notImplementedRef then none else some r
  match ← userSpecial? a (compareName op) with
  | some f => return answer (← callValue f a [b])
  | none =>
    let builtin ← special a (compareName op)
    let inherited := match builtin with | .member .object _ => true | _ => false
    match op, inherited with
    | .ne, true =>
      -- what differs is what is not equal
      match ← callSpecial? a "__eq__" [b] with
      | some r =>
        if r == notImplementedRef then return none else return some (boolRef !(← isTrue r))
      | none => compareData op a b (← dataOf a) (← dataOf b)
    | _, _ => compareData op a b (← dataOf a) (← dataOf b)

/-- Compares two objects. -/
def compareObjects (op : CompareOp) (a b : Ref) : Exec Ref := do
  let ca ← classOf a
  let cb ← classOf b
  let rightFirst ←
    if ca == cb then pure false
    else if ← cb.extends ca then (Option.isSome <$> userSpecial? b (compareName (swapped op)))
    else pure false
  let early ← if rightFirst then tryCompare (swapped op) b a else pure none
  match early with
  | some r => return r
  | none =>
    match ← tryCompare op a b with
    | some r => return r
    | none =>
      let late ← if rightFirst then pure none else tryCompare (swapped op) b a
      match late with
      | some r => return r
      | none =>
        if isEquality op then return boolRef ((a == b) == (op == .eq))
        else
          typeError ("'" ++ compareSymbol op ++ "' not supported between instances of '" ++
            (← typeNameOf a) ++ "' and '" ++ (← typeNameOf b) ++ "'")

/-- Whether two objects are the same or equal. -/
def equalObjects (a b : Ref) : Exec Bool := do
  if a == b then return true else isTrue (← compareObjects .eq a b)

/-- Whether one object is less than another. -/
def isLess (a b : Ref) : Exec Bool := do
  isTrue (← Ops.compare .lt a b)

/-! ### Hashes -/

/-- Refuses to hash an object. -/
def unhashable {α : Type} (r : Ref) : Exec α := do
  typeError ("unhashable type: '" ++ (← typeNameOf r) ++ "'")

/-- Combines hashes in order. -/
def combineHashes (hs : List Int) : Int :=
  hs.foldl (fun h x => (h * 1000003 + x) % Num.hashPrime) 3430008

/-- The hash of an object by its data. -/
def hashData (r : Ref) (d : Data) : Exec Int := do
  match d with
  | .str t => return textHash t
  | .bytes bs => return combineHashes (bs.map fun b => (b.toNat : Int))
  | .tuple items => return combineHashes (← items.mapM Ops.hash)
  | .set t =>
    if ← isKind r .frozenset then
      return (t.entries.foldl (fun h e => (h + e.hash * e.hash) % Num.hashPrime) 1927868237)
    else unhashable r
  | .range a b s =>
    let n := rangeLength a b s
    return combineHashes [n, if n == 0 then 0 else a, if n ≤ 1 then 0 else s]
  | .list _ | .dict _ | .defaultDict _ _ | .bytearray _ | .deque _ _ | .slice _ _ _
  | .proxy _ | .view _ .keys | .view _ .items => unhashable r
  | .method f x => return combineHashes [f.id, x.id]
  | .bound _ n x => return combineHashes [textHash (Text.ofString n), x.id]
  | .weakReference x => Ops.hash x
  | .memory of w => do
    let bs ← windowBytes r of w
    if !w.readOnly then valueError "cannot hash writable memoryview object"
    if !isByteFormat w.letter then
      valueError "memoryview: hashing is restricted to formats 'B', 'b' or 'c'"
    discard <| Ops.hash of
    return combineHashes (bs.map fun b => (b.toNat : Int))
  | .plain => if ← isKind r .simpleNamespace then unhashable r else return r.id
  | .union ms => return ms.foldl (fun h m => h + m.id) 17
  | .alias o as => return combineHashes (o.id :: as.map fun a => (a.id : Int))
  | d =>
    match d.num? with
    | some n => return n.hash
    | none => return r.id

/-- The hash of an object. -/
def hashObject (r : Ref) : Exec Int := do
  match ← userSpecial? r "__hash__" with
  | some f =>
    if isNone f then unhashable r
    else
      let v ← callValue f r []
      match ← int? v with
      | some n => return Num.reduceHash n
      | none => typeError "__hash__ method should return an integer"
  | none => hashData r (← dataOf r)

end

end GuestBridge.Guest
