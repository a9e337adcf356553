import GuestBridge.Guest.Item

/-!
# Filling dictionaries

A dictionary takes entries over from another dictionary, from an object that says its keys, and from
pairs. What a dictionary holds is read directly unless its class says how to go through it. An
ordered dictionary is filled through its own way of setting an entry.
-/

namespace GuestBridge.Guest

section
variable [Ops]

/-- The key and value that an element of an iterable of pairs gives; `i` counts the elements. -/
def pairOf (p : Ref) (i : Nat) : Exec (Ref × Ref) := do
  let pair ← recover (elements p) .typeError fun _ =>
    typeError ("cannot convert dictionary update sequence element #" ++ toString i ++
      " to a sequence")
  match pair with
  | [k, v] => return (k, v)
  | _ =>
    valueError ("dictionary update sequence element #" ++ toString i ++ " has length " ++
      toString pair.length ++ "; 2 is required")

/-- The key and value that an element of an iterable of pairs gives to an ordered dictionary. -/
def orderedPairOf (p : Ref) : Exec (Ref × Ref) := do
  match ← elements p with
  | [k, v] => return (k, v)
  | [] => valueError "need more than 0 values to unpack"
  | [_] => valueError "need more than 1 value to unpack"
  | _ => valueError "too many values to unpack (expected 2)"

/-- Puts the pairs that an iterator gives into a dictionary; `i` counts them. -/
def putPairs (dict it : Ref) : (fuel i : Nat) → Exec Unit
  | 0, _ => return ()
  | fuel + 1, i => do
    match ← Ops.next it with
    | none => return ()
    | some p =>
      let (k, v) ← pairOf p i
      putKey dict k v
      putPairs dict it fuel (i + 1)

/-- Sets the pairs that an iterator gives in an ordered dictionary. -/
def setPairs (dict it : Ref) : (fuel : Nat) → Exec Unit
  | 0 => return ()
  | fuel + 1 => do
    match ← Ops.next it with
    | none => return ()
    | some p =>
      let (k, v) ← orderedPairOf p
      setItem dict k v
      setPairs dict it fuel

/-- The keys that a mapping says it has. -/
def keysOf (r : Ref) : Exec (List Ref) := do
  let listed ← Ops.call (← getAttr r "keys") (.of [])
  match ← iter? listed with
  | some _ => elements listed
  | none =>
    typeError ((← typeNameOf r) ++ ".keys() returned a non-iterable (type " ++
      (← typeNameOf listed) ++ ")")

/-- Whether a dictionary is read directly: its class does not say how to go through it. -/
def isPlainDict (r : Ref) : Exec Bool := do
  match ← dataOf r with
  | .dict _ | .defaultDict _ _ =>
    return !(← isKind r .orderedDict) && (← userSpecial? r "__iter__").isNone
  | _ => return false

/-- Takes the entries of a mapping over into a dictionary. -/
def mergeMapping (dict r : Ref) : Exec Unit := do
  if ← isPlainDict r then putEntries dict (← entriesOf r)
  else
    for k in ← keysOf r do
      putKey dict k (← getItem r k)

/-- Takes the entries of a mapping or of an iterable of pairs over into a dictionary. -/
def takeOver (dict r : Ref) : Exec Unit := do
  match ← getAttr? r "keys" with
  | some _ => mergeMapping dict r
  | none => do putPairs dict (← iter r) loopLimit 0

/-- Takes the entries of a mapping or of an iterable of pairs over into an ordered dictionary. -/
def takeOverOrdered (dict r : Ref) : Exec Unit := do
  if (← classOf r) == .builtin .dict then
    for e in ← entriesOf r do setItem dict e.key e.value
  else
    match ← getAttr? r "keys" with
    | some keys =>
      for k in ← elements (← Ops.call keys (.of [])) do
        setItem dict k (← getItem r k)
    | none =>
      match ← getAttr? r "items" with
      | some items => setPairs dict (← iter (← Ops.call items (.of []))) loopLimit
      | none => setPairs dict (← iter r) loopLimit

/-- Fills a dictionary from the arguments of its constructor or of `update`. -/
def updateDict (dict : Ref) (short : String) (a : Args) : Exec Unit := do
  if a.positional.length > 1 then
    typeError (short ++ " expected at most 1 argument, got " ++ toString a.positional.length)
  match a.positional.head? with
  | some r => takeOver dict r
  | none => pure ()
  for (t, v) in a.keywords do
    putKey dict (← intern t) v

/-- Fills an ordered dictionary from the arguments of its constructor or of `update`. -/
def takeOrderedArgs (dict : Ref) (a : Args) : Exec Unit := do
  match a.positional.head? with
  | some r => takeOverOrdered dict r
  | none => pure ()
  for (t, v) in a.keywords do
    setItem dict (← intern t) v

/-- A new plain dictionary with the entries of a dictionary. -/
def copiedDict (r : Ref) : Exec Ref := do
  let out ← newDict
  mergeMapping out r
  return out

/-- The union of two dictionaries: a special dictionary among them decides what it is. -/
def mergedDict (a b : Ref) : Exec Ref := do
  let special (r : Ref) : Exec Bool := do
    return (← isKind r .orderedDict) || (← isKind r .defaultDict)
  let model := if (← special a) || !(← special b) then a else b
  if ← isKind model .orderedDict then
    let out ← Ops.call (← classOf model).ref (.of [a])
    takeOverOrdered out b
    return out
  else
    let out ← match ← dataOf model with
      | .defaultDict _ factory => Ops.call (← classOf model).ref (.of [factory, a])
      | _ => copiedDict a
    mergeMapping out b
    return out

end

end GuestBridge.Guest
