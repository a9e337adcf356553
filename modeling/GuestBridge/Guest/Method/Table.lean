import GuestBridge.Guest.Arguments

/-!
# Methods of dictionaries and sets

Dictionaries, ordered ones and those with a default, the views of them, and sets.
-/

namespace GuestBridge.Guest

/-- How many arguments the methods of dictionaries and sets take. -/
def tableArity (k : Kind) (id : String) : Arity :=
  match k, id with
  | .orderedDict, "move_to_end" | .orderedDict, "popitem" | .orderedDict, "pop"
  | .orderedDict, "setdefault" | .orderedDict, "update" | .dict, "update" => .any
  | .dict, "get" | .dict, "pop" | .dict, "setdefault" | .mappingProxy, "get" => .between 1 2
  | .set, "pop" => .none
  | _, "add" | _, "discard" | _, "remove" | _, "isdisjoint" | _, "issubset" | _, "issuperset"
  | _, "symmetric_difference" | _, "symmetric_difference_update" | _, "__missing__" => .one
  | _, "union" | _, "update" | _, "intersection" | _, "intersection_update" | _, "difference"
  | _, "difference_update" => .between 0 1000000
  | _, _ => .none

section
variable [Ops]

/-! ### Dictionaries -/

/-- A new view of a part of a dictionary. -/
def newView (dict : Ref) (part : DictPart) : Exec Ref := do
  let k : Kind := match ← isKind dict .orderedDict, part with
    | false, .keys => .dictKeys
    | false, .values => .dictValues
    | false, .items => .dictItems
    | true, .keys => .orderedKeys
    | true, .values => .orderedValues
    | true, .items => .orderedItems
  alloc (.of k (.view dict part))

/-- Takes the entry of a key out of a dictionary, or gives a value for a missing one. -/
def popKey (r k : Ref) (usual : Option Ref) : Exec Ref := do
  match ← removeKey r k with
  | some v => return v
  | none =>
    match usual with
    | some v => return v
    | none => missingKey k

/-- The value of a key, which is put in if it is missing. -/
def setDefault (r k v : Ref) : Exec Ref := do
  match ← getKey r k with
  | some w => return w
  | none =>
    putKey r k v
    return v

/-- Takes the last entry out of a dictionary, or the first one. -/
def popEntry (r : Ref) (first : Bool) : Exec (Option Ref) := do
  let es ← entriesOf r
  match if first then es.head? else es.getLast? with
  | some e =>
    dropEntry r e.key
    some <$> newTuple [e.key, e.value]
  | none => return none

/-- Whether a dictionary keeps its order as something of its own; the methods that do so. -/
def orderedMethod? (r : Ref) (id : String) (a : Args) : Exec (Option Ref) := do
  let flag (v : Option Ref) : Exec Bool := do
    match v with
    | some v => isTrue v
    | none => return true
  match id with
  | "popitem" =>
    let vs ← bindNamed id (.optional ["last"]) a
    let last ← flag (parameter? vs 0)
    match ← popEntry r !last with
    | some e => return some e
    | none => raiseError .keyError "dictionary is empty"
  | "pop" =>
    let vs ← bindNamed id (.requiring 1 ["key", "default"]) a
    some <$> popKey r (orNone (parameter? vs 0)) (parameter? vs 1)
  | "setdefault" =>
    let vs ← bindNamed id (.requiring 1 ["key", "default"]) a
    some <$> setDefault r (orNone (parameter? vs 0)) (orNone (parameter? vs 1))
  | "move_to_end" =>
    let vs ← bindNamed id (.requiring 1 ["key", "last"]) a
    let k := orNone (parameter? vs 0)
    let last ← flag (parameter? vs 1)
    match ← findEntry k (← Ops.hash k) (← entriesOf r) with
    | some e =>
      let es ← entriesOf r
      let rest := es.filter fun e' => e'.key != e.key
      if (if last then es.getLast? else es.head?).map (·.key) != some e.key then
        setEntries r (if last then rest ++ [e] else e :: rest)
      return some noneRef
    | none => missingKey k
  | "update" =>
    if a.positional.length > 1 then
      typeError ("update() takes at most 1 positional argument (" ++
        toString a.positional.length ++ " given)")
    takeOrderedArgs r a
    return some noneRef
  | "copy" | "__copy__" =>
    let cls ← classOf r
    let out ← Ops.call cls.ref (.of [])
    for e in ← entriesOf r do setItem out e.key (← getItem r e.key)
    return some out
  | _ => return none

/-- A method of dictionaries. -/
def dictMethod (r : Ref) (id : String) (a : Args) : Exec Ref := do
  let k := a.at 0
  match id with
  | "keys" => newView r .keys
  | "values" => newView r .values
  | "items" => newView r .items
  | "get" => return (← getKey r k).getD (a.at 1)
  | "pop" => popKey r k (a.at? 1)
  | "setdefault" => setDefault r k (a.at 1)
  | "popitem" =>
    match ← popEntry r false with
    | some e => return e
    | none => raiseError .keyError "popitem(): dictionary is empty"
  | "update" =>
    updateDict r "update" a
    return noneRef
  | "clear" =>
    setEntries r []
    return noneRef
  | "copy" | "__copy__" =>
    match ← dataOf r with
    | .defaultDict _ factory => Ops.call (← classOf r).ref (.of [factory, r])
    | _ => copiedDict r
  | "__reversed__" => newBackwardDictCursor r .keys
  | "__missing__" => suppliedValue r k
  | "__sizeof__" => newInt (64 + 100 * (← entriesOf r).length)
  | _ => raiseError .notImplementedError id

/-- A method of read-only views of dictionaries. -/
def proxyMethod (of : Ref) (id : String) (a : Args) : Exec Ref := do
  match id with
  | "get" | "keys" | "values" | "items" | "copy" | "__reversed__" => dictMethod of id a
  | _ => raiseError .notImplementedError id

/-! ### Sets -/

/-- Combines a table with those of several iterables. -/
def combineTables (op : SetTable → SetTable → Exec SetTable) (t : SetTable) :
    List Ref → Exec SetTable
  | [] => return t
  | r :: rs => do combineTables op (← op t (← tableOf r)) rs

/-- Adds the elements of an iterable to a table. -/
def uniteElements (t : SetTable) (r : Ref) : Exec SetTable := do
  match ← dataOf r with
  | .set u => t.unite u
  | _ =>
    let out ← alloc (.of .set (.set t))
    let room ← if (← classOf r) == .builtin .dict then pure (← entriesOf r).length else pure 0
    if room > 0 then setData out (.set (t.reserve room))
    for x in ← elements r do putKey out x noneRef
    match ← dataOf out with
    | .set u => return u
    | _ => return t

/-- Adds the elements of several iterables to a table. -/
def uniteAll (t : SetTable) : List Ref → Exec SetTable
  | [] => return t
  | r :: rs => do uniteAll (← uniteElements t r) rs

/-- A method of sets that makes a new set or asks a question. -/
def setQuestion (r : Ref) (t : SetTable) (id : String) (a : Args) : Exec Ref := do
  let x := a.at 0
  match id with
  | "copy" =>
    if (← classOf r) == .builtin .frozenset then return r else newSetLike r t.copy
  | "union" => newSetLike r (← uniteAll t.copy a.positional)
  | "intersection" =>
    if a.positional.isEmpty then newSetLike r t.copy
    else newSetLike r (← combineTables SetTable.meet t a.positional)
  | "difference" =>
    if a.positional.isEmpty then newSetLike r t.copy
    else newSetLike r (← combineTables SetTable.minus t a.positional)
  | "symmetric_difference" => do newSetLike r (← t.difference (← tableOf x))
  | "issubset" => do return boolRef (← keysWithin t.entries (← tableOf x).entries)
  | "issuperset" => do return boolRef (← keysWithin (← tableOf x).entries t.entries)
  | "isdisjoint" => do return boolRef (← t.filterEntries true (← tableOf x).entries).isEmpty
  | _ => raiseError .notImplementedError id

/-- A method of sets. -/
def setMethod (r : Ref) (t : SetTable) (id : String) (a : Args) : Exec Ref := do
  let x := a.at 0
  let changed (u : SetTable) : Exec Ref := do
    setData r (.set u)
    return noneRef
  match id with
  | "add" =>
    putKey r x noneRef
    return noneRef
  | "remove" =>
    match ← removeKey r (← setKey x) with
    | some _ => return noneRef
    | none => missingKey x
  | "discard" =>
    discard <| removeKey r (← setKey x)
    return noneRef
  | "pop" =>
    match t.pop? with
    | some (e, u) =>
      setData r (.set u)
      return e.key
    | none => raiseError .keyError "pop from an empty set"
  | "clear" => changed .empty
  | "update" => do changed (← uniteAll t a.positional)
  | "intersection_update" => do
    changed (← if a.positional.isEmpty then pure t else combineTables SetTable.meet t a.positional)
  | "difference_update" => do
    changed (← combineTables (fun t u => return (← t.discardEach u.entries).tidy) t a.positional)
  | "symmetric_difference_update" => do changed (← t.exchangeEach (← tableOf x).entries)
  | _ => setQuestion r t id a

/-- A method of views of dictionaries. -/
def viewMethod (of : Ref) (part : DictPart) (id : String) (a : Args) : Exec Ref := do
  match id with
  | "isdisjoint" =>
    let t ← tableOf (← newView of part)
    return boolRef (← t.filterEntries true (← tableOf (a.at 0)).entries).isEmpty
  | "__reversed__" => newBackwardDictCursor of part
  | _ => raiseError .notImplementedError id

end

end GuestBridge.Guest
