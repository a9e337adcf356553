import GuestBridge.Guest.Lookup
import GuestBridge.Guest.SetTable

/-!
# Hash tables

Dictionaries keep their entries in the order of insertion, sets in the order of their slots. An
entry is found by the hash of its key and then by identity or equality; equality may run code of a
script. Strings used as names are found without that.
-/

namespace GuestBridge.Guest

/-- The entries of a dictionary or set. -/
def Data.entries? : Data → Option (List Entry)
  | .dict es | .defaultDict es _ => some es
  | .set t => some t.entries
  | _ => none

/-- The same data with other entries. -/
def Data.withEntries (es : List Entry) : Data → Data
  | .set _ => .set (.ofList es)
  | .defaultDict _ f => .defaultDict es f
  | _ => .dict es

/-- The entries of a dictionary or set object. -/
def entriesOf (r : Ref) : Exec (List Entry) := do
  return ((← dataOf r).entries?).getD []

/-- Replaces the entries of a dictionary or set object. -/
def setEntries (r : Ref) (es : List Entry) : Exec Unit := do
  setData r ((← dataOf r).withEntries es)

/-- Adds an entry with a new key: after all others of a dictionary, or in its slot of a set. -/
def appendEntry (r : Ref) (hash : Int) (key value : Ref) : Exec Unit := do
  match ← dataOf r with
  | .set t => setData r (.set (t.add ⟨hash, key, value, 0⟩))
  | _ =>
    let place := (← get).nextPlace
    modify fun m => { m with nextPlace := place + 1 }
    setEntries r ((← entriesOf r) ++ [⟨hash, key, value, place⟩])

/-- Takes the entry of a key out of a table. -/
def dropEntry (r key : Ref) : Exec Unit := do
  match ← dataOf r with
  | .set t => setData r (.set (t.discard key))
  | _ => setEntries r ((← entriesOf r).filter fun e => e.key != key)

/-- Whether an object has the data of a dictionary. -/
def isDict (r : Ref) : Exec Bool := do
  match ← dataOf r with
  | .dict _ | .defaultDict _ _ => return true
  | _ => return false

/-- Whether an object has the data of a set. -/
def isSet (r : Ref) : Exec Bool := do
  match ← dataOf r with
  | .set _ => return true
  | _ => return false

/-! ### Names as keys -/

/-- The hash of a string. -/
def textHash (t : Text) : Int := t.hash

/-- The first entry whose key is the given string. -/
def findText (t : Text) (h : Int) : List Entry → Exec (Option Entry)
  | [] => return none
  | e :: es => do
    if e.hash == h then
      match ← dataOf e.key with
      | .str u => if t == u then return some e else findText t h es
      | _ => findText t h es
    else findText t h es

/-- The value of a name in a dictionary. -/
def getName (dict : Ref) (id : String) : Exec (Option Ref) := do
  let t := Text.ofString id
  return (← findText t (textHash t) (← entriesOf dict)).map (·.value)

/-- Gives a name a value in a dictionary. -/
def putName (dict : Ref) (id : String) (v : Ref) : Exec Unit := do
  let t := Text.ofString id
  let h := textHash t
  let es ← entriesOf dict
  match ← findText t h es with
  | some e =>
    setEntries dict (es.map fun e' => if e'.key == e.key then { e' with value := v } else e')
  | none => appendEntry dict h (← intern t) v

/-- Takes a name out of a dictionary and says whether it was there. -/
def removeName (dict : Ref) (id : String) : Exec Bool := do
  let t := Text.ofString id
  let es ← entriesOf dict
  match ← findText t (textHash t) es with
  | some e =>
    dropEntry dict e.key
    return true
  | none => return false

/-- A new dictionary with names as keys. -/
def newNameDict (names : List (String × Ref)) : Exec Ref := do
  let d ← newDict
  for (id, v) in names do putName d id v
  return d

/-- The entries of a dictionary whose keys are names. -/
def namesOf (dict : Ref) : Exec (List (String × Ref)) := do
  (← entriesOf dict).filterMapM fun e => do
    return (← text? e.key).map fun t => (t.lossy, e.value)

/-! ### Attributes of an object's own -/

/-- The attributes that an object has of its own. -/
def ownAttrs (r : Ref) : Exec (List (String × Ref)) := do
  let o ← object r
  match o.dict with
  | some d => namesOf d
  | none => return o.attrs

/-- The value of an attribute that an object has of its own. -/
def ownAttr? (r : Ref) (id : String) : Exec (Option Ref) := do
  let o ← object r
  match o.dict with
  | some d => getName d id
  | none => return o.attrs.lookup id

/-- A list of named values in which a name has the given value. -/
def withName (id : String) (v : Ref) (names : List (String × Ref)) : List (String × Ref) :=
  if (names.lookup id).isSome then names.map fun (n, w) => if n == id then (n, v) else (n, w)
  else names ++ [(id, v)]

/-- Gives an object an attribute of its own. -/
def putAttr (r : Ref) (id : String) (v : Ref) : Exec Unit := do
  let o ← object r
  match o.dict with
  | some d => putName d id v
  | none => setObject r { o with attrs := withName id v o.attrs }

/-- Takes an attribute of its own from an object and says whether it was there. -/
def dropAttr (r : Ref) (id : String) : Exec Bool := do
  let o ← object r
  match o.dict with
  | some d => removeName d id
  | none =>
    if (o.attrs.lookup id).isSome then
      setObject r { o with attrs := o.attrs.filter (·.1 != id) }
      return true
    else return false

/-- The dictionary of an object's own attributes, which from now on holds them. -/
def attrDict (r : Ref) : Exec Ref := do
  let o ← object r
  match o.dict with
  | some d => return d
  | none =>
    let d ← newNameDict o.attrs
    setObject r { (← object r) with attrs := [], dict := some d }
    return d

/-- Gives an object other attributes of its own. -/
def setAttrDict (r d : Ref) : Exec Unit := do
  setObject r { (← object r) with attrs := [], dict := some d }

/-- The value in a place of its own that an object has for an attribute. -/
def slot? (r : Ref) (id : String) : Exec (Option Ref) := do
  return (← object r).slots.lookup id

/-- Sets a value in a place of its own. -/
def putSlot (r : Ref) (id : String) (v : Ref) : Exec Unit := do
  let o ← object r
  setObject r { o with slots := withName id v o.slots }

/-- Empties a place of its own and says whether it held a value. -/
def dropSlot (r : Ref) (id : String) : Exec Bool := do
  let o ← object r
  setObject r { o with slots := o.slots.filter (·.1 != id) }
  return (o.slots.lookup id).isSome

/-! ### Arbitrary keys -/

section
variable [Ops]

/-- The first entry with the given key: the same object, or an equal one. -/
def findEntry (key : Ref) (h : Int) : List Entry → Exec (Option Entry)
  | [] => return none
  | e :: es => do
    if e.hash == h then
      if e.key == key then return some e
      else if ← Ops.equal e.key key then return some e
      else findEntry key h es
    else findEntry key h es

/-- The value of a key in a table. -/
def getKey (table key : Ref) : Exec (Option Ref) := do
  let h ← Ops.hash key
  return (← findEntry key h (← entriesOf table)).map (·.value)

/-- Gives a key a value; a key that is there keeps its object and place. -/
def putKey (table key v : Ref) : Exec Unit := do
  let h ← Ops.hash key
  match ← findEntry key h (← entriesOf table) with
  | some e =>
    unless ← isSet table do
      let es ← entriesOf table
      setEntries table (es.map fun e' => if e'.key == e.key then { e' with value := v } else e')
  | none => appendEntry table h key v

/-- Takes a key out of a table and gives its value. -/
def removeKey (table key : Ref) : Exec (Option Ref) := do
  let h ← Ops.hash key
  match ← findEntry key h (← entriesOf table) with
  | some e =>
    dropEntry table e.key
    return some e.value
  | none => return none

/-- Puts all entries of a table into another. -/
def putEntries (table : Ref) : List Entry → Exec Unit
  | [] => return ()
  | e :: es => do
    putKey table e.key e.value
    putEntries table es

end

end GuestBridge.Guest
