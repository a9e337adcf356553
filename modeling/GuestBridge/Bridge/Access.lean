import GuestBridge.Bridge.Convert

/-!
# Questions, attributes, calls and items

What can be done with the object behind a handle. Each operation checks the handle, converts the
host's values, performs one step of the guest and wraps what comes back in a new handle.
-/

namespace GuestBridge.Bridge

open Guest (Ref Raised)

variable {σ : Type} [GuestState σ]

namespace Handle

/-! ### Questions -/

/-- The qualified name of the object's type, and the handle with that name kept. -/
def typeName {ε : Type} (h : Handle) (cx : Context) :
    ExceptT (Stop ε) (StateM (World σ)) (String × Handle) := do
  match h.typeTag with
  | some t =>
    return (t, h)
  | none =>
    let r ← h.bind cx
    let name ← always (askOr (.typeName r) id "<unknown>")
    return (name, { h with typeTag := some name })

/-- Whether the object is the guest's `None`. -/
def isNone {ε : Type} (h : Handle) (cx : Context) : ExceptT (Stop ε) (StateM (World σ)) Bool := do
  return (← h.bind cx) == Guest.noneRef

/-- The number of references to the object. Only the difference of two such numbers says
something. -/
def retention {ε : Type} (h : Handle) (cx : Context) : ExceptT (Stop ε) (StateM (World σ)) Nat := do
  let r ← h.bind cx
  always (askOr (.references r) id 0)

/-- The truth value of the object. -/
def isTruthy (h : Handle) (cx : Context) : Boundary σ Bool := do
  perform cx .convert (.truth (← h.bind cx))

/-- The text that shows the object. -/
def repr (h : Handle) (cx : Context) : Boundary σ String := do
  return (← perform cx .convert (.repr (← h.bind cx))).lossy

/-- The text that the object prints as. -/
def str (h : Handle) (cx : Context) : Boundary σ String := do
  return (← perform cx .convert (.str (← h.bind cx))).lossy

/-- Whether the object belongs to a class. -/
def isInstance (h : Handle) (cx : Context) (cls : Handle) : Boundary σ Bool := do
  let r ← h.bind cx
  perform cx .convert (.isInstance r (← cls.bind cx))

/-! ### Attributes -/

/-- The value of an attribute. -/
def member (h : Handle) (cx : Context) (name : String) : Boundary σ Handle := do
  let v ← perform cx .member (.getAttr (← h.bind cx) name)
  always (acquire cx v)

/-- Whether an object has an attribute: only the exception for a missing one says no. -/
def hasAttr (cx : Context) (site : Site) (r : Ref) (name : String) : Boundary σ Bool := do
  match ← always (ask? (.getAttr r name)) with
  | .ok _ => return true
  | .error e =>
    if ← always (isRaised e .attributeError) then return false else failWith cx site e

/-- Whether the object has an attribute. -/
def hasMember (h : Handle) (cx : Context) (name : String) : Boundary σ Bool := do
  hasAttr cx .member (← h.bind cx) name

/-- Sets an attribute. -/
def setMember (h : Handle) (cx : Context) (name : String) (v : HostValue) : Boundary σ Unit := do
  let new ← (v.send cx).orError cx .convert
  perform cx .member (.setAttr (← h.bind cx) name new)

/-! ### Calls -/

/-- Keyword arguments, sent in order: those whose name occurs for the first time, and the repeats,
of which there is none or a dictionary. -/
structure Keywords where
  first : List (String × Ref)
  repeated : List (String × Ref)

/-- Gives a name a value; a name that is there keeps its place. -/
def putNamed (es : List (String × Ref)) (name : String) (v : Ref) : List (String × Ref) :=
  HostType.addEntry (· == ·) name v es

/-- Sends keyword arguments. -/
def sendKeywords (cx : Context) : List (String × HostValue) → Keywords → Crossing σ Keywords
  | [], ks => return ks
  | (name, v) :: rest, ks => do
    let r ← v.send cx
    if (ks.first.lookup name).isSome then
      sendKeywords cx rest { ks with repeated := putNamed ks.repeated name r }
    else sendKeywords cx rest { ks with first := ks.first ++ [(name, r)] }

/-- Calls an object. Keyword names that occur more than once are passed on as they are, by way of a
function of the guest, so that the guest reports them. -/
def invoke (cx : Context) (callee : Ref) (args : List HostValue)
    (keywords : List (String × HostValue)) : Boundary σ Handle := do
  let positional ← (sendAll (HostValue.send cx) args).orError cx .convert
  let ks ← (sendKeywords cx keywords ⟨[], []⟩).orError cx .convert
  let call : Crossing σ Ref := do
    if ks.repeated.isEmpty then request (.call callee positional ks.first)
    else
      let runtime := ((← get).session cx.session).runtime
      let passOn := (runtime.map (·.keywordCall)).getD Guest.noneRef
      let t ← request (.newTuple positional)
      let d ← request (.newDict ks.first)
      let extra ← request (.newDict ks.repeated)
      request (.call passOn [callee, t, d, extra] [])
  let v ← call.orError cx .call
  always (acquire cx v)

/-- Calls an object if it can be called. -/
def callObject (cx : Context) (callee : Ref) (args : List HostValue)
    (keywords : List (String × HostValue)) : Boundary σ Handle := do
  match ← always (ask? (.isCallable callee)) with
  | .ok true => invoke cx callee args keywords
  | _ => notCallable cx callee

/-- Calls the object. -/
def call (h : Handle) (cx : Context) (args : List HostValue)
    (keywords : List (String × HostValue)) : Boundary σ Handle := do
  callObject cx (← h.bind cx) args keywords

/-- Calls a method: the value of an attribute. -/
def callMethod (h : Handle) (cx : Context) (name : String) (args : List HostValue)
    (keywords : List (String × HostValue)) : Boundary σ Handle := do
  let method ← perform cx .member (.getAttr (← h.bind cx) name)
  callObject cx method args keywords

/-! ### Items -/

/-- The item of a key. -/
def subscript (h : Handle) (cx : Context) (key : HostValue) : Boundary σ Handle := do
  let container ← h.bind cx
  let k ← (key.send cx).orError cx .convert
  let v ← perform cx (.subscript container k) (.getItem container k)
  always (acquire cx v)

/-- Sets the item of a key. -/
def setSubscript (h : Handle) (cx : Context) (key new : HostValue) : Boundary σ Unit := do
  let container ← h.bind cx
  let k ← (key.send cx).orError cx .convert
  let v ← (new.send cx).orError cx .convert
  perform cx (.subscript container k) (.setItem container k v)

/-- Deletes the item of a key. -/
def deleteSubscript (h : Handle) (cx : Context) (key : HostValue) : Boundary σ Unit := do
  let container ← h.bind cx
  let k ← (key.send cx).orError cx .convert
  perform cx (.subscript container k) (.deleteItem container k)

/-! ### Length -/

/-- The number of elements, or nothing if the object's type has no length. -/
def length (h : Handle) (cx : Context) : Boundary σ (Option Nat) := do
  let r ← h.bind cx
  let type ← perform cx .length (.typeOf r)
  if ← hasAttr cx .length type "__len__" then
    some <$> perform cx .length (.length r)
  else return none

end Handle

end GuestBridge.Bridge
