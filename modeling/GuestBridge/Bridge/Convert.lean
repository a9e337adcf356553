import GuestBridge.Bridge.Boundary
import GuestBridge.Bridge.HostType
import GuestBridge.Guest.Heap
import GuestBridge.Number.Binary

/-!
# Conversion of values

From a host value to an object of the guest and back. Sending builds new objects and can only fail
where a key of a map cannot be hashed. Reading gives nothing if the object does not have the type or
does not fit; composite values are read part by part, and if one part does not fit, handles that
earlier parts took are released again.

A truth value is an integer to the guest; the integer types of the host do not read it.
-/

namespace GuestBridge.Bridge

open Guest (Ref Raised noneRef boolRef)

variable {σ : Type} [GuestState σ]

/-! ### Sending -/

/-- The 64-bit pattern of a 32-bit pattern. -/
def widen (bits : UInt32) : Nat := Number.convert Number.binary32 Number.binary64 bits.toNat

/-- Sends the elements of a list in order. -/
def sendAll {α : Type} (send : α → Crossing σ Ref) : List α → Crossing σ (List Ref)
  | [] => return []
  | x :: xs => do
    let r ← send x
    return r :: (← sendAll send xs)

/-- Puts entries into a dictionary in order: key and value of an entry are sent, then stored. -/
def sendEntries {α β : Type} (sendKey : α → Crossing σ Ref) (sendValue : β → Crossing σ Ref)
    (dict : Ref) : List (α × β) → Crossing σ Unit
  | [] => return ()
  | (x, y) :: es => do
    let k ← sendKey x
    let v ← sendValue y
    request (.setItem dict k v)
    sendEntries sendKey sendValue dict es

/-- The object of a host value. -/
def send (cx : Context) : (t : HostType) → t.Value → Crossing σ Ref
  | .unit, _ => return noneRef
  | .bool, b => return boolRef b
  | .int _, n => request (.newInt n.val)
  | .bigInt, n => request (.newInt n)
  | .float32, bits => request (.newFloat (widen bits))
  | .float64, bits => request (.newFloat (UInt64.toNat bits))
  | .string, s => request (.newStr s)
  | .char, c => request (.newStr (String.ofList [c]))
  | .bytes, bs => request (.newBytes bs)
  | .option t, v => match v with
    | some x => send cx t x
    | none => return noneRef
  | .list t, xs => do request (.newList (← sendAll (send cx t) xs))
  | .pair a b, (x, y) => do
    let r ← send cx a x
    let s ← send cx b y
    request (.newTuple [r, s])
  | .triple a b c, (x, y, z) => do
    let r ← send cx a x
    let s ← send cx b y
    let u ← send cx c z
    request (.newTuple [r, s, u])
  | .map _ k v, es => do
    let d ← request (.newDict [])
    sendEntries (send cx k) (send cx v) d es
    return d
  | .range, (a, b) => do
    let start ← request (.newInt a.val)
    let stop ← request (.newInt b.val)
    let step ← request (.newInt 1)
    request (.newSlice start stop step)
  | .handle, h => h.bind cx

/-- The object of a host value. -/
def HostValue.send (cx : Context) (v : HostValue) : Crossing σ Ref :=
  Bridge.send cx v.type v.value

/-- A handle on the object of a host value. -/
def toForeign (cx : Context) (v : HostValue) : Boundary σ Handle := do
  let r ← (v.send cx).orError cx .convert
  always (acquire cx r)

/-! ### Reading numbers -/

/-- What the data of an object are to the host; nothing if that cannot be found out. -/
def shapeOf (r : Ref) : StateM (World σ) Shape := askOr (.shape r) id .other

/-- An integer as a value of an integer type. -/
def fitting (k : IntType) (n : Int) : Option (HostType.int k).Value :=
  if h : k.Contains n then some ⟨n, h⟩ else none

/-- Reads an integer as a 64-bit pattern: only if the nearest pattern equals the integer. -/
def readExact (r : Ref) : StateM (World σ) (Option Nat) := do
  match ← ask? (.toFloat r) with
  | .error _ => return none
  | .ok bits =>
    match ← ask? (.newFloat bits) with
    | .error _ => return none
    | .ok f =>
      match ← ask? (.equal r f) with
      | .ok true => return some bits
      | _ => return none

/-- Reads a 64-bit pattern. -/
def readFloat64 (r : Ref) : StateM (World σ) (Option Nat) := do
  match ← shapeOf r with
  | .float bits => return some bits
  | .int _ => readExact r
  | _ => return none

/-- The 32-bit pattern nearest to a 64-bit pattern; nothing past the largest finite number. An
integer has to keep its value. -/
def narrow? (isInteger : Bool) (bits : Nat) : Option UInt32 :=
  let f := Number.binary64
  let g := Number.binary32
  let largest := Number.convert g f (g.infinity - 1)
  if f.isFinite bits && bits % f.signBit > largest then none
  else
    let narrowed := Number.convert f g bits
    if isInteger && Number.convert g f narrowed != bits then none
    else some (UInt32.ofNat narrowed)

/-- Reads a 32-bit pattern. -/
def readFloat32 (r : Ref) : StateM (World σ) (Option UInt32) := do
  match ← readFloat64 r with
  | none => return none
  | some bits =>
    match ← shapeOf r with
    | .int _ => return narrow? true bits
    | _ => return narrow? false bits

/-- Reads a position: the integer that an object stands for. -/
def readPosition (r : Ref) : StateM (World σ) (Option (HostType.int .isize).Value) :=
  askOr (.toIndex r) (fitting .isize) none

/-- Whether a slice with a step goes in steps of one. -/
def isSingle (step : Ref) : StateM (World σ) Bool := do
  if step == noneRef then return true
  else return ((← readPosition step).map (·.val)) == some 1

/-- Reads the start of a slice; a missing one is zero. -/
def readStart (start : Ref) : StateM (World σ) (Option (HostType.int .isize).Value) := do
  if start == noneRef then return fitting .isize 0 else readPosition start

/-- Reads the bounds of a range: of a slice that goes in steps of one, where a missing start is
zero, or of a range that does. -/
def readRange (r : Ref) : StateM (World σ) (Option HostType.range.Value) := do
  match ← shapeOf r with
  | .range start stop step =>
    match step == 1, fitting .isize start, fitting .isize stop with
    | true, some a, some b => return some (a, b)
    | _, _, _ => return none
  | .slice start stop step =>
    if ← isSingle step then
      match ← readStart start with
      | none => return none
      | some a => return (← readPosition stop).map fun b => (a, b)
    else return none
  | _ => return none

/-! ### Reading -/

/-- Computations that read an object. They fail if the object does not have the type or does not
fit, and panic if it changes while it is read. -/
abbrev Reading (σ : Type) := ExceptT (Stop Unit) (StateM (World σ))

/-- The object does not fit. -/
def unfit {α : Type} : Reading σ α := throw (.failed ())

/-- What was read, if there is something. -/
def fits {α : Type} (x : StateM (World σ) (Option α)) : Reading σ α := do
  match ← always x with
  | some x => return x
  | none => unfit

/-- Reads something; if that fails, what was read before is discarded. -/
def discarding {α : Type} (discard : StateM (World σ) Unit) (x : Reading σ α) : Reading σ α :=
  tryCatch x fun e => do
    always discard
    throw e

/-- Releases the handles in a value that was read. -/
def discardValue (cx : Context) (t : HostType) (v : t.Value) : StateM (World σ) Unit := fun w =>
  ((), w.releaseAll (.owner cx.session) (t.handles v))

/-- Reads objects in order; if one does not fit, what was read is discarded. -/
def readAll {α : Type} (read : Ref → Reading σ α) (discard : α → StateM (World σ) Unit) :
    List Ref → Reading σ (List α)
  | [] => return []
  | r :: rs => do
    let x ← read r
    let xs ← discarding (discard x) (readAll read discard rs)
    return x :: xs

/-- The entries of a dictionary as they are now. -/
def entriesNow (dict : Ref) : StateM (World σ) (List (Nat × Ref × Ref)) := do
  match ← shapeOf dict with
  | .dict es => return es
  | _ => return []

/-- Reads the entries of a dictionary in order, each key before its value. `size` is the number of
entries at the start, `last` the place of the last entry read. Reading may change the dictionary: a
change of its size ends the job, and so does an entry too many, which `left` counts down to. -/
def readEntries {α β : Type} (readKey : Ref → Reading σ α) (readValue : Ref → Reading σ β)
    (discardKey : α → StateM (World σ) Unit) (discardVal : β → StateM (World σ) Unit) (dict : Ref)
    (size : Nat) : (left : Nat) → (last : Option Nat) → Reading σ (List (α × β))
  | left, last => do
    let es ← always (entriesNow dict)
    if es.length != size then panicWith "dictionary changed size during iteration"
    else match left with
      | 0 => panicWith "dictionary keys changed during iteration"
      | left + 1 =>
        match es.find? fun (place, _) => last.all (· < place) with
        | none => return []
        | some (place, k, v) =>
          let x ← readKey k
          let y ← discarding (discardKey x) (readValue v)
          let discardBoth : StateM (World σ) Unit := do
            discardKey x
            discardVal y
          let rest ← discarding discardBoth
            (readEntries readKey readValue discardKey discardVal dict size left (some place))
          return (x, y) :: rest

/-- Collects the entries of a map; values whose key occurs again are discarded. -/
def collectRead (cx : Context) (kind : MapKind) (k v : HostType) (es : List (k.Value × v.Value)) :
    StateM (World σ) (HostType.map kind k v).Value := do
  let kept := HostType.collectEntries kind k es
  let all := (HostType.map kind k v).handles es
  let left := (HostType.map kind k v).handles kept
  fun w => (kept, w.releaseAll (.owner cx.session) (left.foldl List.erase all))

/-- Reads an object as a value of a host type. -/
def receive (cx : Context) : (t : HostType) → Ref → Reading σ t.Value
  | .unit, r => if r == noneRef then return () else unfit
  | .bool, r => do
    match ← always (shapeOf r) with
    | .bool b => return b
    | _ => unfit
  | .int k, r => do
    match ← always (shapeOf r) with
    | .int n => fits (pure (fitting k n))
    | _ => unfit
  | .bigInt, r => do
    match ← always (shapeOf r) with
    | .int n => return n
    | _ => unfit
  | .float32, r => fits (readFloat32 r)
  | .float64, r => fits do return (← readFloat64 r).map UInt64.ofNat
  | .string, r => do
    match ← always (shapeOf r) with
    | .text t => fits (pure t.toString?)
    | _ => unfit
  | .char, r => do
    match ← always (shapeOf r) with
    | .text t =>
      match t.toString?.map String.toList with
      | some [c] => return c
      | _ => unfit
    | _ => unfit
  | .bytes, r => do
    match ← always (shapeOf r) with
    | .bytes bs => return bs
    | _ => unfit
  | .option t, r => do
    if r == noneRef then return none
    else return some (← receive cx t r)
  | .list t, r => do
    match ← always (shapeOf r) with
    | .sequence items => readAll (receive cx t) (discardValue cx t) items
    | _ => unfit
  | .pair a b, r => do
    match ← always (shapeOf r) with
    | .sequence [x, y] =>
      let u ← receive cx a x
      let v ← discarding (discardValue cx a u) (receive cx b y)
      return (u, v)
    | _ => unfit
  | .triple a b c, r => do
    match ← always (shapeOf r) with
    | .sequence [x, y, z] =>
      let u ← receive cx a x
      let (v, w) ← discarding (discardValue cx a u) do
        let v ← receive cx b y
        let w ← discarding (discardValue cx b v) (receive cx c z)
        return (v, w)
      return (u, v, w)
    | _ => unfit
  | .map kind k v, r => do
    match ← always (shapeOf r) with
    | .dict es =>
      let size := es.length
      let read ← readEntries (receive cx k) (receive cx v) (discardValue cx k) (discardValue cx v) r
        size (size + 1) none
      always (collectRead cx kind k v read)
    | _ => unfit
  | .range, r => fits (readRange r)
  | .handle, r => always (acquire cx r)

/-- Reads the object of a handle as a value of a host type; `none` if it does not fit. -/
def Handle.extract {ε : Type} (h : Handle) (cx : Context) (t : HostType) :
    ExceptT (Stop ε) (StateM (World σ)) (Option t.Value) := do
  let r ← h.bind cx
  match ← always (receive cx t r).run with
  | .ok v => return some v
  | .error (.failed ()) => return none
  | .error (.panicked message) => panicWith message

end GuestBridge.Bridge
