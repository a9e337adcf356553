import GuestBridge.Bridge.Handle

/-!
# Host types

The types of the host whose values cross the boundary, and their values. Types nest freely; the
values of a type are given by recursion on it, so that an integer type holds only integers of its
range and a map only keys of its key type.

Maps are lists of entries in the order in which they are gone through. `MapKind.collect` says what
happens to keys that occur more than once: the entry keeps the place of the first and the value of
the last; sorted maps then go by the order of their keys.
-/

namespace GuestBridge.Bridge

open Guest (Ref)

/-- The integer types. -/
inductive IntType
  | i8 | i16 | i32 | i64 | isize | u8 | u16 | u32 | u64 | usize
  deriving DecidableEq, Repr, Inhabited

namespace IntType

/-- The number of bits. -/
def bits : IntType → Nat
  | i8 | u8 => 8
  | i16 | u16 => 16
  | i32 | u32 => 32
  | i64 | isize | u64 | usize => 64

/-- Whether negative integers belong to the type. -/
def isSigned : IntType → Bool
  | i8 | i16 | i32 | i64 | isize => true
  | u8 | u16 | u32 | u64 | usize => false

/-- The least integer of the type. -/
def least (k : IntType) : Int := if k.isSigned then -(Nat.pow 2 (k.bits - 1)) else 0

/-- The greatest integer of the type. -/
def greatest (k : IntType) : Int :=
  if k.isSigned then Nat.pow 2 (k.bits - 1) - 1 else Nat.pow 2 k.bits - 1

/-- Whether an integer belongs to the type. -/
def Contains (k : IntType) (n : Int) : Prop := k.least ≤ n ∧ n ≤ k.greatest

instance (k : IntType) (n : Int) : Decidable (k.Contains n) :=
  inferInstanceAs (Decidable (_ ∧ _))

end IntType

/-- How a map orders its entries. -/
inductive MapKind
  /-- In no particular order. -/
  | hashed
  /-- By key. -/
  | sorted
  /-- In the order of insertion. -/
  | indexed
  deriving DecidableEq, Repr, Inhabited

/-- The types whose values cross the boundary. -/
inductive HostType
  | unit
  | bool
  | int (k : IntType)
  | bigInt
  | float32
  | float64
  | string
  | char
  | bytes
  | option (t : HostType)
  | list (t : HostType)
  | pair (a b : HostType)
  | triple (a b c : HostType)
  | map (kind : MapKind) (k v : HostType)
  /-- A half-open range of positions. -/
  | range
  | handle
  deriving DecidableEq, Repr, Inhabited

namespace HostType

/-- The values of a type, with what stands for handles. Floating-point numbers are their bit
patterns. -/
def ValueWith (H : Type) : HostType → Type
  | unit => Unit
  | bool => Bool
  | int k => { n : Int // k.Contains n }
  | bigInt => Int
  | float32 => UInt32
  | float64 => UInt64
  | string => String
  | char => Char
  | bytes => List UInt8
  | option t => Option (t.ValueWith H)
  | list t => List (t.ValueWith H)
  | pair a b => a.ValueWith H × b.ValueWith H
  | triple a b c => a.ValueWith H × b.ValueWith H × c.ValueWith H
  | map _ k v => List (k.ValueWith H × v.ValueWith H)
  | range => { n : Int // IntType.isize.Contains n } × { n : Int // IntType.isize.Contains n }
  | handle => H

/-- The values of a type. -/
abbrev Value (t : HostType) : Type := t.ValueWith Handle

/-- The handles in a value. -/
def handles : (t : HostType) → t.Value → List Handle
  | unit, _ | bool, _ | int _, _ | bigInt, _ | float32, _ | float64, _ | string, _ | char, _
  | bytes, _ | range, _ => []
  | option t, v => match v with
    | some x => t.handles x
    | none => []
  | list t, v => List.flatMap t.handles v
  | pair a b, (x, y) => a.handles x ++ b.handles y
  | triple a b c, (x, y, z) => a.handles x ++ b.handles y ++ c.handles z
  | map _ k v, es => List.flatMap (fun (x, y) => k.handles x ++ v.handles y) es
  | handle, h => [h]

/-- Replaces the handles in a value in order. -/
def traverse {m : Type → Type} [Monad m] {H H' : Type} (f : H → m H') :
    (t : HostType) → t.ValueWith H → m (t.ValueWith H')
  | unit, u => pure u
  | bool, b => pure b
  | int _, n => pure n
  | bigInt, n => pure n
  | float32, bits => pure bits
  | float64, bits => pure bits
  | string, s => pure s
  | char, c => pure c
  | bytes, bs => pure bs
  | option t, v => match v with
    | some x => do
      let y ← traverse f t x
      return some y
    | none => pure none
  | list t, xs => List.mapM (traverse f t) xs
  | pair a b, (x, y) => do
    let x ← traverse f a x
    let y ← traverse f b y
    return (x, y)
  | triple a b c, (x, y, z) => do
    let x ← traverse f a x
    let y ← traverse f b y
    let z ← traverse f c z
    return (x, y, z)
  | map _ k v, es => List.mapM (fun (x, y) => do
    let x ← traverse f k x
    let y ← traverse f v y
    return (x, y)) es
  | range, r => pure r
  | handle, h => f h

/-! ### The order of keys -/

/-- Compares lists element by element; a list comes after those that it extends. -/
def compareLists {α : Type} (f : α → α → Ordering) : List α → List α → Ordering
  | [], [] => .eq
  | [], _ :: _ => .lt
  | _ :: _, [] => .gt
  | a :: as, b :: bs => (f a b).then (compareLists f as bs)

/-- Compares two values of a type, which serve as keys of a map. Floating-point numbers are compared
by their patterns and handles by their objects; neither occurs as a key. -/
def compareValues : (t : HostType) → t.Value → t.Value → Ordering
  | unit, _, _ => .eq
  | bool, x, y => compare (cond x 1 0 : Nat) (cond y 1 0)
  | int _, x, y => compare x.val y.val
  | bigInt, (x : Int), (y : Int) => compare x y
  | float32, (x : UInt32), (y : UInt32) => compare x.toNat y.toNat
  | float64, (x : UInt64), (y : UInt64) => compare x.toNat y.toNat
  | string, (x : String), (y : String) =>
    compareLists (fun a b => compare a.toNat b.toNat) x.toList y.toList
  | char, (x : Char), (y : Char) => compare x.toNat y.toNat
  | bytes, (x : List UInt8), (y : List UInt8) =>
    compareLists (fun a b => compare a.toNat b.toNat) x y
  | option t, x, y => match x, y with
    | none, none => .eq
    | none, some _ => .lt
    | some _, none => .gt
    | some x, some y => t.compareValues x y
  | list t, x, y => compareLists t.compareValues x y
  | pair a b, (x, y), (x', y') => (a.compareValues x x').then (b.compareValues y y')
  | triple a b c, (x, y, z), (x', y', z') =>
    (a.compareValues x x').then ((b.compareValues y y').then (c.compareValues z z'))
  | map _ k v, x, y =>
    compareLists (fun (a, b) (a', b') => (k.compareValues a a').then (v.compareValues b b')) x y
  | range, (a, b), (a', b') => (compare a.val a'.val).then (compare b.val b'.val)
  | handle, (h : Handle), (h' : Handle) => compare h.object.id h'.object.id

/-! ### Collecting entries -/

/-- Adds an entry to those collected so far: a key that is there keeps its place and takes the new
value. -/
def addEntry {α β : Type} (same : α → α → Bool) (k : α) (v : β) : List (α × β) → List (α × β)
  | [] => [(k, v)]
  | (k', v') :: es => if same k' k then (k', v) :: es else (k', v') :: addEntry same k v es

/-- The entries of a map made from pairs in order. -/
def collectEntries (kind : MapKind) (k : HostType) {β : Type} (es : List (k.Value × β)) :
    List (k.Value × β) :=
  let entries := es.foldl
    (fun acc (x, y) => addEntry (fun a b => k.compareValues a b == .eq) x y acc) []
  match kind with
  | .sorted => entries.mergeSort fun a b => k.compareValues a.1 b.1 != .gt
  | .hashed | .indexed => entries

/-- A value whose maps are given by entries in order, with every map collected from its entries. -/
def collected : (t : HostType) → t.Value → t.Value
  | option t, v => Option.map (collected t) v
  | list t, xs => List.map (collected t) xs
  | pair a b, (x, y) => (collected a x, collected b y)
  | triple a b c, (x, y, z) => (collected a x, collected b y, collected c z)
  | map kind k v, es =>
    collectEntries kind k (List.map (fun (x, y) => (collected k x, collected v y)) es)
  | unit, v | bool, v | int _, v | bigInt, v | float32, v | float64, v | string, v | char, v
  | bytes, v | range, v | handle, v => v

/-! ### Reading the notation of types -/

/-- The names of types without parts. -/
def simple : List (String × HostType) :=
  [("()", unit), ("bool", bool), ("i8", int .i8), ("i16", int .i16), ("i32", int .i32),
   ("i64", int .i64), ("isize", int .isize), ("u8", int .u8), ("u16", int .u16), ("u32", int .u32),
   ("u64", int .u64), ("usize", int .usize), ("BigInt", bigInt), ("f32", float32),
   ("f64", float64), ("String", string), ("char", char), ("Bytes", bytes), ("Handle", handle),
   ("Range<isize>", range)]

/-- Splits a text at the commas that stand outside brackets. -/
def splitParts : (depth : Nat) → (part : List Char) → List Char → List (List Char)
  | _, part, [] => [part.reverse]
  | depth, part, c :: cs =>
    if c == ',' && depth == 0 then part.reverse :: splitParts 0 [] cs
    else
      let depth := if c == '<' || c == '(' || c == '[' then depth + 1
        else if c == '>' || c == ')' || c == ']' then depth - 1 else depth
      splitParts depth (c :: part) cs

/-- Reads the notation of a type: a name, a name with its parts between `<` and `>`, a tuple, or an
array with its length, which stands for a list. `fuel` bounds the nesting. -/
def readFrom : (fuel : Nat) → List Char → Option HostType
  | 0, _ => none
  | fuel + 1, cs =>
    match simple.lookup (String.ofList cs) with
    | some t => some t
    | none =>
      let (name, rest) := (cs.takeWhile (· != '<'), cs.dropWhile (· != '<'))
      match cs.head? with
      | some '(' =>
        match ((splitParts 0 [] (cs.drop 1).dropLast).map (readFrom fuel)) with
        | [some a, some b] => some (pair a b)
        | [some a, some b, some c] => some (triple a b c)
        | _ => none
      | some '[' =>
        list <$> readFrom fuel (cs.drop 1 |>.reverse.dropWhile (· != ';') |>.drop 1).reverse
      | _ =>
        match String.ofList name, (splitParts 0 [] (rest.drop 1).dropLast).map (readFrom fuel) with
        | "Option", [some t] => some (option t)
        | "Vec", [some t] => some (list t)
        | "HashMap", [some k, some v] => some (map .hashed k v)
        | "BTreeMap", [some k, some v] => some (map .sorted k v)
        | "IndexMap", [some k, some v] => some (map .indexed k v)
        | _, _ => none

/-- Reads the notation of a type. -/
def read? (s : String) : Option HostType := readFrom (s.length + 1) s.toList

end HostType

/-- A value together with its type. -/
structure HostValue where
  type : HostType
  value : type.Value

end GuestBridge.Bridge
