import GuestBridge.Guest.Arguments

/-!
# Sorting

Elements are sorted by their keys, and equal ones keep their order. A sorted run at the front is
left as it is; each further element is put into its place, which is found by halving. Long lists are
sorted in two halves. Which elements are compared shows when a comparison fails.
-/

namespace GuestBridge.Guest

/-- An element with the key that it is sorted by. -/
structure Keyed where
  key : Ref
  value : Ref
  deriving Inhabited

section
variable [Ops]

/-- Whether an element has to stand before another one. -/
def Keyed.isBefore (x y : Keyed) : Exec Bool := isLess x.key y.key

/-- How many elements at the front go on with a run, after the element `last`. -/
def runLength (descending : Bool) (last : Keyed) : List Keyed → Exec Nat
  | [] => return 0
  | x :: xs => do
    if (← x.isBefore last) == descending then return 1 + (← runLength descending x xs)
    else return 0

/-- The place of an element among sorted ones between two places. `fuel` bounds the halvings. -/
def placeFor (x : Keyed) (sorted : Array Keyed) : (fuel low high : Nat) → Exec Nat
  | 0, low, _ => return low
  | fuel + 1, low, high => do
    if low < high then
      let middle := low + (high - low) / 2
      if ← x.isBefore (sorted.getD middle default) then placeFor x sorted fuel low middle
      else placeFor x sorted fuel (middle + 1) high
    else return low

/-- Puts elements one by one into their places among sorted ones. -/
def insertEach (sorted : Array Keyed) : List Keyed → Exec (Array Keyed)
  | [] => return sorted
  | x :: xs => do
    let i ← placeFor x sorted (sorted.size + 1) 0 sorted.size
    insertEach (sorted.insertIdxIfInBounds i x) xs

/-- Sorts a short list. -/
def sortShort (xs : List Keyed) : Exec (List Keyed) := do
  match xs with
  | x :: y :: rest =>
    let descending ← y.isBefore x
    let n := 2 + (← runLength descending y rest)
    let run := xs.take n
    return (← insertEach (if descending then run.reverse else run).toArray (xs.drop n)).toList
  | _ => return xs

/-- Merges two sorted lists; of equal elements, those of the first list come first. -/
def mergeSorted : (fuel : Nat) → List Keyed → List Keyed → Exec (List Keyed)
  | 0, xs, ys => return xs ++ ys
  | _, [], ys => return ys
  | _, xs, [] => return xs
  | fuel + 1, x :: xs, y :: ys => do
    if ← y.isBefore x then return y :: (← mergeSorted fuel (x :: xs) ys)
    else return x :: (← mergeSorted fuel xs (y :: ys))

/-- Sorts a list; `fuel` bounds the number of times that it is halved. -/
def sortKeyed : (fuel : Nat) → List Keyed → Exec (List Keyed)
  | 0, xs => sortShort xs
  | fuel + 1, xs => do
    if xs.length < 64 then sortShort xs
    else
      let half := xs.length / 2
      let front ← sortKeyed fuel (xs.take half)
      let back ← sortKeyed fuel (xs.drop half)
      mergeSorted xs.length front back

/-- Sorts elements by keys that a function gives, or by themselves. -/
def sortElements (xs : List Ref) (key : Option Ref) (reverse : Bool) : Exec (List Ref) := do
  let keyed ← xs.mapM fun x => do
    match key.filter (!isNone ·) with
    | some f => return (⟨← Ops.call f (.of [x]), x⟩ : Keyed)
    | none => return ⟨x, x⟩
  let sorted ← sortKeyed 64 (if reverse then keyed.reverse else keyed)
  let values := sorted.map Keyed.value
  return if reverse then values.reverse else values

/-- Sorts elements as the keywords of a function say. -/
def sortNamed (shown : String) (xs : List Ref) (a : Args) : Exec (List Ref) := do
  let vs ← bindNamed shown ⟨["key", "reverse"], 0, 0⟩ ⟨[], a.keywords⟩
  let reverse ← match parameter? vs 1 with
    | some r => pure ((← smallArg r) != 0)
    | none => pure false
  sortElements xs (parameter? vs 0) reverse

end

end GuestBridge.Guest
