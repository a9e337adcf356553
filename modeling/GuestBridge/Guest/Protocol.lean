import GuestBridge.Guest.Attribute
import GuestBridge.Guest.Arithmetic

/-!
# Truth, length and index

Three questions that every object can be asked. The class of an object answers first, if a script
defined the special method; then the data answers.
-/

namespace GuestBridge.Guest

/-- The largest size of a container. -/
def maxSize : Int := Nat.pow 2 63 - 1

/-- The number in an object. -/
def Data.num? : Data → Option Num
  | .int n => some (.int n)
  | .float b => some (.float b)
  | .complex re im => some (.complex re im)
  | _ => none

/-- The number of elements of a range. -/
def rangeLength (start stop step : Int) : Nat :=
  if step > 0 then (if start < stop then ((stop - start - 1) / step + 1).toNat else 0)
  else if step < 0 then (if stop < start then ((start - stop - 1) / (-step) + 1).toNat else 0)
  else 0

/-- The number of elements of an object whose data has one; views and proxies count what they
show. -/
def sizeOfData (d : Data) : Exec (Option Nat) := do
  match d with
  | .str t => return some t.length
  | .bytes bs | .bytearray bs => return some bs.length
  | .list items => return some items.size
  | .tuple items => return some items.length
  | .dict es | .defaultDict es _ => return some es.length
  | .set t => return some t.count
  | .range a b s => return some (rangeLength a b s)
  | .deque items _ => return some items.length
  | .view of _ | .proxy of =>
    match ← dataOf of with
    | .dict es | .defaultDict es _ => return some es.length
    | _ => return none
  | .memory _ w => return some w.count
  | _ => return none

/-- The object of a number. -/
def newNum : Num → Exec Ref
  | .int n => newInt n
  | .float b => newFloat b
  | .complex re im => alloc (.of .complex (.complex re im))

/-- Raises the exception of a failed operation on numbers. -/
def raiseNum {α : Type} : NumError → Exec α
  | .zeroDivision m => raiseError .zeroDivisionError m
  | .overflow m => raiseError .overflowError m
  | .value m => valueError m
  | .tooLarge => raiseError .memoryError ""
  | .outOfRange => do
    raiseRef (← newError .overflowError
      [← newInt 34, ← newStr "Numerical result out of range"])

/-- The result of an operation on numbers as an object. -/
def numResult : Except NumError Num → Exec Ref
  | .ok n => newNum n
  | .error e => raiseNum e

section
variable [Ops]

/-- The integer that an object stands for, if it stands for one. -/
def index? (r : Ref) : Exec (Option Int) := do
  match ← dataOf r with
  | .int n => return some n
  | _ =>
    match ← callSpecial? r "__index__" [] with
    | none => return none
    | some v =>
      match ← int? v with
      | some n => return some n
      | none => typeError ("__index__ returned non-int (type " ++ (← typeNameOf v) ++ ")")

/-- The integer that an object stands for. -/
def index (r : Ref) : Exec Int := do
  match ← index? r with
  | some n => return n
  | none =>
    typeError ("'" ++ (← typeNameOf r) ++ "' object cannot be interpreted as an integer")

/-- An integer that must fit the size of containers. -/
def sizeIndex (k : ErrorKind) (r : Ref) : Exec Int := do
  let n ← index r
  if -maxSize - 1 ≤ n && n ≤ maxSize then return n
  else raiseError k ("cannot fit '" ++ (← typeNameOf r) ++ "' into an index-sized integer")

/-- The length that a `__len__` of a script gives. -/
def checkLength (v : Ref) : Exec Nat := do
  let n ← index v
  if n < 0 then valueError "__len__() should return >= 0"
  else if n > maxSize then
    raiseError .overflowError
      ("cannot fit '" ++ (← typeNameOf v) ++ "' into an index-sized integer")
  else return n.toNat

/-- The length of an object, if its class has one. -/
def length? (r : Ref) : Exec (Option Nat) := do
  match ← callSpecial? r "__len__" [] with
  | some v => return some (← checkLength v)
  | none =>
    let d ← dataOf r
    if let .memory _ _ := d then checkHeld r
    match ← sizeOfData d with
    | none => return none
    | some n =>
      if (n : Int) > maxSize then
        raiseError .overflowError "Python int too large to convert to C ssize_t"
      else return some n

/-- The length of an object. -/
def length (r : Ref) : Exec Nat := do
  match ← length? r with
  | some n => return n
  | none => typeError ("object of type '" ++ (← typeNameOf r) ++ "' has no len()")

/-- The truth value of an object. -/
def isTrue (r : Ref) : Exec Bool := do
  if r == trueRef then return true
  else if r == falseRef || r == noneRef then return false
  else
    match ← callSpecial? r "__bool__" [] with
    | some v =>
      if v == trueRef then return true
      else if v == falseRef then return false
      else typeError ("__bool__ should return bool, returned " ++ (← typeNameOf v))
    | none =>
      match ← callSpecial? r "__len__" [] with
      | some v => return (← checkLength v) != 0
      | none =>
        let d ← dataOf r
        if let .memory _ _ := d then checkHeld r
        match d.num? with
        | some n => return n.truth
        | none =>
          match ← sizeOfData d with
          | some n => return n != 0
          | none => return true

end

end GuestBridge.Guest
