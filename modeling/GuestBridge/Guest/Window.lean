import GuestBridge.Guest.Reach
import GuestBridge.Guest.Table

/-!
# Windows on memory

A view of memory shows a buffer through a window: items at equal distances, which are all read in
one format. The first byte of an item is its lowest one. A view that was given up shows nothing any
more; as long as there is another one, its buffer cannot change its size.
-/

namespace GuestBridge.Guest

/-! ### Items -/

/-- The number of bytes of an item with the given letter as its format. -/
def itemSize? (letter : Char) : Option Nat :=
  match letter with
  | 'c' | 'b' | 'B' | '?' => some 1
  | 'h' | 'H' => some 2
  | 'i' | 'I' | 'f' => some 4
  | 'l' | 'L' | 'q' | 'Q' | 'n' | 'N' | 'd' | 'P' => some 8
  | _ => none

/-- Whether items with the given letter are single bytes as they stand. -/
def isByteFormat (letter : Char) : Bool :=
  letter == 'c' || letter == 'b' || letter == 'B'

/-- Whether items with the given letter are whole numbers that may be negative. -/
def isSignedFormat (letter : Char) : Bool :=
  ['b', 'h', 'i', 'l', 'q', 'n'].contains letter

/-- The letter of a format; a sign for the machine's own way may stand before it. -/
def formatLetter? (format : String) : Option Char :=
  match format.toList with
  | [c] | ['@', c] => if (itemSize? c).isSome then some c else none
  | _ => none

/-- The number that bytes stand for, the lowest one first. -/
def numberOfBytes (bs : List UInt8) : Nat :=
  bs.foldr (fun b n => b.toNat + 256 * n) 0

/-- A number as the given number of bytes, the lowest one first; what does not fit is left out. -/
def bytesOfNumber : (size n : Nat) → List UInt8
  | 0, _ => []
  | size + 1, n => n.toUInt8 :: bytesOfNumber size (n / 256)

/-- The whole number that an item stands for. -/
def itemNumber (letter : Char) (bs : List UInt8) : Int :=
  let n := numberOfBytes bs
  if isSignedFormat letter && Nat.pow 2 (8 * bs.length - 1) ≤ n then
    (n : Int) - Nat.pow 2 (8 * bs.length)
  else n

/-! ### Windows -/

namespace Window

/-- The window that shows all of a buffer byte by byte. -/
def whole (size : Nat) (readOnly : Bool) : Window := ⟨0, size, 1, "B", readOnly⟩

/-- The letter of the format. -/
def letter (w : Window) : Char := (formatLetter? w.format).getD 'B'

/-- The number of bytes of an item. -/
def itemSize (w : Window) : Nat := (itemSize? w.letter).getD 1

/-- Where an item starts in the buffer. -/
def place (w : Window) (i : Nat) : Nat := (w.start + i * w.step).toNat

/-- The bytes of an item. -/
def item (w : Window) (buffer : List UInt8) (i : Nat) : List UInt8 :=
  (buffer.drop (w.place i)).take w.itemSize

/-- The bytes of all items, one after the other. -/
def bytes (w : Window) (buffer : List UInt8) : List UInt8 :=
  (List.range w.count).flatMap (w.item buffer)

/-- A buffer with other bytes for an item. -/
def replace (w : Window) (buffer : List UInt8) (i : Nat) (item : List UInt8) : List UInt8 :=
  buffer.take (w.place i) ++ item ++ buffer.drop (w.place i + w.itemSize)

/-- Whether the items stand next to each other. -/
def isContiguous (w : Window) : Bool := w.count ≤ 1 || w.step == w.itemSize

end Window

/-! ### Buffers -/

/-- The bytes of a buffer. -/
def bufferBytes (of : Ref) : Exec (List UInt8) := do
  match ← dataOf of with
  | .bytes bs | .bytearray bs => return bs
  | _ => return []

/-- Whether a view of memory was given up. -/
def isReleased (r : Ref) : Exec Bool := return (← slot? r "released").isSome

/-- Refuses a view of memory that was given up. -/
def checkHeld (r : Ref) : Exec Unit := do
  if ← isReleased r then valueError "operation forbidden on released memoryview object"

/-- Makes a view of a buffer, of which the buffer takes note. -/
def newWindow (of : Ref) (w : Window) : Exec Ref := do
  unless w.readOnly do putSlot of "viewed" trueRef
  alloc (.of .memoryview (.memory of w))

/-- Makes a view of all of a buffer; `none` if the object is none. -/
def viewOf? (r : Ref) : Exec (Option Ref) := do
  match ← dataOf r with
  | .bytes bs => some <$> newWindow r (.whole bs.length true)
  | .bytearray bs => some <$> newWindow r (.whole bs.length false)
  | .memory of w =>
    checkHeld r
    some <$> newWindow of w
  | _ => return none

/-- Whether a buffer has a view that was not given up. -/
def isViewed (of : Ref) : Exec Bool := do
  if (← slot? of "viewed").isNone then return false
  let m ← get
  let alive := m.alive
  return (List.range m.heap.size).any fun i =>
    let o := m.heap.getD i default
    match o.data with
    | .memory b _ => b == of && alive.getD i false && (o.slots.lookup "released").isNone
    | _ => false

/-- Gives a buffer other bytes. Their number stays the same as long as a view shows them. -/
def setBytes (of : Ref) (bs : List UInt8) : Exec Unit := do
  if (← bufferBytes of).length != bs.length && (← isViewed of) then
    raiseError .bufferError "Existing exports of data: object cannot be re-sized"
  setData of (.bytearray bs)

/-- The bytes that a view of memory shows. -/
def windowBytes (r of : Ref) (w : Window) : Exec (List UInt8) := do
  checkHeld r
  return w.bytes (← bufferBytes of)

/-- The object of an item. -/
def itemObject (letter : Char) (bs : List UInt8) : Exec Ref := do
  match letter with
  | 'c' => newBytes bs
  | '?' => return boolRef (numberOfBytes bs != 0)
  | 'd' => newFloat (numberOfBytes bs)
  | 'f' => newFloat (Float32.ofBits (numberOfBytes bs).toUInt32).toFloat.toBits.toNat
  | _ => newInt (itemNumber letter bs)

/-- The objects of all items that a view of memory shows. -/
def windowItems (r of : Ref) (w : Window) : Exec (List Ref) := do
  checkHeld r
  let buffer ← bufferBytes of
  (List.range w.count).mapM fun i => itemObject w.letter (w.item buffer i)

end GuestBridge.Guest
