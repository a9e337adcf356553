import GuestBridge.Guest.Table
import GuestBridge.Text.LineEnds

/-!
# Text buffers in memory

A buffer holds a text and a position in it. How its lines end is told when it is made: by default
they end in line feeds, and nothing that is written changes. Whether it was closed, how its lines
end and which ends were written to it are kept in places of the object's own.
-/

namespace GuestBridge.Guest

open Text (LineEnd LineEnds)

/-- The place that tells that an end of a line was written to a buffer. -/
def endSlot : LineEnd → String
  | .carriageReturn => "wrote carriage return"
  | .lineFeed => "wrote line feed"
  | .both => "wrote both"

/-- Refuses to work on a buffer that was closed, or whose making was left out; `mark` stands at the
end of the complaint. -/
def checkOpen (r : Ref) (mark : String) : Exec Unit := do
  if (← slot? r "unready").isSome then valueError "I/O operation on uninitialized object"
  if (← slot? r "closed").isSome then valueError ("I/O operation on closed file" ++ mark)

/-- How the lines of a buffer end. -/
def bufferEnds (r : Ref) : Exec LineEnds := do
  match ← slot? r "newline" with
  | none => return .only .lineFeed
  | some n =>
    match (← text? n).map (·.points) with
    | none => return .any true
    | some [] => return .any false
    | some [13] => return .only .carriageReturn
    | some [13, 10] => return .only .both
    | some _ => return .only .lineFeed

/-- Writes a text at the position of a buffer. -/
def writeBuffer (r : Ref) (u : Text) : Exec Unit := do
  if u.points.isEmpty then return
  match ← dataOf r, ← bufferEnds r with
  | .textBuffer t position, ends =>
    if let .any _ := ends then
      for e in LineEnd.inText [] u.points do putSlot r (endSlot e) trueRef
    let written := ends.kept u.points
    let gap := List.replicate (position - t.length) 0
    let past := position + written.length
    setData r (.textBuffer ⟨t.points.take position ++ gap ++ written ++ t.points.drop past⟩ past)
  | _, _ => return

/-- Makes a buffer anew: how its lines end, as it was told, and its first text. -/
def openBuffer (r : Ref) (newline : Option Ref) (u : Text) : Exec Unit := do
  for id in ["unready", "closed", "newline"] ++ LineEnd.all.map endSlot do
    discard <| dropSlot r id
  if let some n := newline then putSlot r "newline" n
  setData r (.textBuffer .empty 0)
  writeBuffer r u
  if let .textBuffer t _ := ← dataOf r then setData r (.textBuffer t 0)

/-- Reads a line of a buffer, or the part of it that fits into the limit. -/
def readLine (r : Ref) (limit : Option Nat) : Exec Text := do
  match ← dataOf r with
  | .textBuffer t position =>
    let rest := t.points.drop position
    let line := (← bufferEnds r).firstLine [] (match limit with
      | some n => rest.take n
      | none => rest)
    setData r (.textBuffer t (position + line.length))
    return ⟨line⟩
  | _ => return .empty

/-- The ends of lines that were written to a buffer whose lines may end in any way. -/
def writtenEnds (r : Ref) : Exec Ref := do
  let ends ← LineEnd.all.filterM fun e => do return (← slot? r (endSlot e)).isSome
  match ← ends.mapM fun e => newText ⟨e.points⟩ with
  | [] => return noneRef
  | [e] => return e
  | es => newTuple es

end GuestBridge.Guest
