/-!
# Ends of lines

A line ends after a line feed, after a carriage return, or after the two together. A text whose
lines all end in one way is read by that way alone; otherwise the longest end that stands at a place
counts. Lists are lists of code points.
-/

namespace GuestBridge.Text

/-- A sequence that ends a line. -/
inductive LineEnd where
  | carriageReturn | lineFeed | both
  deriving DecidableEq

namespace LineEnd

/-- The code points of an end, in order. -/
def points : LineEnd → List Nat
  | carriageReturn => [13]
  | lineFeed => [10]
  | both => [13, 10]

/-- All ends, in the order in which they are told. -/
def all : List LineEnd := [carriageReturn, lineFeed, both]

/-- The longest end with which a list starts. -/
def atFront? : List Nat → Option LineEnd
  | 13 :: 10 :: _ => some both
  | 13 :: _ => some carriageReturn
  | 10 :: _ => some lineFeed
  | _ => none

/-- The ends of the lines of a list, after those in `acc`. -/
def inText (acc : List LineEnd) : List Nat → List LineEnd
  | [] => acc
  | 13 :: 10 :: ps => inText (both :: acc) ps
  | 13 :: ps => inText (carriageReturn :: acc) ps
  | 10 :: ps => inText (lineFeed :: acc) ps
  | _ :: ps => inText acc ps

end LineEnd

/-- How the lines of a text end. -/
inductive LineEnds where
  /-- All in one way, which every line feed that is written becomes. -/
  | only (e : LineEnd)
  /-- In any way; if `unified`, each end that is written becomes a line feed. -/
  | any (unified : Bool)
  deriving DecidableEq

namespace LineEnds

/-- The end of a line with which a list starts. -/
def atFront? (ends : LineEnds) (ps : List Nat) : Option LineEnd :=
  match ends with
  | only e => if e.points.isPrefixOf ps then some e else none
  | any true => if [10].isPrefixOf ps then some .lineFeed else none
  | any false => LineEnd.atFront? ps

/-- The first line with its end; `acc` is what was read of it, last first. -/
def firstLine (ends : LineEnds) (acc : List Nat) : List Nat → List Nat
  | [] => acc.reverse
  | p :: ps =>
    match ends.atFront? (p :: ps) with
    | some e => acc.reverse ++ e.points
    | none => firstLine ends (p :: acc) ps

/-- Makes each end of a line a line feed, after what is in `acc`, last first. -/
def unify (acc : List Nat) : List Nat → List Nat
  | [] => acc.reverse
  | 13 :: 10 :: ps => unify (10 :: acc) ps
  | 13 :: ps => unify (10 :: acc) ps
  | p :: ps => unify (p :: acc) ps

/-- What is kept of a list that is written. -/
def kept (ends : LineEnds) (ps : List Nat) : List Nat :=
  match ends with
  | only .lineFeed | any false => ps
  | only e => ps.flatMap fun p => if p == 10 then e.points else [p]
  | any true => unify [] ps

end LineEnds

end GuestBridge.Text
