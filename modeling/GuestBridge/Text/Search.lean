/-!
# Searching, cutting and joining lists

Operations behind the methods of strings and byte strings, on lists of code points or bytes. A
position may lie beyond the end; nothing is found there, not even the empty list.
-/

namespace GuestBridge.Text.Search

/-- The first place at or after `place` where a list occurs in another, which starts there. -/
def find (needle : List Nat) (place : Nat) : List Nat → Option Nat
  | [] => if needle.isEmpty then some place else none
  | p :: ps => if needle.isPrefixOf (p :: ps) then some place else find needle (place + 1) ps

/-- The last place where a list occurs in another. -/
def findLast (needle ps : List Nat) : Option Nat :=
  (find needle.reverse 0 ps.reverse).map fun i => ps.length - i - needle.length

/-- How often a list that is not empty occurs in another without overlap; `skip` elements are passed
over. -/
def countFrom (needle : List Nat) : (skip : Nat) → List Nat → Nat
  | _, [] => 0
  | skip + 1, _ :: ps => countFrom needle skip ps
  | 0, p :: ps =>
    if needle.isPrefixOf (p :: ps) then 1 + countFrom needle (needle.length - 1) ps
    else countFrom needle 0 ps

/-- How often a list occurs in another without overlap. -/
def count (needle ps : List Nat) : Nat :=
  if needle.isEmpty then ps.length + 1 else countFrom needle 0 ps

/-- Divides at each occurrence of a separator that is not empty, at most `limit` times if given;
`acc` is the part under construction, last first. -/
def divideFrom (sep : List Nat) : (skip : Nat) → (limit : Option Nat) → (acc : List Nat) →
    List Nat → List (List Nat)
  | _, _, acc, [] => [acc.reverse]
  | skip + 1, limit, acc, _ :: ps => divideFrom sep skip limit acc ps
  | 0, some 0, acc, ps => [acc.reverse ++ ps]
  | 0, limit, acc, p :: ps =>
    if sep.isPrefixOf (p :: ps) then
      acc.reverse :: divideFrom sep (sep.length - 1) (limit.map (· - 1)) [] ps
    else divideFrom sep 0 limit (p :: acc) ps

/-- Divides at a separator, from the front or from the back. -/
def divide (sep : List Nat) (fromBack : Bool) (limit : Option Nat) (ps : List Nat) :
    List (List Nat) :=
  if fromBack then ((divideFrom sep.reverse 0 limit [] ps.reverse).map List.reverse).reverse
  else divideFrom sep 0 limit [] ps

/-- Divides at runs of blanks, at most `limit` times if given. What is left after the last division
keeps the blanks at its end, but not those at its front. -/
def divideBlanksFrom (isBlank : Nat → Bool) (limit : Option Nat) (acc : List Nat) :
    List Nat → List (List Nat)
  | [] => if acc.isEmpty then [] else [acc.reverse]
  | p :: ps =>
    if isBlank p then
      if acc.isEmpty then divideBlanksFrom isBlank limit [] ps
      else acc.reverse :: divideBlanksFrom isBlank (limit.map (· - 1)) [] ps
    else if limit == some 0 && acc.isEmpty then [p :: ps]
    else divideBlanksFrom isBlank limit (p :: acc) ps

/-- Divides at runs of blanks, from the front or from the back. -/
def divideBlanks (isBlank : Nat → Bool) (fromBack : Bool) (limit : Option Nat) (ps : List Nat) :
    List (List Nat) :=
  if fromBack then
    ((divideBlanksFrom isBlank limit [] ps.reverse).map List.reverse).reverse
  else divideBlanksFrom isBlank limit [] ps

/-- Divides into lines, a carriage return with a line feed ending one line. -/
def lines (endsLine : Nat → Bool) (keepEnds : Bool) (acc : List Nat) :
    List Nat → List (List Nat)
  | [] => if acc.isEmpty then [] else [acc.reverse]
  | 13 :: 10 :: ps =>
    (acc.reverse ++ (if keepEnds then [13, 10] else [])) :: lines endsLine keepEnds [] ps
  | p :: ps =>
    if endsLine p then
      (acc.reverse ++ (if keepEnds then [p] else [])) :: lines endsLine keepEnds [] ps
    else lines endsLine keepEnds (p :: acc) ps

/-- Replaces occurrences of a list, at most `limit` of them if given. The empty list occurs before
each element and at the end. -/
def replace (old new : List Nat) (limit : Option Nat) (ps : List Nat) : List Nat :=
  if old.isEmpty then
    let n := limit.getD (ps.length + 1)
    (ps.zipIdx.flatMap fun (p, i) => (if i < n then new else []) ++ [p]) ++
      (if ps.length < n then new else [])
  else new.intercalate (divide old false limit ps)

/-- Removes elements of a class from the ends. -/
def trim (drop : Nat → Bool) (left right : Bool) (ps : List Nat) : List Nat :=
  let ps := if left then ps.dropWhile drop else ps
  if right then (ps.reverse.dropWhile drop).reverse else ps

/-- Cuts at the first or last occurrence of a separator: what comes before and after it. -/
def cut? (sep : List Nat) (last : Bool) (ps : List Nat) : Option (List Nat × List Nat) :=
  (if last then findLast sep ps else find sep 0 ps).map fun i =>
    (ps.take i, ps.drop (i + sep.length))

/-- Replaces tabs by blanks up to the next multiple of `size`; `column` is where the list starts. -/
def expandTabs (size : Nat) : (column : Nat) → List Nat → List Nat
  | _, [] => []
  | column, p :: ps =>
    if p == 9 then
      let n := if size == 0 then 0 else size - column % size
      List.replicate n 32 ++ expandTabs size (column + n) ps
    else p :: expandTabs size (if p == 10 || p == 13 then 0 else column + 1) ps

/-- Fills a list up to a width with `left` elements in front and the rest behind. -/
def pad (left : Nat → Nat) (fill : Nat) (width : Int) (ps : List Nat) : List Nat :=
  let missing := (width - ps.length).toNat
  List.replicate (left missing) fill ++ ps ++ List.replicate (missing - left missing) fill

/-- How many of the missing elements stand in front when a list is centred in a width. -/
def centred (width : Int) (missing : Nat) : Nat :=
  missing / 2 + (missing % 2 * (width.toNat % 2))

/-- Fills digits up to a width with zeros, after a sign. -/
def zeroFill (width : Int) (ps : List Nat) : List Nat :=
  let (sign, digits) := match ps with
    | 43 :: ds => ([43], ds)
    | 45 :: ds => ([45], ds)
    | ds => ([], ds)
  sign ++ pad id 48 (width - sign.length) digits

end GuestBridge.Text.Search
