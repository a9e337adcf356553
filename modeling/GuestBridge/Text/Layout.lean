import GuestBridge.Text.Classes
import GuestBridge.Number.Decimal

/-!
# Format specifications

How values are laid out as text: a fill and an alignment in a field of a given width, a sign, the
grouping of digits, a precision and a presentation. A specification is read from its text; numbers
and texts are laid out by it. Everything here works on characters; objects come in elsewhere.

## Main definitions

* `Layout.read` — a specification from its text;
* `Layout.number` — the parts of a number put together;
* `Layout.fit` — a text in a field.
-/

namespace GuestBridge

/-- A format specification. -/
structure Layout where
  fill : Nat
  align : Nat
  /-- The sign asked for, as it was written. -/
  sign : Option Nat
  /-- Whether a negative zero loses its sign. -/
  plainZero : Bool
  alternate : Bool
  width : Option Nat
  /-- The character between groups of digits. -/
  grouping : Option Nat
  precision : Option Nat
  /-- The presentation asked for. -/
  presentation : Option Nat
  deriving DecidableEq, Repr, Inhabited

namespace Layout

/-- Whether a code point asks for an alignment. -/
def isAlignment (p : Nat) : Bool := p == 60 || p == 62 || p == 61 || p == 94

/-- The number at the front of a text, if there is one, and what follows it. -/
def leadingNumber (ps : List Nat) : Option Nat × List Nat :=
  let ds := ps.takeWhile fun p => (Text.decimalValue? p).isSome
  if ds.isEmpty then (none, ps)
  else
    (some (ds.foldl (fun n p => n * 10 + (Text.decimalValue? p).getD 0) 0), ps.drop ds.length)

/-- The largest number that a width or a precision may be. -/
def largest : Nat := Nat.pow 2 63 - 1

/-- The character of a presentation in error messages. -/
def shownPresentation (p : Nat) : String :=
  if 32 < p && p < 128 then String.singleton (Char.ofNat p)
  else "\\x" ++ String.ofList (Nat.toDigits 16 p)

/-- The refusal of a presentation for a value of the named type. -/
def unknownPresentation (p : Nat) (typeName : String) : String :=
  "Unknown format code '" ++ shownPresentation p ++ "' for object of type '" ++ typeName ++ "'"

/-- Refuses a grouping of digits that a presentation does not have. -/
def checkGrouping (l : Layout) : Except String Unit :=
  match l.grouping, l.presentation with
  | none, _ | _, none => .ok ()
  | some g, some p =>
    let c := Char.ofNat p
    if "defgEG%F".toList.contains c then .ok ()
    else if g == 95 && "boxX".toList.contains c then .ok ()
    else .error ("Cannot specify '" ++ String.singleton (Char.ofNat g) ++ "' with '" ++
        shownPresentation p ++ "'.")

/-- Reads the grouping of digits. -/
def readGrouping (ps : List Nat) : Except String (Option Nat × List Nat) :=
  let both : Except String (Option Nat × List Nat) := .error "Cannot specify both ',' and '_'."
  match ps with
  | 44 :: 95 :: _ | 95 :: 44 :: _ => both
  | 44 :: rest => .ok (some 44, rest)
  | 95 :: rest => .ok (some 95, rest)
  | _ => .ok (none, ps)

/-- Reads a specification for a value of the named type, whose alignment is `align` unless the
specification says otherwise. -/
def read (typeName : String) (align : Nat) (spec : List Nat) : Except String Layout := do
  let (fill, aligned, rest) : Option Nat × Option Nat × List Nat := match spec with
    | f :: a :: rest =>
      if isAlignment a then (some f, some a, rest)
      else if isAlignment f then (none, some f, a :: rest)
      else (none, none, spec)
    | [a] => if isAlignment a then (none, some a, []) else (none, none, spec)
    | [] => (none, none, [])
  let (sign, rest) := match rest with
    | p :: rest' => if p == 32 || p == 43 || p == 45 then (some p, rest') else (none, rest)
    | [] => (none, [])
  let (plainZero, rest) := match rest with
    | 122 :: rest => (true, rest)
    | _ => (false, rest)
  let (alternate, rest) := match rest with
    | 35 :: rest => (true, rest)
    | _ => (false, rest)
  let (zero, rest) := match fill, rest with
    | none, 48 :: rest => (true, rest)
    | _, _ => (false, rest)
  let (width, rest) := leadingNumber rest
  if width.any (· > largest) then .error "Too many decimal digits in format string"
  let (grouping, rest) ← readGrouping rest
  let (precision, rest) ← match rest with
    | 46 :: rest =>
      match leadingNumber rest with
      | (none, _) => .error "Format specifier missing precision"
      | (some n, rest) =>
        if n > largest then .error "Too many decimal digits in format string"
        else .ok (some n, rest)
    | _ => .ok (none, rest)
  let presentation ← match rest with
    | [] => .ok none
    | [p] => .ok (some p)
    | _ => .error ("Invalid format specifier '" ++ String.ofList (spec.map Char.ofNat) ++
        "' for object of type '" ++ typeName ++ "'")
  let l : Layout :=
    { fill := fill.getD (if zero then 48 else 32)
      align := aligned.getD (if zero && align == 62 then 61 else align)
      sign, plainZero, alternate, width, grouping, precision, presentation }
  l.checkGrouping
  return l

/-- A text in a field: aligned, with the fill around it. -/
def fit (l : Layout) (ps : List Nat) : List Nat :=
  let missing := l.width.getD 0 - ps.length
  let fill (n : Nat) := List.replicate n l.fill
  if l.align == 62 then fill missing ++ ps
  else if l.align == 94 then fill (missing / 2) ++ ps ++ fill (missing - missing / 2)
  else ps ++ fill missing

/-- Digits in groups of `size` from the right, with `sep` between groups, and zeros in front of them
until the whole has at least `least` characters; `fuel` bounds the number of groups. -/
def grouped (sep size : Nat) : (fuel least : Nat) → (ds : List Nat) → List Nat
  | 0, _, ds => ds
  | fuel + 1, least, ds =>
    let n := min size (max (max ds.length least) 1)
    let group := List.replicate (n - ds.length) 48 ++ ds.drop (ds.length - n)
    let rest := ds.take (ds.length - n)
    if rest.isEmpty && least ≤ n then group
    else grouped sep size fuel (least - n - 1) rest ++ sep :: group

/-- The parts of a number put together in a field: whether it is negative, what goes before its
digits, its digits, and what follows them. -/
def number (l : Layout) (negative : Bool) (lead digits tail : List Nat) : List Nat :=
  let sign := if negative then [45] else
    match l.sign with
    | some 43 => [43]
    | some 32 => [32]
    | _ => []
  let width := l.width.getD 0
  let least := if l.fill == 48 && l.align == 61 then width - sign.length - lead.length - tail.length
    else 0
  let digits := match l.grouping with
    | some sep =>
      let size := if sep == 95 && l.presentation.any fun p => "boxX".toList.contains (Char.ofNat p)
        then 4 else 3
      if digits.isEmpty then digits else grouped sep size (digits.length + least + 1) least digits
    | none => List.replicate (least - digits.length) 48 ++ digits
  let body := digits ++ tail
  if l.align == 61 then
    let missing := width - sign.length - lead.length - body.length
    sign ++ lead ++ List.replicate missing l.fill ++ body
  else l.fit (sign ++ lead ++ body)

end Layout

end GuestBridge
