/-!
# Guest text

A string of the guest language is a sequence of code points in which surrogates may stand alone,
so it is wider than a host `String`. This module holds the type `Text`, the two directions between
it and host strings, and the reading used for diagnostics.

## Main statements

* `Text.toString?_ofString` — every host string survives the trip to the guest and back;
* `Text.lossy_ofString` — the diagnostic reading agrees with the exact one where that is defined.
-/

namespace GuestBridge

/-- A guest string: its code points in order, surrogates allowed. -/
structure Text where
  points : List Nat
  deriving DecidableEq, Inhabited, Repr

namespace Text

/-- Whether a code point is a surrogate, which no host character is. -/
def isSurrogate (p : Nat) : Bool :=
  0xD800 ≤ p && p ≤ 0xDFFF

/-- The empty text. -/
def empty : Text := ⟨[]⟩

/-- The text with the characters of a host string. -/
def ofString (s : String) : Text :=
  ⟨s.toList.map Char.toNat⟩

instance : Coe String Text := ⟨ofString⟩

/-- The number of code points. -/
def length (t : Text) : Nat := t.points.length

/-- Concatenation. -/
def append (a b : Text) : Text := ⟨a.points ++ b.points⟩

instance : Append Text := ⟨append⟩

/-- The host character of a code point, if there is one. -/
def charOf? (p : Nat) : Option Char :=
  if h : p.isValidChar then some (Char.ofNatAux p h) else none

/-- The host string with the same characters; `none` if a surrogate stands in the text. -/
def toString? (t : Text) : Option String :=
  (t.points.mapM charOf?).map String.ofList

/-- The host string for diagnostics: each surrogate reads as three replacement characters, one for
every byte of its three-byte form. -/
def lossy (t : Text) : String :=
  String.ofList <| t.points.flatMap fun p =>
    match charOf? p with
    | some c => [c]
    | none => List.replicate 3 (Char.ofNat 0xFFFD)

/-- The position of the first surrogate. -/
def firstSurrogate? (t : Text) : Option Nat :=
  t.points.findIdx? isSurrogate

/-- A hash of the code points. -/
def hash (t : Text) : Nat :=
  t.points.foldl (fun h p => (h * 1000003 + p + 1) % 2305843009213693951) 7

/-- Joins texts with a separator between neighbours. -/
def intercalate (sep : Text) (ts : List Text) : Text :=
  ⟨sep.points.intercalate (ts.map points)⟩

/-! ### The two directions agree -/

theorem charOf?_toNat (c : Char) : charOf? c.toNat = some c := by
  unfold charOf?
  exact dif_pos c.valid

theorem mapM_charOf?_toNat (cs : List Char) : cs.mapM (charOf? ∘ Char.toNat) = some cs := by
  induction cs with
  | nil => rfl
  | cons c cs ih => simp [List.mapM_cons, charOf?_toNat, ih]

/-- Every host string survives the trip to the guest and back. -/
@[simp] theorem toString?_ofString (s : String) : (ofString s).toString? = some s := by
  simp [toString?, ofString, mapM_charOf?_toNat]

theorem toNat_of_charOf? {p : Nat} {c : Char} (h : charOf? p = some c) : c.toNat = p := by
  by_cases valid : p.isValidChar
  · rw [charOf?, dif_pos valid] at h
    cases h
    rfl
  · rw [charOf?, dif_neg valid] at h
    cases h

theorem map_toNat_of_mapM {ps : List Nat} {cs : List Char} (h : ps.mapM charOf? = some cs) :
    cs.map Char.toNat = ps := by
  induction ps generalizing cs with
  | nil =>
      cases h
      rfl
  | cons p ps ih =>
      rw [List.mapM_cons] at h
      obtain ⟨c, first, h⟩ := Option.bind_eq_some_iff.mp h
      obtain ⟨cs', rest, h⟩ := Option.bind_eq_some_iff.mp h
      cases h
      rw [List.map_cons, toNat_of_charOf? first, ih rest]

/-- A text that is read as a host string is the text of that string. -/
theorem ofString_of_toString? {t : Text} {s : String} (h : t.toString? = some s) : ofString s = t := by
  obtain ⟨cs, read, rfl⟩ := Option.map_eq_some_iff.mp h
  rw [ofString, String.toList_ofList, map_toNat_of_mapM read]

/-- The diagnostic reading agrees with the exact one where that is defined. -/
@[simp] theorem lossy_ofString (s : String) : (ofString s).lossy = s := by
  simp [lossy, ofString, List.flatMap_map, charOf?_toNat]

end Text

end GuestBridge
