import GuestBridge.Text.Points

/-!
# Encodings of texts

How texts become bytes and bytes texts. Faults tell where they are and why; how a fault is treated
is left to a policy, which either refuses it or puts something in its place.
-/

namespace GuestBridge.Text

/-- The order of the bytes of a unit. -/
inductive ByteOrder
  | little | big
  deriving DecidableEq, Repr, Inhabited

/-- Encodings. Those with an optional order mark the order at the front if none is given. -/
inductive Encoding
  | ascii
  | latin
  | utf8
  /-- With a mark at the front. -/
  | utf8Marked
  | utf16 (order : Option ByteOrder)
  | utf32 (order : Option ByteOrder)
  deriving DecidableEq, Repr, Inhabited

namespace Encoding

/-- The name of an encoding in faults. -/
def name : Encoding → String
  | ascii => "ascii"
  | latin => "latin-1"
  | utf8 | utf8Marked => "utf-8"
  | utf16 none => "utf-16"
  | utf16 (some .little) => "utf-16-le"
  | utf16 (some .big) => "utf-16-be"
  | utf32 none => "utf-32"
  | utf32 (some .little) => "utf-32-le"
  | utf32 (some .big) => "utf-32-be"

/-- The encoding of a name, whatever its case and separators. -/
def ofName? (s : String) : Option Encoding :=
  let plain := String.ofList <| s.toList.map fun c =>
    if c == '-' || c == ' ' then '_' else c.toLower
  match plain with
  | "utf_8" | "utf8" | "u8" | "utf" | "cp65001" | "utf8_ucs2" | "utf8_ucs4" => some utf8
  | "utf_8_sig" | "utf8_sig" => some utf8Marked
  | "ascii" | "us_ascii" | "646" | "ansi_x3.4_1968" | "iso646_us" | "us" => some ascii
  | "latin_1" | "latin1" | "latin" | "iso_8859_1" | "iso8859_1" | "iso8859" | "8859" | "l1"
  | "cp819" => some latin
  | "utf_16" | "utf16" | "u16" => some (utf16 none)
  | "utf_16_le" | "utf_16le" => some (utf16 (some .little))
  | "utf_16_be" | "utf_16be" => some (utf16 (some .big))
  | "utf_32" | "utf32" | "u32" => some (utf32 none)
  | "utf_32_le" | "utf_32le" => some (utf32 (some .little))
  | "utf_32_be" | "utf_32be" => some (utf32 (some .big))
  | _ => none

/-- Why a code point has no bytes. -/
def unencodable : Encoding → String
  | ascii => "ordinal not in range(128)"
  | latin => "ordinal not in range(256)"
  | _ => "surrogates not allowed"

/-- A unit of `n` bytes in an order. -/
def unit (order : Option ByteOrder) (n value : Nat) : List UInt8 :=
  let little := (List.range n).map fun i => (value / Nat.pow 256 i % 256).toUInt8
  if order == some .big then little.reverse else little

/-- The bytes of a code point in the eight-bit form, surrogates included. -/
def eightBit (p : Nat) : List UInt8 :=
  if p < 0x80 then [p.toUInt8]
  else if p < 0x800 then [(0xC0 + p / 64).toUInt8, (0x80 + p % 64).toUInt8]
  else if p < 0x10000 then
    [(0xE0 + p / 4096).toUInt8, (0x80 + p / 64 % 64).toUInt8, (0x80 + p % 64).toUInt8]
  else [(0xF0 + p / 262144).toUInt8, (0x80 + p / 4096 % 64).toUInt8, (0x80 + p / 64 % 64).toUInt8,
    (0x80 + p % 64).toUInt8]

/-- The bytes of a code point, if it has any. -/
def bytes? (e : Encoding) (p : Nat) : Option (List UInt8) :=
  match e with
  | ascii => if p < 128 then some [p.toUInt8] else none
  | latin => if p < 256 then some [p.toUInt8] else none
  | utf8 | utf8Marked => if isSurrogate p then none else some (eightBit p)
  | utf16 order =>
    if isSurrogate p then none
    else if p < 0x10000 then some (unit order 2 p)
    else some (unit order 2 (0xD7C0 + p / 1024) ++ unit order 2 (0xDC00 + p % 1024))
  | utf32 order => if isSurrogate p then none else some (unit order 4 p)

/-- The bytes in front of an encoded text. -/
def mark : Encoding → List UInt8
  | utf8Marked => [0xEF, 0xBB, 0xBF]
  | utf16 none => [0xFF, 0xFE]
  | utf32 none => [0xFF, 0xFE, 0, 0]
  | _ => []

end Encoding

/-- A place that cannot be encoded or decoded, and why. -/
structure CodingFault where
  start : Nat
  stop : Nat
  reason : String
  deriving DecidableEq, Repr, Inhabited

/-- What is put in the place of code points that have no bytes: bytes, or none if they are
refused. -/
abbrev EncodePolicy := List Nat → Option (List UInt8)

/-- What is put in the place of bytes that stand for nothing: code points, or none if they are
refused. -/
abbrev DecodePolicy := List UInt8 → Option (List Nat)

/-- Encodes code points, the first of them at `place`; `fuel` bounds the number of steps. -/
def encodePoints (e : Encoding) (policy : EncodePolicy) : (fuel place : Nat) → List Nat →
    Except CodingFault (List UInt8)
  | 0, _, _ => .ok []
  | _ + 1, _, [] => .ok []
  | fuel + 1, place, p :: ps =>
    match e.bytes? p with
    | some bs => do return bs ++ (← encodePoints e policy fuel (place + 1) ps)
    | none =>
      let run := (p :: ps).takeWhile fun q => (e.bytes? q).isNone
      match policy run with
      | some bs => do
        return bs ++ (← encodePoints e policy fuel (place + run.length) ((p :: ps).drop run.length))
      | none => .error ⟨place, place + run.length, e.unencodable⟩

/-- The bytes of a text. -/
def encode (e : Encoding) (policy : EncodePolicy) (t : Text) : Except CodingFault (List UInt8) := do
  return e.mark ++ (← encodePoints e policy (t.length + 1) 0 t.points)

/-! ### Decoding -/

/-- What stands at the front of bytes: a code point and the number of its bytes, or the number of
bytes that stand for nothing and the reason. -/
inductive Decoded
  | point (p length : Nat)
  | fault (length : Nat) (reason : String)
  deriving Repr, Inhabited

/-- Whether a byte continues a sequence. -/
def continues (b : UInt8) : Bool := 0x80 ≤ b && b < 0xC0

/-- Whether a byte may be the second of a sequence that starts with the given one. -/
def followsFirst (first b : UInt8) : Bool :=
  continues b &&
    (if first == 0xE0 then 0xA0 ≤ b
     else if first == 0xED then b < 0xA0
     else if first == 0xF0 then 0x90 ≤ b
     else if first == 0xF4 then b < 0x90
     else true)

/-- Reads a sequence of the eight-bit form, whose first byte calls for `length` bytes. -/
def decodeSequence (length : Nat) (first : UInt8) (rest : List UInt8) : Decoded :=
  let good := match rest with
    | [] => []
    | b :: bs =>
      if followsFirst first b then b :: (bs.take (length - 2)).takeWhile continues else []
  if good.length + 1 == length then
    let lead := first.toNat % (Nat.pow 2 (7 - length))
    .point (good.foldl (fun n b => n * 64 + b.toNat % 64) lead) length
  else if good.length == rest.length then .fault (good.length + 1) "unexpected end of data"
  else .fault (good.length + 1) "invalid continuation byte"

/-- Reads the front of bytes in the eight-bit form. -/
def decodeEightBit (b : UInt8) (rest : List UInt8) : Decoded :=
  if b < 0x80 then .point b.toNat 1
  else if b < 0xC2 || 0xF5 ≤ b then .fault 1 "invalid start byte"
  else decodeSequence (if b < 0xE0 then 2 else if b < 0xF0 then 3 else 4) b rest

/-- The number that bytes stand for in an order. -/
def unitValue (order : ByteOrder) (bs : List UInt8) : Nat :=
  (if order == .big then bs else bs.reverse).foldl (fun n b => n * 256 + b.toNat) 0

/-- Reads the front of bytes in units of two. -/
def decodeSixteenBit (order : ByteOrder) (bs : List UInt8) : Decoded :=
  if bs.length < 2 then .fault bs.length "truncated data"
  else
    let high := unitValue order (bs.take 2)
    if 0xD800 ≤ high && high < 0xDC00 then
      if bs.length < 4 then .fault bs.length "unexpected end of data"
      else
        let low := unitValue order ((bs.drop 2).take 2)
        if 0xDC00 ≤ low && low < 0xE000 then
          .point (0x10000 + (high - 0xD800) * 1024 + (low - 0xDC00)) 4
        else .fault 2 "illegal UTF-16 surrogate"
    else if 0xDC00 ≤ high && high < 0xE000 then .fault 2 "illegal encoding"
    else .point high 2

/-- Reads the front of bytes in units of four. -/
def decodeThirtyTwoBit (order : ByteOrder) (bs : List UInt8) : Decoded :=
  if bs.length < 4 then .fault bs.length "truncated data"
  else
    let p := unitValue order (bs.take 4)
    if isSurrogate p then .fault 4 "code point in surrogate code point range(0xd800, 0xe000)"
    else if p ≥ 0x110000 then .fault 4 "code point not in range(0x110000)"
    else .point p 4

/-- Reads the front of bytes. -/
def decodeFront (e : Encoding) (b : UInt8) (rest : List UInt8) : Decoded :=
  match e with
  | .ascii => if b < 128 then .point b.toNat 1 else .fault 1 "ordinal not in range(128)"
  | .latin => .point b.toNat 1
  | .utf8 | .utf8Marked => decodeEightBit b rest
  | .utf16 order => decodeSixteenBit (order.getD .little) (b :: rest)
  | .utf32 order => decodeThirtyTwoBit (order.getD .little) (b :: rest)

/-- Decodes bytes, the first of them at `place`; `fuel` bounds the number of steps. -/
def decodeBytesFrom (e : Encoding) (policy : DecodePolicy) : (fuel place : Nat) → List UInt8 →
    Except CodingFault (List Nat)
  | 0, _, _ => .ok []
  | _ + 1, _, [] => .ok []
  | fuel + 1, place, b :: rest =>
    let bs := b :: rest
    match decodeFront e b rest with
    | .point p n => do return p :: (← decodeBytesFrom e policy fuel (place + n) (bs.drop n))
    | .fault n reason =>
      match policy (bs.take n) with
      | some ps => do return ps ++ (← decodeBytesFrom e policy fuel (place + n) (bs.drop n))
      | none => .error ⟨place, place + n, reason⟩

/-- The encoding and the rest of bytes after a mark at their front. -/
def unmarked (e : Encoding) (bs : List UInt8) : Encoding × List UInt8 :=
  match e with
  | .utf8Marked => (.utf8, if [0xEF, 0xBB, 0xBF].isPrefixOf bs then bs.drop 3 else bs)
  | .utf16 none =>
    if [0xFF, 0xFE].isPrefixOf bs then (.utf16 (some .little), bs.drop 2)
    else if [0xFE, 0xFF].isPrefixOf bs then (.utf16 (some .big), bs.drop 2)
    else (e, bs)
  | .utf32 none =>
    if [0xFF, 0xFE, 0, 0].isPrefixOf bs then (.utf32 (some .little), bs.drop 4)
    else if [0, 0, 0xFE, 0xFF].isPrefixOf bs then (.utf32 (some .big), bs.drop 4)
    else (e, bs)
  | _ => (e, bs)

/-- The text of bytes. -/
def decode (e : Encoding) (policy : DecodePolicy) (bs : List UInt8) : Except CodingFault Text := do
  let (e', rest) := unmarked e bs
  return ⟨← decodeBytesFrom e' policy (bs.length + 1) (bs.length - rest.length) rest⟩

/-! ### Policies -/

/-- A code point in hexadecimal digits, as escapes write it. -/
def escapedPoint (p : Nat) : List Char :=
  let padded (width : Nat) : List Char :=
    let ds := Nat.toDigits 16 p
    List.replicate (width - ds.length) '0' ++ ds
  if p < 0x100 then '\\' :: 'x' :: padded 2
  else if p < 0x10000 then '\\' :: 'u' :: padded 4
  else '\\' :: 'U' :: padded 8

/-- Characters of the basic alphabet in an encoding. -/
def plainBytes (e : Encoding) (cs : List Char) : List UInt8 :=
  cs.flatMap fun c => (e.bytes? c.toNat).getD []

/-- The policy of a name for encoding, if there is one. -/
def encodePolicy? (e : Encoding) : String → Option EncodePolicy
  | "strict" => some fun _ => none
  | "ignore" => some fun _ => some []
  | "replace" => some fun ps => some (plainBytes e (ps.map fun _ => '?'))
  | "backslashreplace" => some fun ps => some (plainBytes e (ps.flatMap escapedPoint))
  | "xmlcharrefreplace" => some fun ps =>
    some (plainBytes e (ps.flatMap fun p => '&' :: '#' :: Nat.toDigits 10 p ++ [';']))
  | "surrogateescape" => some fun ps =>
    ps.mapM fun p => if 0xDC80 ≤ p && p < 0xDD00 then some (p - 0xDC00).toUInt8 else none
  | "surrogatepass" => some fun ps =>
    match e with
    | .utf8 | .utf8Marked =>
      if ps.all isSurrogate then some (ps.flatMap Encoding.eightBit) else none
    | .utf16 order => some (ps.flatMap (Encoding.unit order 2))
    | .utf32 order => some (ps.flatMap (Encoding.unit order 4))
    | _ => none
  | _ => none

/-- The policy of a name for decoding, if there is one. -/
def decodePolicy? : String → Option DecodePolicy
  | "strict" | "xmlcharrefreplace" | "surrogatepass" => some fun _ => none
  | "ignore" => some fun _ => some []
  | "replace" => some fun _ => some [0xFFFD]
  | "backslashreplace" => some fun bs =>
    some (bs.flatMap fun b => (escapedPoint b.toNat).map Char.toNat)
  | "surrogateescape" => some fun bs =>
    if bs.all (128 ≤ ·) then some (bs.map fun b => 0xDC00 + b.toNat) else none
  | _ => none

end GuestBridge.Text
