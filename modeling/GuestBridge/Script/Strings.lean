import GuestBridge.Script.Parse
import GuestBridge.Script.Lexer

/-!
# The contents of string literals

Decoding of escapes, and the division of formatted strings into text and replacement fields. A field
may have a format specification, which is divided in the same way; fields are nested at most one
level deep. A fault in a formatted string stands among its parts, because the expressions before it
are read first.
-/

namespace GuestBridge.Script

/-! ### Escapes -/

/-- Up to `limit` digits of a base at the front: their value, how many there were, and the rest. -/
def leadingDigits (base limit : Nat) (cs : List Char) : Nat × Nat × List Char :=
  let isDigit (c : Char) :=
    (c.isDigit || ('a' ≤ c && c ≤ 'f') || ('A' ≤ c && c ≤ 'F')) && digitValue c < base
  let ds := (cs.take limit).takeWhile isDigit
  (ofDigits base ds, ds.length, cs.drop ds.length)

/-- The single-character escapes that strings and byte strings share. -/
def simpleEscape? : Char → Option Nat
  | '\\' => some 92
  | '\'' => some 39
  | '"' => some 34
  | 'a' => some 7
  | 'b' => some 8
  | 'f' => some 12
  | 'n' => some 10
  | 'r' => some 13
  | 't' => some 9
  | 'v' => some 11
  | _ => none

/-- A malformed escape: where it starts, how many characters of it were read, and what is wrong. -/
structure EscapeFault where
  start : Nat
  length : Nat
  reason : String
  deriving Repr, Inhabited

/-- How far a character moves the positions that malformed escapes are reported by: characters
beyond the basic alphabet count as their longest escape. -/
def escapeWidth (c : Char) : Nat := if c.toNat < 128 then 1 else 10

/-- Decodes the escapes of a literal into code points; `wide` allows the escapes for code points
beyond a byte. An escape that is not known stands for itself. -/
def unescape (wide : Bool) : (fuel position : Nat) → List Char → Except EscapeFault (List Nat)
  | 0, _, _ => .ok []
  | _ + 1, _, [] => .ok []
  | fuel + 1, i, '\\' :: c :: cs =>
    let sized (width : Nat) (reason : String) : Except EscapeFault (List Nat) := do
      let (n, k, rest) := leadingDigits 16 width cs
      if k < width then throw ⟨i, k + 2, reason⟩
      if n ≥ 0x110000 then throw ⟨i, k + 2, "illegal Unicode character"⟩
      return n :: (← unescape wide fuel (i + k + 2) rest)
    if c == '\n' then unescape wide fuel (i + 2) cs
    else match simpleEscape? c with
      | some p => do return p :: (← unescape wide fuel (i + 2) cs)
      | none =>
        if '0' ≤ c && c ≤ '7' then do
          let (n, k, rest) := leadingDigits 8 3 (c :: cs)
          return (if wide then n else n % 256) :: (← unescape wide fuel (i + k + 1) rest)
        else if c == 'x' then sized 2 "truncated \\xXX escape"
        else if wide && c == 'u' then sized 4 "truncated \\uXXXX escape"
        else if wide && c == 'U' then sized 8 "truncated \\UXXXXXXXX escape"
        else if wide && c == 'N' then
          match cs with
          | '\x7b' :: r =>
            let name := r.takeWhile (· != '\x7d')
            let ended := name.length < r.length
            if ended && !name.isEmpty then
              .error ⟨i, name.length + 4, "unknown Unicode character name"⟩
            else .error ⟨i, name.length + 3, "malformed \\N character escape"⟩
          | _ => .error ⟨i, 2, "malformed \\N character escape"⟩
        else do return 92 :: c.toNat :: (← unescape wide fuel (i + 1 + escapeWidth c) cs)
  | fuel + 1, i, c :: cs => do
    return c.toNat :: (← unescape wide fuel (i + escapeWidth c) cs)

/-- The message about a malformed escape. -/
def EscapeFault.message (wide : Bool) (f : EscapeFault) : String :=
  if wide then
    "(unicode error) 'unicodeescape' codec can't decode bytes in position " ++ toString f.start ++
      "-" ++ toString (f.start + f.length - 1) ++ ": " ++ f.reason
  else "(value error) invalid \\x escape at position " ++ toString f.start

/-- The code points that the body of a literal stands for. -/
def decodeBody (kind : StringKind) (body : List Char) : Parse (List Nat) := do
  if kind.bytes && body.any (·.toNat ≥ 128) then
    Parse.fail "bytes can only contain ASCII literal characters" (← Parse.line)
  else if kind.raw then return body.map Char.toNat
  else
    match unescape (!kind.bytes) (body.length + 1) 0 body with
    | .ok ps => return ps
    | .error f => Parse.fail (f.message (!kind.bytes)) (← Parse.line)

/-! ### Formatted strings -/

/-- A part of a formatted string before its fields are parsed. -/
inductive RawPiece
  | text (body : List Char)
  /-- The text of an expression, the number of lines before it, and how its value is shown. -/
  | field (source : List Char) (lines : Nat) (conversion : Conversion) (spec : List RawPiece)
  /-- A fault that is reported when the parts before it are in order. -/
  | fault (message : String)
  deriving Repr, Inhabited

/-- Where a scan through the text of a field stands: the brackets open, innermost first, and the
quotes of the string that it is inside of. -/
structure FieldScan where
  brackets : List Char
  quote : Option (Char × Bool)

/-- The brackets that a closing one may stand for. -/
def opening? : Char → Option Char
  | ')' => some '('
  | ']' => some '['
  | '\x7d' => some '\x7b'
  | _ => none

/-- Cuts the expression of a field off the front: up to the first character outside brackets and
quotes that may follow it. Yields the text of the expression and the rest, or what is wrong. -/
def fieldText : (fuel : Nat) → FieldScan → List Char → (acc : List Char) →
    Except String (List Char × List Char)
  | 0, _, cs, acc => .ok (acc.reverse, cs)
  | fuel + 1, s, [], acc =>
    match s.quote, s.brackets with
    | some _, _ => .error "f-string: unterminated string"
    | none, b :: _ => .error ("f-string: unmatched '" ++ String.singleton b ++ "'")
    | none, [] => fieldText fuel s [] acc
  | fuel + 1, s, c :: cs, acc =>
    if c == '\\' then .error "f-string expression part cannot include a backslash"
    else match s.quote with
      | some (q, long) =>
        if c != q then fieldText fuel s cs (c :: acc)
        else if !long then fieldText fuel { s with quote := none } cs (c :: acc)
        else match cs with
          | a :: b :: rest =>
            if a == q && b == q then
              fieldText fuel { s with quote := none } rest (q :: q :: q :: acc)
            else fieldText fuel s cs (c :: acc)
          | _ => fieldText fuel s cs (c :: acc)
      | none =>
        if c == '\'' || c == '"' then
          match cs with
          | a :: b :: rest =>
            if a == c && b == c then
              fieldText fuel { s with quote := some (c, true) } rest (c :: c :: c :: acc)
            else fieldText fuel { s with quote := some (c, false) } cs (c :: acc)
          | _ => fieldText fuel { s with quote := some (c, false) } cs (c :: acc)
        else if c == '(' || c == '[' || c == '\x7b' then
          if s.brackets.length ≥ 200 then .error "f-string: too many nested parenthesis"
          else fieldText fuel { s with brackets := c :: s.brackets } cs (c :: acc)
        else if c == '#' then .error "f-string expression part cannot include '#'"
        else if s.brackets.isEmpty &&
            (c == '!' || c == ':' || c == '\x7d' || c == '=' || c == '>' || c == '<') then
          match cs with
          | '=' :: rest =>
            if c == ':' || c == '\x7d' then .ok (acc.reverse, c :: cs)
            else fieldText fuel s rest ('=' :: c :: acc)
          | _ =>
            if c == '>' || c == '<' then fieldText fuel s cs (c :: acc)
            else .ok (acc.reverse, c :: cs)
        else match opening? c, s.brackets with
          | none, _ => fieldText fuel s cs (c :: acc)
          | some _, [] => .error ("f-string: unmatched '" ++ String.singleton c ++ "'")
          | some o, b :: bs =>
            if o == b then fieldText fuel { s with brackets := bs } cs (c :: acc)
            else .error ("f-string: closing parenthesis '" ++ String.singleton c ++
              "' does not match opening parenthesis '" ++ String.singleton b ++ "'")

/-- The conversion named after an exclamation mark. -/
def conversion? : Char → Option Conversion
  | 'r' => some .repr
  | 's' => some .str
  | 'a' => some .ascii
  | _ => none

/-- Blank space inside a field. -/
def isFieldBlank (c : Char) : Bool :=
  c == ' ' || c == '\t' || c == '\n' || c == '\x0c'

/-- The text before a brace as a part, if there is any. -/
def textBefore (acc : List Char) : List RawPiece :=
  if acc.isEmpty then [] else [.text acc.reverse]

/-- The marks after an expression. -/
structure FieldMarks where
  /-- The text of the expression with its equals sign, if it is to be shown. -/
  shown : Option (List Char)
  conversion : Option Conversion

/-- Reads the marks after an expression: an equals sign and a conversion. -/
def fieldMarks (source rest : List Char) : Except String (FieldMarks × List Char) := do
  let unended := "f-string: expecting '\x7d'"
  let (shown, rest) ← match rest with
    | '=' :: r =>
      let blanks := r.takeWhile fun c => isFieldBlank c || c == '\x0b'
      let r := r.drop blanks.length
      if r.isEmpty then throw unended
      pure (some (source ++ '=' :: blanks), r)
    | r => pure (none, r)
  match rest with
  | ['!'] => throw unended
  | '!' :: k :: r =>
    match conversion? k with
    | some conversion => if r.isEmpty then throw unended else return (⟨shown, some conversion⟩, r)
    | none => throw "f-string: invalid conversion character: expected 's', 'r', or 'a'"
  | r => return (⟨shown, none⟩, r)

/-- Divides the body of a formatted string, or, at a deeper level, of a format specification, which
ends before a closing brace. `lines` counts the line ends passed, and `acc` is the text since the
last brace, in reverse. Yields the parts and what follows. -/
def divide (raw : Bool) : (fuel level lines : Nat) → List Char → (acc : List Char) →
    List RawPiece × List Char
  | 0, _, _, cs, _ => ([.fault "f-string: too long"], cs)
  | _ + 1, _, _, [], acc => (textBefore acc, [])
  | fuel + 1, level, lines, c :: cs, acc =>
    let lines := if c == '\n' then lines + 1 else lines
    if c == '\\' && !raw then
      match cs with
      | 'N' :: '\x7b' :: r =>
        let name := r.takeWhile (· != '\x7d')
        let r := r.drop name.length
        divide raw fuel level lines (r.drop 1)
          ((r.take 1).reverse ++ name.reverse ++ '\x7b' :: 'N' :: c :: acc)
      | '\x7b' :: _ | '\x7d' :: _ => divide raw fuel level lines cs (c :: acc)
      | d :: r => divide raw fuel level (if d == '\n' then lines + 1 else lines) r (d :: c :: acc)
      | [] => divide raw fuel level lines [] (c :: acc)
    else if c == '\x7b' then
      if level == 0 && cs.head? == some '\x7b' then
        let (ps, rest) := divide raw fuel level lines (cs.drop 1) []
        (.text (c :: acc).reverse :: ps, rest)
      else field fuel level lines cs acc
    else if c == '\x7d' then
      if level == 0 then
        match cs with
        | '\x7d' :: r =>
          let (ps, rest) := divide raw fuel level lines r []
          (.text (c :: acc).reverse :: ps, rest)
        | _ => (textBefore acc ++ [.fault "f-string: single '\x7d' is not allowed"], cs)
      else (textBefore acc, c :: cs)
    else divide raw fuel level lines cs (c :: acc)
where
  /-- A field whose opening brace is passed, and what comes after it. -/
  field (fuel level lines : Nat) (cs acc : List Char) : List RawPiece × List Char :=
    match fuel with
    | 0 => ([.fault "f-string: too long"], cs)
    | fuel + 1 =>
    let before := textBefore acc
    if level ≥ 2 then (before ++ [.fault "f-string: expressions nested too deeply"], cs)
    else
      match fieldText (cs.length + 2) ⟨[], none⟩ cs [] with
      | .error m => (before ++ [.fault m], cs)
      | .ok (_, []) => (before ++ [.fault "f-string: expecting '\x7d'"], [])
      | .ok (source, rest) =>
        if source.all isFieldBlank then
          (before ++ [.fault "f-string: empty expression not allowed"], rest)
        else
          -- what is wrong after the expression is reported when the expression itself is in order
          let broken (m : String) : List RawPiece × List Char :=
            (before ++ [.field source lines .plain [], .fault m], rest)
          match fieldMarks source rest with
          | .error m => broken m
          | .ok (marks, rest) =>
            let inside := lines + source.count '\n'
            let (spec, hasSpec, rest) := match rest with
              | ':' :: r => let (ps, r) := divide raw fuel (level + 1) inside r []; (ps, true, r)
              | r => ([], false, r)
            let conversion := marks.conversion.getD
              (if marks.shown.isSome && !hasSpec then .repr else .plain)
            let label := (marks.shown.map fun t => [RawPiece.text t]).getD []
            match rest with
            | '\x7d' :: r =>
              let (ps, rest) := divide raw fuel level inside r []
              (before ++ label ++ .field source lines conversion spec :: ps, rest)
            | _ =>
              (before ++ [.field source lines conversion spec,
                .fault "f-string: expecting '\x7d'"], rest)

end GuestBridge.Script
