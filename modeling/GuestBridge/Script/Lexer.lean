import GuestBridge.Number.Binary
import GuestBridge.Script.Syntax
import GuestBridge.Text.Compatibility
import GuestBridge.Text.Quoted

/-!
# Cutting scripts into tokens

`Script.tokens` cuts the text of a script into lexemes. Indentation becomes `indent` and `dedent`
tokens; line ends inside brackets, blank lines and comments leave no trace.
-/

namespace GuestBridge.Script

/-- Whether a character may open an identifier as far as cutting is concerned: letters, underscore
and everything beyond the basic alphabet. -/
def opensName (c : Char) : Bool :=
  c.isAlpha || c == '_' || c.toNat ≥ 128

/-- Whether a character continues an identifier as far as cutting is concerned. -/
def continuesName (c : Char) : Bool :=
  opensName c || c.isDigit

/-- A refusal about the given line. -/
def refuse (message : String) (line : Nat) : Failure := ⟨.grammar, message, line, .line, none⟩

/-- The text `U+XXXX` of a code point. -/
def codePointLabel (p : Nat) : String :=
  let ds := (Nat.toDigits 16 p).map Char.toUpper
  "U+" ++ String.ofList (List.replicate (4 - ds.length) '0' ++ ds)

/-- The refusal of a character that no token may hold. -/
def invalidCharacter (c : Char) (line : Nat) : Failure :=
  if Text.isPrintable c.toNat then
    refuse ("invalid character '" ++ String.singleton c ++ "' (" ++ codePointLabel c.toNat ++ ")")
      line
  else refuse ("invalid non-printable character " ++ codePointLabel c.toNat) line

/-- The first character that keeps `cs` from being an identifier. -/
def invalidInName? : List Char → Option Char
  | [] => none
  | c :: cs =>
    if !Text.isIdentifierStart c.toNat then some c
    else cs.find? fun d => !Text.isIdentifierContinue d.toNat

/-- The token of a name; spellings that mean the same give the same token. -/
def nameToken (word : List Char) : Token :=
  .name (String.ofList ((Text.normalised (word.map Char.toNat)).map Char.ofNat))

/-! ### Numbers -/

/-- The longest run of characters in a class, single underscores between them allowed; underscores
are dropped. -/
def digitRun (isDigit : Char → Bool) : List Char → List Char × List Char
  | '_' :: c :: cs =>
    if isDigit c then
      let (ds, rest) := digitRun isDigit cs
      (c :: ds, rest)
    else ([], '_' :: c :: cs)
  | c :: cs =>
    if isDigit c then
      let (ds, rest) := digitRun isDigit cs
      (c :: ds, rest)
    else ([], c :: cs)
  | [] => ([], [])

/-- The value of a digit to a base up to sixteen. -/
def digitValue (c : Char) : Nat :=
  if c.isDigit then c.toNat - 48
  else if 'a' ≤ c && c ≤ 'z' then c.toNat - 87
  else c.toNat - 55

/-- The number written by digits to a base. -/
def ofDigits (base : Nat) (ds : List Char) : Nat :=
  ds.foldl (fun n d => n * base + digitValue d) 0

/-- The pattern of the decimal `mantissa · 10^exponent`, infinite when too large. -/
def decimalBits (mantissa : Nat) (exponent : Int) : Nat :=
  if mantissa == 0 then 0
  else if exponent > 400 then Number.binary64.infinity
  else if exponent + (Nat.log2 mantissa + 1 : Nat) < -1100 then 0
  else
    let r :=
      if exponent ≥ 0 then
        Number.ofRatio? Number.binary64 (mantissa * Nat.pow 10 exponent.toNat) 1
      else Number.ofRatio? Number.binary64 mantissa (Nat.pow 10 (-exponent).toNat)
    r.getD Number.binary64.infinity

/-- An exponent part, if one stands at the front. -/
def exponentPart? : List Char → Option (Int × List Char)
  | e :: cs =>
    if e == 'e' || e == 'E' then
      let (negative, body) := match cs with
        | '-' :: r => (true, r)
        | '+' :: r => (false, r)
        | r => (false, r)
      let (ds, rest) := digitRun Char.isDigit body
      if ds.isEmpty then none
      else some (if negative then -(ofDigits 10 ds : Int) else ofDigits 10 ds, rest)
    else none
  | [] => none

/-- Whether one of the words that may follow a number directly stands at the front. -/
def wordAfterNumber (cs : List Char) : Bool :=
  ["and", "else", "for", "if", "in", "is", "or", "not"].any fun w => w.toList.isPrefixOf cs

/-- What may not follow a number of the named kind directly: anything that continues a name. -/
def checkNumberEnd (kind : String) (line : Nat) (t : Token) (rest : List Char) :
    Token × List Char :=
  if rest.head?.any continuesName && !wordAfterNumber rest then
    (.invalid (refuse ("invalid " ++ kind ++ " literal") line), [])
  else (t, rest)

/-- The digits of a number to a base other than ten, after its mark. -/
def basedNumber (base : Nat) (kind : String) (line : Nat) (cs : List Char) : Token × List Char :=
  let isDigit (c : Char) := (c.isDigit || (base == 16 && (('a' ≤ c && c ≤ 'f') ||
    ('A' ≤ c && c ≤ 'F')))) && digitValue c < base
  let (ds, rest) := digitRun isDigit ('_' :: match cs with | '_' :: r => r | r => r)
  let bad (m : String) : Token × List Char := (.invalid (refuse m line), [])
  let wrongDigit (c : Char) : Token × List Char :=
    bad ("invalid digit '" ++ String.singleton c ++ "' in " ++ kind ++ " literal")
  match ds, rest with
  | [], '_' :: c :: _ =>
    if c.isDigit && base != 16 then wrongDigit c else bad ("invalid " ++ kind ++ " literal")
  | [], _ => bad ("invalid " ++ kind ++ " literal")
  | _, '_' :: c :: _ =>
    if c.isDigit && base != 16 then wrongDigit c else bad ("invalid " ++ kind ++ " literal")
  | _, c :: _ =>
    if c.isDigit then wrongDigit c
    else checkNumberEnd kind line (.int (ofDigits base ds) 0) rest
  | _, [] => (.int (ofDigits base ds) 0, [])

/-- A number and what follows it; the front is a digit, or a point before a digit. -/
def number (cs : List Char) (line : Nat) : Token × List Char :=
  let bad : Token × List Char := (.invalid (refuse "invalid decimal literal" line), [])
  match cs with
  | '0' :: 'x' :: r | '0' :: 'X' :: r => basedNumber 16 "hexadecimal" line r
  | '0' :: 'o' :: r | '0' :: 'O' :: r => basedNumber 8 "octal" line r
  | '0' :: 'b' :: r | '0' :: 'B' :: r => basedNumber 2 "binary" line r
  | _ =>
    let (whole, rest) := digitRun Char.isDigit cs
    let (fraction, rest, point) := match rest with
      | '.' :: '_' :: r => (([] : List Char), '_' :: r, true)
      | '.' :: r => let (f, r) := digitRun Char.isDigit r; (f, r, true)
      | r => ([], r, false)
    if rest.head? == some '_' then bad
    else
      let (exponent, rest, scaled) := match exponentPart? rest with
        | some (e, r) => (e, r, true)
        | none => ((0 : Int), rest, false)
      let bits := decimalBits (ofDigits 10 (whole ++ fraction)) (exponent - fraction.length)
      match rest with
      | 'e' :: '+' :: _ | 'e' :: '-' :: _ | 'E' :: '+' :: _ | 'E' :: '-' :: _ => bad
      | 'j' :: r | 'J' :: r => checkNumberEnd "imaginary" line (.imaginary bits) r
      | _ =>
        if scaled && rest.head? == some '_' then bad
        else if point || scaled then checkNumberEnd "decimal" line (.float bits) rest
        else if whole.head? == some '0' && whole.any (· != '0') then
          (.invalid (refuse ("leading zeros in decimal integer literals are not permitted; " ++
            "use an 0o prefix for octal integers") line), [])
        else checkNumberEnd "decimal" line (.int (ofDigits 10 whole) whole.length) rest

/-! ### Strings -/

/-- The kind named by the letters before a quote, if they name one. -/
def stringKind? (letters : List Char) : Option StringKind :=
  match letters.map Char.toLower with
  | [] | ['u'] => some ⟨false, false, false⟩
  | ['r'] => some ⟨false, true, false⟩
  | ['b'] => some ⟨true, false, false⟩
  | ['f'] => some ⟨false, false, true⟩
  | ['r', 'b'] | ['b', 'r'] => some ⟨true, true, false⟩
  | ['r', 'f'] | ['f', 'r'] => some ⟨false, true, true⟩
  | _ => none

/-- Reads the body of a string enclosed by `quote`, thrice if `long`. Yields the body, what follows
and the number of line ends passed; `none` for the rest if the string does not end. -/
def stringBody (quote : Char) (long : Bool) :
    List Char → (body : List Char) → (lines : Nat) → List Char × Option (List Char) × Nat
  | [], body, lines => (body.reverse, none, lines)
  | '\\' :: '\n' :: cs, body, lines => stringBody quote long cs ('\n' :: '\\' :: body) (lines + 1)
  | '\\' :: c :: cs, body, lines => stringBody quote long cs (c :: '\\' :: body) lines
  | a :: b :: c :: cs, body, lines =>
    if a == quote && !long then (body.reverse, some (b :: c :: cs), lines)
    else if a == quote && b == quote && c == quote then (body.reverse, some cs, lines)
    else if a == '\n' then
      if long then stringBody quote long (b :: c :: cs) (a :: body) (lines + 1)
      else (body.reverse, none, lines)
    else stringBody quote long (b :: c :: cs) (a :: body) lines
  | a :: cs, body, lines =>
    if a == quote && !long then (body.reverse, some cs, lines)
    else if a == '\n' then
      if long then stringBody quote long cs (a :: body) (lines + 1)
      else (body.reverse, none, lines)
    else stringBody quote long cs (a :: body) lines

/-- A string token whose opening quote stands at the front, what follows, and the number of line
ends passed. -/
def stringToken (kind : StringKind) (quote : Char) (cs : List Char) (line : Nat) :
    Token × List Char × Nat :=
  let (long, body) := match cs with
    | a :: b :: rest => if a == quote && b == quote then (true, rest) else (false, cs)
    | _ => (false, cs)
  let (body, rest, lines) := stringBody quote long body [] 0
  match rest with
  | some rest => (.str kind body, rest, lines)
  | none =>
    let detected := toString (line + lines - if body.getLast? == some '\n' then 1 else 0)
    let what := if long then "unterminated triple-quoted string literal (detected at line "
      else "unterminated string literal (detected at line "
    (.invalid (refuse (what ++ detected ++ ")") line), [], lines)

/-! ### Operators -/

/-- The operators, longest first. -/
def operators : List String :=
  ["**=", "//=", ">>=", "<<=", "...", "!=", "->", "+=", "-=", "*=", "/=", "%=", "&=", "|=", "^=",
   "@=", "==", "<=", ">=", "<<", ">>", "**", "//", ":=", "+", "-", "*", "/", "%", "&", "|", "^",
   "~", "<", ">", "(", ")", "[", "]", "\x7b", "\x7d", ",", ":", ".", ";", "@", "="]

/-- The operator at the front, if there is one, and what follows it. -/
def operator? (cs : List Char) : Option (String × List Char) :=
  (operators.find? fun o => o.toList.isPrefixOf cs).map fun o => (o, cs.drop o.length)

/-- The closing bracket of an opening one. -/
def closing? : String → Option Char
  | "(" => some ')'
  | "[" => some ']'
  | "\x7b" => some '\x7d'
  | _ => none

/-! ### The scan -/

/-- Where a scan stands. -/
structure Scan where
  rest : List Char
  line : Nat
  /-- Open brackets, innermost first: the bracket, what closes it, its line, and the text from it
  on. -/
  brackets : List (Char × Char × Nat × List Char)
  /-- Indentation levels, innermost first: the column, and the column if a tab were one blank. -/
  levels : List (Nat × Nat)
  /-- Whether the next character is the first of its line. -/
  atStart : Bool
  /-- Whether a token stands on the current line already. -/
  inLine : Bool

/-- Measures the blank space at the front of a line: the column reached, the column if a tab were
one blank, and what follows. -/
def indentation : List Char → (col narrow : Nat) → (Nat × Nat) × List Char
  | ' ' :: cs, col, narrow => indentation cs (col + 1) (narrow + 1)
  | '\t' :: cs, col, narrow => indentation cs ((col / 8 + 1) * 8) (narrow + 1)
  | '\x0c' :: cs, _, _ => indentation cs 0 0
  | cs, col, narrow => ((col, narrow), cs)

/-- The levels that stay when a line starts at column `col`, and the number of levels left. -/
def dedents (col : Nat) : List (Nat × Nat) → Nat × List (Nat × Nat)
  | l :: ls => if col < l.1 then let (n, ls) := dedents col ls; (n + 1, ls) else (0, l :: ls)
  | [] => (0, [])

/-- The tokens at the end of the text. -/
def finish (s : Scan) (acc : List Lexeme) : List Lexeme :=
  match s.brackets with
  | (b, _, l, start) :: _ => ⟨.unclosed b l start, s.line, [], [], 0⟩ :: acc
  | [] =>
    let n := s.levels.length - 1
    ⟨.endMarker, s.line, [], [], 0⟩ :: (List.replicate n ⟨.dedent, s.line, [], [], 0⟩ ++ acc)

/-- Scans from `s`, putting lexemes on `acc`, the last one first; `fuel` bounds the number of
steps. -/
def scan : (fuel : Nat) → Scan → List Lexeme → List Lexeme
  | 0, s, acc => ⟨.endMarker, s.line, [], [], 0⟩ :: acc
  | fuel + 1, s, acc =>
    let fail (why : Failure) (stop : List Char) : List Lexeme :=
      ⟨.invalid { why with pointer := .place stop }, s.line, s.rest, stop, s.brackets.length⟩ :: acc
    if s.atStart && s.brackets.isEmpty then
      let ((col, narrow), rest) := indentation s.rest 0 0
      let comment := rest.head? == some '#'
      let rest' := if comment then rest.dropWhile (· != '\n') else rest
      match rest' with
      | '\n' :: cs => scan fuel { s with rest := cs, line := s.line + 1 } acc
      | _ =>
        if rest'.isEmpty && (comment || col == 0) then finish { s with rest := [] } acc
        else
          let top := s.levels.headD (0, 0)
          let s' := { s with rest := rest', atStart := false }
          let mixed : List Lexeme :=
            ⟨.invalid ⟨.tabs, "inconsistent use of tabs and spaces in indentation", s.line, .line,
              none⟩,
              s.line, s.rest, rest', 0⟩ :: acc
          if col > top.1 then
            if narrow ≤ top.2 then mixed
            else
              scan fuel { s' with levels := (col, narrow) :: s.levels }
                (⟨.indent, s.line, s.rest, rest', 0⟩ :: acc)
          else
            let (n, levels) := dedents col s.levels
            let here := levels.headD (0, 0)
            if here.1 != col then
              ⟨.invalid ⟨.indentation, "unindent does not match any outer indentation level",
                s.line, .line, none⟩, s.line, s.rest, rest', 0⟩ :: acc
            else if here.2 != narrow then mixed
            else
              scan fuel { s' with levels }
                (List.replicate n ⟨.dedent, s.line, rest', rest', 0⟩ ++ acc)
    else
      match s.rest with
      | [] => finish s acc
      | c :: cs =>
        if c == ' ' || c == '\t' || c == '\x0c' then scan fuel { s with rest := cs } acc
        else if c == '#' then
          scan fuel { s with rest := cs.dropWhile (· != '\n') } acc
        else if c == '\n' then
          let s' := { s with rest := cs, line := s.line + 1, atStart := true, inLine := false }
          if s.brackets.isEmpty then scan fuel s' (⟨.newline, s.line, s.rest, cs, 0⟩ :: acc)
          else scan fuel s' acc
        else if c == '\\' then
          match cs with
          | ['\n'] =>
            if s.brackets.isEmpty then fail (refuse "unexpected EOF while parsing" s.line) cs
            else finish s acc
          | '\n' :: cs => scan fuel { s with rest := cs, line := s.line + 1, atStart := false } acc
          | _ => fail (refuse "unexpected character after line continuation character" s.line) cs
        else
          let s := { s with atStart := false, inLine := true }
          if c.isDigit || (c == '.' && cs.head?.any Char.isDigit) then
            match number (c :: cs) s.line with
            | (.invalid why, _) => fail why cs
            | (t, rest) =>
              scan fuel { s with rest } (⟨t, s.line, c :: cs, rest, s.brackets.length⟩ :: acc)
          else if c == '\'' || c == '"' then
            match stringToken ⟨false, false, false⟩ c cs s.line with
            | (.invalid why, _, _) => fail why cs
            | (t, rest, n) =>
              scan fuel { s with rest, line := s.line + n }
                (⟨t, s.line, c :: cs, rest, s.brackets.length⟩ :: acc)
          else if opensName c then
            let word := (c :: cs).takeWhile continuesName
            let rest := (c :: cs).dropWhile continuesName
            match stringKind? word, rest with
            | some kind, q :: body =>
              if q == '\'' || q == '"' then
                match stringToken kind q body s.line with
                | (.invalid why, _, _) => fail why cs
                | (t, rest, n) =>
                  scan fuel { s with rest, line := s.line + n }
                    (⟨t, s.line, c :: cs, rest, s.brackets.length⟩ :: acc)
              else
                scan fuel { s with rest }
                  (⟨nameToken word, s.line, c :: cs, rest, s.brackets.length⟩ :: acc)
            | _, _ =>
              match invalidInName? word with
              | some bad =>
                fail (invalidCharacter bad s.line) (((c :: cs).dropWhile (· != bad)).drop 1)
              | none =>
                scan fuel { s with rest }
                  (⟨nameToken word, s.line, c :: cs, rest, s.brackets.length⟩ :: acc)
          else
            match operator? (c :: cs) with
            | some (o, rest) =>
              let next (level : Nat) : List Lexeme := ⟨.op o, s.line, c :: cs, rest, level⟩ :: acc
              let depth := s.brackets.length
              match closing? o with
              | some close =>
                if s.brackets.length ≥ 200 then
                  fail (refuse "too many nested parentheses" s.line) rest
                else
                  scan fuel { s with rest, brackets := (c, close, s.line, c :: cs) :: s.brackets }
                    (next (depth + 1))
              | none =>
                if c == ')' || c == ']' || c == '\x7d' then
                  match s.brackets with
                  | [] => fail (refuse ("unmatched '" ++ o ++ "'") s.line) rest
                  | (b, close, l, _) :: brackets =>
                    if close == c then scan fuel { s with rest, brackets } (next (depth - 1))
                    else
                      let place := if l == s.line then "" else " on line " ++ toString l
                      fail (refuse ("closing parenthesis '" ++ o ++
                        "' does not match opening parenthesis '" ++ String.singleton b ++ "'" ++
                        place) s.line) rest
                else scan fuel { s with rest } (next depth)
            | none =>
              if Text.isPrintable c.toNat then
                ⟨.invalid { refuse "invalid syntax" s.line with pointer := .token (c :: cs) cs },
                  s.line, c :: cs, cs, s.brackets.length⟩ :: acc
              else fail (invalidCharacter c s.line) cs

/-- Line ends in their single-character form. -/
def normalizeLines : List Char → List Char
  | '\r' :: '\n' :: cs => '\n' :: normalizeLines cs
  | '\r' :: cs => '\n' :: normalizeLines cs
  | c :: cs => c :: normalizeLines cs
  | [] => []

/-- The text that is cut into tokens. Statements end in a line end even when the text does not. -/
def textOf (mode : Mode) (source : String) : List Char :=
  let cs := normalizeLines source.toList
  if mode == .statements && cs.getLast? != some '\n' && !cs.isEmpty then cs ++ ['\n'] else cs

/-- The lexemes of a script. A text without characters has no lines, so its end is on line 0. -/
def tokens (mode : Mode) (source : String) : Array Lexeme :=
  let cs := textOf mode source
  let lines := max (cs.count '\n' + (if cs.getLast?.any (· != '\n') then 1 else 0)) 0
  let raw := scan (3 * cs.length + 10) ⟨cs, 1, [], [(0, 0)], true, false⟩ []
  -- the end is on the last line that holds something
  (raw.map fun l => { l with line := min l.line lines }).reverse.toArray

/-! ### The place of a refusal

What the guest tells about the place at which a script was refused: columns, counted from one, and
the line of the script that is shown with them.
-/

/-- What is told about the place of a refusal. -/
structure Blame where
  column : Nat
  /-- The line that is shown. -/
  shown : Option String
  endLine : Nat
  /-- The column after the end; before the first column if there is none to tell. -/
  endColumn : Int
  deriving DecidableEq, Repr, Inhabited

/-- The line that holds a place of a text, given by what is left there: what comes before the place,
and the rest of the line with its line end. -/
def lineAround (text left : List Char) : List Char × List Char :=
  let before := text.take (text.length - left.length)
  let tail := left.takeWhile (· != '\n')
  ((before.reverse.takeWhile (· != '\n')).reverse,
    if tail.length < left.length then tail ++ ['\n'] else tail)

/-- The place of a refusal in the text of a script. -/
def Failure.blame (f : Failure) (script : List Char) : Blame :=
  let text := f.text.getD script
  match f.pointer with
  | .line => ⟨1, none, f.line, 1⟩
  | .token start stop =>
    if f.line = 0 then ⟨0, some "", 0, 0⟩
    else
      let (before, after) := lineAround text start
      let breaks := (start.take (start.length - stop.length)).count '\n'
      ⟨before.length + 1, some (String.ofList (before ++ after)), f.line + breaks,
        (lineAround text stop).1.length + 1⟩
  | .place stop =>
    let (before, after) := lineAround text stop
    ⟨before.length, some (String.ofList (before ++ after.filter (· != '\n'))), f.line,
      before.length⟩
  | .blanks stop =>
    let (before, after) := lineAround text stop
    ⟨before.length, some (String.ofList (before ++ after)), f.line, -1⟩
  | .bracket start =>
    let (before, after) := lineAround text start
    ⟨before.length + 1, some (String.ofList (before ++ after)), f.line, 0⟩

end GuestBridge.Script
