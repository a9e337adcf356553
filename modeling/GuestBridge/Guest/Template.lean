import GuestBridge.Guest.Arguments
import GuestBridge.Text.Classes

/-!
# Templates with fields between braces

A template is text with fields. A field names a value among arguments, by number or keyword or by
its turn, goes on to attributes and elements of it, and may say how the value is converted and laid
out. A layout may hold fields again. The pieces of a template are read first; then values are put in
their places.
-/

namespace GuestBridge.Guest

/-! ### Pieces -/

/-- A field of a template as it is written. -/
structure TemplateField where
  name : List Nat
  conversion : Option Nat
  layout : List Nat
  /-- Whether the layout holds fields itself. -/
  nested : Bool
  deriving Repr, Inhabited

/-- The name of a field and what follows it: the mark by which it ends and the rest. Brackets may
hold anything. -/
def templateName : (inBracket : Bool) → (acc : List Nat) → List Nat →
    Except String (List Nat × Nat × List Nat)
  | _, _, [] => .error "expected '\x7d' before end of string"
  | true, acc, p :: ps => templateName (p != 93) (p :: acc) ps
  | false, acc, p :: ps =>
    if p == 123 then .error "unexpected '\x7b' in field name"
    else if p == 91 then templateName true (p :: acc) ps
    else if p == 125 || p == 58 || p == 33 then .ok (acc.reverse, p, ps)
    else templateName false (p :: acc) ps

/-- The layout of a field up to the brace that closes the field; braces inside come in pairs. -/
def templateLayout : (depth : Nat) → (acc : List Nat) → (nested : Bool) → List Nat →
    Except String (List Nat × Bool × List Nat)
  | _, _, _, [] => .error "unmatched '\x7b' in format spec"
  | depth, acc, nested, p :: ps =>
    if p == 123 then templateLayout (depth + 1) (p :: acc) true ps
    else if p == 125 then
      match depth with
      | 0 => .ok (acc.reverse, nested, ps)
      | d + 1 => templateLayout d (p :: acc) nested ps
    else templateLayout depth (p :: acc) nested ps

/-- A field and what follows it. -/
def templateField (ps : List Nat) : Except String (TemplateField × List Nat) := do
  let (name, mark, ps) ← templateName false [] ps
  if mark == 125 then return (⟨name, none, [], false⟩, ps)
  else if mark == 58 then
    let (layout, nested, ps) ← templateLayout 0 [] false ps
    return (⟨name, none, layout, nested⟩, ps)
  else
    match ps with
    | [] => .error "end of string while looking for conversion specifier"
    | c :: 125 :: ps => return (⟨name, some c, [], false⟩, ps)
    | c :: 58 :: ps => do
      let (layout, nested, ps) ← templateLayout 0 [] false ps
      return (⟨name, some c, layout, nested⟩, ps)
    | [_] => .error "unmatched '\x7b' in format spec"
    | _ :: _ :: _ => .error "expected ':' after conversion specifier"

/-- A piece of a template: text as it stands, then perhaps a field. -/
structure TemplatePiece where
  text : List Nat
  field : Option TemplateField
  deriving Repr, Inhabited

/-- The first piece of a template and what follows it. -/
def templatePiece (ps : List Nat) : Except String (TemplatePiece × List Nat) := do
  let text := ps.takeWhile fun p => p != 123 && p != 125
  match ps.drop text.length with
  | [] => return (⟨text, none⟩, [])
  | 125 :: 125 :: rest => return (⟨text ++ [125], none⟩, rest)
  | 125 :: _ => .error "Single '\x7d' encountered in format string"
  | [_] => .error "Single '\x7b' encountered in format string"
  | _ :: 123 :: rest => return (⟨text ++ [123], none⟩, rest)
  | _ :: rest => do
    let (f, rest) ← templateField rest
    return (⟨text, some f⟩, rest)

/-! ### Names of values -/

/-- A step from a value to a part of it. -/
inductive TemplateStep
  | attribute (id : List Nat)
  | key (k : List Nat)
  | element (i : Nat)
  deriving Repr, Inhabited

/-- The number that digits stand for; `none` if there is anything else. -/
def templateNumber (ps : List Nat) : Except String (Option Nat) :=
  match ps.mapM Text.decimalValue? with
  | some (d :: ds) =>
    let n := (d :: ds).foldl (fun (n : Nat) d => n * 10 + d) 0
    if (n : Int) > maxSize then .error "Too many decimal digits in format string" else .ok (some n)
  | _ => .ok none

/-- The next step in the name of a field, and what follows it. -/
def templateStep : List Nat → Except String (TemplateStep × List Nat)
  | 46 :: ps => do
    let id := ps.takeWhile fun p => p != 46 && p != 91
    if id.isEmpty then .error "Empty attribute in format string"
    else return (.attribute id, ps.drop id.length)
  | 91 :: ps => do
    let k := ps.takeWhile (· != 93)
    if k.length == ps.length then .error "Missing ']' in format string"
    let n ← templateNumber k
    if k.isEmpty then .error "Empty attribute in format string"
    else
      let rest := ps.drop (k.length + 1)
      match n with
      | some i => return (.element i, rest)
      | none => return (.key k, rest)
  | _ => .error "Only '.' or '[' may follow ']' in format field specifier"

/-- How the fields of a template that have numbers get them. -/
inductive Numbering
  | unknown
  | written
  | counted
  deriving DecidableEq, Repr, Inhabited

/-- The state of filling a template: how fields are numbered and the next number. -/
structure TemplateState where
  numbering : Numbering
  next : Nat
  deriving Repr, Inhabited

/-- The number of the value that a field names, if it has one. -/
def TemplateState.number (s : TemplateState) (name : List Nat) :
    Except String (Option Nat × TemplateState) := do
  let n ← templateNumber name
  if !name.isEmpty && n.isNone then return (none, s)
  else
    let here : Numbering := if name.isEmpty then .counted else .written
    let s := if s.numbering == .unknown then { s with numbering := here } else s
    match s.numbering, here with
    | .written, .counted =>
      .error "cannot switch from manual field specification to automatic field numbering"
    | .counted, .written =>
      .error "cannot switch from automatic field numbering to manual field specification"
    | _, .counted => return (some s.next, { s with next := s.next + 1 })
    | _, _ => return (n, s)

/-! ### Filling -/

/-- The values that a template is filled with: those in order, if there are any at all, and what
keywords are looked up in. -/
structure TemplateValues where
  ordered : Option (List Ref)
  named : Option Ref

section
variable [Ops]

/-- A result, or the error of a malformed template. -/
def templateResult {α : Type} : Except String α → Exec α
  | .ok x => return x
  | .error m => valueError m

/-- Goes on from a value to parts of it; `fuel` bounds the number of steps. -/
def templateSteps : (fuel : Nat) → Ref → List Nat → Exec Ref
  | 0, r, _ | _ + 1, r, [] => return r
  | fuel + 1, r, p :: ps => do
    let (step, rest) ← templateResult (templateStep (p :: ps))
    let part ← match step with
      | .attribute id => getAttr r (Text.lossy ⟨id⟩)
      | .key k => do getItem r (← newText ⟨k⟩)
      | .element i => do getItem r (← newInt i)
    templateSteps fuel part rest

/-- The value that a field names. -/
def templateValue (values : TemplateValues) (s : TemplateState) (name : List Nat) :
    Exec (Ref × TemplateState) := do
  let first := name.takeWhile fun p => p != 46 && p != 91
  let (n, s) ← templateResult (s.number first)
  let value ← match n with
    | some i =>
      match values.ordered with
      | none => valueError "Format string contains positional fields"
      | some vs =>
        match vs[i]? with
        | some v => pure v
        | none =>
          raiseError .indexError ("Replacement index " ++ toString i ++
            " out of range for positional args tuple")
    | none => do
      let k ← newText ⟨first⟩
      match values.named with
      | some m => getItem m k
      | none => missingKey k
  return (← templateSteps (name.length + 1) value (name.drop first.length), s)

/-- A value after the conversion that a field asks for. -/
def templateConversion (v : Ref) : Option Nat → Exec Ref
  | none => return v
  | some c =>
    match Char.ofNat c with
    | 'r' => do newText (← Ops.repr v)
    | 's' => do newText (← Ops.str v)
    | 'a' => do newText (← asciiRepr v)
    | shown =>
      valueError ("Unknown conversion specifier " ++
        (if 32 < c && c < 127 then String.singleton shown
         else "\\x" ++ String.ofList (Nat.toDigits 16 c)))

/-- Fills the pieces of a template one after another; `depth` is how deep layouts may still be
nested, `fuel` bounds the number of pieces. -/
def fillPieces (values : TemplateValues) : (depth fuel : Nat) → TemplateState → List Nat →
    Exec (List Nat × TemplateState)
  | 0, _, _, _ => valueError "Max string recursion exceeded"
  | _, 0, s, _ => return ([], s)
  | depth + 1, fuel + 1, s, ps => do
    if ps.isEmpty then return ([], s)
    let (piece, rest) ← templateResult (templatePiece ps)
    let (text, s) ← match piece.field with
      | none => pure (piece.text, s)
      | some f => do
        let (value, s) ← templateValue values s f.name
        let value ← templateConversion value f.conversion
        let (layout, s) ←
          if f.nested then fillPieces values depth (f.layout.length + 1) s f.layout
          else pure (f.layout, s)
        let shown ← formatObject value ⟨layout⟩
        pure (piece.text ++ shown.points, s)
    let (more, s) ← fillPieces values (depth + 1) fuel s rest
    return (text ++ more, s)
termination_by depth fuel => (depth, fuel)

/-- A template filled with values. -/
def fillBraces (values : TemplateValues) (t : Text) : Exec Text := do
  return ⟨(← fillPieces values 2 (t.length + 1) ⟨.unknown, 0⟩ t.points).1⟩

end

end GuestBridge.Guest
