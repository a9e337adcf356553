import GuestBridge.Text.Points

/-!
# Abstract syntax of guest scripts

Expressions and statements as the parser builds them. Nodes that can fail when they run carry the
line of the script on which they start; tracebacks show it.
-/

namespace GuestBridge.Script

/-- Binary arithmetic operators. -/
inductive BinaryOp
  | add | sub | mul | div | floorDiv | mod | pow | bitOr | bitAnd | bitXor | shiftLeft | shiftRight
  deriving DecidableEq, Repr, Inhabited

/-- Unary operators that yield a value of any kind. -/
inductive UnaryOp
  | neg | pos | invert | not
  deriving DecidableEq, Repr, Inhabited

/-- Comparison operators, membership and identity included. -/
inductive CompareOp
  | lt | le | gt | ge | eq | ne | isIn | notIn | is | isNot
  deriving DecidableEq, Repr, Inhabited

/-- Constants that stand in the text of a script. -/
inductive Literal
  | none
  | bool (b : Bool)
  | int (n : Int)
  | float (bits : Nat)
  | imaginary (bits : Nat)
  | str (t : Text)
  | bytes (bs : List UInt8)
  | ellipsis
  deriving DecidableEq, Repr, Inhabited

/-- How a parameter takes its argument. -/
inductive ParamKind
  | positionalOnly | ordinary | variadic | keywordOnly | keywords
  deriving DecidableEq, Repr, Inhabited

/-- How a replacement field of a formatted string turns its value into text. -/
inductive Conversion
  | plain | repr | str | ascii
  deriving DecidableEq, Repr, Inhabited

mutual

/-- Expressions. -/
inductive Expr
  | const (line : Nat) (c : Literal)
  | name (line : Nat) (id : String)
  | tuple (line : Nat) (es : List Expr)
  | list (line : Nat) (es : List Expr)
  | set (line : Nat) (es : List Expr)
  | dict (line : Nat) (items : List DictItem)
  | unary (line : Nat) (op : UnaryOp) (e : Expr)
  | binary (line : Nat) (op : BinaryOp) (a b : Expr)
  | compare (line : Nat) (first : Expr) (rest : List Comparison)
  | all (line : Nat) (es : List Expr)
  | any (line : Nat) (es : List Expr)
  | cond (line : Nat) (test yes no : Expr)
  | lambda (line : Nat) (params : List Param) (body : Expr)
  | call (line : Nat) (f : Expr) (args : List Argument)
  /-- An attribute, with the line on which its name stands. -/
  | attribute (line : Nat) (e : Expr) (id : String) (nameLine : Nat)
  | subscript (line : Nat) (e index : Expr)
  | slice (line : Nat) (lower upper step : Option Expr)
  | starred (line : Nat) (e : Expr)
  | formatted (line : Nat) (parts : List Piece)
  | listComp (line : Nat) (e : Expr) (clauses : List Clause)
  | setComp (line : Nat) (e : Expr) (clauses : List Clause)
  | dictComp (line : Nat) (k v : Expr) (clauses : List Clause)
  | generator (line : Nat) (e : Expr) (clauses : List Clause)
  | walrus (line : Nat) (id : String) (e : Expr)
  | yieldValue (line : Nat) (e : Option Expr)

/-- One entry of a dictionary display: a pair, or a mapping whose entries are taken over. -/
inductive DictItem
  | pair (k v : Expr)
  | unpack (e : Expr)

/-- An operator with its right operand in a chain of comparisons. -/
inductive Comparison
  | mk (op : CompareOp) (e : Expr)

/-- An argument of a call. -/
inductive Argument
  | positional (e : Expr)
  | unpackList (e : Expr)
  | keyword (id : String) (e : Expr)
  | unpackDict (e : Expr)

/-- A parameter with its default and its annotation. -/
inductive Param
  | mk (id : String) (kind : ParamKind) (default annotation : Option Expr)

/-- A part of a formatted string. -/
inductive Piece
  | text (t : Text)
  /-- A value, how it is turned into text, and the parts of its format specification. -/
  | field (e : Expr) (conversion : Conversion) (spec : List Piece)

/-- A `for` clause of a comprehension with the conditions after it. -/
inductive Clause
  | mk (line : Nat) (target iter : Expr) (conditions : List Expr)

end

instance : Inhabited Expr := ⟨.const 0 .none⟩

/-- The line on which an expression starts. -/
def Expr.line : Expr → Nat
  | .const l _ | .name l _ | .tuple l _ | .list l _ | .set l _ | .dict l _ | .unary l _ _
  | .binary l _ _ _ | .compare l _ _ | .all l _ | .any l _ | .cond l _ _ _ | .lambda l _ _
  | .call l _ _ | .attribute l _ _ _ | .subscript l _ _ | .slice l _ _ _ | .starred l _
  | .formatted l _ | .listComp l _ _ | .setComp l _ _ | .dictComp l _ _ _ | .generator l _ _
  | .walrus l _ _ | .yieldValue l _ => l

/-- One name of an import statement, with the name it is bound to. -/
structure ImportName where
  path : String
  bound : Option String
  deriving DecidableEq, Repr, Inhabited

mutual

/-- Statements; each carries the line on which it starts. -/
inductive Stmt
  | expr (line : Nat) (e : Expr)
  | assign (line : Nat) (targets : List Expr) (value : Expr)
  | augment (line : Nat) (target : Expr) (op : BinaryOp) (value : Expr)
  /-- An annotated target; `simple` if it is a name without brackets. -/
  | annotate (line : Nat) (simple : Bool) (target annotation : Expr) (value : Option Expr)
  | deleteTargets (line : Nat) (targets : List Expr)
  | skip (line : Nat)
  | importModules (line : Nat) (names : List ImportName)
  /-- Names from a module that is `level` packages up, counted from one, or not relative to where
  the script stands. -/
  | importFrom (line : Nat) (level : Nat) (module : String) (names : List ImportName)
  | importAll (line : Nat) (level : Nat) (module : String)
  | raiseError (line : Nat) (exception cause : Option Expr)
  | assertTrue (line : Nat) (test : Expr) (message : Option Expr)
  | ifElse (line : Nat) (test : Expr) (body orelse : List Stmt)
  | forLoop (line : Nat) (target iter : Expr) (body orelse : List Stmt)
  | whileLoop (line : Nat) (test : Expr) (body orelse : List Stmt)
  | breakLoop (line : Nat)
  | continueLoop (line : Nat)
  | tryBlock (line : Nat) (body : List Stmt) (handlers : List Handler) (orelse final : List Stmt)
  /-- A function with its own name and the name it is bound to. -/
  | functionDef (line : Nat) (decorators : List Expr) (id bound : String) (params : List Param)
      (returns : Option Expr) (body : List Stmt)
  | classDef (line : Nat) (decorators : List Expr) (id bound : String) (args : List Argument)
      (body : List Stmt)
  | returnValue (line : Nat) (value : Option Expr)
  | global (line : Nat) (ids : List String)
  | nonlocal (line : Nat) (ids : List String)

/-- An `except` clause. -/
inductive Handler
  | mk (line : Nat) (kind : Option Expr) (id : Option String) (body : List Stmt)

end

instance : Inhabited Stmt := ⟨.skip 0⟩

/-- The line on which a statement starts. -/
def Stmt.line : Stmt → Nat
  | .expr l _ | .assign l _ _ | .augment l _ _ _ | .annotate l _ _ _ _ | .deleteTargets l _
  | .skip l | .importModules l _ | .importFrom l _ _ _ | .importAll l _ _ | .raiseError l _ _
  | .assertTrue l _ _ | .ifElse l _ _ _ | .forLoop l _ _ _ _ | .whileLoop l _ _ _ | .breakLoop l
  | .continueLoop l | .tryBlock l _ _ _ _ | .functionDef l _ _ _ _ _ _ | .classDef l _ _ _ _ _
  | .returnValue l _ | .global l _ | .nonlocal l _ => l

/-- How a script is to be run: as statements or as one expression. -/
inductive Mode
  | statements | expression
  deriving DecidableEq, Repr, Inhabited

/-- The kinds of refusal that the guest language distinguishes. -/
inductive FailureKind
  | grammar | indentation | tabs
  deriving DecidableEq, Repr, Inhabited

/-- What a refusal points at, given by what is left of the text there. -/
inductive Pointer
  /-- The whole line. -/
  | line
  /-- A token, from its start to its end. -/
  | token (start stop : List Char)
  /-- A place at which no token could be cut, with `stop` left after it. -/
  | place (stop : List Char)
  /-- The blanks at the front of a line, which end before `stop`. -/
  | blanks (stop : List Char)
  /-- An open bracket. -/
  | bracket (start : List Char)
  deriving Repr, Inhabited

/-- Why a script is refused, and the line to blame. -/
structure Failure where
  kind : FailureKind
  message : String
  line : Nat
  pointer : Pointer := .line
  /-- The text that was read there, if it is not the text of the script itself. -/
  text : Option (List Char) := none
  deriving Repr, Inhabited

/-! ### Tokens

The units that the parser reads. A script that cannot be cut into tokens ends in an `invalid` token
that carries the refusal; whether it is ever reported depends on whether the parser gets there.
-/

/-- What stands before the quotes of a string literal. -/
structure StringKind where
  bytes : Bool
  raw : Bool
  formatted : Bool
  deriving DecidableEq, Repr, Inhabited

/-- A token. -/
inductive Token
  | name (id : String)
  /-- An integer literal: its value and, for decimal ones, the number of its digits. -/
  | int (n : Nat) (digits : Nat)
  | float (bits : Nat)
  | imaginary (bits : Nat)
  | str (kind : StringKind) (body : List Char)
  | op (text : String)
  | newline
  | indent
  | dedent
  | endMarker
  | invalid (why : Failure)
  /-- The end of the text inside brackets: the innermost open one, its line, and the text from it
  on. -/
  | unclosed (bracket : Char) (line : Nat) (start : List Char)
  deriving Repr, Inhabited

/-- A token with the line on which it starts, the text from it on and the text after it. -/
structure Lexeme where
  token : Token
  line : Nat
  start : List Char := []
  stop : List Char := []
  /-- The number of brackets that are open after the token. -/
  level : Nat := 0
  deriving Repr, Inhabited

/-- A pointer to a token. A line end is a point before the break. -/
def Lexeme.pointer (l : Lexeme) : Pointer :=
  match l.token with
  | .newline => .token l.start l.start
  | .indent => .blanks l.stop
  | _ => .token l.start l.stop

/-- The reserved words. -/
def keywords : List String :=
  ["False", "None", "True", "and", "as", "assert", "async", "await", "break", "class", "continue",
   "def", "del", "elif", "else", "except", "finally", "for", "from", "global", "if", "import",
   "in", "is", "lambda", "nonlocal", "not", "or", "pass", "raise", "return", "try", "while",
   "with", "yield"]

/-- Whether a name is a reserved word. -/
def isKeyword (id : String) : Bool := keywords.contains id

end GuestBridge.Script
