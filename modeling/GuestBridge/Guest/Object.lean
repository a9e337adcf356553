import GuestBridge.Guest.Kind
import GuestBridge.Text.Points
import GuestBridge.Script.Code

/-!
# Objects and the machine

Objects live in a heap and are named by references; a reference is the identity of its object. An
object has a class, data whose shape depends on the class, and attributes of its own. The machine
is the heap together with the loaded code and the few references through which everything else is
reached.
-/

namespace GuestBridge.Guest

/-- The identity of an object. -/
structure Ref where
  id : Nat
  deriving DecidableEq, Repr, Inhabited, Hashable

/-- A class: a built-in type or one that a script made. -/
inductive Class
  | builtin (k : Kind)
  | user (r : Ref)
  deriving DecidableEq, Repr, Inhabited

/-- An entry of a hash table, with the hash of its key. -/
structure Entry where
  hash : Int
  key : Ref
  value : Ref
  /-- Grows from each entry of a table to the ones inserted after it. -/
  place : Nat
  deriving DecidableEq, Repr, Inhabited

/-- A slot in the table of a set. A slot that was given up is not free again. -/
inductive Slot
  | free
  | gone
  | taken (e : Entry)
  deriving Repr, Inhabited

/-- The table of a set. The number of slots is a power of two; `finger` is the slot from which the
next element that is taken out is looked for. -/
structure SetTable where
  slots : Array Slot
  finger : Nat
  deriving Repr, Inhabited

/-- A frame that an exception has passed, as tracebacks show it, with the object that keeps what
the frame has. -/
structure TraceEntry where
  file : String
  line : Nat
  name : String
  frame : Option Ref
  deriving DecidableEq, Repr, Inhabited

/-- What is to be done after a `finally` part. -/
inductive Pending
  | nothing
  | raising (value : Ref) (trace : List TraceEntry)
  | returning (value : Ref)
  | breaking
  | continuing (label keep : Nat)
  deriving Repr, Inhabited

/-- What a guarded region of code is guarded by. -/
inductive RegionKind
  | loop | except | final
  /-- The code of an `except` clause. -/
  | handling
  /-- The code of a `finally` part. -/
  | finishing
  deriving DecidableEq, Repr, Inhabited

/-- A guarded region: where its guard is, and the sizes of the stacks when it was entered. -/
structure Region where
  kind : RegionKind
  label : Nat
  depth : Nat
  handled : Nat
  deriving Repr, Inhabited

/-- The state of running a unit of code. -/
structure Frame where
  unit : Nat
  position : Nat
  stack : List Ref
  regions : List Region
  pending : List Pending
  /-- The dictionary of the module. -/
  globals : Ref
  /-- The dictionary of the module or class body that runs. -/
  names : Option Ref
  /-- The variables that the code shares with the code inside it or around it, each in a cell. -/
  cells : List (String × Ref)
  /-- The object that keeps what the frame has. -/
  store : Ref
  /-- Exceptions being handled here, innermost first. -/
  handled : List Ref
  /-- An exception to be raised where the frame goes on. -/
  injected : Option (Ref × List TraceEntry)
  deriving Repr, Inhabited

/-- What a frame has and keeps alive, also when it is done. -/
structure FrameData where
  unit : Nat
  /-- The line that an exception passed last. -/
  line : Nat
  globals : Ref
  names : Option Ref
  /-- The variables of the function that have a value, but for those in cells. -/
  locals : List (String × Ref)
  cells : List (String × Ref)
  /-- The function that runs. -/
  callee : Option Ref
  deriving Repr, Inhabited

/-- What calling a function needs besides its arguments. -/
structure FunctionData where
  unit : Nat
  globals : Ref
  /-- The variables of the functions around it that it uses, each in a cell. -/
  closure : List (String × Ref)
  defaults : List Ref
  keywordDefaults : List (String × Ref)
  name : String
  qualifiedName : String
  moduleName : Option Ref
  doc : Ref
  /-- The dictionary of annotations, once there is one. -/
  annotations : Option Ref
  deriving Repr, Inhabited

/-- A class made by a script. -/
structure ClassData where
  name : String
  qualifiedName : String
  bases : List Class
  /-- The base that decides what the instances hold. -/
  base : Class
  /-- The classes that attributes are looked up in, the class itself first. -/
  order : List Class
  names : List (String × Ref)
  /-- Whether instances have attributes of their own beyond the named slots. -/
  hasAttrs : Bool
  slots : List String
  deriving Repr, Inhabited

/-- A part of a dictionary that a view shows. -/
inductive DictPart
  | keys | values | items
  deriving DecidableEq, Repr, Inhabited

/-- Where an iterator of a built-in type stands. -/
inductive Cursor
  | done
  /-- Over a list, tuple, string, byte string or the like, from an index on. -/
  | sequence (of : Ref) (index : Nat)
  /-- Over a list backwards; the index is one past the next element. -/
  | backwards (of : Ref) (index : Nat)
  | range (next step : Int) (left : Nat)
  /-- Over a dictionary: the place from which to go on, the number of entries that it has to have
  (none if it once had another), and the number of elements left. -/
  | dict (of : Ref) (part : DictPart) (place : Nat) (size : Option Nat) (left : Nat)
  | dictBackwards (of : Ref) (part : DictPart) (index size : Nat)
  /-- Over a set: the elements left, and the number that it has to have (none if it once had
  another). -/
  | set (of : Ref) (left : List Ref) (size : Option Nat)
  | deque (of : Ref) (index size : Nat)
  /-- Over a queue backwards; the index is one past the next element. -/
  | dequeBackwards (of : Ref) (index size : Nat)
  /-- Over an ordered dictionary: the places that its entries have to have, and those of the entries
  left. -/
  | ordered (of : Ref) (part : DictPart) (places left : List Nat)
  /-- By subscripts from an index on. -/
  | subscripts (of : Ref) (index : Int)
  | subscriptsBackwards (of : Ref) (index : Int)
  | calls (f sentinel : Ref)
  | enumerate (of : Ref) (count : Int)
  | zip (of : List Ref) (strict : Bool)
  | map (f : Ref) (of : List Ref)
  | filter (f of : Ref)
  deriving Repr, Inhabited

/-- What an exception holds. -/
structure ErrorData where
  args : List Ref
  cause : Option Ref
  context : Option Ref
  trace : List TraceEntry
  deriving Repr, Inhabited

/-- What a view of memory shows of a buffer: where the first item starts, the number of items, how
far apart they start, and their format; with `readOnly` they cannot be changed. -/
structure Window where
  start : Int
  count : Nat
  step : Int
  format : String
  readOnly : Bool
  deriving Repr, DecidableEq

/-- The data of an object. -/
inductive Data
  /-- Nothing but attributes. -/
  | plain
  | int (n : Int)
  | float (bits : Nat)
  | complex (re im : Nat)
  | str (t : Text)
  | bytes (bs : List UInt8)
  | bytearray (bs : List UInt8)
  | list (items : Array Ref)
  | tuple (items : List Ref)
  | dict (entries : List Entry)
  | set (table : SetTable)
  | range (start stop step : Int)
  | slice (start stop step : Ref)
  | memory (of : Ref) (shown : Window)
  | kind (k : Kind)
  | cls (c : ClassData)
  | function (f : FunctionData)
  /-- A function of a built-in module. -/
  | builtin (module name : String)
  /-- A method of a built-in type, not bound. -/
  | methodOf (k : Kind) (name : String)
  /-- A named slot of the instances of a class. -/
  | slotOf (owner : Class) (name : String)
  /-- A method of a built-in type, bound to an object. -/
  | bound (k : Kind) (name : String) (self : Ref)
  | method (f self : Ref)
  | code (unit : Nat)
  | property (get set delete : Option Ref)
  | wrapped (f : Ref)
  | module (dict : Ref)
  | generator (name qualifiedName : String) (frame : Option Frame) (started running : Bool)
  | traceback (entries : List TraceEntry)
  | proxy (of : Ref)
  | view (of : Ref) (part : DictPart)
  | cursor (c : Cursor)
  | error (e : ErrorData)
  | deque (items : List Ref) (limit : Option Nat)
  | defaultDict (entries : List Entry) (factory : Ref)
  | textBuffer (t : Text) (position : Nat)
  | stream (name : String)
  | weakReference (target : Ref)
  /-- A view of an object as one of the classes above a class. -/
  | upward (above : Class) (self : Option Ref) (start : Class)
  | union (members : List Ref)
  | alias (origin : Ref) (args : List Ref)
  /-- Standard output of a session. -/
  | sink (session : Nat)
  | frame (f : FrameData)
  /-- A variable that functions share, with its value if it has one. -/
  | cell (value : Option Ref)
  deriving Repr, Inhabited

/-- An object. -/
structure Object where
  cls : Class
  data : Data
  /-- Attributes of its own, as long as no dictionary holds them. -/
  attrs : List (String × Ref) := []
  /-- The dictionary that holds the attributes, once one was asked for. -/
  dict : Option Ref := none
  /-- Attributes that have a place of their own outside the dictionary. -/
  slots : List (String × Ref) := []
  deriving Repr, Inhabited

/-- The whole state of the guest. -/
structure Machine where
  heap : Array Object
  code : Array Script.Code
  /-- The dictionary of loaded modules. -/
  modules : Ref
  /-- The dictionary of built-in names. -/
  builtins : Ref
  /-- The module `sys`, loaded or not. -/
  system : Ref
  /-- Strings of which there is one object each. -/
  interned : List (Text × Ref)
  /-- The place of the next entry that is inserted into a table. -/
  nextPlace : Nat
  /-- For each unit of code, the objects of the constants in it. -/
  constants : Array (List (Script.Literal × Ref))
  /-- Exceptions being handled, innermost first. -/
  handling : List Ref
  /-- Containers whose text is being made. -/
  showing : List Ref
  /-- The frames that run, innermost first, as they were at the start of their latest step. -/
  frames : List Frame
  /-- Objects that are to be told, or about which others are to be told, when they die. -/
  watched : List Ref
  /-- Whether all objects in use can be seen, so that deaths can be noticed. -/
  settling : Bool
  /-- Objects that the host holds, once for each reference. -/
  held : List Ref
  /-- Texts written to the sinks of sessions, last first. -/
  writes : List (Nat × String)
  /-- The files that modules can be loaded from. -/
  files : List (String × String)
  deriving Inhabited

/-- An exception on its way: the exception and the frames that it has passed, outermost first. -/
structure Raised where
  value : Ref
  trace : List TraceEntry
  deriving Repr, Inhabited

/-- Computations on the machine that may raise. The machine keeps its changes in either case. -/
abbrev Exec := EStateM Raised Machine

/-- The arguments of a call. -/
structure Args where
  positional : List Ref
  keywords : List (Text × Ref)
  deriving Repr, Inhabited

/-- Positional arguments alone. -/
def Args.of (rs : List Ref) : Args := ⟨rs, []⟩

/-- How running a frame ends, if no exception does. -/
inductive Outcome
  | returned (value : Ref)
  | yielded (value : Ref) (frame : Frame)
  deriving Inhabited

/-- The operations through which built-in behaviour reaches arbitrary objects again. Each layer of
the interpreter is written against them; they are tied together in one place. -/
class Ops where
  call : Ref → Args → Exec Ref
  run : Frame → Exec Outcome
  repr : Ref → Exec Text
  str : Ref → Exec Text
  hash : Ref → Exec Int
  /-- A comparison with its result as an object. -/
  compare : Script.CompareOp → Ref → Ref → Exec Ref
  /-- Whether two objects are the same or equal. -/
  equal : Ref → Ref → Exec Bool
  /-- The next element of an iterator; `none` at the end. -/
  next : Ref → Exec (Option Ref)
  isInstance : Ref → Ref → Exec Bool

end GuestBridge.Guest
