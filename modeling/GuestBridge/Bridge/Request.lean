import GuestBridge.Bridge.Handle

/-!
# Requests to the guest

Everything that the bridge asks of the guest is one of the requests below; each names objects by
their references and says what comes back. Any state that can answer requests is a guest, so what
the bridge promises can be stated for every behaviour of the code on the other side.
-/

namespace GuestBridge.Bridge

open Guest (Ref Kind TraceEntry Raised)

/-- What an object is to the host: the data of the built-in type that its class is or extends. -/
inductive Shape
  | none
  | bool (b : Bool)
  | int (n : Int)
  | float (bits : Nat)
  | text (t : Text)
  | bytes (bs : List UInt8)
  /-- A list or tuple. -/
  | sequence (items : List Ref)
  /-- A dictionary: the places at which its entries were inserted, growing, with their keys and
  values. -/
  | dict (entries : List (Nat × Ref × Ref))
  | range (start stop step : Int)
  | slice (start stop step : Ref)
  | other
  deriving DecidableEq, Repr, Inhabited

/-- A request to the guest, by the type of its answer. -/
inductive Request : Type → Type
  /-- Attributes. -/
  | getAttr (o : Ref) (name : String) : Request Ref
  | setAttr (o : Ref) (name : String) (v : Ref) : Request Unit
  /-- Whether calling the object makes sense at all. -/
  | isCallable (o : Ref) : Request Bool
  | call (f : Ref) (args : List Ref) (keywords : List (String × Ref)) : Request Ref
  /-- Items of containers. -/
  | getItem (o k : Ref) : Request Ref
  | setItem (o k v : Ref) : Request Unit
  | deleteItem (o k : Ref) : Request Unit
  | contains (o k : Ref) : Request Bool
  | length (o : Ref) : Request Nat
  | iterate (o : Ref) : Request Ref
  /-- The class of an object, as an object and as a name. -/
  | typeOf (o : Ref) : Request Ref
  | typeName (o : Ref) : Request String
  | isInstance (o cls : Ref) : Request Bool
  /-- Whether the class of an object is or extends a built-in type. -/
  | belongs (o : Ref) (k : Kind) : Request Bool
  /-- Refuses an object that does not belong to a built-in type. -/
  | expect (o : Ref) (k : Kind) : Request Unit
  | truth (o : Ref) : Request Bool
  | repr (o : Ref) : Request Text
  | str (o : Ref) : Request Text
  | equal (a b : Ref) : Request Bool
  /-- The number of references to an object. -/
  | references (o : Ref) : Request Nat
  /-- Reading. -/
  | shape (o : Ref) : Request Shape
  | toFloat (o : Ref) : Request Nat
  /-- The integer that an object stands for, if it has at most 64 bits. -/
  | toIndex (o : Ref) : Request Int
  /-- New objects. -/
  | newInt (n : Int) : Request Ref
  | newFloat (bits : Nat) : Request Ref
  | newStr (s : String) : Request Ref
  | newBytes (bs : List UInt8) : Request Ref
  | newList (items : List Ref) : Request Ref
  | newTuple (items : List Ref) : Request Ref
  | newSlice (start stop step : Ref) : Request Ref
  | newDict (names : List (String × Ref)) : Request Ref
  | newSink (session : SessionId) : Request Ref
  | newTraceback (trace : List TraceEntry) : Request Ref
  /-- The traceback of an exception as the guest prints it. -/
  | tracebackText (trace : List TraceEntry) : Request Text
  /-- Dictionaries of names. -/
  | getName (dict : Ref) (name : String) : Request (Option Ref)
  | clear (dict : Ref) : Request Unit
  /-- Puts an object into a list. -/
  | insert (list : Ref) (position : Nat) (o : Ref) : Request Unit
  /-- Loads a module. -/
  | importModule (name : String) : Request Ref
  /-- The value of an expression in the main module, which no session sees. -/
  | evaluate (expression : String) : Request Ref
  /-- Lets the objects die that nobody holds any more. -/
  | settle : Request Unit

/-- A guest: a state that can answer requests. -/
class GuestState (σ : Type) where
  /-- Answers a request, or raises. `held` are the objects that the bridge holds, once for each
  reference; texts written to the sinks of sessions come back in order. -/
  perform : {α : Type} → (held : List Ref) → Request α → σ →
    Except Raised α × List (SessionId × String) × σ

end GuestBridge.Bridge
