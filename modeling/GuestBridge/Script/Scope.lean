import GuestBridge.Script.Syntax

/-!
# Names that a script binds

Which names the statements of a function body bind, and which of them it declares to belong to the
module or to an enclosing function. A name bound with `:=` inside a comprehension belongs to the
body around it.
-/

namespace GuestBridge.Script

/-- Names bound and declared in a body. -/
structure Bindings where
  bound : List String
  globals : List String
  nonlocals : List String
  yields : Bool
  deriving Inhabited

namespace Bindings

/-- Nothing bound. -/
def empty : Bindings := ⟨[], [], [], false⟩

/-- One bound name. -/
def name (id : String) : Bindings := ⟨[id], [], [], false⟩

/-- What either binds. -/
def union (a b : Bindings) : Bindings :=
  ⟨a.bound ++ b.bound, a.globals ++ b.globals, a.nonlocals ++ b.nonlocals, a.yields || b.yields⟩

instance : Append Bindings := ⟨union⟩

/-- The names that are variables of the body itself. -/
def locals (b : Bindings) : List String :=
  (b.bound.filter fun id => !b.globals.contains id && !b.nonlocals.contains id).eraseDups

end Bindings

open Bindings

mutual

/-- What evaluating an expression binds in the body around it. -/
def Expr.bindings : Expr → Bindings
  | .const _ _ | .name _ _ | .lambda _ _ _ => empty
  | .tuple _ es | .list _ es | .set _ es | .all _ es | .any _ es => exprsBindings es
  | .dict _ items => itemsBindings items
  | .unary _ _ e | .attribute _ e _ _ | .starred _ e => e.bindings
  | .binary _ _ a b | .subscript _ a b => a.bindings ++ b.bindings
  | .compare _ e rest => e.bindings ++ comparisonsBindings rest
  | .cond _ t a b => t.bindings ++ a.bindings ++ b.bindings
  | .call _ f args => f.bindings ++ argumentsBindings args
  | .slice _ a b c => optionBindings a ++ optionBindings b ++ optionBindings c
  | .formatted _ ps => piecesBindings ps
  | .listComp _ e cs | .setComp _ e cs | .generator _ e cs => e.bindings ++ clausesBindings cs
  | .dictComp _ k v cs => k.bindings ++ v.bindings ++ clausesBindings cs
  | .walrus _ id e => name id ++ e.bindings
  | .yieldValue _ e => ⟨[], [], [], true⟩ ++ optionBindings e

/-- The same for an optional expression. -/
def optionBindings : Option Expr → Bindings
  | none => empty
  | some e => e.bindings

/-- The same for several expressions. -/
def exprsBindings : List Expr → Bindings
  | [] => empty
  | e :: es => e.bindings ++ exprsBindings es

/-- The same for entries of a dictionary display. -/
def itemsBindings : List DictItem → Bindings
  | [] => empty
  | .pair k v :: is => k.bindings ++ v.bindings ++ itemsBindings is
  | .unpack e :: is => e.bindings ++ itemsBindings is

/-- The same for a chain of comparisons. -/
def comparisonsBindings : List Comparison → Bindings
  | [] => empty
  | .mk _ e :: cs => e.bindings ++ comparisonsBindings cs

/-- The same for arguments. -/
def argumentsBindings : List Argument → Bindings
  | [] => empty
  | .positional e :: as | .unpackList e :: as | .keyword _ e :: as | .unpackDict e :: as =>
    e.bindings ++ argumentsBindings as

/-- The same for parts of a formatted string. -/
def piecesBindings : List Piece → Bindings
  | [] => empty
  | .text _ :: ps => piecesBindings ps
  | .field e _ spec :: ps => e.bindings ++ piecesBindings spec ++ piecesBindings ps

/-- The same for the clauses of a comprehension, whose targets are its own. -/
def clausesBindings : List Clause → Bindings
  | [] => empty
  | .mk _ _ iter conds :: cs => iter.bindings ++ exprsBindings conds ++ clausesBindings cs

end

mutual

/-- The names that assigning to a target binds. -/
def Expr.targetBindings : Expr → Bindings
  | .name _ id => name id
  | .starred _ e => e.targetBindings
  | .tuple _ es | .list _ es => targetsBindings es
  | .attribute _ e _ _ => e.bindings
  | .subscript _ e k => e.bindings ++ k.bindings
  | _ => empty

/-- The same for several targets. -/
def targetsBindings : List Expr → Bindings
  | [] => empty
  | e :: es => e.targetBindings ++ targetsBindings es

end

/-- The name that an imported module is bound to: the first part of its path. -/
def ImportName.target (n : ImportName) : String :=
  n.bound.getD (String.ofList (n.path.toList.takeWhile (· != '.')))

/-- What the defaults and annotations of parameters bind in the body around the definition. -/
def defaultsBindings : List Param → Bindings
  | [] => empty
  | .mk _ _ d a :: ps => optionBindings d ++ optionBindings a ++ defaultsBindings ps

mutual

/-- What a statement binds in its body. -/
def Stmt.bindings : Stmt → Bindings
  | .expr _ e => e.bindings
  | .assign _ ts v => targetsBindings ts ++ v.bindings
  | .augment _ t _ v => t.targetBindings ++ v.bindings
  | .annotate _ simple t _ v =>
    (if simple || v.isSome then t.targetBindings else empty) ++ optionBindings v
  | .deleteTargets _ ts => targetsBindings ts
  | .skip _ | .breakLoop _ | .continueLoop _ | .importAll _ _ _ => empty
  | .importModules _ ns => ⟨ns.map ImportName.target, [], [], false⟩
  | .importFrom _ _ _ ns => ⟨ns.map fun n => n.bound.getD n.path, [], [], false⟩
  | .raiseError _ e c => optionBindings e ++ optionBindings c
  | .assertTrue _ t m => t.bindings ++ optionBindings m
  | .ifElse _ t a b => t.bindings ++ blockBindings a ++ blockBindings b
  | .forLoop _ t i a b =>
    t.targetBindings ++ i.bindings ++ blockBindings a ++ blockBindings b
  | .whileLoop _ t a b => t.bindings ++ blockBindings a ++ blockBindings b
  | .tryBlock _ a hs b c =>
    blockBindings a ++ handlersBindings hs ++ blockBindings b ++ blockBindings c
  | .functionDef _ ds _ id ps r _ =>
    name id ++ exprsBindings ds ++ defaultsBindings ps ++ optionBindings r
  | .classDef _ ds _ id args _ => name id ++ exprsBindings ds ++ argumentsBindings args
  | .returnValue _ e => optionBindings e
  | .global _ ids => ⟨[], ids, [], false⟩
  | .nonlocal _ ids => ⟨[], [], ids, false⟩

/-- The same for the statements of a block. -/
def blockBindings : List Stmt → Bindings
  | [] => empty
  | s :: ss => s.bindings ++ blockBindings ss

/-- The same for `except` clauses. -/
def handlersBindings : List Handler → Bindings
  | [] => empty
  | .mk _ k id body :: hs =>
    optionBindings k ++ (match id with | some id => name id | none => empty) ++
      blockBindings body ++ handlersBindings hs

end

end GuestBridge.Script
