import GuestBridge.Proofs.Handles.Collections
import GuestBridge.Proofs.Handles.Access

/-!
# Operations of the Bridge

`Operation` lists what a job can do with the bridge: everything that the host can ask of a context,
a handle, a view, a cursor, a mapping or a sequence. Running an operation tells which handles its
outcome holds; `turns_run` says that it does not leave any other.
-/

namespace GuestBridge.Bridge

open Guest (Ref)

variable {σ : Type} [GuestState σ] {cx : Context}

/-- What a job can do with the bridge. -/
inductive Operation
  | liveHandles
  | globals
  | builtins
  | none
  /-- Takes a handle on an object that the host came by in its own ways. -/
  | adopt (r : Ref)
  | toForeign (v : HostValue)
  | execute (source : String) (result : Option String)
  | evaluate (expression : String)
  | importModule (name : String)
  | importFrom (module symbol : String)
  | clone (h : Handle)
  | typeName (h : Handle)
  | isNone (h : Handle)
  | retention (h : Handle)
  | isTruthy (h : Handle)
  | repr (h : Handle)
  | str (h : Handle)
  | isInstance (h cls : Handle)
  | extract (h : Handle) (t : HostType)
  | member (h : Handle) (name : String)
  | hasMember (h : Handle) (name : String)
  | setMember (h : Handle) (name : String) (v : HostValue)
  | call (h : Handle) (args : List HostValue) (keywords : List (String × HostValue))
  | callMethod (h : Handle) (name : String) (args : List HostValue)
      (keywords : List (String × HostValue))
  | subscript (h : Handle) (key : HostValue)
  | setSubscript (h : Handle) (key new : HostValue)
  | deleteSubscript (h : Handle) (key : HostValue)
  | length (h : Handle)
  | iterate (h : Handle)
  | advance (v : View)
  | next (c : Cursor)
  | newMapping
  | containsKey (m : Mapping) (key : HostValue)
  | getEntry (m : Mapping) (key : HostValue)
  | setEntry (m : Mapping) (key new : HostValue)
  | removeEntry (m : Mapping) (key : HostValue)
  | keys (m : Mapping)
  | mappingLength (m : Mapping)
  | mappingIsEmpty (m : Mapping)
  | getElement (s : Sequence) (i : Sequence.Index)
  | setElement (s : Sequence) (i : Sequence.Index) (new : HostValue)
  | push (s : Sequence) (new : HostValue)
  | sequenceLength (s : Sequence)
  | sequenceIsEmpty (s : Sequence)

namespace Operation

/-- The handles that an operation takes over from the host, to keep them, change them or give them
back. -/
def used : Operation → List Handle
  | typeName h => [h]
  | advance v => v.handles
  | next c => c.view.handles
  | _ => []

/-- Runs a part of the bridge for the handles of its outcome. -/
def outcome {α : Type} (x : Boundary σ α) (made : α → List Handle) (kept : List Handle) :
    StateM (World σ) (List Handle) :=
  leaves made kept <$> x.run

/-- Runs an operation; the answer is the handles of its outcome. After a panic the host still has
those that the operation was to use. -/
def run (cx : Context) : Operation → StateM (World σ) (List Handle)
  | liveHandles => (fun _ => []) <$> Bridge.liveHandles cx
  | globals => (fun h => [h]) <$> Bridge.globals cx
  | builtins => (fun h => [h]) <$> Bridge.builtins cx
  | none => (fun h => [h]) <$> noneHandle cx
  | adopt r => (fun h => [h]) <$> acquire cx r
  | toForeign v => outcome (Bridge.toForeign cx v) (fun h => [h]) []
  | execute source result => outcome (Bridge.execute cx source result) Option.toList []
  | evaluate expression => outcome (Bridge.evaluate cx expression) (fun h => [h]) []
  | importModule name => outcome (Bridge.importModule cx name) (fun h => [h]) []
  | importFrom module symbol => outcome (Bridge.importFrom cx module symbol) (fun h => [h]) []
  | clone h => outcome (h.clone cx) (fun g => [g]) []
  | typeName h => outcome (h.typeName cx) (fun (_, g) => [g]) [h]
  | isNone h => outcome (h.isNone cx) (fun _ => []) []
  | retention h => outcome (h.retention cx) (fun _ => []) []
  | isTruthy h => outcome (h.isTruthy cx) (fun _ => []) []
  | repr h => outcome (h.repr cx) (fun _ => []) []
  | str h => outcome (h.str cx) (fun _ => []) []
  | isInstance h cls => outcome (h.isInstance cx cls) (fun _ => []) []
  | extract h t => outcome (h.extract cx t) (fun v => v.elim [] t.handles) []
  | member h name => outcome (h.member cx name) (fun g => [g]) []
  | hasMember h name => outcome (h.hasMember cx name) (fun _ => []) []
  | setMember h name v => outcome (h.setMember cx name v) (fun _ => []) []
  | call h args keywords => outcome (h.call cx args keywords) (fun g => [g]) []
  | callMethod h name args keywords =>
      outcome (h.callMethod cx name args keywords) (fun g => [g]) []
  | subscript h key => outcome (h.subscript cx key) (fun g => [g]) []
  | setSubscript h key new => outcome (h.setSubscript cx key new) (fun _ => []) []
  | deleteSubscript h key => outcome (h.deleteSubscript cx key) (fun _ => []) []
  | length h => outcome (h.length cx) (fun _ => []) []
  | iterate h => outcome (h.iterate cx) View.handles []
  | advance v => outcome (v.advance cx) View.advanced v.handles
  | next c => outcome (c.next cx) Cursor.advanced c.view.handles
  | newMapping => outcome (Mapping.empty cx) (fun m => [m.handle]) []
  | containsKey m key => outcome (m.containsKey cx key) (fun _ => []) []
  | getEntry m key => outcome (m.get cx key) (fun g => [g]) []
  | setEntry m key new => outcome (m.set cx key new) (fun _ => []) []
  | removeEntry m key => outcome (m.remove cx key) (fun _ => []) []
  | keys m => outcome (m.keys cx) id []
  | mappingLength m => outcome (m.length cx) (fun _ => []) []
  | mappingIsEmpty m => outcome (m.isEmpty cx) (fun _ => []) []
  | getElement s i => outcome (s.get cx i) (fun g => [g]) []
  | setElement s i new => outcome (s.set cx i new) (fun _ => []) []
  | push s new => outcome (s.push cx new) (fun _ => []) []
  | sequenceLength s => outcome (s.length cx) (fun _ => []) []
  | sequenceIsEmpty s => outcome (s.isEmpty cx) (fun _ => []) []

theorem turns_outcome {α : Type} {x : Boundary σ α} {made : α → List Handle}
    {used kept : List Handle} (hx : Turns cx used x.run (leaves made kept)) :
    Turns cx used (outcome x made kept) id :=
  hx.map fun _ => rfl

/-- **Every operation turns the handles that it uses into those of its outcome.** Whatever the guest
does, and whether the operation succeeds, fails or panics, there are no others. -/
theorem turns_run (op : Operation) : Turns (σ := σ) cx op.used (op.run cx) id := by
  cases op with
  | liveHandles => exact (Turns.look (x := Bridge.liveHandles cx) fun _ => rfl).map fun _ => rfl
  | globals => exact turns_globals.map fun _ => rfl
  | builtins => exact turns_builtins.map fun _ => rfl
  | none => exact turns_noneHandle.map fun _ => rfl
  | adopt r => exact (Turns.acquire r).map fun _ => rfl
  | toForeign v => exact turns_outcome (makes_toForeign v)
  | execute source result => exact turns_outcome (makes_execute source result)
  | evaluate expression => exact turns_outcome (makes_evaluate expression)
  | importModule name => exact turns_outcome (makes_importModule name)
  | importFrom module symbol => exact turns_outcome (makes_importFrom module symbol)
  | clone h => exact turns_outcome (makes_clone h)
  | typeName h => exact turns_outcome (turns_typeName h)
  | isNone h => exact turns_outcome (quiet_isNone h)
  | retention h => exact turns_outcome (quiet_retention h)
  | isTruthy h => exact turns_outcome (quiet_isTruthy h)
  | repr h => exact turns_outcome (quiet_repr h)
  | str h => exact turns_outcome (quiet_str h)
  | isInstance h cls => exact turns_outcome (quiet_isInstance h cls)
  | extract h t => exact turns_outcome (makes_extract h t)
  | member h name => exact turns_outcome (makes_member h name)
  | hasMember h name => exact turns_outcome (quiet_hasMember h name)
  | setMember h name v => exact turns_outcome (quiet_setMember h name v)
  | call h args keywords => exact turns_outcome (makes_call h args keywords)
  | callMethod h name args keywords => exact turns_outcome (makes_callMethod h name args keywords)
  | subscript h key => exact turns_outcome (makes_subscript h key)
  | setSubscript h key new => exact turns_outcome (quiet_setSubscript h key new)
  | deleteSubscript h key => exact turns_outcome (quiet_deleteSubscript h key)
  | length h => exact turns_outcome (quiet_length h)
  | iterate h => exact turns_outcome (makes_iterate h)
  | advance v => exact turns_outcome (turns_advance v)
  | next c => exact turns_outcome (turns_next c)
  | newMapping => exact turns_outcome Mapping.makes_empty
  | containsKey m key => exact turns_outcome (m.quiet_containsKey key)
  | getEntry m key => exact turns_outcome (m.makes_get key)
  | setEntry m key new => exact turns_outcome (m.quiet_set key new)
  | removeEntry m key => exact turns_outcome (m.quiet_remove key)
  | keys m => exact turns_outcome m.makes_keys
  | mappingLength m => exact turns_outcome m.quiet_length
  | mappingIsEmpty m => exact turns_outcome m.quiet_isEmpty
  | getElement s i => exact turns_outcome (s.makes_get i)
  | setElement s i new => exact turns_outcome (s.quiet_set i new)
  | push s new => exact turns_outcome (s.quiet_push new)
  | sequenceLength s => exact turns_outcome s.quiet_length
  | sequenceIsEmpty s => exact turns_outcome s.quiet_isEmpty

end Operation

end GuestBridge.Bridge
