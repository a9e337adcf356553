import GuestBridge.Bridge.Startup
import GuestBridge.Workbench.Command

/-!
# Performing commands

How a job carries out its command: names are looked up when the job runs, the operation of the
bridge is performed, its result is described, and new handles are kept under a name or released. An
operation that fails is answered by a report on its error.
-/

namespace GuestBridge.Workbench

open Bridge

variable {σ : Type}

/-! ### Names -/

/-- The thing under a name; without one the job panics. -/
def named {α : Type} (things : Store → Named α) (name : String) : Work σ α := do
  match (things (← store)).get? name with
  | some a => return a
  | none => throw (.panicked ("nothing is kept as " ++ name))

/-- The handle under a name. -/
def handleNamed (name : String) : Work σ Handle := named Store.handles name

/-- The value of an operand, with the handles that its names stand for. -/
def Operand.resolve (o : Operand) : Work σ HostValue := do
  let v ← o.type.traverse handleNamed o.value
  return ⟨o.type, o.type.collected v⟩

/-- The values of keyword operands. -/
def resolveKeywords (ks : List (String × Operand)) : Work σ (List (String × HostValue)) :=
  ks.mapM fun (name, o) => do return (name, ← o.resolve)

/-- Keeps a thing under a name and releases what the thing there before held. -/
def keepAs {α : Type} (cx : Context) (things : Store → Named α) (set : Store → Named α → Store)
    (handles : α → List Handle) (name : String) (a : α) : Work σ Unit := do
  let st ← store
  let old := (things st).get? name
  modifyStore fun st => set st ((things st).put name a)
  match old with
  | some b => discardHandles cx (handles b)
  | none => return ()

/-- Keeps a handle under a name. -/
def keepHandle (cx : Context) (name : String) (h : Handle) : Work σ Unit :=
  keepAs cx Store.handles (fun st l => { st with handles := l }) (fun h => [h]) name h

/-- Keeps a handle if there is a name for it, and releases it otherwise. -/
def settleHandle (cx : Context) (name : Option String) (h : Handle) : Work σ Unit :=
  match name with
  | some n => keepHandle cx n h
  | none => discardHandles cx [h]

/-- Keeps an error if there is a name for it, and drops it otherwise. -/
def settleError (cx : Context) (name : Option String) (e : Error) : Work σ Unit :=
  match name with
  | some n => keepAs cx Store.errors (fun st l => { st with errors := l }) Error.handles n e
  | none => discardHandles cx e.handles

/-- Keeps a view under a name. -/
def keepView (cx : Context) (name : String) (v : View) : Work σ Unit :=
  keepAs cx Store.views (fun st l => { st with views := l }) View.handles name v

/-- Puts the view that came of a step under the name of the view before it. -/
def updateView (name : String) (v : View) : Work σ Unit :=
  modifyStore fun st => { st with views := st.views.put name v }

/-- Keeps a mapping under a name. -/
def keepMapping (cx : Context) (name : String) (m : Mapping) : Work σ Unit :=
  keepAs cx Store.mappings (fun st l => { st with mappings := l }) (fun m => [m.handle]) name m

/-- Keeps a sequence under a name. -/
def keepSequence (cx : Context) (name : String) (s : Sequence) : Work σ Unit :=
  keepAs cx Store.sequences (fun st l => { st with sequences := l }) (fun s => [s.handle]) name s

variable [GuestState σ]

/-! ### Answers -/

/-- Describes a new handle, then keeps or releases it. -/
def answerObject (cx : Context) (name : Option String) (h : Handle) : Work σ Answer := do
  let d ← describe cx h
  settleHandle cx name h
  return .object d

/-- The same for a handle that need not be there. -/
def answerIfAny (cx : Context) (name : Option String) : Option Handle → Work σ Answer
  | some h => do
    let d ← describe cx h
    settleHandle cx name h
    return .objectIfAny (some d)
  | none => return .objectIfAny none

/-- Reports on an error and drops it. -/
def reportLast (cx : Context) (e : Error) : Work σ ErrorReport := do
  let report ← reportError cx e
  discardHandles cx e.handles
  return report

/-- What a cursor gives until it ends, at most `limit` things. -/
def runCursor (cx : Context) : (limit : Nat) → Cursor → Work σ (List CursorItem × Cursor)
  | 0, c => return ([], c)
  | limit + 1, c => do
    match ← bridge (c.next cx) with
    | (.ended, c) => return ([.ended], c)
    | (.element h, c) =>
      let item ← CursorItem.element <$> describeLast cx h
      let (items, c) ← runCursor cx limit c
      return (item :: items, c)
    | (.failed e, c) =>
      let item ← CursorItem.failed <$> reportLast cx e
      let (items, c) ← runCursor cx limit c
      return (item :: items, c)

/-- Sends a value and reads it back. -/
def tripOf (cx : Context) (o : Operand) : Work σ (Except ErrorReport (Description × Reading)) := do
  let v ← o.resolve
  match ← attempt (toForeign cx v) with
  | .error e => return .error (← reportLast cx e)
  | .ok h =>
    let d ← describe cx h
    let r ← readAs cx h v.type
    discardHandles cx [h]
    return .ok (d, r)

/-! ### Commands -/

/-- Performs a command. `thread` is the name of the owner thread and `keep` the name under which a
new handle is kept. -/
def Command.perform (thread : String) (cx : Context) (keep : Option String) :
    Command → Work σ Answer
  | .execute source result => do
    answerIfAny cx keep (← bridge (Bridge.execute cx source result))
  | .evaluate expression => do answerObject cx keep (← bridge (Bridge.evaluate cx expression))
  | .importModule name => do answerObject cx keep (← bridge (Bridge.importModule cx name))
  | .importFrom module symbol => do
    answerObject cx keep (← bridge (Bridge.importFrom cx module symbol))
  | .globals => do
    settleHandle cx keep (← surely (Bridge.globals cx))
    return .nothing
  | .builtins => do
    settleHandle cx keep (← surely (Bridge.builtins cx))
    return .nothing
  | .none => do answerObject cx keep (← surely (noneHandle cx))
  | .toForeign value => do
    answerObject cx keep (← bridge (Bridge.toForeign cx (← value.resolve)))
  | .extract on types => do
    let h ← handleNamed on
    return .readings (← types.mapM (readAs cx h))
  | .inspect setup expression types => do
    match setup with
    | some source =>
      let r ← bridge (Bridge.execute cx source .none)
      discardHandles cx r.toList
    | .none => pure ()
    let h ← bridge (Bridge.evaluate cx expression)
    let d ← describe cx h
    let rs ← types.mapM (readAs cx h)
    discardHandles cx [h]
    return .inspected d rs
  | .roundTrip values => do return .trips (← values.mapM (tripOf cx))
  | .typeName on => do
    let (name, h) ← bridge ((← handleNamed on).typeName cx)
    modifyStore fun st => { st with handles := st.handles.put on h }
    return .text name
  | .repr on => do return .text (← bridge ((← handleNamed on).repr cx))
  | .str on => do return .text (← bridge ((← handleNamed on).str cx))
  | .isTruthy on => do return .flag (← bridge ((← handleNamed on).isTruthy cx))
  | .isNone on => do return .flag (← bridge ((← handleNamed on).isNone cx))
  | .isInstance on cls => do
    return .flag (← bridge ((← handleNamed on).isInstance cx (← handleNamed cls)))
  | .same on other => do return .flag ((← handleNamed on).same (← handleNamed other))
  | .debug on => do return .text (← handleNamed on).debug
  | .clone on => do
    settleHandle cx keep (← bridge ((← handleNamed on).clone cx))
    return .nothing
  | .adopt on => do
    let r ← bridge ((← handleNamed on).bind cx)
    answerObject cx keep (← surely (acquire cx r))
  | .release on => do
    match (← store).handles.get? on with
    | some h =>
      modifyStore fun st => { st with handles := st.handles.erase on }
      discardHandles cx [h]
    | .none => pure ()
    return .nothing
  | .markRetention on => do
    let n ← bridge ((← handleNamed on).retention cx)
    modifyStore fun st => { st with marks := st.marks.put on n }
    return .nothing
  | .retentionChange on => do
    let n ← bridge ((← handleNamed on).retention cx)
    return .number ((n : Int) - (← named Store.marks on))
  | .liveHandles => do return .number (← surely (Bridge.liveHandles cx))
  | .member on name => do answerObject cx keep (← bridge ((← handleNamed on).member cx name))
  | .hasMember on name => do return .flag (← bridge ((← handleNamed on).hasMember cx name))
  | .setMember on name value => do
    bridge ((← handleNamed on).setMember cx name (← value.resolve))
    return .nothing
  | .call on args keywords => do
    let h ← handleNamed on
    let args ← args.mapM Operand.resolve
    let keywords ← resolveKeywords keywords
    answerObject cx keep (← bridge (h.call cx args keywords))
  | .callMethod on name args keywords => do
    let h ← handleNamed on
    let args ← args.mapM Operand.resolve
    let keywords ← resolveKeywords keywords
    answerObject cx keep (← bridge (h.callMethod cx name args keywords))
  | .subscript on key => do
    answerObject cx keep (← bridge ((← handleNamed on).subscript cx (← key.resolve)))
  | .setSubscript on key value => do
    bridge ((← handleNamed on).setSubscript cx (← key.resolve) (← value.resolve))
    return .nothing
  | .deleteSubscript on key => do
    bridge ((← handleNamed on).deleteSubscript cx (← key.resolve))
    return .nothing
  | .length on => do
    match ← bridge ((← handleNamed on).length cx) with
    | some n => return .number n
    | .none => return .nothing
  | .iterate on view => do
    keepView cx view (← bridge ((← handleNamed on).iterate cx))
    return .nothing
  | .advance view => do
    let (next, v) ← bridge ((← named Store.views view).advance cx)
    updateView view v
    match next with
    | .element h => answerIfAny cx keep (some h)
    | .ended => answerIfAny cx keep .none
    | .failed e => throw (.failed e)
  | .viewState view => do return .text (← named Store.views view).state.debug
  | .cursor view limit => do
    let (items, c) ← runCursor cx limit (← named Store.views view).cursor
    updateView view c.view
    return .items items
  | .debugView view => do return .text (← named Store.views view).debug
  | .dropView view => do
    let v ← named Store.views view
    modifyStore fun st => { st with views := st.views.erase view }
    discardHandles cx v.handles
    return .nothing
  | .mapEmpty map => do
    keepMapping cx map (← bridge (Mapping.empty cx))
    return .nothing
  | .mapNew on map => do
    keepMapping cx map ⟨← bridge ((← handleNamed on).clone cx)⟩
    return .nothing
  | .mapContains map key => do
    return .flag (← bridge ((← named Store.mappings map).containsKey cx (← key.resolve)))
  | .mapGet map key => do
    answerObject cx keep (← bridge ((← named Store.mappings map).get cx (← key.resolve)))
  | .mapSet map key value => do
    bridge ((← named Store.mappings map).set cx (← key.resolve) (← value.resolve))
    return .nothing
  | .mapRemove map key => do
    bridge ((← named Store.mappings map).remove cx (← key.resolve))
    return .nothing
  | .mapKeys map => do
    let keys ← bridge ((← named Store.mappings map).keys cx)
    let ds ← keys.mapM (describe cx)
    discardHandles cx keys
    return .objects ds
  | .mapLength map => do return .number (← bridge ((← named Store.mappings map).length cx))
  | .mapIsEmpty map => do return .flag (← bridge ((← named Store.mappings map).isEmpty cx))
  | .mapHandle map => do return .object (← describe cx (← named Store.mappings map).handle)
  | .mapIntoHandle map => do
    let m ← named Store.mappings map
    modifyStore fun st => { st with mappings := st.mappings.erase map }
    answerObject cx keep m.handle
  | .seqNew on seq => do
    keepSequence cx seq ⟨← bridge ((← handleNamed on).clone cx)⟩
    return .nothing
  | .seqGet seq index => do
    answerObject cx keep (← bridge ((← named Store.sequences seq).get cx index))
  | .seqSet seq index value => do
    bridge ((← named Store.sequences seq).set cx index (← value.resolve))
    return .nothing
  | .seqPush seq value => do
    bridge ((← named Store.sequences seq).push cx (← value.resolve))
    return .nothing
  | .seqLength seq => do return .number (← bridge ((← named Store.sequences seq).length cx))
  | .seqIsEmpty seq => do return .flag (← bridge ((← named Store.sequences seq).isEmpty cx))
  | .seqHandle seq => do return .object (← describe cx (← named Store.sequences seq).handle)
  | .seqIntoHandle seq => do
    let s ← named Store.sequences seq
    modifyStore fun st => { st with sequences := st.sequences.erase seq }
    answerObject cx keep s.handle
  | .errorPayload error => do
    match (← named Store.errors error).payload? with
    | some h => answerObject cx keep (← bridge (h.clone cx))
    | .none => return .nothing
  | .errorTraceback error => do
    match (← named Store.errors error).traceback? with
    | some h =>
      let (name, h) ← bridge ((← bridge (h.clone cx)).typeName cx)
      settleHandle cx keep h
      return .someText name
    | .none => return .nothing
  | .errorDebug error => do return .text (← named Store.errors error).debug
  | .dropError error => do
    let e ← named Store.errors error
    modifyStore fun st => { st with errors := st.errors.erase error }
    discardHandles cx e.handles
    return .nothing
  | .threadName => return .text thread
  | .panic message => throw (.panicked message)

/-- How a job of the workbench ends: with an answer, or with a report on an error. -/
abbrev Outcome := Except ErrorReport Answer

/-- Performs a job: its command, and if that fails a report on the error, which is then kept under
its name or dropped. -/
def Job.perform (thread : String) (cx : Context) (j : Job) : Work σ Outcome := do
  let st ← get
  let (r, st) := (j.command.perform thread cx j.keep).run st
  set st
  match r with
  | .ok a => return .ok a
  | .error (.failed e) =>
    let report ← reportError cx e
    settleError cx j.keepError e
    return .error report
  | .error (.panicked message) => throw (.panicked message)

end GuestBridge.Workbench
