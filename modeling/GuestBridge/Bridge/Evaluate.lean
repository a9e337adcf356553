import GuestBridge.Bridge.View

/-!
# Running scripts and loading modules

A script is compiled and then run in the session's dictionary of globals, both by the functions that
the guest's built-in names have for it at that moment. Modules are loaded once for each session: a
name that was loaded before is answered from the session's own list.
-/

namespace GuestBridge.Bridge

open Guest (Ref Raised Kind)

variable {σ : Type} [GuestState σ]

/-! ### The session's own objects -/

/-- What a session lives on; nothing sensible before it has started. -/
def runtimeOf (cx : Context) : StateM (World σ) Runtime := fun w =>
  ((w.session cx.session).runtime.getD
    ⟨"", Guest.noneRef, Guest.noneRef, [], Guest.noneRef, none⟩, w)

/-- A handle on the dictionary of globals. -/
def globals (cx : Context) : StateM (World σ) Handle := do
  acquire cx (← runtimeOf cx).globals

/-- A handle on the module of built-in names. -/
def builtins (cx : Context) : StateM (World σ) Handle := do
  acquire cx (← runtimeOf cx).builtins

/-- A handle on `None`. -/
def noneHandle (cx : Context) : StateM (World σ) Handle := acquire cx Guest.noneRef

/-- The number of handles of the session that exist. -/
def liveHandles (cx : Context) : StateM (World σ) Nat := fun w =>
  ((w.session cx.session).live, w)

/-! ### Scripts -/

/-- How a script is compiled. -/
inductive ScriptMode
  | statements | expression
  deriving DecidableEq, Repr, Inhabited

/-- The guest's word for a way of compiling. -/
def ScriptMode.word : ScriptMode → String
  | statements => "exec"
  | expression => "eval"

/-- Compiles a script under the session's file name. -/
def compileScript (cx : Context) (source : String) (mode : ScriptMode) : Boundary σ Ref := do
  let rt ← always (runtimeOf cx)
  let step : Crossing σ Ref := do
    let compile ← request (.getAttr rt.builtins "compile")
    let text ← request (.newStr source)
    let file ← request (.newStr rt.scriptName)
    let word ← request (.newStr mode.word)
    request (.call compile [text, file, word] [])
  step.orError cx .compile

/-- Runs compiled code in the session's globals. -/
def runCode (cx : Context) (code : Ref) (mode : ScriptMode) : Boundary σ Ref := do
  let rt ← always (runtimeOf cx)
  let step : Crossing σ Ref := do
    let run ← request (.getAttr rt.builtins mode.word)
    request (.call run [code, rt.globals] [])
  step.orError cx .execute

/-- Runs a script; the answer is the value of the name `result` afterwards, if one is asked for and
bound. -/
def execute (cx : Context) (source : String) (result : Option String) :
    Boundary σ (Option Handle) := do
  let code ← compileScript cx source .statements
  discard <| runCode cx code .statements
  match result with
  | none => return none
  | some name =>
    let rt ← always (runtimeOf cx)
    match ← perform cx .member (.getName rt.globals name) with
    | some v => some <$> always (acquire cx v)
    | none => return none

/-- The value of an expression. -/
def evaluate (cx : Context) (expression : String) : Boundary σ Handle := do
  let code ← compileScript cx expression .expression
  let v ← runCode cx code .expression
  always (acquire cx v)

/-! ### Modules -/

/-- Loads a module by way of the guest; something else than a module is refused. -/
def importNow (name : String) : Crossing σ Ref := do
  let m ← request (.importModule name)
  request (.expect m .module)
  return m

/-- Remembers a loaded module for the session, in place of an earlier one of the name. -/
def rememberModule (cx : Context) (name : String) (m : Ref) : StateM (World σ) Unit := fun w =>
  let w := w.hold m
  match (w.session cx.session).runtime with
  | none => ((), w.drop m)
  | some rt =>
    let w := match rt.modules.lookup name with
      | some old => w.drop old
      | none => w
    let modules := (name, m) :: rt.modules.filter (·.1 != name)
    ((), w.modifySession cx.session fun st => { st with runtime := some { rt with modules } })

/-- The module of a name: the one loaded before, or else loaded now. -/
def loadModule (cx : Context) (name : String) : Boundary σ Ref := do
  match (← always (runtimeOf cx)).modules.lookup name with
  | some m =>
    always (note .trace "module cache hit" [("module", name)])
    return m
  | none =>
    let m ← (importNow name).orError cx (.importing name)
    always (note .debug "imported module" [("module", name)])
    always (rememberModule cx name m)
    return m

/-- A handle on the module of a name. -/
def importModule (cx : Context) (name : String) : Boundary σ Handle := do
  let m ← loadModule cx name
  always (acquire cx m)

/-- What a module has under a name: an attribute, or else a module inside it. If there is neither,
the missing attribute is what is reported. -/
def importFrom (cx : Context) (module symbol : String) : Boundary σ Handle := do
  let parent ← loadModule cx module
  match ← always (ask? (.getAttr parent symbol)) with
  | .ok v => always (acquire cx v)
  | .error missing =>
    if ← always (isRaised missing .attributeError) then
      let qualified := module ++ "." ++ symbol
      match ← always (importNow qualified).run with
      | .ok m =>
        always (note .debug "imported submodule" [("module", qualified)])
        always (rememberModule cx qualified m)
        always (acquire cx m)
      | .error (.failed e) =>
        if ← always (isRaised e .moduleNotFoundError) then failWith cx .member missing
        else failWith cx (.importing qualified) e
      | .error (.panicked message) => panicWith message
    else failWith cx .member missing

end GuestBridge.Bridge
