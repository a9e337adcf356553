import GuestBridge.Proofs.Handles.Conversions

/-!
# The Handles of Questions, Attributes, Calls, Items, Scripts and Modules

Every operation on the object behind a handle makes a handle on what comes back, if something does,
or else the handles of its error. None of them uses up a handle; asking for the name of the type
changes the handle that is asked.

Running a script makes no handles but on its result. A module that is loaded is held by the session
itself, once for each name; the handle on it is one more reference.
-/

namespace GuestBridge.Bridge

open Guest (Ref Raised)

variable {σ : Type} [GuestState σ] {cx : Context}

/-! ### Questions -/

section

variable {ε : Type} [HasHandles ε]

/-- Asking for the name of the type changes the handle and makes none. -/
theorem turns_typeName (h : Handle) :
    Turns (σ := σ) cx [h] (h.typeName cx : ExceptT (Stop ε) (StateM (World σ)) (String × Handle)).run
      (leaves (fun (_, g) => [g]) [h]) := by
  unfold Handle.typeName
  split
  · exact Turns.ok _ rfl
  · refine Turns.bindHandle fun _ => ?_
    refine Turns.meanwhile (Turns.askOr _ _ _ (by rfl)) fun name => ?_
    exact fun w hs => .tag w h hs (some name)

theorem quiet_isNone (h : Handle) :
    Quiet cx (h.isNone cx : ExceptT (Stop ε) (StateM (World σ)) Bool) :=
  (quiet_bind h).bind fun _ => Makes.pure _ rfl

theorem quiet_retention (h : Handle) :
    Quiet cx (h.retention cx : ExceptT (Stop ε) (StateM (World σ)) Nat) :=
  (quiet_bind h).bind fun r => Makes.always (Turns.askOr (.references r) id 0 (by rfl))

end

theorem quiet_isTruthy (h : Handle) : Quiet (σ := σ) cx (h.isTruthy cx) :=
  (quiet_bind h).bind fun _ => quiet_perform _ _ (by rfl)

theorem quiet_repr (h : Handle) : Quiet (σ := σ) cx (h.repr cx) := by
  refine (quiet_bind h).bind fun r => ?_
  exact (quiet_perform _ _ (by rfl)).bind fun _ => Makes.pure _ rfl

theorem quiet_str (h : Handle) : Quiet (σ := σ) cx (h.str cx) := by
  refine (quiet_bind h).bind fun r => ?_
  exact (quiet_perform _ _ (by rfl)).bind fun _ => Makes.pure _ rfl

theorem quiet_isInstance (h cls : Handle) : Quiet (σ := σ) cx (h.isInstance cx cls) := by
  refine (quiet_bind h).bind fun r => ?_
  exact (quiet_bind cls).bind fun _ => quiet_perform _ _ (by rfl)

/-! ### Attributes -/

theorem makes_member (h : Handle) (name : String) :
    Makes (σ := σ) cx (h.member cx name) fun v => [v] := by
  refine (quiet_bind h).bind fun r => ?_
  exact (quiet_perform _ _ (by rfl)).bind fun v => Makes.always (Turns.acquire v)

theorem quiet_hasAttr (site : Site) (r : Ref) (name : String) :
    Quiet (σ := σ) cx (Handle.hasAttr cx site r name) := by
  refine Turns.meanwhile (Turns.ask _ (fun _ => []) (fun _ => rfl) (by rfl)) fun found => ?_
  cases found with
  | ok _ => exact Makes.pure _ rfl
  | error e =>
      refine Turns.meanwhile (Turns.askOr _ _ _ (by rfl)) fun isMissing => ?_
      cases isMissing with
      | true => exact Makes.pure _ rfl
      | false => exact makes_failWith site e

theorem quiet_hasMember (h : Handle) (name : String) :
    Quiet (σ := σ) cx (h.hasMember cx name) :=
  (quiet_bind h).bind fun _ => quiet_hasAttr _ _ _

theorem quiet_setMember (h : Handle) (name : String) (v : HostValue) :
    Quiet (σ := σ) cx (h.setMember cx name v) := by
  refine (v.quiet_send.orError .convert).bind fun new => ?_
  exact (quiet_bind h).bind fun r => quiet_perform _ _ (by rfl)

/-! ### Calls -/

theorem quiet_sendKeywords (args : List (String × HostValue)) (ks : Handle.Keywords) :
    Quiet (σ := σ) cx (Handle.sendKeywords cx args ks) := by
  induction args generalizing ks with
  | nil => exact Makes.pure _ rfl
  | cons arg args ih =>
      refine arg.2.quiet_send.bind fun r => ?_
      split <;> exact ih _

theorem makes_invoke (callee : Ref) (args : List HostValue)
    (keywords : List (String × HostValue)) :
    Makes (σ := σ) cx (Handle.invoke cx callee args keywords) fun v => [v] := by
  refine ((quiet_sendAll HostValue.quiet_send args).orError .convert).bind fun positional => ?_
  refine ((quiet_sendKeywords keywords ⟨[], []⟩).orError .convert).bind fun ks => ?_
  refine Quiet.bind (Quiet.orError ?_ .call) fun v => Makes.always (Turns.acquire v)
  cases ks.repeated.isEmpty with
  | true => exact quiet_request _ (by rfl)
  | false =>
      refine Turns.meanwhile (Turns.look (x := get) fun _ => rfl) fun _ => ?_
      refine (quiet_request (.newTuple positional) (by rfl)).bind fun t => ?_
      refine (quiet_request (.newDict ks.first) (by rfl)).bind fun d => ?_
      exact (quiet_request (.newDict ks.repeated) (by rfl)).bind fun extra => quiet_request _ (by rfl)

theorem makes_callObject (callee : Ref) (args : List HostValue)
    (keywords : List (String × HostValue)) :
    Makes (σ := σ) cx (Handle.callObject cx callee args keywords) fun v => [v] := by
  refine Turns.meanwhile (Turns.ask _ (fun _ => []) (fun _ => rfl) (by rfl)) fun callable => ?_
  match callable with
  | .ok true => exact makes_invoke callee args keywords
  | .ok false | .error _ => exact makes_notCallable callee

theorem makes_call (h : Handle) (args : List HostValue) (keywords : List (String × HostValue)) :
    Makes (σ := σ) cx (h.call cx args keywords) fun v => [v] :=
  (quiet_bind h).bind fun r => makes_callObject r args keywords

theorem makes_callMethod (h : Handle) (name : String) (args : List HostValue)
    (keywords : List (String × HostValue)) :
    Makes (σ := σ) cx (h.callMethod cx name args keywords) fun v => [v] := by
  refine (quiet_bind h).bind fun r => ?_
  exact (quiet_perform _ _ (by rfl)).bind fun method => makes_callObject method args keywords

/-! ### Items and length -/

theorem makes_subscript (h : Handle) (key : HostValue) :
    Makes (σ := σ) cx (h.subscript cx key) fun v => [v] := by
  refine (quiet_bind h).bind fun container => ?_
  refine (key.quiet_send.orError .convert).bind fun k => ?_
  exact (quiet_perform _ _ (by rfl)).bind fun v => Makes.always (Turns.acquire v)

theorem quiet_setSubscript (h : Handle) (key new : HostValue) :
    Quiet (σ := σ) cx (h.setSubscript cx key new) := by
  refine (quiet_bind h).bind fun container => ?_
  refine (key.quiet_send.orError .convert).bind fun k => ?_
  exact (new.quiet_send.orError .convert).bind fun v => quiet_perform _ _ (by rfl)

theorem quiet_deleteSubscript (h : Handle) (key : HostValue) :
    Quiet (σ := σ) cx (h.deleteSubscript cx key) := by
  refine (quiet_bind h).bind fun container => ?_
  exact (key.quiet_send.orError .convert).bind fun k => quiet_perform _ _ (by rfl)

theorem quiet_length (h : Handle) : Quiet (σ := σ) cx (h.length cx) := by
  refine (quiet_bind h).bind fun r => ?_
  refine (quiet_perform _ _ (by rfl)).bind fun type => ?_
  refine (quiet_hasAttr _ type _).bind fun sized => ?_
  cases sized with
  | true => exact (quiet_perform .length (.length r) (by rfl)).bind fun _ => Makes.pure _ rfl
  | false => exact Makes.pure _ rfl

/-! ### The session's own objects -/

omit [GuestState σ] in
theorem runtimeOf_unchanged (w : World σ) : (runtimeOf cx w).2 = w := rfl

theorem turns_globals : Turns (σ := σ) cx [] (globals cx) fun h => [h] :=
  (Turns.look runtimeOf_unchanged).bind' fun rt => Turns.acquire rt.globals

theorem turns_builtins : Turns (σ := σ) cx [] (builtins cx) fun h => [h] :=
  (Turns.look runtimeOf_unchanged).bind' fun rt => Turns.acquire rt.builtins

theorem turns_noneHandle : Turns (σ := σ) cx [] (noneHandle cx) fun h => [h] :=
  Turns.acquire Guest.noneRef

/-! ### Scripts -/

theorem quiet_compileScript (source : String) (mode : ScriptMode) :
    Quiet (σ := σ) cx (compileScript cx source mode) := by
  refine Turns.meanwhile (Turns.look runtimeOf_unchanged) fun rt => ?_
  refine Quiet.orError ?_ .compile
  refine (quiet_request (.getAttr rt.builtins "compile") (by rfl)).bind fun compile => ?_
  refine (quiet_request (.newStr source) (by rfl)).bind fun text => ?_
  refine (quiet_request (.newStr rt.scriptName) (by rfl)).bind fun file => ?_
  exact (quiet_request (.newStr mode.word) (by rfl)).bind fun word => quiet_request _ (by rfl)

theorem quiet_runCode (code : Ref) (mode : ScriptMode) :
    Quiet (σ := σ) cx (runCode cx code mode) := by
  refine Turns.meanwhile (Turns.look runtimeOf_unchanged) fun rt => ?_
  refine Quiet.orError ?_ .execute
  exact (quiet_request (.getAttr rt.builtins mode.word) (by rfl)).bind fun run => quiet_request _ (by rfl)

theorem makes_execute (source : String) (result : Option String) :
    Makes (σ := σ) cx (execute cx source result) Option.toList := by
  refine (quiet_compileScript source .statements).bind fun code => ?_
  refine Quiet.bind ?_ fun _ => ?_
  · exact (quiet_runCode code .statements).bind fun _ => Makes.pure _ rfl
  cases result with
  | none => exact Makes.pure _ rfl
  | some name =>
      refine Turns.meanwhile (Turns.look runtimeOf_unchanged) fun rt => ?_
      refine (quiet_perform .member (.getName rt.globals name) (by rfl)).bind fun found => ?_
      cases found with
      | none => exact Makes.pure _ rfl
      | some v => exact Makes.hold (Makes.always (Turns.acquire v)) fun h _ => Turns.ok _ rfl

theorem makes_evaluate (expression : String) :
    Makes (σ := σ) cx (evaluate cx expression) fun h => [h] := by
  refine (quiet_compileScript expression .expression).bind fun code => ?_
  exact (quiet_runCode code .expression).bind fun v => Makes.always (Turns.acquire v)

/-! ### Modules -/

theorem quiet_importNow (name : String) : Quiet (σ := σ) cx (importNow name) := by
  refine (quiet_request (.importModule name) (by rfl)).bind fun m => ?_
  exact (quiet_request (.expect m .module) (by rfl)).bind fun _ => Makes.pure _ rfl

theorem quiet_loadModule (name : String) : Quiet (σ := σ) cx (loadModule cx name) := by
  refine Turns.meanwhile (Turns.look runtimeOf_unchanged) fun rt => ?_
  split
  · exact Turns.meanwhile (Turns.note _ _ _ rfl) fun _ => Makes.pure _ rfl
  · refine ((quiet_importNow name).orError (.importing name)).bind fun m => ?_
    refine Turns.meanwhile (Turns.note _ _ _ rfl) fun _ => ?_
    exact Turns.meanwhile (Turns.remember name m) fun _ => Makes.pure _ rfl

theorem makes_importModule (name : String) :
    Makes (σ := σ) cx (importModule cx name) fun h => [h] :=
  (quiet_loadModule name).bind fun m => Makes.always (Turns.acquire m)

theorem makes_importFrom (module symbol : String) :
    Makes (σ := σ) cx (importFrom cx module symbol) fun h => [h] := by
  refine (quiet_loadModule module).bind fun parent => ?_
  refine Turns.meanwhile (Turns.ask (.getAttr parent symbol) (fun _ => []) (fun _ => rfl) (by rfl))
    fun found => ?_
  cases found with
  | ok v => exact Makes.always (Turns.acquire v)
  | error missing =>
      refine Turns.meanwhile (Turns.askOr _ _ _ (by rfl)) fun isMissing => ?_
      cases isMissing with
      | false => exact makes_failWith .member missing
      | true =>
          refine Makes.hold (Makes.always (quiet_importNow (module ++ "." ++ symbol)))
            fun loaded _ => ?_
          match loaded with
          | .ok m =>
              refine Turns.meanwhile (Turns.note _ _ _ rfl) fun _ => ?_
              refine Turns.meanwhile (Turns.remember _ m) fun _ => ?_
              exact Makes.always (Turns.acquire m)
          | .error (.failed e) =>
              refine Turns.meanwhile (Turns.askOr _ _ _ (by rfl)) fun isAbsent => ?_
              cases isAbsent with
              | true => exact makes_failWith .member missing
              | false => exact makes_failWith (.importing (module ++ "." ++ symbol)) e
          | .error (.panicked message) => exact Makes.panicked message

end GuestBridge.Bridge
