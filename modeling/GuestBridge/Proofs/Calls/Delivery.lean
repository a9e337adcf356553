import GuestBridge.Proofs.Calls.Keywords
import GuestBridge.Proofs.Calls.Switchboard

/-!
# Arguments Arrive as They Were Given, or Not at All

A call through a handle finds what is to be called, asks whether it can be called, and sends the values
of its arguments in order. After that one call is made. Where the keyword names are distinct it is the
call of the callee, with the objects that were sent, in their order. Otherwise the callee is handed over
to the function that passes calls on, and the guest refuses the call for the keyword whose second
occurrence comes first.

That nothing else is called is said of the requests (`CallsOnce`): those of a conversion are none, nor
are those by which an exception is reported.

## Main statements

* `Callee.run_call` — once the arguments have been sent, the call is all that is left.
* `Handle.place_repeated` — what the guest is asked where a keyword is repeated.
* `Callee.call_arrives` — arguments arrive as they were given, or not at all.
-/

namespace GuestBridge.Bridge

open Guest (Ref Raised ErrorKind noneRef)

variable {σ : Type} [GuestState σ]

/-! ### What is called -/

/-- Nothing is called between two worlds. -/
def NoCalls (w w' : World σ) : Prop := ∃ tr, Runs w tr w' ∧ ∀ q ∈ tr, q.request.callee? = none

namespace NoCalls

variable {w w₁ w' : World σ}

theorem refl (w : World σ) : NoCalls w w := ⟨[], .refl w, nofun⟩

theorem trans (first : NoCalls w w₁) (second : NoCalls w₁ w') : NoCalls w w' := by
  obtain ⟨tr, first, none⟩ := first
  obtain ⟨tr', second, none'⟩ := second
  exact ⟨tr ++ tr', first.append second, fun q hq => (List.mem_append.mp hq).elim (none q) (none' q)⟩

/-- What happens on the bridge's own side. -/
theorem own (same : w'.guest = w.guest) : NoCalls w w' := ⟨[], .stay same, nofun⟩

theorem ask {α : Type} {r : Request α} (free : r.callee? = none) {a : Except Raised α}
    (asked : w.ask r = (a, w')) : NoCalls w w' := by
  have single := Runs.single w r
  rw [asked] at single
  exact ⟨_, single, List.forall_mem_singleton.mpr free⟩

end NoCalls

/-- Of all that the guest is asked between two worlds, one request is a call, and that is made in the
world `u`. -/
structure CallsOnce (w u : World σ) (r : Request Ref) (w' : World σ) : Prop where
  before : NoCalls w u
  after : NoCalls (u.ask r).2 w'

/-! ### Sending arguments -/

variable {cx : Context} {w w₁ w' : World σ}

/-- Values are sent without a call. -/
theorem noCalls_sendAll {args : List HostValue} {rs : List Ref}
    (sent : (sendAll (HostValue.send cx) args).run w = (.ok rs, w')) : NoCalls w w' := by
  have crosses : Crosses (σ := σ) (fun q => q.request.callee? = none) (sendAll (HostValue.send cx) args)
      fun _ => ∀ v ∈ args, cx.Owns v.handles := crosses_sendValues (fun _ free => free) args
  obtain ⟨tr, runs, crossed⟩ := crosses w
  rw [sent] at runs crossed
  cases crossed with
  | done calm _ => exact ⟨tr, runs, fun q hq => (calm q hq).1⟩

omit [GuestState σ] in
theorem length_of_sendAll {α : Type} {send : α → Crossing σ Ref} {xs : List α} {rs : List Ref} {w w' : World σ}
    (sent : (sendAll send xs).run w = (.ok rs, w')) : rs.length = xs.length := by
  induction xs generalizing rs w with
  | nil =>
      cases sent
      rfl
  | cons x xs ih =>
      obtain ⟨r, w₁, first, rest⟩ := run_bind_ok_iff.mp sent
      obtain ⟨rs, w₂, rest, done⟩ := run_bind_ok_iff.mp rest
      cases done
      exact congrArg (· + 1) (ih rest)

/-- Where the values of keyword arguments are sent, these are split. -/
theorem Handle.run_sendKeywords {keywords : List (String × HostValue)} {values : List Ref} {w w' : World σ}
    (sent : (sendAll (HostValue.send cx) (keywords.map Prod.snd)).run w = (.ok values, w'))
    (ks : Handle.Keywords) : (Handle.sendKeywords cx keywords ks).run w =
      (.ok (((keywords.map Prod.fst).zip values).foldl Handle.Keywords.add ks), w') := by
  rw [Handle.sendKeywords_eq, map_eq_pure_bind, run_bind_of_ok sent]
  rfl

/-! ### The call itself -/

/-- The call with arguments that were sent. -/
def Handle.place (cx : Context) (callee : Ref) (positional : List Ref) (ks : Handle.Keywords) :
    Crossing σ Ref := do
  if ks.repeated.isEmpty then request (.call callee positional ks.first)
  else
    let runtime := ((← get).session cx.session).runtime
    let passOn := (runtime.map (·.keywordCall)).getD Guest.noneRef
    let t ← request (.newTuple positional)
    let d ← request (.newDict ks.first)
    let extra ← request (.newDict ks.repeated)
    request (.call passOn [callee, t, d, extra] [])

/-- A call as an operation, with a handle on what comes back. -/
def Handle.deliver (cx : Context) (callee : Ref) (positional : List Ref) (ks : Handle.Keywords) :
    Boundary σ Handle := do
  let v ← (Handle.place cx callee positional ks).orError cx .call
  always (acquire cx v)

/-- What is called through a handle: its object, or the value of one of its attributes. -/
inductive Callee
  | object
  | method (name : String)

namespace Callee

/-- Finds what is to be called. -/
def find (h : Handle) (cx : Context) : Callee → Boundary σ Ref
  | object => h.bind cx
  | method name => do perform cx .member (.getAttr (← h.bind cx) name)

/-- Calls it. -/
def call (h : Handle) (cx : Context) (args : List HostValue) (keywords : List (String × HostValue)) :
    Callee → Boundary σ Handle
  | object => h.call cx args keywords
  | method name => h.callMethod cx name args keywords

variable {h : Handle} {args : List HostValue} {keywords : List (String × HostValue)}

theorem call_eq (c : Callee) : (c.call h cx args keywords : Boundary σ Handle) =
    c.find h cx >>= fun callee => Handle.callObject cx callee args keywords := by
  cases c with
  | object => rfl
  | method name => exact (bind_assoc _ _ _).symm

/-- What is to be called is found without a call. -/
theorem noCalls_find (c : Callee) {callee : Ref} (found : (c.find h cx).run w = (.ok callee, w')) :
    NoCalls w w' := by
  have bound {r : Ref} {w w' : World σ} (bound : (h.bind cx : Boundary σ Ref).run w = (.ok r, w')) :
      w' = w := by
    rw [Handle.bind] at bound
    split at bound <;> cases bound
    rfl
  cases c with
  | object =>
      cases bound found
      exact .refl w
  | method name =>
      obtain ⟨r, w₁, own, looked⟩ := run_bind_ok_iff.mp found
      cases bound own
      have traced : Traced (perform cx .member (.getAttr r name) : Boundary σ Ref).run
          (Performed cx .member (.getAttr r name)) := traced_perform .member _
      obtain ⟨tr, runs, performed⟩ := traced w
      rw [looked] at runs performed
      cases performed with
      | done => exact ⟨_, runs, List.forall_mem_singleton.mpr rfl⟩

end Callee

/-! ### How a call ends -/

/-- Reporting an exception calls nothing. -/
theorem Translates.callee? {site : Site} {e : Raised} {tr : List Asked} {error : Error}
    (h : Translates cx site e tr error) : ∀ q ∈ tr, q.request.callee? = none := by
  have told {d : Diagnostic} {tr : List Asked} (h : Diagnosed e tr d) : ∀ q ∈ tr, q.request.callee? = none := by
    cases h <;> simp [Request.callee?]
  have tested (k : ErrorKind) (a : Except Raised Bool) : (test e k a).request.callee? = none := rfl
  cases h with
  | compile diagnosed => exact told diagnosed
  | module name diagnosed | iteration target diagnosed =>
      exact List.forall_mem_append.mpr ⟨told diagnosed, List.forall_mem_singleton.mpr rfl⟩
  | entry container key text diagnosed =>
      refine List.forall_mem_append.mpr ⟨told diagnosed, List.forall_mem_cons.mpr ⟨tested _ _, ?_⟩⟩
      exact List.forall_mem_singleton.mpr rfl
  | foreign diagnosed unspecific tracebacks =>
      refine List.forall_mem_append.mpr ⟨List.forall_mem_append.mpr ⟨told diagnosed, ?_⟩, ?_⟩
      · cases unspecific <;> simp [tested]
      · cases tracebacks <;> simp [Request.callee?]

/-- How a call ends, by the answer of the guest and the world after it: with a handle on what came back,
or with the exception that was raised. -/
def Context.Returns (cx : Context) (answer : Except Raised Ref × World σ)
    (result : Except (Stop Error) Handle) : Prop :=
  match answer.1 with
  | .ok v => result = .ok (cx.handle v)
  | .error e => ∃ traceback, result =
      .error (.failed (.foreignException (cx.handle e.value) traceback (diagnose e answer.2).1))

/-- Once a call is made, nothing else is called, and it ends as the guest answers. -/
theorem Handle.deliver_ends {callee : Ref} {positional : List Ref} {ks : Handle.Keywords} {u : World σ}
    {r : Request Ref} (placed : (Handle.place cx callee positional ks).run w = (request r).run u) :
    NoCalls (u.ask r).2 ((Handle.deliver cx callee positional ks).run w).2 ∧
      cx.Returns (u.ask r) ((Handle.deliver cx callee positional ks).run w).1 := by
  rw [run_request] at placed
  rw [Handle.deliver, ExceptT.run_bind, bind_apply]
  match asked : u.ask r with
  | (.ok v, u') =>
      rw [asked] at placed
      rw [run_orError_of_ok placed]
      exact ⟨.own rfl, rfl⟩
  | (.error e, u') =>
      rw [asked] at placed
      rw [run_orError_of_failed placed]
      have reports : Traced (σ := σ) (failure cx .call e) (Translates cx .call e) := traced_failure .call e
      obtain ⟨tr, runs, translates⟩ := reports u'
      obtain ⟨traceback, foreign⟩ := failure_call cx e u'
      refine ⟨⟨tr, runs, translates.callee?⟩, traceback, ?_⟩
      exact congrArg (fun e => Except.error (Stop.failed e)) foreign

namespace Callee

variable {h : Handle} {args : List HostValue} {keywords : List (String × HostValue)} {c : Callee}
  {callee : Ref} {positional values : List Ref} {w₂ w₃ w₄ : World σ}

/-- Once the arguments have been sent, the call is all that is left. -/
theorem run_call (found : (c.find h cx).run w = (.ok callee, w₁))
    (callable : w₁.ask (.isCallable callee) = (.ok true, w₂))
    (sent : (sendAll (HostValue.send cx) args).run w₂ = (.ok positional, w₃))
    (sent' : (sendAll (HostValue.send cx) (keywords.map Prod.snd)).run w₃ = (.ok values, w₄)) :
    (c.call h cx args keywords).run w = (Handle.deliver cx callee positional
      (.split ((keywords.map Prod.fst).zip values))).run w₄ := by
  have allowed : (Handle.callObject cx callee args keywords : Boundary σ Handle).run w₁ =
      (Handle.invoke cx callee args keywords).run w₂ := by
    rw [Handle.callObject, run_always_bind, ask?, callable]
  have keywordsSent := Handle.run_sendKeywords sent' ⟨[], []⟩
  rw [call_eq, run_bind_of_ok found, allowed, Handle.invoke,
    run_bind_of_ok (run_orError_of_ok sent cx .convert),
    run_bind_of_ok (run_orError_of_ok keywordsSent cx .convert)]
  rfl

/-- Nothing is called before. -/
theorem noCalls_before (found : (c.find h cx).run w = (.ok callee, w₁))
    (callable : w₁.ask (.isCallable callee) = (.ok true, w₂))
    (sent : (sendAll (HostValue.send cx) args).run w₂ = (.ok positional, w₃))
    (sent' : (sendAll (HostValue.send cx) (keywords.map Prod.snd)).run w₃ = (.ok values, w₄)) :
    NoCalls w w₄ :=
  ((c.noCalls_find found).trans (.ask rfl callable)).trans
    ((noCalls_sendAll sent).trans (noCalls_sendAll sent'))

end Callee

/-- The session passes calls on with a function that the guest knows as one, and the guest keeps the
laws. -/
structure Switchboard.Connects (V : Switchboard σ) (cx : Context) (w : World σ) (passOn : Ref) : Prop where
  laws : V.Laws
  ready : V.Ready w.guest
  running : (w.session cx.session).runtime.map (·.keywordCall) = some passOn
  passes : V.passesOn w.guest passOn

/-- Where a keyword is given twice, the callee is handed over with a tuple and two dictionaries, and the
guest refuses the call for the keyword whose second occurrence comes first. -/
theorem Handle.place_repeated {V : Switchboard σ} (callee : Ref) (positional : List Ref)
    {es : List (String × Ref)} {x : String} (repeated : FirstRepeat (es.map Prod.fst) x)
    {passOn : Ref} (connects : V.Connects cx w passOn) : ∃ u t d extra e u', NoCalls w u ∧
      (Handle.place cx callee positional (.split es)).run w =
        (request (.call passOn [callee, t, d, extra] [])).run u ∧
      u.ask (.call passOn [callee, t, d, extra] []) = (.error e, u') ∧
      V.Refuses u.held callee x u.guest e u'.guest := by
  obtain ⟨laws, ready, running, passes⟩ := connects
  obtain ⟨v, rest, leads⟩ := Keywords.split_of_firstRepeat repeated
  have sound := Keywords.sound_split es
  obtain ⟨t, u₁, madeTuple, grown, items⟩ := w.ask_of_answers (laws.newTuple positional ready)
  obtain ⟨d, u₂, madeFirst, grown', first⟩ := u₁.ask_of_answers (laws.newDict grown.ready sound.first)
  obtain ⟨extra, u, madeSecond, grown'', second⟩ :=
    u₂.ask_of_answers (laws.newDict grown'.ready sound.repeated)
  have old : x ∈ (Keywords.split es).first.map Prod.fst := by
    refine sound.known x ?_
    rw [leads]
    exact List.mem_cons_self
  have found : ((Keywords.split es).repeated.map Prod.fst).find?
      (· ∈ (Keywords.split es).first.map Prod.fst) = some x := by
    rw [leads, List.map_cons, List.find?_cons_of_pos (by simpa using old)]
  obtain ⟨e, writes, s', performed, refuses⟩ := laws.refuse callee grown''.ready
    ((grown.trans (grown'.trans grown'')).passesOn passes)
    ((grown'.trans grown'').known.shape items) (grown''.entries first) second found u.held
  obtain ⟨u', asked, rfl⟩ := World.ask_of_perform performed
  refine ⟨u, t, d, extra, e, u', ?_, ?_, asked, refuses⟩
  · exact (NoCalls.ask rfl madeTuple).trans ((NoCalls.ask rfl madeFirst).trans (.ask rfl madeSecond))
  · have some : (Keywords.split es).repeated.isEmpty = false := by rw [leads]; rfl
    rw [Handle.place, some]
    change (do
      let t ← request (.newTuple positional)
      let d ← request (.newDict (Keywords.split es).first)
      let extra ← request (.newDict (Keywords.split es).repeated)
      request (.call (((w.session cx.session).runtime.map (·.keywordCall)).getD Guest.noneRef)
        [callee, t, d, extra] []) : Crossing σ Ref).run w = _
    rw [running, Option.getD_some, run_bind_of_ok (run_request_of_ok madeTuple),
      run_bind_of_ok (run_request_of_ok madeFirst), run_bind_of_ok (run_request_of_ok madeSecond)]

/-- How a call ends that is refused for a keyword, by what the callee is called: with the exception that
reports the keyword, or with the one that was raised while the callee was named. -/
def Context.Rejects (cx : Context) (x : String) (name : Except Raised Text)
    (result : Except (Stop Error) Handle) : Prop :=
  match name with
  | .ok name => ∃ e traceback text, result = .error (.failed (.foreignException (cx.handle e) traceback
      ⟨"TypeError", name.lossy ++ (" got multiple values for keyword argument '" ++ x ++ "'"), text⟩))
  | .error raised => ∃ traceback d, result =
      .error (.failed (.foreignException (cx.handle raised.value) traceback d))

theorem Switchboard.Refuses.rejects {V : Switchboard σ} {callee : Ref} {x : String} {s : σ} {held : List Ref}
    {e : Raised} {u' : World σ} (refuses : V.Refuses held callee x s e u'.guest)
    {result : Except (Stop Error) Handle} (returns : cx.Returns (.error e, u') result) :
    cx.Rejects x (V.naming held callee s).1 result := by
  obtain ⟨traceback, ended⟩ := returns
  cases named : (V.naming held callee s).1 with
  | ok name =>
      obtain ⟨text, told⟩ := diagnose_of_describes (refuses.named named)
      refine ⟨e.value, traceback, text, ended.trans ?_⟩
      rw [told, repeatMessage, Text.lossy_append, Text.lossy_ofString]
  | error raised => exact ⟨traceback, _, by rw [ended, refuses.unnamed named]⟩

/-- A call is made as a request in the world `u`, and ends as the guest answers it. -/
structure Context.Delivers (cx : Context) (w u : World σ) (r : Request Ref)
    (run : Except (Stop Error) Handle × World σ) : Prop where
  once : CallsOnce w u r run.2
  returns : cx.Returns (u.ask r) run.1

/-- A call is handed over as a request in the world `u`, and refused for a keyword: the guest names the
callee and does nothing else. -/
structure Switchboard.TurnsAway (V : Switchboard σ) (cx : Context) (callee : Ref) (x : String) (w u : World σ)
    (r : Request Ref) (run : Except (Stop Error) Handle × World σ) : Prop where
  once : CallsOnce w u r run.2
  only : V.Grows (V.naming u.held callee u.guest).2 (u.ask r).2.guest
  rejects : cx.Rejects x (V.naming u.held callee u.guest).1 run.1

/-- **Arguments arrive as they were given, or not at all.** Once a callee has been found that can be
called, and the values of all arguments have been sent, it is called exactly once and with these if the
keyword names are distinct. If they are not, it is not called, and the call fails for the keyword whose
second occurrence comes first; where the callee cannot be named, it fails with what that raised. -/
theorem Callee.call_arrives (c : Callee) {h : Handle} {args : List HostValue}
    {keywords : List (String × HostValue)} {callee : Ref} {positional values : List Ref}
    {w w₁ w₂ w₃ w₄ : World σ} (found : (c.find h cx).run w = (.ok callee, w₁))
    (callable : w₁.ask (.isCallable callee) = (.ok true, w₂))
    (sent : (sendAll (HostValue.send cx) args).run w₂ = (.ok positional, w₃))
    (sent' : (sendAll (HostValue.send cx) (keywords.map Prod.snd)).run w₃ = (.ok values, w₄)) :
    ((keywords.map Prod.fst).Nodup →
      cx.Delivers w w₄ (.call callee positional ((keywords.map Prod.fst).zip values))
        ((c.call h cx args keywords).run w)) ∧
    (¬ (keywords.map Prod.fst).Nodup → ∀ (V : Switchboard σ) (passOn : Ref), V.Connects cx w₄ passOn →
      ∃ x, FirstRepeat (keywords.map Prod.fst) x ∧ ∃ u t d extra,
        V.TurnsAway cx callee x w u (.call passOn [callee, t, d, extra] [])
          ((c.call h cx args keywords).run w)) := by
  have before := Callee.noCalls_before found callable sent sent'
  have lengths : (keywords.map Prod.fst).length = values.length := by
    rw [length_of_sendAll sent', List.length_map, List.length_map]
  have names : ((keywords.map Prod.fst).zip values).map Prod.fst = keywords.map Prod.fst :=
    List.map_fst_zip (Nat.le_of_eq lengths)
  rw [Callee.run_call found callable sent sent']
  refine ⟨fun distinct => ?_, fun repeated V passOn connects => ?_⟩
  · have kept := Handle.Keywords.split_of_nodup (names.symm ▸ distinct)
    have placed : (Handle.place cx callee positional (.split ((keywords.map Prod.fst).zip values))).run w₄ =
        (request (.call callee positional ((keywords.map Prod.fst).zip values))).run w₄ := by
      rw [kept]
      rfl
    obtain ⟨after, returns⟩ := Handle.deliver_ends placed
    exact ⟨⟨before, after⟩, returns⟩
  · obtain ⟨x, first⟩ := exists_firstRepeat_iff.mpr repeated
    obtain ⟨u, t, d, extra, e, u', made, placed, asked, refuses⟩ :=
      Handle.place_repeated callee positional (names.symm ▸ first) connects
    obtain ⟨after, returns⟩ := Handle.deliver_ends placed
    rw [asked] at returns
    refine ⟨x, first, u, t, d, extra, ⟨before.trans made, after⟩, ?_, refuses.rejects returns⟩
    rw [asked]
    exact refuses.only

open Porter in
theorem Callee.call_arrives_porter :
    (⟨0⟩ : Context).Delivers (world []) (world [5, 0, 1]) (.call ⟨4⟩ [⟨7⟩] [("y", ⟨8⟩), ("x", ⟨9⟩)])
      (((Callee.method "m").call (handle ⟨4⟩) ⟨0⟩ [⟨.bigInt, (5 : Int)⟩] (numbered ["y", "x"])).run (world [])) ∧
    (∃ u t d extra, switchboard.TurnsAway ⟨0⟩ ⟨4⟩ "x" (world []) u (.call ⟨3⟩ [⟨4⟩, t, d, extra] [])
      ((Callee.object.call (handle ⟨4⟩) ⟨0⟩ [] (numbered ["y", "x", "z", "x", "y", "x"])).run (world []))) ∧
    ∃ e, ((Callee.object.call (handle ⟨4⟩) ⟨0⟩ []
        (numbered ["y", "x", "z", "x", "y", "x"])).run (world [])).1 =
      .error (.failed (.foreignException e none
        ⟨"TypeError", "f() got multiple values for keyword argument 'x'", none⟩)) := by
  have callable : (world []).ask (.isCallable ⟨4⟩) = (.ok true, world []) := rfl
  refine ⟨?_, ?_, _, rfl⟩
  · have found : ((Callee.method "m").find (handle ⟨4⟩) ⟨0⟩).run (world []) = (.ok ⟨4⟩, world []) := rfl
    have sent : (sendAll (HostValue.send ⟨0⟩) [⟨.bigInt, (5 : Int)⟩]).run (world []) = (.ok [⟨7⟩], world [5]) :=
      rfl
    have sent' : (sendAll (HostValue.send ⟨0⟩) ((numbered ["y", "x"]).map Prod.snd)).run (world [5]) =
        (.ok [⟨8⟩, ⟨9⟩], world [5, 0, 1]) := rfl
    exact (Callee.call_arrives _ found callable sent sent').1 (by decide)
  · have found : (Callee.object.find (handle ⟨4⟩) ⟨0⟩).run (world []) = (.ok ⟨4⟩, world []) := rfl
    have sent : (sendAll (HostValue.send ⟨0⟩) []).run (world []) = (.ok [], world []) := rfl
    have sent' : (sendAll (HostValue.send ⟨0⟩)
        ((numbered ["y", "x", "z", "x", "y", "x"]).map Prod.snd)).run (world []) =
          (.ok [⟨7⟩, ⟨8⟩, ⟨9⟩, ⟨10⟩, ⟨11⟩, ⟨12⟩], world [0, 1, 2, 3, 4, 5]) := rfl
    obtain ⟨x, first, refused⟩ := (Callee.call_arrives _ found callable sent sent').2 (by decide)
      switchboard ⟨3⟩ ⟨laws, ready_world _, rfl, rfl⟩
    obtain rfl : x = "x" := first.unique ⟨["y", "x", "z"], ["y", "x"], rfl, by decide, by decide⟩
    exact refused

open Porter in
/-- Where a callee cannot be named, it is not reported that a keyword was given twice. -/
theorem Callee.call_unnamed :
    (world []).ask (.isCallable ⟨5⟩) = (.ok true, world []) ∧
    (sendAll (HostValue.send ⟨0⟩) ((numbered ["x", "x"]).map Prod.snd)).run (world []) =
      (.ok [⟨7⟩, ⟨8⟩], world [0, 1]) ∧
    ((Callee.object.call (handle ⟨5⟩) ⟨0⟩ [] (numbered ["x", "x"])).run (world [])).1 =
      .error (.failed (.foreignException (handle ⟨6⟩) none ⟨"ValueError", "no name", none⟩)) ∧
    ∀ e t message traceback,
      ((Callee.object.call (handle ⟨5⟩) ⟨0⟩ [] (numbered ["x", "x"])).run (world [])).1 ≠
        .error (.failed (.foreignException e t ⟨"TypeError", message, traceback⟩)) := by
  have ended : ((Callee.object.call (handle ⟨5⟩) ⟨0⟩ [] (numbered ["x", "x"])).run (world [])).1 =
      .error (.failed (.foreignException (handle ⟨6⟩) none ⟨"ValueError", "no name", none⟩)) := rfl
  refine ⟨rfl, rfl, ended, fun e t message traceback same => ?_⟩
  rw [ended, Except.error.injEq, Stop.failed.injEq, Error.foreignException.injEq, Diagnostic.mk.injEq] at same
  exact absurd same.2.2.1 (by decide)

end GuestBridge.Bridge
