import GuestBridge.Proofs.Arguments.Construction
import GuestBridge.Proofs.Calls.Keywords
import GuestBridge.Proofs.Requests.Outcome
import GuestBridge.Proofs.Sending.Domain

/-!
# Arguments Are Converted Before Anything Is Done

An operation first finds the object that it works on, then converts its arguments in order, and only
then does what it is for. `Operation.approach` is its first part and `Operation.arguments` are the
values. Where the first part fails nothing else matters; where it succeeds and a value cannot be
converted, the first such value decides (`ConvertsFirst`), and the object that was found is not touched.

## Main statements

* `Operation.begins` — every operation is its first part, and something that converts the arguments
  first.
* `Operation.conversion_precedes` — a failed conversion comes before the crossing.
-/

namespace GuestBridge.Bridge

open Guest (Ref Raised noneRef)

variable {σ : Type}

/-! ### Failing alike -/

/-- Where the first computation stops early, so does the second, in the same way. -/
def FailsAs {ε α β : Type} (x : ExceptT (Stop ε) (StateM (World σ)) α)
    (y : ExceptT (Stop ε) (StateM (World σ)) β) : Prop :=
  ∀ w s w', x.run w = (.error s, w') → y.run w = (.error s, w')

section

variable {ε α β γ : Type} {x : ExceptT (Stop ε) (StateM (World σ)) α}
  {y : ExceptT (Stop ε) (StateM (World σ)) β}

namespace FailsAs

theorem pure (a : α) : FailsAs (Pure.pure a : ExceptT (Stop ε) (StateM (World σ)) α) y := nofun

theorem bind_right (h : FailsAs x y) (f : β → ExceptT (Stop ε) (StateM (World σ)) γ) :
    FailsAs x (y >>= f) :=
  fun w s w' stopped => run_bind_of_error (h w s w' stopped) f

/-- What is made of a result does not matter. -/
theorem map_left (h : FailsAs x y) (g : α → γ) : FailsAs (g <$> x) y :=
  fun w s w' stopped => h w s w' (run_map_error_iff.mp stopped)

theorem map_right (h : FailsAs x y) (g : β → γ) : FailsAs x (g <$> y) :=
  fun w s w' stopped => run_map_error_iff.mpr (h w s w' stopped)

/-- The first parts are the same. -/
theorem bind {f : α → ExceptT (Stop ε) (StateM (World σ)) β} {g : α → ExceptT (Stop ε) (StateM (World σ)) γ}
    (h : ∀ a, FailsAs (f a) (g a)) : FailsAs (x >>= f) (x >>= g) := by
  intro w s w' stopped
  rw [ExceptT.run_bind, bind_apply] at stopped
  generalize run : x.run w = first at stopped
  obtain ⟨e | a, u⟩ := first
  · cases stopped
    exact run_bind_of_error run g
  · rw [run_bind_of_ok run]
    exact h a u s w' stopped

end FailsAs

end

variable [GuestState σ] {cx : Context} {α β : Type}

theorem orError_bind (x : Crossing σ α) (f : α → Crossing σ β) (site : Site) :
    (x >>= f).orError cx site = x.orError cx site >>= fun a => (f a).orError cx site := by
  funext w
  change Crossing.orError (x >>= f) cx site w =
    (ExceptT.bindCont (fun a => (f a).orError cx site) (Crossing.orError x cx site w).1).run
      (Crossing.orError x cx site w).2
  have first : (x >>= f) w = (ExceptT.bindCont f (x w).1).run (x w).2 := rfl
  rw [Crossing.orError, Crossing.orError, first]
  rcases x w with ⟨(e | message) | a, u⟩ <;> rfl

theorem orError_map (x : Crossing σ α) (g : α → β) (site : Site) :
    (g <$> x).orError cx site = g <$> x.orError cx site := by
  rw [map_eq_pure_bind, map_eq_pure_bind, orError_bind]
  rfl

/-! ### Converting first -/

theorem convertAll_cons (v : HostValue) (vs : List HostValue) : (convertAll cx (v :: vs) : Boundary σ _) =
    (v.send cx).orError cx .convert >>= fun r => (r :: ·) <$> convertAll cx vs := by
  have step : (sendAll (HostValue.send cx) (v :: vs) : Crossing σ (List Ref)) =
      v.send cx >>= fun r => (r :: ·) <$> sendAll (HostValue.send cx) vs := rfl
  rw [convertAll, step, orError_bind]
  exact congrArg _ (funext fun r => orError_map _ _ _)

theorem convertAll_append (vs us : List HostValue) : (convertAll cx (vs ++ us) : Boundary σ _) =
    convertAll cx vs >>= fun rs => (rs ++ ·) <$> convertAll cx us := by
  induction vs with
  | nil =>
      change convertAll cx us = id <$> convertAll cx us
      rw [id_map]
  | cons v vs ih =>
      rw [List.cons_append, convertAll_cons, convertAll_cons, ih, bind_assoc]
      refine congrArg _ (funext fun r => ?_)
      rw [map_bind, map_eq_pure_bind, bind_assoc]
      refine congrArg _ (funext fun rs => ?_)
      rw [pure_bind, Functor.map_map]
      rfl

/-- A computation fails wherever converting values in order does, in the same way. -/
def ConvertsFirst (cx : Context) (vs : List HostValue) (x : Boundary σ α) : Prop :=
  FailsAs (convertAll cx vs) x

namespace ConvertsFirst

variable {v : HostValue} {vs us : List HostValue}

theorem nil (x : Boundary σ α) : ConvertsFirst cx [] x := FailsAs.pure []

/-- One value, and the others after it. -/
theorem value {f : Ref → Boundary σ α} (h : ∀ r, ConvertsFirst cx vs (f r)) :
    ConvertsFirst cx (v :: vs) ((v.send cx).orError cx .convert >>= f) := by
  rw [ConvertsFirst, convertAll_cons]
  exact FailsAs.bind fun r => (h r).map_left _

theorem values {f : List Ref → Boundary σ α} (h : ∀ rs, ConvertsFirst cx us (f rs)) :
    ConvertsFirst cx (vs ++ us) (convertAll cx vs >>= f) := by
  rw [ConvertsFirst, convertAll_append]
  exact FailsAs.bind fun rs => (h rs).map_left _

/-- The values of keyword arguments are converted in order, those of repeated names among them. -/
theorem keywords (kws : List (String × HostValue)) (ks : Handle.Keywords) (f : Handle.Keywords → Boundary σ α) :
    ConvertsFirst cx (kws.map Prod.snd) ((Handle.sendKeywords cx kws ks).orError cx .convert >>= f) := by
  rw [Handle.sendKeywords_eq, orError_map]
  have same : FailsAs (convertAll cx (kws.map Prod.snd)) (convertAll cx (kws.map Prod.snd) : Boundary σ _) :=
    fun _ _ _ stopped => stopped
  exact (same.map_right _).bind_right f

theorem map {x : Boundary σ α} (h : ConvertsFirst cx vs x) (g : α → β) : ConvertsFirst cx vs (g <$> x) :=
  h.map_right g

end ConvertsFirst

/-! ### The two parts of an operation -/

/-- An object, if it can be called. -/
def allow (cx : Context) (callee : Ref) : Boundary σ Ref := do
  match ← always (ask? (.isCallable callee)) with
  | .ok true => return callee
  | _ => notCallable cx callee

theorem callObject_eq (callee : Ref) (args : List HostValue) (keywords : List (String × HostValue)) :
    (Handle.callObject cx callee args keywords : Boundary σ Handle) =
      allow cx callee >>= fun callee => Handle.invoke cx callee args keywords := by
  rw [Handle.callObject, allow, bind_assoc]
  refine congrArg _ (funext fun a => ?_)
  rcases a with e | _ | _ <;> rfl

theorem convertsFirst_invoke (callee : Ref) (args : List HostValue) (keywords : List (String × HostValue)) :
    ConvertsFirst cx (args ++ keywords.map Prod.snd)
      (Handle.invoke cx callee args keywords : Boundary σ Handle) :=
  .values fun _ => .keywords keywords _ _

theorem convertsFirst_subscript (key : HostValue) (container : Ref) :
    ConvertsFirst cx [key] (do
      let k ← (key.send cx).orError cx .convert
      let v ← perform cx (.subscript container k) (.getItem container k)
      always (acquire cx v) : Boundary σ Handle) :=
  .value fun _ => .nil _

theorem convertsFirst_setSubscript (key new : HostValue) (container : Ref) :
    ConvertsFirst cx [key, new] (do
      let k ← (key.send cx).orError cx .convert
      let v ← (new.send cx).orError cx .convert
      perform cx (.subscript container k) (.setItem container k v) : Boundary σ Unit) :=
  .value fun _ => .value fun _ => .nil _

namespace Operation

/-- The values that an operation converts, in the order in which it declares them. -/
def arguments : Operation → List HostValue
  | toForeign v | setMember _ _ v => [v]
  | call _ args keywords | callMethod _ _ args keywords => args ++ keywords.map Prod.snd
  | subscript _ key | deleteSubscript _ key | containsKey _ key | getEntry _ key | removeEntry _ key => [key]
  | setSubscript _ key new | setEntry _ key new => [key, new]
  | getElement _ i => [⟨.int .isize, i⟩]
  | setElement _ i new => [⟨.int .isize, i⟩, new]
  | push _ new => [new]
  | _ => []

/-- What an operation does before it converts its arguments: it finds an object. A callee has to be one
that can be called, an index one that is in range. -/
def approach (cx : Context) : Operation → Boundary σ Ref
  | call h _ _ => do allow cx (← h.bind cx)
  | callMethod h name _ _ => do allow cx (← perform cx .member (.getAttr (← h.bind cx) name))
  | push s _ => do allow cx (← perform cx .member (.getAttr (← s.handle.bind cx) "append"))
  | subscript h _ | setSubscript h _ _ | deleteSubscript h _ => h.bind cx
  | getEntry m _ | setEntry m _ _ | removeEntry m _ => m.handle.bind cx
  | getElement s i | setElement s i _ => do
    s.checkIndex cx i
    s.handle.bind cx
  | _ => return noneRef

/-- What the guest is asked for this. -/
def Approaches : Operation → List Asked → Prop
  | call h _ _, tr => tr = [⟨.isCallable h.object, .ok true⟩]
  | callMethod h name _ _, tr =>
    ∃ callee, tr = [⟨.getAttr h.object name, .ok callee⟩, ⟨.isCallable callee, .ok true⟩]
  | push s _, tr =>
    ∃ callee, tr = [⟨.getAttr s.handle.object "append", .ok callee⟩, ⟨.isCallable callee, .ok true⟩]
  | getElement s i, tr | setElement s i _, tr =>
    ∃ n, Sequence.inRange i.val n ∧ tr = [⟨.length s.handle.object, .ok n⟩]
  | _, tr => tr = []

/-- An operation is a first part, and what follows converts values before all else. -/
def Begins (cx : Context) (op : Operation) (first : Boundary σ Ref) (vs : List HostValue) : Prop :=
  ∃ rest : Ref → Boundary σ (List Handle), op.result cx = first >>= rest ∧
    ∀ r, ConvertsFirst cx vs (rest r)

theorem Begins.of_map {op : Operation} {first : Boundary σ Ref} {vs : List HostValue} {x : Boundary σ α}
    {made : α → List Handle} (rest : Ref → Boundary σ α) (same : op.result cx = made <$> x)
    (parts : x = first >>= rest) (h : ∀ r, ConvertsFirst cx vs (rest r)) : op.Begins cx first vs := by
  refine ⟨fun r => made <$> rest r, ?_, fun r => (h r).map made⟩
  rw [same, parts, map_bind]

/-- An operation without arguments. -/
theorem Begins.direct (op : Operation) : op.Begins (σ := σ) cx (pure noneRef) [] :=
  ⟨fun _ => op.result cx, (pure_bind _ _).symm, fun _ => .nil _⟩

/-- **Every operation finds its object and converts its arguments first.** -/
theorem begins (cx : Context) (op : Operation) : op.Begins (σ := σ) cx (op.approach cx) op.arguments := by
  cases op with
  | toForeign v => exact .of_map (fun _ => Bridge.toForeign cx v) rfl rfl fun _ => .value fun _ => .nil _
  | setMember h name v => exact .of_map (fun _ => h.setMember cx name v) rfl rfl fun _ => .value fun _ => .nil _
  | call h args keywords =>
      refine .of_map (fun callee => Handle.invoke cx callee args keywords) rfl ?_ fun callee =>
        convertsFirst_invoke callee args keywords
      simp only [Handle.call, callObject_eq, approach, bind_assoc]
  | callMethod h name args keywords =>
      refine .of_map (fun callee => Handle.invoke cx callee args keywords) rfl ?_ fun callee =>
        convertsFirst_invoke callee args keywords
      simp only [Handle.callMethod, callObject_eq, approach, bind_assoc]
  | subscript h key => exact .of_map _ rfl rfl (convertsFirst_subscript key)
  | setSubscript h key new => exact .of_map _ rfl rfl (convertsFirst_setSubscript key new)
  | deleteSubscript h key => exact .of_map _ rfl rfl fun _ => .value fun _ => .nil _
  | containsKey m key => exact .of_map (fun _ => m.containsKey cx key) rfl rfl fun _ => .value fun _ => .nil _
  | getEntry m key => exact .of_map _ rfl rfl fun _ => .value fun _ => .nil _
  | setEntry m key new => exact .of_map _ rfl rfl (convertsFirst_setSubscript key new)
  | removeEntry m key => exact .of_map _ rfl rfl fun _ => .value fun _ => .nil _
  | getElement s i =>
      refine .of_map _ rfl ?_ (convertsFirst_subscript ⟨.int .isize, i⟩)
      simp only [Sequence.get, Handle.subscript, approach, bind_assoc]
  | setElement s i new =>
      refine .of_map _ rfl ?_ (convertsFirst_setSubscript ⟨.int .isize, i⟩ new)
      simp only [Sequence.set, Handle.setSubscript, approach, bind_assoc]
  | push s new =>
      have first (callee : Ref) : ConvertsFirst cx ([new] ++ List.map Prod.snd [])
          (Handle.invoke cx callee [new] [] >>= fun h => always (releaseIn cx h) : Boundary σ Unit) :=
        (convertsFirst_invoke callee [new] []).bind_right _
      refine .of_map _ rfl ?_ first
      simp only [Sequence.push, Handle.callMethod, callObject_eq, approach, bind_assoc]
  | _ => exact .direct _

end Operation

/-! ### What the first part asks -/

/-- What is asked where a computation does not stop early. -/
def Reaches (x : Boundary σ α) (P : List Asked → Prop) : Prop :=
  Traced x.run fun tr r => ∀ a, r = .ok a → P tr

namespace Reaches

variable {P : List Asked → Prop}

theorem pure {a : α} (h : P []) : Reaches (σ := σ) (Pure.pure a) P := Traced.pure fun _ _ => h

theorem handle {h : Handle} {f : Ref → Boundary σ α} (hf : Reaches (f h.object) P) :
    Reaches (h.bind cx >>= f) P := by
  by_cases own : h.session = cx.session
  · rwa [Handle.bind_own own]
  · rw [Handle.bind_stranger own]
    exact Traced.pure nofun

theorem bound {h : Handle} (here : P []) : Reaches (σ := σ) (h.bind cx) P :=
  bind_pure (h.bind cx : Boundary σ Ref) ▸ Reaches.handle (.pure here)

theorem performThen {site : Site} {r : Request β} {f : β → Boundary σ α}
    (ok : ∀ b, Reaches (f b) fun tr => P (⟨r, .ok b⟩ :: tr)) : Reaches (perform cx site r >>= f) P :=
  traced_performThen ok fun _ _ _ _ => nofun

theorem allow {callee : Ref} (here : P [⟨.isCallable callee, .ok true⟩]) :
    Reaches (σ := σ) (allow cx callee) P := by
  refine traced_askThen _ fun a => ?_
  have refused (no : a ≠ .ok true) : Traced (notCallable cx callee : Boundary σ Ref).run fun tr r =>
      ∀ a', r = .ok a' → P (⟨.isCallable callee, a⟩ :: tr) :=
    traced_notCallable callee no fun _ _ _ => nofun
  match a with
  | .ok true => exact Traced.pure fun _ _ => here
  | .ok false | .error _ => exact refused nofun

theorem checkIndex {s : Sequence} {i : Sequence.Index} {f : Unit → Boundary σ α}
    (hf : ∀ n, Sequence.inRange i.val n → Reaches (f ()) fun tr => P (⟨.length s.handle.object, .ok n⟩ :: tr)) :
    Reaches (s.checkIndex cx i >>= f) P := by
  unfold Sequence.checkIndex Sequence.length
  rw [bind_assoc, bind_assoc]
  refine Reaches.handle (.performThen fun n => ?_)
  cases range : Sequence.inRange i.val n with
  | true => exact hf n range
  | false =>
      rw [if_neg (by simp), bind_assoc]
      have refused : Traced (σ := σ) (indexOutOfRange cx s.handle.object i.val n : Boundary σ Unit).run
          fun _ r => ∀ a, r ≠ .ok a := traced_indexOutOfRange _ _ _ fun _ _ _ _ => nofun
      exact Reaches.handle (Traced.bindExcept refused (fun _ a never => absurd rfl (never a)) fun _ _ _ _ => nofun)

end Reaches

/-- Where an operation finds its object, the guest has been asked for that alone. -/
theorem Operation.reaches_approach (cx : Context) (op : Operation) :
    Reaches (σ := σ) (op.approach cx) op.Approaches := by
  cases op with
  | call h args keywords => exact .handle (.allow rfl)
  | callMethod h name args keywords =>
      exact .handle (.performThen fun callee => .allow ⟨callee, rfl⟩)
  | push s new => exact .handle (.performThen fun callee => .allow ⟨callee, rfl⟩)
  | getElement s i | setElement s i new => exact .checkIndex fun n range => .bound ⟨n, range, rfl⟩
  | subscript | setSubscript | deleteSubscript | getEntry | setEntry | removeEntry => exact .bound rfl
  | _ => exact .pure rfl

/-! ### The first argument that is refused -/

/-- Converting values fails with the error for the first that is refused. -/
theorem convertAll_of_refused {V : Catalogue σ} (laws : V.Laws) {before : List HostValue} {v : HostValue}
    {type : String} (after : List HostValue)
    (accepted : ∀ u ∈ before, u.type.Possible cx u.value ∧ u.type.refusal u.value = none)
    (possible : v.type.Possible cx v.value) (refused : v.type.refusal v.value = some type) {w : World σ}
    (ready : V.Ready w.guest) :
    ∃ e w', (convertAll cx (before ++ v :: after)).run w = (.error (.failed (unhashable cx e type)), w') ∧
      V.toOutlook.Keeps w.guest w'.guest := by
  refine orError_of_refused cx (Q := fun _ _ => True) ?_
  induction before generalizing w with
  | nil =>
      have first := finishes_send laws possible ready
      rw [refused] at first
      exact first.stop
  | cons u before ih =>
      obtain ⟨⟨here, sound⟩, accepted⟩ := List.forall_mem_cons.mp accepted
      have first := finishes_send laws here ready
      rw [sound] at first
      refine Finishes.followedBy first fun r w₁ sent => ?_
      exact (finishes_earlier sent.grows (ih accepted sent.grows.ready)).stop

/-- An operation has found its object in the world `w₁`, and ended in `w'` before it did anything to it. -/
structure Operation.EndsEarly (V : Catalogue σ) (op : Operation) (w w₁ w' : World σ) : Prop where
  approach : ∃ tr, Runs w tr w₁ ∧ op.Approaches tr
  conversion : ∃ tr, Runs w₁ tr w' ∧ Building [] tr
  keeps : V.toOutlook.Keeps w₁.guest w'.guest

/-- **A failed conversion comes before the crossing.** Where an operation cannot find its object, that
is what is reported. Otherwise it fails with the exception for the first of its arguments that is
refused, if one is: then the guest was asked to find the object, and to make new ones, and everything is
known of its objects that was known when that one was found. -/
theorem Operation.conversion_precedes {V : Catalogue σ} (laws : V.Laws) (op : Operation) (w : World σ) :
    (∀ s w', (op.approach cx).run w = (.error s, w') → (op.result cx).run w = (.error s, w')) ∧
    ∀ r w₁ before v after type, (op.approach cx).run w = (.ok r, w₁) → V.Ready w₁.guest →
      op.arguments = before ++ v :: after →
      (∀ u ∈ before, u.type.Possible cx u.value ∧ u.type.refusal u.value = Option.none) →
      v.type.Possible cx v.value → v.type.refusal v.value = some type →
      ∃ e w', (op.result cx).run w = (.error (.failed (unhashable cx e type)), w') ∧ op.EndsEarly V w w₁ w' := by
  obtain ⟨rest, parts, converts⟩ := op.begins (σ := σ) cx
  rw [parts]
  refine ⟨fun s w' stopped => run_bind_of_error stopped rest, ?_⟩
  intro r w₁ before v after type found ready args accepted possible refused
  obtain ⟨e, w', failed, keeps⟩ := convertAll_of_refused laws after accepted possible refused ready
  rw [← args] at failed
  refine ⟨e, w', ?_, ?_, ?_, keeps⟩
  · rw [run_bind_of_ok found]
    exact converts r w₁ _ w' failed
  · obtain ⟨tr, runs, asked⟩ := op.reaches_approach cx w
    rw [found] at runs asked
    exact ⟨tr, runs, asked r rfl⟩
  · obtain ⟨tr, runs, building⟩ := builds_convertAll cx op.arguments w₁
    have ended : ((convertAll cx op.arguments).run w₁).2 = w' := congrArg Prod.snd failed
    exact ⟨tr, ended ▸ runs, building⟩

/-! ### A guest whose objects can be called -/

/-- A cabinet whose objects can be called and have a length. -/
def Counter := Cabinet

namespace Counter

/-- Answers a request. -/
def answer (c : Cabinet) : {α : Type} → Request α → Except Raised α × Cabinet
  | _, .isCallable _ => (.ok true, c)
  | _, .length _ => (.ok 3, c)
  | _, r => c.answer r

instance : GuestState Counter where
  perform _ r c := ((answer c r).1, [], (answer c r).2)

/-- How it is looked at. -/
abbrev catalogue : Catalogue Counter := Cabinet.catalogue

/-- **It keeps the laws**, as a cabinet does. -/
theorem laws : catalogue.Laws where
  noneHash := Cabinet.laws.noneHash
  boolHash := Cabinet.laws.boolHash
  newInt := Cabinet.laws.newInt
  newFloat := Cabinet.laws.newFloat
  newStr := Cabinet.laws.newStr
  newBytes := Cabinet.laws.newBytes
  newList := Cabinet.laws.newList
  newSlice := Cabinet.laws.newSlice
  newTuple := Cabinet.laws.newTuple
  newDict := Cabinet.laws.newDict
  setItem := Cabinet.laws.setItem
  refuse ready dict key held := by
    obtain ⟨e, writes, c', raised, keeps, trace, told⟩ := Cabinet.laws.refuse ready dict key held
    exact ⟨e, writes, c', raised, keeps, trace, told⟩

/-- The session's world. -/
def world : World Counter := ⟨Cabinet.initial, [], [.fresh], []⟩

/-- A handle of the session. -/
def handle : Handle := ⟨noneRef, 0, none⟩

/-- A map whose key is a map. -/
def nested : HostValue := ⟨.map .hashed (.map .hashed .unit .unit) .unit, [([], ())]⟩

end Counter

open Counter in
/-- The second value of a keyword is refused, and it is not reported that the keyword is given twice; of
a key and a value that are refused the key is reported; and an index out of range comes before the
value. -/
theorem Operation.conversion_precedes_counter :
    (∃ e w, ((call handle [⟨.bool, true⟩] [("x", ⟨.unit, ()⟩), ("x", ⟨Listed, listed⟩)]).result ⟨0⟩).run world =
      (.error (.failed (unhashable ⟨0⟩ e "list")), w) ∧
      EndsEarly catalogue (call handle [⟨.bool, true⟩] [("x", ⟨.unit, ()⟩), ("x", ⟨Listed, listed⟩)])
        world world w) ∧
    (∃ e w, ((setEntry ⟨handle⟩ nested ⟨Listed, listed⟩).result ⟨0⟩).run world =
      (.error (.failed (unhashable ⟨0⟩ e "dict")), w)) ∧
    ∃ w, ((setElement ⟨handle⟩ ⟨7, by decide⟩ nested).result ⟨0⟩).run world =
      (.error (.failed (.indexError handle "7" ⟨"IndexError", "index 7 out of range for length 3", Option.none⟩)), w) := by
  have ready : catalogue.Ready world.guest := Cabinet.ready_initial
  have possible : HostType.Possible ⟨0⟩ Listed listed := fun _ _ => ⟨rfl, trivial⟩
  refine ⟨?_, ?_, ?_⟩
  · have found : ((call handle [⟨.bool, true⟩] [("x", ⟨.unit, ()⟩), ("x", ⟨Listed, listed⟩)]).approach ⟨0⟩).run
        world = (.ok noneRef, world) := rfl
    refine (conversion_precedes laws _ world).2 noneRef world [⟨.bool, true⟩, ⟨.unit, ()⟩] ⟨Listed, listed⟩ []
      "list" found ready rfl ?_ possible rfl
    simp [HostType.Possible, HostType.refusal, HostType.storedKeys]
  · have found : ((setEntry ⟨handle⟩ nested ⟨Listed, listed⟩).approach ⟨0⟩).run world = (.ok noneRef, world) := rfl
    have keyPossible : nested.type.Possible ⟨0⟩ nested.value := fun _ _ => ⟨rfl, trivial⟩
    obtain ⟨e, w, failed, -⟩ := (conversion_precedes laws _ world).2 noneRef world [] nested [⟨Listed, listed⟩]
      "dict" found ready rfl nofun keyPossible rfl
    exact ⟨e, w, failed⟩
  · exact ⟨_, (conversion_precedes laws _ world).1 _ _ rfl⟩

end GuestBridge.Bridge
