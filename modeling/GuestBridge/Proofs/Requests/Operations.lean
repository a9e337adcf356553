import GuestBridge.Proofs.Requests.Outcome
import GuestBridge.Proofs.Requests.Parts

/-!
# The Rules of the Operations

For each operation of the bridge: what it may be doing (`Operation.Does`), which exceptions are
ordinary answers to it (`Operation.Forgives`), at which answers it refuses to go on
(`Operation.Refuses`), on which handles it works (`Operation.operands`), and which steps it can make
before it has looked at all of these (`Operation.Early`).

## Main statements

* `Operation.tells_result` — every operation that can fail keeps to its rules.
-/

namespace GuestBridge.Bridge

open Guest (Ref Raised ErrorKind)

/-- Whether a request looks an attribute up. -/
def Request.looksUp (name : String) : {α : Type} → Request α → Bool
  | _, .getAttr _ name' => name' == name
  | _, _ => false

namespace Operation

/-- Whether an operation can give an error of its own. -/
def canFail : Operation → Bool
  | liveHandles | globals | builtins | none | adopt _ | clone _ | typeName _ | isNone _
  | retention _ | extract _ _ => false
  | _ => true

/-- What an operation may be doing when it makes a request. -/
def Does : Operation → Site → Prop
  | toForeign _ | isTruthy _ | repr _ | str _ | isInstance _ _ | newMapping => (· = .convert)
  | execute _ _ => fun site => site = .compile ∨ site = .execute ∨ site = .member
  | evaluate _ => fun site => site = .compile ∨ site = .execute
  | importModule name => (· = .importing name)
  | importFrom module symbol => fun site =>
      site = .importing module ∨ site = .importing (module ++ "." ++ symbol) ∨ site = .member
  | member _ _ | hasMember _ _ => (· = .member)
  | setMember _ _ _ | containsKey _ _ => fun site => site = .convert ∨ site = .member
  | call _ _ _ => fun site => site = .convert ∨ site = .call
  | callMethod _ _ _ _ | push _ _ => fun site => site = .member ∨ site = .convert ∨ site = .call
  | subscript h _ | setSubscript h _ _ | deleteSubscript h _ => fun site =>
      site = .convert ∨ ∃ key, site = .subscript h.object key
  | setEntry m _ _ | removeEntry m _ => fun site =>
      site = .convert ∨ ∃ key, site = .subscript m.handle.object key
  | getEntry m _ => fun site =>
      site = .convert ∨ site = .member ∨ ∃ key, site = .subscript m.handle.object key
  | getElement s _ | setElement s _ _ => fun site =>
      site = .length ∨ site = .convert ∨ ∃ key, site = .subscript s.handle.object key
  | length _ | mappingLength _ | mappingIsEmpty _ | sequenceLength _ | sequenceIsEmpty _ =>
      (· = .length)
  | iterate h => (· = .iterate h.object)
  | advance _ | next _ => (· = .advance)
  | keys _ => fun site => site = .member ∨ site = .convert ∨ site = .call ∨
      (∃ target, site = .iterate target) ∨ site = .advance
  | _ => fun _ => False

/-- The exceptions that are ordinary answers. -/
inductive Forgives : Operation → Step → ErrorKind → Prop
  /-- There is no such attribute. -/
  | member (h : Handle) (name : String) (x : Raised) :
      Forgives (hasMember h name) ⟨some .member, .getAttr h.object name, .error x⟩ .attributeError
  /-- The type has no length. -/
  | length (h : Handle) {α : Type} {r : Request α} (looks : r.looksUp "__len__" = true)
      (x : Raised) : Forgives (length h) ⟨some .length, r, .error x⟩ .attributeError
  /-- The iterator has ended. -/
  | advance (v : View) {α : Type} (r : Request α) (x : Raised) :
      Forgives (advance v) ⟨some .advance, r, .error x⟩ .stopIteration
  | next (c : Cursor) {α : Type} (r : Request α) (x : Raised) :
      Forgives (next c) ⟨some .advance, r, .error x⟩ .stopIteration
  | keys (m : Mapping) {α : Type} (r : Request α) (x : Raised) :
      Forgives (keys m) ⟨some .advance, r, .error x⟩ .stopIteration
  /-- What the module does not have may be a module inside it. -/
  | importFrom (module symbol : String) (parent : Ref) (x : Raised) :
      Forgives (importFrom module symbol) ⟨some .member, .getAttr parent symbol, .error x⟩
        .attributeError

/-- Whether an operation calls something, if that can be called. -/
def calls : Operation → Bool
  | call _ _ _ | callMethod _ _ _ _ | push _ _ | keys _ => true
  | _ => false

/-- The answers at which an operation refuses to go on. -/
inductive Refuses : Operation → Step → Prop
  | notCallable {op : Operation} (calls : op.calls = true) (callee : Ref)
      {a : Except Raised Bool} (no : a ≠ .ok true) : Refuses op ⟨Option.none, .isCallable callee, a⟩
  | missing (m : Mapping) (key : HostValue) (k : Ref) :
      Refuses (getEntry m key) ⟨some .member, .contains m.handle.object k, .ok false⟩
  | get (s : Sequence) (i : Sequence.Index) {n : Nat} (out : Sequence.inRange i.val n = false) :
      Refuses (getElement s i) ⟨some .length, .length s.handle.object, .ok n⟩
  | set (s : Sequence) (i : Sequence.Index) (new : HostValue) {n : Nat}
      (out : Sequence.inRange i.val n = false) :
      Refuses (setElement s i new) ⟨some .length, .length s.handle.object, .ok n⟩

/-- The handles that an operation works on. A cursor that has failed works on none any more. -/
def operands : Operation → List Handle
  | liveHandles | globals | builtins | none | adopt _ | execute _ _ | evaluate _ | importModule _
  | importFrom _ _ | newMapping => []
  | toForeign v => v.handles
  | clone h | typeName h | isNone h | retention h | isTruthy h | repr h | str h | extract h _
  | member h _ | hasMember h _ | length h | iterate h => [h]
  | isInstance h cls => [h, cls]
  | setMember h _ v => h :: v.handles
  | call h args keywords | callMethod h _ args keywords => h :: passed args keywords
  | subscript h key | deleteSubscript h key => h :: key.handles
  | setSubscript h key new => h :: (key.handles ++ new.handles)
  | advance v => v.handles
  | next c => if c.failed then [] else c.view.handles
  | containsKey m key | getEntry m key | removeEntry m key => m.handle :: key.handles
  | setEntry m key new => m.handle :: (key.handles ++ new.handles)
  | keys m | mappingLength m | mappingIsEmpty m => [m.handle]
  | getElement s _ | sequenceLength s | sequenceIsEmpty s => [s.handle]
  | setElement s _ new | push s new => s.handle :: new.handles

/-- Whether an operation takes values of the host, which it converts. -/
def converts : Operation → Bool
  | toForeign _ | setMember _ _ _ | call _ _ _ | callMethod _ _ _ _ | subscript _ _
  | setSubscript _ _ _ | deleteSubscript _ _ | containsKey _ _ | getEntry _ _ | setEntry _ _ _
  | removeEntry _ _ | setElement _ _ _ | push _ _ => true
  | _ => false

/-- The steps that an operation can make before it has looked at all the handles that it works on: it
converts values, looks up the method that it is to call and whether that can be called, and checks
the index of an element that it is to replace. -/
inductive Early : Operation → Step → Prop
  | convert {op : Operation} (converts : op.converts = true) (q : Asked) :
      Early op ⟨some .convert, q⟩
  | method (h : Handle) (name : String) (args : List HostValue)
      (keywords : List (String × HostValue)) (q : Asked) :
      Early (callMethod h name args keywords) ⟨some .member, q⟩
  | append (s : Sequence) (new : HostValue) (q : Asked) : Early (push s new) ⟨some .member, q⟩
  | callable {op : Operation} (converts : op.converts = true) (callee : Ref)
      (a : Except Raised Bool) : Early op ⟨Option.none, .isCallable callee, a⟩
  | index (s : Sequence) (i : Sequence.Index) (new : HostValue) (q : Asked) :
      Early (setElement s i new) ⟨some .length, q⟩

/-- The rules of an operation in a context. -/
def rules (cx : Context) (op : Operation) : Rules where
  does := op.Does
  forgives := op.Forgives
  refuses := op.Refuses
  own := cx.Owns op.operands
  early := op.Early

variable {cx : Context}

/-- Whether no operation looks at what it gets at a site before it goes on. -/
def isPlain : Site → Bool
  | .member | .length | .advance => false
  | _ => true

theorem Refuses.not_plain {op : Operation} {site : Site} {q : Asked}
    (h : op.Refuses ⟨some site, q⟩) : isPlain site = false := by
  cases h <;> rfl

theorem Forgives.not_plain {op : Operation} {site : Site} {q : Asked} {k : ErrorKind}
    (h : op.Forgives ⟨some site, q⟩ k) : isPlain site = false := by
  cases h <;> rfl

/-- At most sites an operation makes requests for their answers alone. -/
theorem admits_plain (op : Operation) {site : Site} (plain : isPlain site = true)
    (does : op.Does site) (known : ∀ q, op.Early ⟨some site, q⟩ ∨ cx.Owns op.operands) (q : Asked) :
    (op.rules cx).Admits site q where
  does := does
  goesOn refuses := absurd plain (by simp [refuses.not_plain])
  strict k forgives := absurd plain (by simp [forgives.not_plain])
  early := known q

theorem admits_own (op : Operation) {site : Site} (plain : isPlain site = true)
    (does : op.Does site) (own : cx.Owns op.operands) (q : Asked) : (op.rules cx).Admits site q :=
  op.admits_plain plain does (fun _ => .inr own) q

/-- Converting values is done for the objects alone. -/
theorem admits_convert (op : Operation) (does : op.Does .convert)
    (converts : op.converts = true) (q : Asked) : (op.rules cx).Admits .convert q :=
  op.admits_plain rfl does (fun q => .inl (.convert converts q)) q

theorem calls_rules (op : Operation) (calls : op.calls = true) (convert : op.Does .convert)
    (call : op.Does .call) (known : op.converts = true ∨ cx.Owns op.operands)
    {args : List HostValue} {keywords : List (String × HostValue)}
    (own : cx.Owns (passed args keywords) → cx.Owns op.operands) :
    (op.rules cx).Calls cx args keywords where
  goesOn callee refuses := by
    cases refuses
    contradiction
  refuses callee a no := .notCallable calls callee no
  does callee a := ⟨nofun, known.imp (fun converts => .callable converts callee a) id⟩
  convert := op.admits_plain rfl convert fun q => known.imp (fun converts => .convert converts q) id
  call owns := op.admits_own rfl call (own owns)

/-! ### The operations -/

variable (σ : Type) [GuestState σ]

/-- An operation keeps to its rules: it ends after clean steps or with the error of its last step, and
gives a result only where all handles that it works on belong to the session. -/
def Keeps (cx : Context) (op : Operation) : Prop :=
  Tells (σ := σ) (op.rules cx) cx (op.result cx) fun _ => cx.Owns op.operands

variable {σ}

theorem owns_one {h : Handle} (own : h.session = cx.session) : cx.Owns [h] :=
  Context.owns_cons.mpr ⟨own, Context.owns_nil⟩

theorem keeps_toForeign (v : HostValue) : (toForeign v).Keeps σ cx := by
  refine Tells.map (P := fun _ => cx.Owns v.handles) ?_ fun _ own => own
  exact (tells_convert v ((toForeign v).admits_convert rfl rfl)).bind fun r own =>
    Tells.acquire fun _ => own

theorem keeps_newMapping : newMapping.Keeps σ cx := by
  refine Tells.map (P := fun _ => True) ?_ fun _ _ => Context.owns_nil
  refine (Tells.perform (P := fun _ => True)
    (fun a => newMapping.admits_own rfl rfl Context.owns_nil _) fun _ => trivial).bind fun d _ => ?_
  exact (Tells.acquire (P := fun _ => True) fun _ => trivial).map fun _ _ => trivial

/-! #### Scripts and modules -/

/-- The variable that is to hold a script's result is looked at for its value alone. -/
theorem admits_result (source : String) (result : Option String) (q : Asked) :
    ((execute source result).rules cx).Admits .member q :=
  ⟨.inr (.inr rfl), nofun, nofun, .inr Context.owns_nil⟩

theorem keeps_execute (source : String) (result : Option String) :
    (execute source result).Keeps σ cx := by
  have adm {site : Site} (plain : isPlain site = true) (does : (execute source result).Does site) :=
    (execute source result).admits_own plain does (Context.owns_nil : cx.Owns [])
  refine Tells.map (P := fun _ => True) ?_ fun _ _ => Context.owns_nil
  refine (tells_compileScript (adm rfl (.inl rfl))).bind fun _ _ => ?_
  exact tells_runStatements (adm rfl (.inr (.inl rfl))) (admits_result source result)

theorem keeps_evaluate (expression : String) : (evaluate expression).Keeps σ cx := by
  refine Tells.map (P := fun _ => True) ?_ fun _ _ => Context.owns_nil
  have adm {site : Site} (plain : isPlain site = true) (does : (evaluate expression).Does site) :=
    (evaluate expression).admits_own plain does (Context.owns_nil : cx.Owns [])
  exact (tells_compileScript (adm rfl (.inl rfl))).bind fun _ _ =>
    tells_runExpression (adm rfl (.inr rfl))

theorem keeps_importModule (name : String) : (importModule name).Keeps σ cx := by
  refine Tells.map (P := fun _ => True) ?_ fun _ _ => Context.owns_nil
  exact (tells_loadModule ((importModule name).admits_own rfl rfl Context.owns_nil)).bind
    fun m _ => Tells.acquire fun _ => trivial

theorem excuses_importFrom (module symbol : String) (parent : Ref) :
    ((importFrom module symbol).rules cx).Excuses .member (.getAttr parent symbol)
      .attributeError where
  does := .inr (.inr rfl)
  goesOn a refuses := by cases refuses
  forgives := .importFrom module symbol parent
  only x k forgives := by
    cases forgives
    rfl
  own := Context.owns_nil

theorem keeps_importFrom (module symbol : String) : (importFrom module symbol).Keeps σ cx := by
  have adm {name : String} (does : (importFrom module symbol).Does (.importing name)) :=
    (importFrom module symbol).admits_own rfl does (Context.owns_nil : cx.Owns [])
  exact Tells.map (tells_importFrom (adm (.inl rfl)) (excuses_importFrom module symbol)
    (adm (.inr (.inl rfl)))) fun _ _ => Context.owns_nil

/-! #### Questions and attributes -/

theorem keeps_isTruthy (h : Handle) : (isTruthy h).Keeps σ cx := by
  refine Tells.map (P := fun _ => cx.Owns [h]) (Tells.handle fun own => ?_) fun _ own => own
  exact Tells.perform (fun a => (isTruthy h).admits_own rfl rfl (owns_one own) _) fun _ =>
    owns_one own

theorem keeps_repr (h : Handle) : (repr h).Keeps σ cx := by
  refine Tells.map (P := fun _ => cx.Owns [h]) (Tells.handle fun own => ?_) fun _ own => own
  refine (Tells.perform (P := fun _ => True)
    (fun a => (repr h).admits_own rfl rfl (owns_one own) _) fun _ => trivial).bind fun _ _ => ?_
  exact .pure (owns_one own)

theorem keeps_str (h : Handle) : (str h).Keeps σ cx := by
  refine Tells.map (P := fun _ => cx.Owns [h]) (Tells.handle fun own => ?_) fun _ own => own
  refine (Tells.perform (P := fun _ => True)
    (fun a => (str h).admits_own rfl rfl (owns_one own) _) fun _ => trivial).bind fun _ _ => ?_
  exact .pure (owns_one own)

theorem keeps_isInstance (h cls : Handle) : (isInstance h cls).Keeps σ cx := by
  refine Tells.map (P := fun _ => cx.Owns [h, cls]) ?_ fun _ own => own
  refine Tells.handle fun own => Tells.handle fun own' => ?_
  have owns : cx.Owns [h, cls] := Context.owns_cons.mpr ⟨own, owns_one own'⟩
  exact Tells.perform (fun a => (isInstance h cls).admits_own rfl rfl owns _) fun _ => owns

theorem keeps_member (h : Handle) (name : String) : (member h name).Keeps σ cx := by
  refine Tells.map (P := fun _ => cx.Owns [h]) (Tells.handle fun own => ?_) fun _ own => own
  refine Tells.bind (P := fun _ => True) (Tells.perform (fun a => ?_) fun _ => trivial) fun v _ =>
    Tells.acquire fun _ => owns_one own
  exact ⟨rfl, nofun, nofun, .inr (owns_one own)⟩

theorem excuses_hasMember {h : Handle} (name : String) (own : h.session = cx.session) :
    ((hasMember h name).rules cx).Excuses .member (.getAttr h.object name) .attributeError where
  does := rfl
  goesOn a refuses := by cases refuses
  forgives := .member h name
  only x k forgives := by
    cases forgives
    rfl
  own := owns_one own

theorem keeps_hasMember (h : Handle) (name : String) : (hasMember h name).Keeps σ cx := by
  refine Tells.map (P := fun _ => cx.Owns [h]) (Tells.handle fun own => ?_) fun _ own => own
  exact (tells_hasAttr (excuses_hasMember name own)).mono fun _ _ => owns_one own

theorem keeps_setMember (h : Handle) (name : String) (v : HostValue) :
    (setMember h name v).Keeps σ cx := by
  refine Tells.map (P := fun _ => cx.Owns (h :: v.handles)) ?_ fun _ own => own
  refine (tells_convert v ((setMember h name v).admits_convert (.inl rfl) rfl)).bind
    fun new ownNew => Tells.handle fun own => ?_
  have owns : cx.Owns (h :: v.handles) := Context.owns_cons.mpr ⟨own, ownNew⟩
  exact Tells.perform (fun a => ⟨.inr rfl, nofun, nofun, .inr owns⟩) fun _ => owns

/-! #### Calls -/

theorem keeps_call (h : Handle) (args : List HostValue) (keywords : List (String × HostValue)) :
    (call h args keywords).Keeps σ cx := by
  refine Tells.map (P := fun _ => cx.Owns (h :: passed args keywords)) ?_ fun _ own => own
  refine Tells.handle fun own => ?_
  have owns (passes : cx.Owns (passed args keywords)) : cx.Owns (h :: passed args keywords) :=
    Context.owns_cons.mpr ⟨own, passes⟩
  have rules := (call h args keywords).calls_rules rfl (.inl rfl) (.inr rfl) (.inl rfl) owns
  exact (tells_callObject rules h.object).mono fun _ => owns

theorem keeps_callMethod (h : Handle) (name : String) (args : List HostValue)
    (keywords : List (String × HostValue)) : (callMethod h name args keywords).Keeps σ cx := by
  refine Tells.map (P := fun _ => cx.Owns (h :: passed args keywords)) ?_ fun _ own => own
  refine tells_callMethod (fun own q => ?_) fun own => ?_
  · exact ⟨.inl rfl, nofun, nofun, .inl (.method h name args keywords q)⟩
  · exact (callMethod h name args keywords).calls_rules rfl (.inr (.inl rfl)) (.inr (.inr rfl))
      (.inl rfl) fun passes => Context.owns_cons.mpr ⟨own, passes⟩

theorem keeps_push (s : Sequence) (new : HostValue) : (push s new).Keeps σ cx := by
  refine Tells.map (P := fun _ => cx.Owns (s.handle :: new.handles)) ?_ fun _ own => own
  have passes : passed [new] [] = new.handles := by simp [passed]
  refine (tells_callMethod (fun own q => ?_) fun own => ?_).bind fun h owns => ?_
  · exact ⟨.inl rfl, nofun, nofun, .inl (.append s new q)⟩
  · exact (push s new).calls_rules rfl (.inr (.inl rfl)) (.inr (.inr rfl)) (.inl rfl) fun owns =>
      Context.owns_cons.mpr ⟨own, passes ▸ owns⟩
  · rw [passes] at owns
    exact Tells.quiet (fun w => w.guest_release _ _) fun _ => owns

/-! #### Items -/

theorem keeps_subscript (h : Handle) (key : HostValue) : (subscript h key).Keeps σ cx := by
  refine Tells.map (P := fun _ => cx.Owns (h :: key.handles)) ?_ fun _ own => own
  exact tells_subscript (fun _ => (subscript h key).admits_convert (.inl rfl) rfl)
    fun owns k => (subscript h key).admits_own rfl (.inr ⟨k, rfl⟩) owns

theorem keeps_setSubscript (h : Handle) (key new : HostValue) :
    (setSubscript h key new).Keeps σ cx := by
  refine Tells.map (P := fun _ => cx.Owns (h :: (key.handles ++ new.handles))) ?_ fun _ own => own
  exact tells_setSubscript (fun _ => (setSubscript h key new).admits_convert (.inl rfl) rfl)
    fun owns k => (setSubscript h key new).admits_own rfl (.inr ⟨k, rfl⟩) owns

theorem keeps_deleteSubscript (h : Handle) (key : HostValue) :
    (deleteSubscript h key).Keeps σ cx := by
  refine Tells.map (P := fun _ => cx.Owns (h :: key.handles)) ?_ fun _ own => own
  exact tells_deleteSubscript (fun _ => (deleteSubscript h key).admits_convert (.inl rfl) rfl)
    fun owns k => (deleteSubscript h key).admits_own rfl (.inr ⟨k, rfl⟩) owns

theorem keeps_setEntry (m : Mapping) (key new : HostValue) : (setEntry m key new).Keeps σ cx := by
  refine Tells.map (P := fun _ => cx.Owns (m.handle :: (key.handles ++ new.handles))) ?_
    fun _ own => own
  exact tells_setSubscript (fun _ => (setEntry m key new).admits_convert (.inl rfl) rfl)
    fun owns k => (setEntry m key new).admits_own rfl (.inr ⟨k, rfl⟩) owns

theorem keeps_removeEntry (m : Mapping) (key : HostValue) : (removeEntry m key).Keeps σ cx := by
  refine Tells.map (P := fun _ => cx.Owns (m.handle :: key.handles)) ?_ fun _ own => own
  exact tells_deleteSubscript (fun _ => (removeEntry m key).admits_convert (.inl rfl) rfl)
    fun owns k => (removeEntry m key).admits_own rfl (.inr ⟨k, rfl⟩) owns

theorem keeps_containsKey (m : Mapping) (key : HostValue) : (containsKey m key).Keeps σ cx := by
  refine Tells.map (P := fun _ => cx.Owns (m.handle :: key.handles)) ?_ fun _ own => own
  refine (tells_convert key ((containsKey m key).admits_convert (.inl rfl) rfl)).bind
    fun k ownKey => Tells.handle fun own => ?_
  have owns : cx.Owns (m.handle :: key.handles) := Context.owns_cons.mpr ⟨own, ownKey⟩
  exact Tells.perform (fun a => ⟨.inr rfl, nofun, nofun, .inr owns⟩) fun _ => owns

/-- A key that is not there is refused. -/
theorem keeps_getEntry (m : Mapping) (key : HostValue) : (getEntry m key).Keeps σ cx := by
  refine Tells.map (P := fun _ => cx.Owns (m.handle :: key.handles)) ?_ fun _ own => own
  refine Tells.handle fun own => ?_
  refine (tells_convert key ((getEntry m key).admits_convert (.inl rfl) rfl)).bind
    fun k ownKey => ?_
  have owns : cx.Owns (m.handle :: key.handles) := Context.owns_cons.mpr ⟨own, ownKey⟩
  have does (q : Asked) : ((getEntry m key).rules cx).Does ⟨some .member, q⟩ :=
    .at_site (.inr (.inl rfl)) (.inr owns)
  refine Tells.checked does nofun fun found => ?_
  cases found with
  | true =>
      refine Traced.mono (P := Ends ((getEntry m key).rules cx) cx fun _ =>
        cx.Owns (m.handle :: key.handles)) ?_ fun tr r ends => ends.step _ (does _) nofun
      refine Tells.bind (P := fun _ => True) (Tells.perform (fun a => ?_) fun _ => trivial)
        fun v _ => Tells.acquire fun _ => owns
      exact (getEntry m key).admits_own rfl (.inr (.inr ⟨k, rfl⟩)) owns _
  | false =>
      refine traced_missingEntry _ _ fun tr e refusal => ?_
      exact Ends.failed ⟨some .member, .contains m.handle.object k, .ok false⟩ (does _)
        (.refused (.missing m key k) refusal)

/-! #### Lengths and places -/

theorem tells_length (op : Operation) {h : Handle} (does : op.Does .length)
    (goesOn : ∀ q, ¬ op.Refuses ⟨some .length, q⟩)
    (strict : ∀ q k, ¬ op.Forgives ⟨some .length, q⟩ k) (operand : op.operands = [h]) :
    Tells (σ := σ) (op.rules cx) cx (do perform cx .length (.length (← h.bind cx))) fun _ =>
      cx.Owns op.operands := by
  refine Tells.handle fun own => ?_
  have owns : cx.Owns op.operands := operand ▸ owns_one own
  exact Tells.perform (fun _ => ⟨does, goesOn _, strict _, .inr owns⟩) fun _ => owns

theorem keeps_mappingLength (m : Mapping) : (mappingLength m).Keeps σ cx := by
  refine Tells.map (tells_length (mappingLength m) rfl ?_ ?_ rfl) fun _ owns => owns
  · exact fun q refuses => by cases refuses
  · exact fun q k forgives => by cases forgives

theorem keeps_mappingIsEmpty (m : Mapping) : (mappingIsEmpty m).Keeps σ cx := by
  refine Tells.map (Tells.bind (tells_length (mappingIsEmpty m) rfl ?_ ?_ rfl) fun _ owns =>
    .pure owns) fun _ owns => owns
  · exact fun q refuses => by cases refuses
  · exact fun q k forgives => by cases forgives

theorem keeps_sequenceLength (s : Sequence) : (sequenceLength s).Keeps σ cx := by
  refine Tells.map (tells_length (sequenceLength s) rfl ?_ ?_ rfl) fun _ owns => owns
  · exact fun q refuses => by cases refuses
  · exact fun q k forgives => by cases forgives

theorem keeps_sequenceIsEmpty (s : Sequence) : (sequenceIsEmpty s).Keeps σ cx := by
  refine Tells.map (Tells.bind (tells_length (sequenceIsEmpty s) rfl ?_ ?_ rfl) fun _ owns =>
    .pure owns) fun _ owns => owns
  · exact fun q refuses => by cases refuses
  · exact fun q k forgives => by cases forgives

theorem excuses_length {h : Handle} (type : Ref) (own : h.session = cx.session) :
    ((length h).rules cx).Excuses .length (.getAttr type "__len__") .attributeError where
  does := rfl
  goesOn a refuses := by cases refuses
  forgives := .length h (beq_self_eq_true _)
  only x k forgives := by
    cases forgives
    rfl
  own := owns_one own

theorem admits_length {h : Handle} (own : h.session = cx.session) {α : Type} {r : Request α}
    (other : r.looksUp "__len__" = false) (a : Except Raised α) :
    ((length h).rules cx).Admits .length ⟨r, a⟩ where
  does := rfl
  goesOn refuses := by cases refuses
  strict k forgives := by
    cases forgives
    simp_all
  early := .inr (owns_one own)

theorem keeps_length (h : Handle) : (length h).Keeps σ cx := by
  refine Tells.map (P := fun _ => cx.Owns [h]) (Tells.handle fun own => ?_) fun _ own => own
  refine Tells.bind (P := fun _ => True) (Tells.perform (admits_length own rfl) fun _ => trivial)
    fun type _ => (tells_hasAttr (excuses_length type own)).bind fun sized _ => ?_
  cases sized with
  | true =>
      exact Tells.map (P := fun _ => True) (Tells.perform (admits_length own rfl) fun _ => trivial)
        fun _ _ => owns_one own
  | false => exact .pure (owns_one own)

/-- An index out of range is refused. -/
theorem keeps_getElement (s : Sequence) (i : Sequence.Index) : (getElement s i).Keeps σ cx := by
  refine Tells.map (P := fun _ => cx.Owns [s.handle]) ?_ fun _ own => own
  refine Tells.bind (tells_checkIndex ?_ ?_ ?_ ?_) fun _ own => ?_
  · exact fun own q => .at_site (.inl rfl) (.inr (owns_one own))
  · exact fun q k forgives => by cases forgives
  · rintro n inside ⟨⟩
    simp_all
  · exact fun n out => .get s i out
  · exact tells_subscript
      (fun own => (getElement s i).admits_own rfl (.inr (.inl rfl)) (owns_one own))
      fun owns k => (getElement s i).admits_own rfl (.inr (.inr ⟨k, rfl⟩)) owns

/-- An index out of range is refused before the new element is looked at. -/
theorem keeps_setElement (s : Sequence) (i : Sequence.Index) (new : HostValue) :
    (setElement s i new).Keeps σ cx := by
  refine Tells.map (P := fun _ => cx.Owns (s.handle :: new.handles)) ?_ fun _ own => own
  refine Tells.bind (tells_checkIndex ?_ ?_ ?_ ?_) fun _ own => ?_
  · exact fun _ q => .at_site (.inl rfl) (.inl (.index s i new q))
  · exact fun q k forgives => by cases forgives
  · rintro n inside ⟨⟩
    simp_all
  · exact fun n out => .set s i new out
  · exact tells_setSubscript
      (fun _ => (setElement s i new).admits_convert (.inr (.inl rfl)) rfl)
      fun owns k => (setElement s i new).admits_own rfl (.inr (.inr ⟨k, rfl⟩)) owns

/-! #### Views and keys -/

/-- The end of an iteration is an ordinary answer. -/
theorem excuses_advance (op : Operation) (does : op.Does .advance) (own : cx.Owns op.operands)
    (advances : ∀ {α : Type} (r : Request α) x,
      op.Forgives ⟨some .advance, r, .error x⟩ .stopIteration) {α : Type} (r : Request α) :
    (op.rules cx).Excuses .advance r .stopIteration where
  does := does
  goesOn a refuses := by cases refuses
  forgives := advances r
  only x k forgives := by cases forgives <;> rfl
  own := own

theorem keeps_iterate (h : Handle) : (iterate h).Keeps σ cx := by
  refine Tells.map (P := fun _ => cx.Owns [h]) ?_ fun _ own => own
  exact (tells_iterate fun own => (iterate h).admits_own rfl rfl (owns_one own)).mono fun _ =>
    owns_one

theorem keeps_advance (v : View) : (advance v).Keeps σ cx :=
  tells_advance (fun own => (advance v).excuses_advance rfl own (.advance v)) fun own _ _ ends =>
    traced_orFail own ends

theorem keeps_next (c : Cursor) : (next c).Keeps σ cx :=
  tells_cursor rfl (fun own => (next c).excuses_advance rfl own (.next c)) fun own _ _ ends =>
    traced_orFail own ends

theorem keeps_keys (m : Mapping) : (keys m).Keeps σ cx := by
  refine Tells.map (P := fun _ => m.handle.session = cx.session) ?_ fun _ own => owns_one own
  refine tells_keys (fun own q => ?_) (fun own => ?_) (fun own target => ?_) fun own => ?_
  · exact ⟨.inl rfl, nofun, nofun, .inr (owns_one own)⟩
  · exact (keys m).calls_rules rfl (.inr (.inl rfl)) (.inr (.inr (.inl rfl))) (.inr (owns_one own))
      fun _ => owns_one own
  · exact (keys m).admits_own rfl (.inr (.inr (.inr (.inl ⟨target, rfl⟩)))) (owns_one own)
  · exact (keys m).excuses_advance (.inr (.inr (.inr (.inr rfl)))) (owns_one own) (.keys m)

/-- **Every operation that can fail keeps to its rules.** -/
theorem keeps (op : Operation) (fallible : op.canFail = true) : op.Keeps σ cx := by
  cases op with
  | liveHandles | globals | builtins | none | adopt | clone | typeName | isNone | retention
  | extract => cases fallible
  | toForeign v => exact keeps_toForeign v
  | execute source result => exact keeps_execute source result
  | evaluate expression => exact keeps_evaluate expression
  | importModule name => exact keeps_importModule name
  | importFrom module symbol => exact keeps_importFrom module symbol
  | isTruthy h => exact keeps_isTruthy h
  | repr h => exact keeps_repr h
  | str h => exact keeps_str h
  | isInstance h cls => exact keeps_isInstance h cls
  | member h name => exact keeps_member h name
  | hasMember h name => exact keeps_hasMember h name
  | setMember h name v => exact keeps_setMember h name v
  | call h args keywords => exact keeps_call h args keywords
  | callMethod h name args keywords => exact keeps_callMethod h name args keywords
  | subscript h key => exact keeps_subscript h key
  | setSubscript h key new => exact keeps_setSubscript h key new
  | deleteSubscript h key => exact keeps_deleteSubscript h key
  | length h => exact keeps_length h
  | iterate h => exact keeps_iterate h
  | advance v => exact keeps_advance v
  | next c => exact keeps_next c
  | newMapping => exact keeps_newMapping
  | containsKey m key => exact keeps_containsKey m key
  | getEntry m key => exact keeps_getEntry m key
  | setEntry m key new => exact keeps_setEntry m key new
  | removeEntry m key => exact keeps_removeEntry m key
  | keys m => exact keeps_keys m
  | mappingLength m => exact keeps_mappingLength m
  | mappingIsEmpty m => exact keeps_mappingIsEmpty m
  | getElement s i => exact keeps_getElement s i
  | setElement s i new => exact keeps_setElement s i new
  | push s new => exact keeps_push s new
  | sequenceLength s => exact keeps_sequenceLength s
  | sequenceIsEmpty s => exact keeps_sequenceIsEmpty s

end Operation

end GuestBridge.Bridge
