import GuestBridge.Proofs.Handles.Stay
import GuestBridge.Proofs.Sending.Cabinet

/-!
# When Sending Fails

Sending a value makes objects and puts entries into new dictionaries. The only step that can fail is the
last one: a key is refused that is a list, a dictionary or a slice, or a tuple with such an item.
`Finishes` says how a computation ends that stops at the first refusal, so each part of a value adds its
refusals to those of the parts before it.

## Main results

* `finishes_send` — sending ends with the first key that is refused, by induction on the type;
* `toForeign_ends` — when sending succeeds, with which error it fails, and what it leaves unchanged.
-/

namespace GuestBridge.Bridge

open Guest (Ref Raised noneRef)

variable {σ : Type}

/-! ### How a crossing ends -/

/-- A crossing goes on with something of which `Q` holds or, where a key is refused for a type, fails with
an exception of which `R` holds. -/
def Finishes {α : Type} (x : Crossing σ α) (w : World σ) (refused : Option String) (Q : α → World σ → Prop)
    (R : String → Raised → World σ → Prop) : Prop :=
  match refused with
  | none => ∃ a w', x.run.run w = (.ok a, w') ∧ Q a w'
  | some type => ∃ e w', x.run.run w = (.error (.failed e), w') ∧ R type e w'

namespace Finishes

variable {α β : Type} {w : World σ} {R : String → Raised → World σ → Prop}

theorem pure {a : α} {Q : α → World σ → Prop} (h : Q a w) : Finishes (Pure.pure a) w none Q R :=
  ⟨a, w, rfl, h⟩

theorem mono {x : Crossing σ α} {refused : Option String} {P Q : α → World σ → Prop}
    {R' : String → Raised → World σ → Prop} (hx : Finishes x w refused P R) (hQ : ∀ a w', P a w' → Q a w')
    (hR : ∀ type e w', R type e w' → R' type e w') : Finishes x w refused Q R' := by
  cases refused with
  | none =>
      obtain ⟨a, w', run, result⟩ := hx
      exact ⟨a, w', run, hQ a w' result⟩
  | some type =>
      obtain ⟨e, w', run, result⟩ := hx
      exact ⟨e, w', run, hR type e w' result⟩

/-- The first refusal ends the crossing. -/
theorem bind {x : Crossing σ α} {f : α → Crossing σ β} {first second : Option String}
    {P : α → World σ → Prop} {Q : β → World σ → Prop} (hx : Finishes x w first P R)
    (hf : ∀ a w', P a w' → Finishes (f a) w' second Q R) : Finishes (x >>= f) w (first.or second) Q R := by
  have run : (x >>= f).run.run w = (ExceptT.bindCont f (x.run.run w).1).run (x.run.run w).2 := rfl
  cases first with
  | none =>
      obtain ⟨a, w', began, result⟩ := hx
      have rest := hf a w' result
      cases second with
      | none =>
          obtain ⟨b, w'', went, result'⟩ := rest
          refine ⟨b, w'', ?_, result'⟩
          rw [run, began]
          exact went
      | some type =>
          obtain ⟨e, w'', went, result'⟩ := rest
          refine ⟨e, w'', ?_, result'⟩
          rw [run, began]
          exact went
  | some type =>
      obtain ⟨e, w', stopped, result⟩ := hx
      refine ⟨e, w', ?_, result⟩
      rw [run, stopped]
      rfl

/-- A refusal ends the crossing, whatever would follow. -/
theorem stop {x : Crossing σ α} {f : α → Crossing σ β} {type : String} {P : α → World σ → Prop}
    {Q : β → World σ → Prop} (hx : Finishes x w (some type) P R) : Finishes (x >>= f) w (some type) Q R := by
  obtain ⟨e, w', stopped, result⟩ := hx
  refine ⟨e, w', ?_, result⟩
  rw [ExceptT.run_bind, StateT.run_bind, stopped]
  rfl

/-- What comes first refuses nothing. -/
theorem followedBy {x : Crossing σ α} {f : α → Crossing σ β} {refused : Option String}
    {P : α → World σ → Prop} {Q : β → World σ → Prop} (hx : Finishes x w none P R)
    (hf : ∀ a w', P a w' → Finishes (f a) w' refused Q R) : Finishes (x >>= f) w refused Q R :=
  hx.bind hf

/-- What comes last refuses nothing. -/
theorem andThen {x : Crossing σ α} {f : α → Crossing σ β} {refused : Option String}
    {P : α → World σ → Prop} {Q : β → World σ → Prop} (hx : Finishes x w refused P R)
    (hf : ∀ a w', P a w' → Finishes (f a) w' none Q R) : Finishes (x >>= f) w refused Q R := by
  have both := hx.bind hf
  rwa [Option.or_none] at both

theorem request [GuestState σ] {r : Request α} {Q : α → σ → Prop} (h : Answers w.guest r Q) :
    Finishes (Bridge.request r) w none (fun a w' => Q a w'.guest) R := by
  obtain ⟨a, w', asked, result⟩ := w.ask_of_answers h
  refine ⟨a, w', ?_, result⟩
  change Bridge.request r w = _
  rw [Bridge.request, asked]

/-- A request that raises ends a crossing. -/
theorem request_raised [GuestState σ] {r : Request α} {type : String} {Q : α → World σ → Prop}
    {P : Raised → σ → Prop}
    (h : ∀ held, ∃ e writes s', GuestState.perform held r w.guest = (.error e, writes, s') ∧ P e s') :
    Finishes (Bridge.request r) w (some type) Q fun type' e w' => type' = type ∧ P e w'.guest := by
  obtain ⟨e, writes, s', raised, result⟩ := h w.held
  obtain ⟨w', asked, rfl⟩ := World.ask_of_perform raised
  refine ⟨e, w', ?_, rfl, result⟩
  change Bridge.request r w = _
  rw [Bridge.request, asked]

end Finishes

/-! ### Sending -/

namespace Catalogue

variable [GuestState σ] {V : Catalogue σ}

/-- A key was refused for a type: everything that was known is known, and the exception says so. -/
structure Refused (V : Catalogue σ) (s : σ) (type : String) (e : Raised) (w : World σ) : Prop where
  keeps : V.toOutlook.Keeps s w.guest
  refusal : V.Refusal w.guest e type

theorem Refused.earlier {s s' : σ} {type : String} {e : Raised} {w : World σ} (h : V.Grows s s')
    (refused : V.Refused s' type e w) : V.Refused s type e w :=
  ⟨h.toKeeps.trans refused.keeps, refused.refusal⟩

end Catalogue

section

variable [GuestState σ] {V : Catalogue σ} {cx : Context}

theorem finishes_earlier {α : Type} {x : Crossing σ α} {w : World σ} {refused : Option String}
    {Q : α → World σ → Prop} {s : σ} (h : V.Grows s w.guest)
    (hx : Finishes x w refused Q (V.Refused w.guest)) : Finishes x w refused Q (V.Refused s) :=
  hx.mono (fun _ _ => id) fun _ _ _ => .earlier h

/-- What sending a value makes: everything is known that was known, and if the value is one of those that
can be keys, then whether the object can be one. -/
structure Catalogue.Sent (V : Catalogue σ) (t : HostType) (v : t.Value) (s : σ) (r : Ref) (w : World σ) :
    Prop where
  grows : V.Grows s w.guest
  hash : t.isOrdered → V.hash w.guest r = some (.of (t.barrier v))

theorem finishes_new {t : HostType} {v : t.Value} {r : Request Ref} {h : Hash} {s : σ} {w : World σ}
    (grown : V.Grows s w.guest) (made : Answers w.guest r (V.New h w.guest))
    (same : t.isOrdered → h = .of (t.barrier v)) :
    Finishes (request r) w none (V.Sent t v s) (V.Refused s) := by
  refine (Finishes.request made).mono (fun q w' new => ?_) fun _ _ _ => id
  exact ⟨grown.trans new.grows, fun ordered => same ordered ▸ new.hash⟩

theorem finishes_newTuple (laws : V.Laws) {t : HostType} {v : t.Value} {items : List Ref} {s : σ}
    {w : World σ} (grown : V.Grows s w.guest)
    (hashes : t.isOrdered →
      ∃ hs, items.mapM (V.hash w.guest) = some hs ∧ Hash.tuple hs = .of (t.barrier v)) :
    Finishes (request (.newTuple items)) w none (V.Sent t v s) (V.Refused s) := by
  refine (Finishes.request (laws.newTuple items grown.ready)).mono (fun q w' new => ?_) fun _ _ _ => id
  refine ⟨grown.trans new.1, fun ordered => ?_⟩
  obtain ⟨hs, known, same⟩ := hashes ordered
  rw [← same]
  exact new.2 hs known

theorem finishes_sendAll {t : HostType} (xs : List t.Value)
    (hsend : ∀ x ∈ xs, ∀ w : World σ, V.Ready w.guest →
      Finishes (send cx t x) w (t.refusal x) (V.Sent t x w.guest) (V.Refused w.guest))
    {w : World σ} (ready : V.Ready w.guest) :
    Finishes (sendAll (send cx t) xs) w ((HostType.list t).refusal xs) (fun _ w' => V.Grows w.guest w'.guest)
      (V.Refused w.guest) := by
  induction xs generalizing w with
  | nil => exact .pure (.refl ready)
  | cons x xs ih =>
      rw [HostType.refusal_list_cons]
      refine (hsend x List.mem_cons_self w ready).bind fun r w₁ sent => ?_
      have rest := ih (fun x hx => hsend x (List.mem_cons_of_mem _ hx)) sent.grows.ready
      exact (finishes_earlier sent.grows rest).andThen fun rs w₂ grown => .pure (sent.grows.trans grown)

/-- A dictionary is being filled that was not there in a state before. -/
structure Catalogue.Filling (V : Catalogue σ) (s : σ) (d : Ref) (s' : σ) : Prop where
  grows : V.Grows s s'
  new : (V.objects s).shape d = none
  hash : V.hash s' d = some (.refused "dict")
  entries : ∃ es, (V.objects s').shape d = some (.dict es) ∧ ∀ e ∈ es, V.hash s' e.2.1 = some .sound

omit [GuestState σ] in
theorem Catalogue.Filling.later {s s' s'' : σ} {d : Ref} (h : V.Filling s d s') (grown : V.Grows s' s'') :
    V.Filling s d s'' := by
  obtain ⟨es, shape, sound⟩ := h.entries
  exact ⟨h.grows.trans grown, h.new, grown.hash h.hash, es, grown.known.shape shape,
    fun e he => grown.hash (sound e he)⟩

/-- A key is stored, or it is refused. -/
theorem Catalogue.Filling.setItem (laws : V.Laws) {s : σ} {d k v : Ref} {w : World σ}
    (h : V.Filling s d w.guest) {barrier : Option String} (hash : V.hash w.guest k = some (.of barrier)) :
    Finishes (request (.setItem d k v)) w barrier (fun _ w' => V.Filling s d w'.guest) (V.Refused s) := by
  obtain ⟨es, shape, sound⟩ := h.entries
  cases barrier with
  | none =>
      refine (Finishes.request (laws.setItem h.grows.ready shape sound hash)).mono (fun _ w' stored => ?_)
        fun _ _ _ => id
      obtain ⟨ready, known, kept, es', shape', keys⟩ := stored
      refine ⟨⟨⟨ready, ?_⟩, fun old => kept (h.grows.hash old)⟩, h.new, kept h.hash, es', shape', ?_⟩
      · exact (h.grows.known.past_unknown h.new).trans known
      · intro e' he'
        rcases keys e' he' with same | ⟨e, he, same⟩
        · rw [same]
          exact kept hash
        · rw [← same]
          exact kept (sound e he)
  | some type =>
      refine (Finishes.request_raised (laws.refuse h.grows.ready shape hash)).mono (fun _ _ => id)
        fun type' e w' refused => ?_
      obtain ⟨rfl, keeps, refusal⟩ := refused
      exact ⟨h.grows.toKeeps.trans keeps, refusal⟩

theorem finishes_sendEntries (laws : V.Laws) (kind : MapKind) {k t : HostType}
    (es : List (k.Value × t.Value)) (hk : ∀ e ∈ es, k.isOrdered)
    (hkey : ∀ e ∈ es, ∀ w : World σ, V.Ready w.guest →
      Finishes (send cx k e.1) w (k.refusal e.1) (V.Sent k e.1 w.guest) (V.Refused w.guest))
    (hvalue : ∀ e ∈ es, ∀ w : World σ, V.Ready w.guest →
      Finishes (send cx t e.2) w (t.refusal e.2) (V.Sent t e.2 w.guest) (V.Refused w.guest))
    {s : σ} {d : Ref} {w : World σ} (filling : V.Filling s d w.guest) :
    Finishes (sendEntries (send cx k) (send cx t) d es) w ((HostType.map kind k t).refusal es)
      (fun _ w' => V.Filling s d w'.guest) (V.Refused s) := by
  induction es generalizing w with
  | nil => exact .pure filling
  | cons e es ih =>
      rw [HostType.refusal_map_cons]
      have key := finishes_earlier filling.grows (hkey e List.mem_cons_self w filling.grows.ready)
      refine key.bind fun r w₁ key => ?_
      have filling := filling.later key.grows
      have value := finishes_earlier filling.grows (hvalue e List.mem_cons_self w₁ key.grows.ready)
      refine value.bind fun u w₂ value => ?_
      have filling := filling.later value.grows
      have hash := value.grows.hash (key.hash (hk e List.mem_cons_self))
      refine (filling.setItem laws hash).bind fun _ w₃ filling => ?_
      have later (f : k.Value × t.Value) (hf : f ∈ es) : f ∈ e :: es := List.mem_cons_of_mem e hf
      exact ih (fun f hf => hk f (later f hf)) (fun f hf => hkey f (later f hf))
        (fun f hf => hvalue f (later f hf)) filling

/-- **Sending ends with the first key that is refused**, if there is one. -/
theorem finishes_send (laws : V.Laws) {t : HostType} {v : t.Value} (possible : t.Possible cx v) {w : World σ}
    (ready : V.Ready w.guest) :
    Finishes (send cx t v) w (t.refusal v) (V.Sent t v w.guest) (V.Refused w.guest) := by
  have grown := Catalogue.Grows.refl (V := V) ready
  induction t generalizing w with
  | unit => exact .pure ⟨grown, fun _ => laws.noneHash ready⟩
  | bool => exact .pure ⟨grown, fun _ => laws.boolHash v ready⟩
  | int | bigInt => exact finishes_new grown (laws.newInt _ ready) fun _ => rfl
  | string | char => exact finishes_new grown (laws.newStr _ ready) fun _ => rfl
  | bytes => exact finishes_new grown (laws.newBytes _ ready) fun _ => rfl
  | float32 | float64 =>
      exact finishes_new grown (laws.newFloat _ ready) fun ordered => absurd ordered Bool.false_ne_true
  | option t ih =>
      cases v with
      | none => exact .pure ⟨grown, fun _ => laws.noneHash ready⟩
      | some x =>
          refine (ih possible ready grown).mono (fun r w' sent => ?_) fun _ _ _ => id
          exact ⟨sent.grows, sent.hash⟩
  | list t ih =>
      have each (x : t.Value) (hx : List.Mem x v) (w : World σ) (ready : V.Ready w.guest) :=
        ih (possible x hx) ready (.refl ready)
      refine (finishes_sendAll v each ready).andThen fun items w₁ grown => ?_
      exact finishes_new grown (laws.newList items grown.ready) fun _ => rfl
  | pair a b iha ihb =>
      rw [HostType.refusal_pair v]
      obtain ⟨x, y⟩ := v
      refine (iha possible.1 ready grown).bind fun p w₁ first => ?_
      have second := ihb possible.2 first.grows.ready (.refl first.grows.ready)
      refine (finishes_earlier first.grows second).andThen fun q w₂ second => ?_
      refine finishes_newTuple laws (first.grows.trans second.grows) fun ordered => ?_
      simp only [HostType.isOrdered, Bool.and_eq_true] at ordered
      have one := second.grows.hash (first.hash ordered.1)
      refine ⟨[.of (a.barrier x), .of (b.barrier y)], ?_, Hash.tuple_pair _ _⟩
      simp [List.mapM_cons, one, second.hash ordered.2]
  | triple a b c iha ihb ihc =>
      rw [HostType.refusal_triple v]
      obtain ⟨x, y, z⟩ := v
      refine (iha possible.1 ready grown).bind fun p w₁ first => ?_
      have second := ihb possible.2.1 first.grows.ready (.refl first.grows.ready)
      refine (finishes_earlier first.grows second).bind fun q w₂ second => ?_
      have grown := first.grows.trans second.grows
      have third := ihc possible.2.2 grown.ready (.refl grown.ready)
      refine (finishes_earlier grown third).andThen fun u w₃ third => ?_
      refine finishes_newTuple laws (grown.trans third.grows) fun ordered => ?_
      simp only [HostType.isOrdered, Bool.and_eq_true] at ordered
      have one := third.grows.hash (second.grows.hash (first.hash ordered.1.1))
      have two := third.grows.hash (second.hash ordered.1.2)
      refine ⟨[.of (a.barrier x), .of (b.barrier y), .of (c.barrier z)], ?_, Hash.tuple_triple _ _ _⟩
      simp [List.mapM_cons, one, two, third.hash ordered.2]
  | map kind k t ihk iht =>
      refine (Finishes.request (laws.newDict ready)).followedBy fun d w₁ new => ?_
      obtain ⟨made, unknown, shape⟩ := new
      have filling : V.Filling w.guest d w₁.guest :=
        ⟨made.grows, unknown, made.hash, [], shape, List.forall_mem_nil _⟩
      have keys (e : k.Value × t.Value) (he : List.Mem e v) (w : World σ) (ready : V.Ready w.guest) :=
        ihk (HostType.possible_of_isOrdered cx (possible e he).1 e.1) ready (.refl ready)
      have values (e : k.Value × t.Value) (he : List.Mem e v) (w : World σ) (ready : V.Ready w.guest) :=
        iht (possible e he).2 ready (.refl ready)
      have entries := finishes_sendEntries laws kind v (fun e he => (possible e he).1) keys values filling
      exact entries.andThen fun _ w₂ filled => .pure ⟨filled.grows, fun _ => filled.hash⟩
  | range =>
      obtain ⟨a, b⟩ := v
      refine (Finishes.request (laws.newInt _ ready)).followedBy fun start w₁ first => ?_
      refine (Finishes.request (laws.newInt _ first.grows.ready)).followedBy fun stop w₂ second => ?_
      refine (Finishes.request (laws.newInt _ second.grows.ready)).followedBy fun step w₃ third => ?_
      have grown := (first.grows.trans second.grows).trans third.grows
      exact finishes_new grown (laws.newSlice start stop step grown.ready) fun _ => rfl
  | handle =>
      have bound : (Handle.bind v cx : Crossing σ Ref) = pure (Handle.object v) := if_pos possible
      exact ⟨Handle.object v, w, congrFun bound w, grown, fun ordered => absurd ordered Bool.false_ne_true⟩

/-! ### Sending as an operation -/

/-- The error for a key that was refused for a type. -/
def unhashable (cx : Context) (exception : Ref) (type : String) : Error :=
  .foreignException ⟨exception, cx.session, none⟩ none
    ⟨"TypeError", "unhashable type: '" ++ type ++ "'", none⟩

theorem askOr_of_ok {α β : Type} {r : Request α} {a : α} {w w' : World σ} (asked : w.ask r = (.ok a, w'))
    (f : α → β) (otherwise : β) : askOr r f otherwise w = (f a, w') := by
  rw [askOr, bind_apply, ask?, asked]
  rfl

/-- What is kept of an exception that has passed through no frame. -/
theorem diagnose_of_told {e : Raised} {w w₁ w₂ : World σ} {name : String} {text : Text} (trace : e.trace = [])
    (named : w.ask (.typeName e.value) = (.ok name, w₁)) (said : w₁.ask (.str e.value) = (.ok text, w₂)) :
    diagnose e w = (⟨name, text.lossy, none⟩, w₂) := by
  rw [diagnose, bind_apply, askOr_of_ok named]
  dsimp only
  rw [bind_apply, askOr_of_ok said, tracebackOf, if_pos (List.isEmpty_iff.mpr trace)]
  rfl

/-- An exception that has passed through no frame comes without a traceback. -/
theorem foreignError_of_trace (cx : Context) {e : Raised} (trace : e.trace = []) (d : Diagnostic) (w : World σ) :
    foreignError cx e d w =
      (.foreignException ⟨e.value, cx.session, none⟩ none d, (w.acquire cx.session e.value).2) := by
  rw [foreignError, bind_apply, bind_apply, acquireTraceback, if_pos (List.isEmpty_iff.mpr trace)]
  rfl

/-- The error that an exception becomes is the one that it is classified as. -/
theorem failure_of_classified {cx : Context} {site : Site} {e : Raised} {d : Diagnostic} {error : Error}
    {w w₁ w₂ : World σ} (diagnosed : diagnose e w = (d, w₁))
    (classified : classify cx site e d w₁ = (error, w₂)) :
    ∃ w₃, failure cx site e w = (error, w₃) ∧ w₃.guest = w₂.guest := by
  refine ⟨w₂.note .debug "translated foreign failure" [("kind", error.kindName)], ?_, rfl⟩
  rw [failure, bind_apply, diagnosed]
  dsimp only
  rw [bind_apply, classified]
  rfl

/-- What becomes of the exception by which a key was refused. -/
theorem failure_of_refusal (cx : Context) {e : Raised} {type : String} {w : World σ}
    (refusal : V.Refusal w.guest e type) :
    ∃ w', failure cx .convert e w = (unhashable cx e.value type, w') ∧
      V.toOutlook.Keeps w.guest w'.guest := by
  obtain ⟨_, w₁, named, rfl, keeps, told⟩ := w.ask_of_answers refusal.told
  obtain ⟨_, w₂, said, rfl, keeps'⟩ := w₁.ask_of_answers told
  have diagnosed := diagnose_of_told refusal.trace named said
  rw [Text.lossy_ofString] at diagnosed
  obtain ⟨w₃, failed, same⟩ := failure_of_classified diagnosed
    (show classify cx .convert e _ w₂ = _ from foreignError_of_trace cx refusal.trace _ w₂)
  exact ⟨w₃, failed, same ▸ keeps.trans keeps'⟩

/-- What ends with the refusal of a key fails as an operation with the error for it. -/
theorem orError_of_refused (cx : Context) {α : Type} {x : Crossing σ α} {w : World σ} {type : String}
    {Q : α → World σ → Prop} (ends : Finishes x w (some type) Q (V.Refused w.guest)) :
    ∃ e w', (x.orError cx .convert).run w = (.error (.failed (unhashable cx e type)), w') ∧
      V.toOutlook.Keeps w.guest w'.guest := by
  obtain ⟨e, w', stopped, key⟩ := ends
  obtain ⟨w'', failed, keeps⟩ := failure_of_refusal cx key.refusal
  refine ⟨e.value, w'', ?_, key.keeps.trans keeps⟩
  rw [run_orError_of_failed stopped, failed]

/-- Without a refused key, sending makes a handle. -/
theorem toForeign_of_accepted (laws : V.Laws) {t : HostType} {v : t.Value} (possible : t.Possible cx v)
    {w : World σ} (ready : V.Ready w.guest) (accepted : t.refusal v = none) :
    ∃ h w', (toForeign cx ⟨t, v⟩).run.run w = (.ok h, w') ∧ V.toOutlook.Keeps w.guest w'.guest := by
  have ends := finishes_send laws possible ready
  rw [accepted] at ends
  have crossed : Gives (send cx t v) w fun _ w' => V.toOutlook.Keeps w.guest w'.guest := by
    obtain ⟨r, w', sent, made⟩ := ends
    exact ⟨r, w', sent, made.grows.toKeeps⟩
  exact (crossed.orError cx .convert).bind fun r w₁ keeps => ⟨_, (w₁.acquire cx.session r).2, rfl, keeps⟩

/-- With a refused key, it fails with the error for the first. -/
theorem toForeign_of_refused (laws : V.Laws) {t : HostType} {v : t.Value} (possible : t.Possible cx v)
    {w : World σ} (ready : V.Ready w.guest) {type : String} (refused : t.refusal v = some type) :
    ∃ e w', (toForeign cx ⟨t, v⟩).run.run w = (.error (.failed (unhashable cx e type)), w') ∧
      V.toOutlook.Keeps w.guest w'.guest := by
  have ends := finishes_send laws possible ready
  rw [refused] at ends
  obtain ⟨e, w', ended, keeps⟩ := orError_of_refused cx ends
  refine ⟨e, w', ?_, keeps⟩
  change ((send cx t v).orError cx .convert >>= fun r => always (acquire cx r) : Boundary σ Handle).run w = _
  rw [ExceptT.run_bind, bind_apply, ended]
  rfl

/-- **When sending fails.** Sending a value succeeds if and only if no key of any map in it is refused.
Otherwise it fails with the `TypeError` for the first that is, in the order in which entries are stored.
Either way everything is known of the guest's objects that was known before. -/
theorem toForeign_ends (laws : V.Laws) {t : HostType} {v : t.Value} (possible : t.Possible cx v)
    {w : World σ} (ready : V.Ready w.guest) :
    ((∃ h w', (toForeign cx ⟨t, v⟩).run.run w = (.ok h, w')) ↔
      ∀ key ∈ t.storedKeys v, key.type.barrier key.value = none) ∧
    (∀ before key after type, t.storedKeys v = before ++ key :: after →
      (∀ earlier ∈ before, earlier.type.barrier earlier.value = none) →
      key.type.barrier key.value = some type →
      ∃ e w', (toForeign cx ⟨t, v⟩).run.run w = (.error (.failed (unhashable cx e type)), w')) ∧
    V.toOutlook.Keeps w.guest ((toForeign cx ⟨t, v⟩).run.run w).2.guest := by
  have accepts : t.refusal v = none ↔ ∀ key ∈ t.storedKeys v, key.type.barrier key.value = none :=
    List.findSome?_eq_none_iff
  rw [← accepts]
  refine ⟨⟨fun succeeds => ?_, fun accepted => ?_⟩, fun before key after type stored earlier barred => ?_, ?_⟩
  · obtain ⟨h, w', sent⟩ := succeeds
    by_contra refused
    obtain ⟨type, refused⟩ := Option.ne_none_iff_exists'.mp refused
    obtain ⟨e, w'', failed, -⟩ := toForeign_of_refused laws possible ready refused
    cases sent.symm.trans failed
  · obtain ⟨h, w', sent, -⟩ := toForeign_of_accepted laws possible ready accepted
    exact ⟨h, w', sent⟩
  · have refused : t.refusal v = some type :=
      List.findSome?_eq_some_iff.mpr ⟨before, key, after, stored, barred, earlier⟩
    obtain ⟨e, w', failed, -⟩ := toForeign_of_refused laws possible ready refused
    exact ⟨e, w', failed⟩
  · cases refusal : t.refusal v with
    | none =>
        obtain ⟨h, w', sent, keeps⟩ := toForeign_of_accepted laws possible ready refusal
        rw [sent]
        exact keeps
    | some type =>
        obtain ⟨e, w', failed, keeps⟩ := toForeign_of_refused laws possible ready refusal
        rw [failed]
        exact keeps

end

/-- Maps whose keys are lists, if they are anything. -/
abbrev Listed : HostType := .map .indexed (.option (.list .bigInt)) .unit

/-- A map whose second key is an empty list. -/
def listed : Listed.Value := [(none, ()), (some [], ())]

/-- The session's world with an empty cabinet. -/
def cabinets : World Cabinet := ⟨.initial, [], [.fresh], []⟩

theorem toForeign_ends_listed : Listed.Possible ⟨0⟩ listed ∧ Cabinet.catalogue.Ready cabinets.guest ∧
    ¬ (∃ h w, (toForeign ⟨0⟩ ⟨Listed, listed⟩).run.run cabinets = (.ok h, w)) ∧
    (∃ e w, (toForeign ⟨0⟩ ⟨Listed, listed⟩).run.run cabinets =
      (.error (.failed (unhashable ⟨0⟩ e "list")), w)) ∧
    Cabinet.catalogue.toOutlook.Keeps cabinets.guest
      ((toForeign ⟨0⟩ ⟨Listed, listed⟩).run.run cabinets).2.guest := by
  have possible : Listed.Possible ⟨0⟩ listed := fun _ _ => ⟨rfl, trivial⟩
  have ready : Cabinet.catalogue.Ready cabinets.guest := Cabinet.ready_initial
  obtain ⟨succeeds, fails, keeps⟩ := toForeign_ends Cabinet.laws possible ready
  refine ⟨possible, ready, fun sent => ?_, ?_, keeps⟩
  · cases succeeds.mp sent ⟨.option (.list .bigInt), some []⟩ (.tail _ (.head _))
  · exact fails [⟨.option (.list .bigInt), none⟩] ⟨.option (.list .bigInt), some []⟩ [] "list" rfl
      (List.forall_mem_singleton.mpr rfl) rfl

end GuestBridge.Bridge
