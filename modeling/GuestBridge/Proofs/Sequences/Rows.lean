import GuestBridge.Proofs.Mappings.Orders
import GuestBridge.Proofs.Sequences.Vector

/-!
# Orders to a Row of Elements

A list, a tuple or a string holds elements in a row. `Outlook.Row` says what the guest does with such an
object: its length is that of the row, an integer finds the element at its place, counted from the end
if it is negative, and what can be changed is, while the rest complains. Nothing is said of other
objects.

The operations of a sequence over such an object are orders. Each is fulfilled as the vector for
reference replies to it, whatever the index, and where the new element can be sent.

## Main statements

* `Outlook.Complains.fails` — what the guest complains about is reported as it is.
* `Sequence.Order.follows` — an order is fulfilled as the reference replies, or its new element cannot
  be sent.
-/

namespace GuestBridge.Bridge

open Guest (Ref Raised ErrorKind)

/-! ### Rows -/

/-- The elements that an object of a shape holds in a row. -/
def Shape.elements? : Shape → Option (List Sequence.Element)
  | sequence items => some (items.map .object)
  | text t => some (t.points.map .character)
  | _ => Option.none

/-- An object holds elements in a row. -/
def Objects.Holds (o : Objects) (r : Ref) (xs : List Sequence.Element) : Prop :=
  ∃ x, o.shape r = some x ∧ x.elements? = some xs

/-- An object stands for an element: it is the element, or a text of that one character. -/
def Objects.Shows (o : Objects) (r : Ref) : Sequence.Element → Prop
  | .object r' => r = r'
  | .character point => o.shape r = some (.text ⟨[point]⟩)

variable {σ : Type}

theorem Objects.Holds.later {V : Outlook σ} {s s' : σ} {r : Ref} {xs : List Sequence.Element}
    (h : (V.objects s).Holds r xs) (keeps : V.Keeps s s') : (V.objects s').Holds r xs := by
  obtain ⟨x, shape, elements⟩ := h
  exact ⟨x, keeps.known.shape shape, elements⟩

namespace Outlook

variable (V : Outlook σ)

/-- An object holds other elements, and nothing else has changed. -/
structure Replaces (r : Ref) (xs : List Sequence.Element) (s s' : σ) : Prop where
  ready : V.Ready s'
  others : ((V.objects s).without [r]).Extends (V.objects s')
  holds : (V.objects s').Holds r xs

variable [GuestState σ]

/-- A request raises an exception that passed through no frame, tells the complaint and is none about a
lookup. Nothing is forgotten. -/
def Complains {α : Type} (s : σ) (r : Request α) (c : Sequence.Complaint) : Prop :=
  Raises s r fun e s₁ => V.Keeps s s₁ ∧ e.trace = [] ∧
    Answers s₁ (.typeName e.value) fun name s₂ => name = c.typeName ∧ V.Keeps s₁ s₂ ∧
      Answers s₂ (.str e.value) fun text s₃ => text = Text.ofString c.text ∧ V.Keeps s₂ s₃ ∧
        Answers s₃ (.belongs e.value (.error .lookupError)) fun belongs s₄ => belongs = false ∧ V.Keeps s₃ s₄

/-- What the bridge relies on where an object is a row of elements of a kind. -/
structure Row (kind : Sequence.Kind) (r : Ref) : Prop where
  newInt {s : σ} (n : Int) : V.Ready s → Answers s (.newInt n) fun k s' =>
    V.Keeps s s' ∧ (V.objects s').shape k = some (.int n)
  length {s : σ} {xs : List Sequence.Element} : V.Ready s → (V.objects s).Holds r xs →
    Answers s (.length r) fun n s' => n = xs.length ∧ V.Keeps s s'
  /-- An integer finds the element at its place. -/
  getItem {s : σ} {xs : List Sequence.Element} {k : Ref} {i : Int} {x : Sequence.Element} : V.Ready s →
    (V.objects s).Holds r xs → (V.objects s).shape k = some (.int i) → Sequence.at? xs i = some x →
    Answers s (.getItem r k) fun e s' => (V.objects s').Shows e x ∧ V.Keeps s s'
  setItem {s : σ} {xs : List Sequence.Element} {k v : Ref} {i : Int} {p : Nat} : kind.onSet = none → V.Ready s →
    (V.objects s).Holds r xs → (V.objects s).shape k = some (.int i) → Sequence.place i xs.length = some p →
    Answers s (.setItem r k v) fun _ s' => V.Replaces r (xs.set p (.object v)) s s'
  noSet {s : σ} {xs : List Sequence.Element} {k v : Ref} {i : Int} {c : Sequence.Complaint} :
    kind.onSet = some c → V.Ready s → (V.objects s).Holds r xs → (V.objects s).shape k = some (.int i) →
    V.Complains s (.setItem r k v) c
  /-- The method `append` adds an element, as long as there is room for another index. -/
  append {s : σ} {xs : List Sequence.Element} : kind.onPush = none → V.Ready s → (V.objects s).Holds r xs →
    xs.length < IntType.isize.greatest →
    Answers s (.getAttr r "append") fun method s₁ => V.Keeps s s₁ ∧
      Answers s₁ (.isCallable method) fun callable s₂ => callable = true ∧ V.Keeps s₁ s₂ ∧
        ∀ s₃ v, V.Keeps s₂ s₃ → Answers s₃ (.call method [v] []) fun _ s₄ =>
          V.Replaces r (xs ++ [.object v]) s₃ s₄
  noAppend {s : σ} {xs : List Sequence.Element} {c : Sequence.Complaint} : kind.onPush = some c → V.Ready s →
    (V.objects s).Holds r xs → V.Complains s (.getAttr r "append") c

variable {V} {s s' s'' : σ} {r : Ref} {xs : List Sequence.Element}

omit [GuestState σ] in
theorem Replaces.after (h : V.Replaces r xs s' s'') (keeps : V.Keeps s s') : V.Replaces r xs s s'' :=
  ⟨h.ready, (keeps.known.without [r]).trans h.others, h.holds⟩

omit [GuestState σ] in
theorem Keeps.replaces (keeps : V.Keeps s s') (holds : (V.objects s).Holds r xs) : V.Replaces r xs s s' :=
  ⟨keeps.ready, (Objects.without_extends _ _).trans keeps.known, holds.later keeps⟩

end Outlook

variable [GuestState σ]

/-! ### Complaints -/

section

variable {V : Outlook σ} {α : Type} {w : World σ}

/-- **A complaint is reported as what it is**, where something is looked up or stored. -/
theorem Outlook.Complains.fails {r : Request α} {c : Sequence.Complaint} (complains : V.Complains w.guest r c)
    (cx : Context) {site : Site} (here : site = .member ∨ ∃ d k, site = .subscript d k) :
    ∃ e w', (perform cx site r).run w =
      (.error (.failed (.foreignException (cx.handle e) none ⟨c.typeName, c.text, none⟩)), w') ∧
        V.Keeps w.guest w'.guest := by
  obtain ⟨e, writes, s', raised, keeps, trace, told⟩ := complains w.held
  obtain ⟨w₁, asked, rfl⟩ := World.ask_of_perform raised
  obtain ⟨_, w₂, named, rfl, keeps₂, told⟩ := w₁.ask_of_answers told
  obtain ⟨_, w₃, said, rfl, keeps₃, told⟩ := w₂.ask_of_answers told
  have diagnosed := diagnose_of_told trace named said
  rw [Text.lossy_ofString] at diagnosed
  have unspecific (w : World σ) := foreignError_of_trace cx trace ⟨c.typeName, c.text, none⟩ w
  have classified : ∃ w₄, classify cx site e ⟨c.typeName, c.text, none⟩ w₃ =
      (.foreignException (cx.handle e.value) none ⟨c.typeName, c.text, none⟩, w₄) ∧
        V.Keeps w₃.guest w₄.guest := by
    obtain rfl | ⟨d, k, rfl⟩ := here
    · exact ⟨_, unspecific w₃, .refl keeps₃.ready⟩
    · obtain ⟨_, w₄, tested, rfl, keeps₄⟩ := w₃.ask_of_answers told
      refine ⟨(w₄.acquire cx.session e.value).2, ?_, keeps₄⟩
      rw [classify, bind_apply, isRaised, askOr_of_ok tested]
      exact unspecific w₄
  obtain ⟨w₄, classified, keeps₄⟩ := classified
  obtain ⟨w₅, failed, same⟩ := failure_of_classified diagnosed classified
  refine ⟨e.value, w₅, ?_, same ▸ ((keeps.trans keeps₂).trans keeps₃).trans keeps₄⟩
  have run : (request r).run w = (.error (.failed e), w₁) := by
    rw [run_request, asked]
    rfl
  rw [perform, run_orError_of_failed run, failed]

end

namespace Sequence

open Outlook

/-! ### What the host is told -/

/-- What an order gives the host. -/
inductive Answer
  | done
  | element (h : Handle)
  | count (n : Nat)
  | truth (b : Bool)
  deriving DecidableEq

/-- The error for an index out of range: its key is the index, and its message names the index and the
length. -/
def indexError (cx : Context) (r : Ref) (i : Int) (n : Nat) : Error :=
  .indexError (cx.handle r) (toString i)
    ⟨"IndexError", "index " ++ toString i ++ " out of range for length " ++ toString n, none⟩

omit [GuestState σ] in
theorem run_indexOutOfRange (cx : Context) (r : Ref) (i : Int) (n : Nat) (w : World σ) :
    ∃ w', (indexOutOfRange cx r i n : Boundary σ Unit).run w = (.error (.failed (indexError cx r i n)), w') ∧
      w'.guest = w.guest :=
  ⟨_, rfl, rfl⟩

/-- What the host is told where the reference gives a reply. -/
def Reply.Told (cx : Context) (r : Ref) (o : Objects) : Reply → Except (Stop Error) Answer → Prop
  | done, result => result = .ok .done
  | element x, result => ∃ e, o.Shows e x ∧ result = .ok (.element (cx.handle e))
  | count n, result => result = .ok (.count n)
  | truth b, result => result = .ok (.truth b)
  | outOfRange i n, result => result = .error (.failed (indexError cx r i n))
  | refused c, result => ∃ e, result =
      .error (.failed (.foreignException (cx.handle e) none ⟨c.typeName, c.text, none⟩))

variable {cx : Context} {q : Sequence}

/-- Carries an order out. -/
def Order.perform (cx : Context) (q : Sequence) : Order HostValue → Boundary σ Answer
  | get i => .element <$> q.get cx i
  | set i new => (fun _ => .done) <$> q.set cx i new
  | push new => (fun _ => .done) <$> q.push cx new
  | length => .count <$> q.length cx
  | isEmpty => .truth <$> q.isEmpty cx

/-- An index as a value of the host. -/
def Index.sent (i : Index) : HostValue := ⟨.int .isize, i⟩

/-! ### Operations of the session's own sequences -/

section

variable (own : q.handle.session = cx.session)
include own

theorem length_own : (q.length cx : Boundary σ Nat) = Bridge.perform cx .length (.length q.handle.object) := by
  rw [Sequence.length, Handle.bind_own own]

theorem checkIndex_own (i : Index) : (q.checkIndex cx i : Boundary σ Unit) =
    Bridge.perform cx .length (.length q.handle.object) >>= fun n =>
      if inRange i.toInt n then pure () else indexOutOfRange cx q.handle.object i.toInt n := by
  rw [checkIndex, length_own own]
  simp only [Handle.bind_own own]
  rfl

theorem get_own (i : Index) : (q.get cx i : Boundary σ Handle) = q.checkIndex cx i >>= fun _ =>
    (i.sent.send cx).orError cx .convert >>= item cx q.handle.object := by
  rw [get, Handle.subscript, Handle.bind_own own]
  rfl

theorem set_own (i : Index) (new : HostValue) : (q.set cx i new : Boundary σ Unit) =
    q.checkIndex cx i >>= fun _ => (i.sent.send cx).orError cx .convert >>= fun k =>
      (new.send cx).orError cx .convert >>= fun v =>
        Bridge.perform cx (.subscript q.handle.object k) (.setItem q.handle.object k v) := by
  rw [set, Handle.setSubscript, Handle.bind_own own]
  rfl

/-- To push is to call the method `append`, if it can be called. -/
theorem push_own (new : HostValue) : (q.push cx new : Boundary σ Unit) =
    Bridge.perform cx .member (.getAttr q.handle.object "append") >>= fun method =>
      allow cx method >>= fun method => (new.send cx).orError cx .convert >>= fun v =>
        Bridge.perform cx .call (.call method [v] []) >>= fun r =>
          always (acquire cx r >>= releaseIn cx) := by
  have one (method : Ref) : (Handle.invoke cx method [new] [] : Boundary σ Handle) =
      (new.send cx).orError cx .convert >>= fun v =>
        Bridge.perform cx .call (.call method [v] []) >>= fun r => always (acquire cx r) := by
    have sent : (sendAll (HostValue.send cx) [new] : Crossing σ (List Ref)) =
        (fun v => [v]) <$> new.send cx := by
      rw [sendAll, map_eq_pure_bind]
      rfl
    rw [Handle.invoke, sent, orError_map, bind_map_left]
    rfl
  rw [push, Handle.callMethod, Handle.bind_own own]
  simp only [callObject_eq, one, bind_assoc]
  rfl

end

/-! ### Steps of an operation -/

variable {V : Catalogue σ} {w : World σ} {kind : Kind} {xs : List Element}

/-- What sending a value has made, at a time at which nothing was forgotten. -/
def SentAs (V : Catalogue σ) (cx : Context) (new : HostValue) (w : World σ) (v : Ref) : Prop :=
  ∃ w₁ w₂, V.Keeps w.guest w₁.guest ∧ (new.send cx).run w₁ = (.ok v, w₂) ∧ V.Keeps w₁.guest w₂.guest

/-- A value is sent, or the first refused key in it decides. -/
theorem sends (laws : V.Laws) {new : HostValue} (possible : new.type.Possible cx new.value)
    (ready : V.Ready w.guest) :
    (new.type.refusal new.value = none ∧ ∃ v w', ((new.send cx).orError cx .convert).run w = (.ok v, w') ∧
      (new.send cx).run w = (.ok v, w') ∧ V.Keeps w.guest w'.guest) ∨
    ∃ type e w', new.type.refusal new.value = some type ∧
      ((new.send cx).orError cx .convert).run w = (.error (.failed (unhashable cx e type)), w') ∧
        V.Keeps w.guest w'.guest := by
  have ends : Finishes (new.send cx) w (new.type.refusal new.value) (V.Sent new.type new.value w.guest)
      (V.Refused w.guest) := finishes_send laws possible ready
  cases refused : new.type.refusal new.value with
  | none =>
      rw [refused] at ends
      obtain ⟨v, w', sent, made⟩ := ends
      exact .inl ⟨rfl, v, w', run_orError_of_ok sent cx .convert, sent, made.grows.toKeeps⟩
  | some type =>
      rw [refused] at ends
      obtain ⟨e, w', failed, keeps⟩ := orError_of_refused cx ends
      exact .inr ⟨type, e, w', rfl, failed, keeps⟩

section

variable (row : V.Row kind q.handle.object) (ready : V.Ready w.guest)
include row ready

variable (cx) in
/-- An index is sent as an integer. -/
theorem gives_index (i : Index) : Gives ((i.sent.send cx).orError cx .convert) w fun k w' =>
    V.Keeps w.guest w'.guest ∧ (V.objects w'.guest).shape k = some (.int i.toInt) :=
  (Gives.request (row.newInt i.toInt ready)).orError cx .convert

variable (holds : (V.objects w.guest).Holds q.handle.object xs)
include holds

variable (cx) in
theorem gives_length : Gives (Bridge.perform cx .length (.length q.handle.object)) w fun n w' =>
    n = xs.length ∧ V.Keeps w.guest w'.guest :=
  (Gives.request (row.length ready holds)).orError cx .length

variable (own : q.handle.session = cx.session) (short : xs.length ≤ IntType.isize.greatest)
include own short

/-- An index for which there is a place passes the check, -/
theorem gives_checkIndex {i : Index} {p : Nat} (placed : place i.toInt xs.length = some p) :
    Gives (q.checkIndex cx i) w fun _ w' => V.Keeps w.guest w'.guest := by
  rw [checkIndex_own own]
  refine (gives_length cx row ready holds).bind fun n w' ⟨same, keeps⟩ => ?_
  subst same
  rw [inRange_eq i short, placed]
  exact .pure keeps

/-- and any other does not. -/
theorem checkIndex_fails {i : Index} (out : place i.toInt xs.length = none) :
    ∃ w', (q.checkIndex cx i).run w =
      (.error (.failed (indexError cx q.handle.object i.toInt xs.length)), w') ∧ V.Keeps w.guest w'.guest := by
  obtain ⟨_, w₁, counted, rfl, keeps⟩ := gives_length cx row ready holds
  obtain ⟨w₂, refused, same⟩ := run_indexOutOfRange cx q.handle.object i.toInt xs.length w₁
  refine ⟨w₂, ?_, same ▸ keeps⟩
  rw [checkIndex_own own, run_bind_of_ok counted, inRange_eq i short, out]
  exact refused

/-! ### Fulfilling orders -/

/-- To get an element gives what the vector has at that place. -/
theorem get_serves (i : Index) : ∃ result w', (q.get cx i).run w = (result, w') ∧ V.Keeps w.guest w'.guest ∧
    match at? xs i.toInt with
    | some x => ∃ e, (V.objects w'.guest).Shows e x ∧ result = .ok (cx.handle e)
    | none => result = .error (.failed (indexError cx q.handle.object i.toInt xs.length)) := by
  rw [get_own own]
  cases there : at? xs i.toInt with
  | none =>
      have out := place_eq_none_iff.mpr (at?_eq_none_iff.mp there)
      obtain ⟨w₁, refused, keeps⟩ := checkIndex_fails row ready holds own short out
      exact ⟨_, w₁, run_bind_of_error refused _, keeps, rfl⟩
  | some x =>
      obtain ⟨p, placed, -⟩ := Option.bind_eq_some_iff.mp there
      obtain ⟨_, w₁, checked, keeps⟩ := gives_checkIndex row ready holds own short placed
      obtain ⟨k, w₂, sent, keeps₂, shape⟩ := gives_index cx row keeps.ready i
      have known := keeps.trans keeps₂
      obtain ⟨e, w₃, found, shows, keeps₃⟩ :=
        w₂.ask_of_answers (row.getItem known.ready (holds.later known) shape there)
      refine ⟨_, (w₃.acquire cx.session e).2, ?_, known.trans keeps₃, e, shows, rfl⟩
      rw [run_bind_of_ok checked, run_bind_of_ok sent, item, run_bind_of_ok (run_perform_of_ok found _)]
      rfl

end

/-- What the reference makes of an order: the host is told what it replies, the object holds what it
does, and nothing else has changed; nothing at all has, if only a look was taken, or if it failed. -/
inductive Order.Follows (V : Catalogue σ) (cx : Context) (kind : Kind) (r : Ref) (xs : List Element)
    (o : Order HostValue) (w : World σ) (result : Except (Stop Error) Answer) (s' : σ) : List Element → Prop
  /-- The new element is sent, but cannot be. -/
  | unsent {new : HostValue} {type : String} {e : Ref} (sends : o.sent? kind xs.length = some new)
      (refused : new.type.refusal new.value = some type)
      (told : result = .error (.failed (unhashable cx e type))) (unchanged : V.Keeps w.guest s') :
      Follows V cx kind r xs o w result s' xs
  /-- The new element, if it is sent, becomes an object. -/
  | served {v : Ref}
      (sent : ∀ new, o.sent? kind xs.length = some new →
        new.type.refusal new.value = none ∧ SentAs V cx new w v)
      (told : ((o.withValue v).answer kind xs).1.Told cx r (V.objects s') result)
      (replaces : V.Replaces r ((o.withValue v).answer kind xs).2 w.guest s')
      (unchanged : o.isLook ∨ (∃ e, result = .error e) → V.Keeps w.guest s') :
      Follows V cx kind r xs o w result s' ((o.withValue v).answer kind xs).2

namespace Order

variable {o : Order HostValue} {result : Except (Stop Error) Answer} {s' : σ} {r v : Ref}

/-- An order by which nothing changes. -/
theorem Follows.kept (holds : (V.objects w.guest).Holds r xs) (keeps : V.Keeps w.guest s')
    (sent : ∀ new, o.sent? kind xs.length = some new →
      new.type.refusal new.value = none ∧ SentAs V cx new w v)
    (same : ((o.withValue v).answer kind xs).2 = xs)
    (told : ((o.withValue v).answer kind xs).1.Told cx r (V.objects s') result) :
    o.Follows V cx kind r xs w result s' xs := by
  have follows := Follows.served (w := w) sent told (same.symm ▸ keeps.replaces holds) fun _ => keeps
  rw [same] at follows
  exact follows

/-- An order by which the object is written to. -/
theorem Follows.changed {xs' : List Element} (write : o.isLook = false)
    (replaces : V.Replaces r xs' w.guest s')
    (sent : ∀ new, o.sent? kind xs.length = some new →
      new.type.refusal new.value = none ∧ SentAs V cx new w v)
    (answered : (o.withValue v).answer kind xs = (.done, xs')) (told : result = .ok .done) :
    o.Follows V cx kind r xs w result s' xs' := by
  have follows : o.Follows V cx kind r xs w result s' ((o.withValue v).answer kind xs).2 := by
    refine .served sent ?_ ?_ fun idle => ?_
    · rw [answered]
      exact told
    · rw [answered]
      exact replaces
    · rw [write, told] at idle
      rcases idle with h | ⟨e, h⟩ <;> cases h
  rw [answered] at follows
  exact follows

/-- Where an order comes to send its new element, the first refused key in it decides, or else what is
done with the object. -/
theorem follows_sending (laws : V.Laws) {new : HostValue} (possible : new.type.Possible cx new.value)
    {w₂ : World σ} (known : V.Keeps w.guest w₂.guest) (wanted : o.sent? kind xs.length = some new)
    {use : Ref → Boundary σ Unit} (used : ∀ v w₃, V.Keeps w₂.guest w₃.guest → V.Keeps w.guest w₃.guest →
      (∀ new, o.sent? kind xs.length = some new →
        new.type.refusal new.value = none ∧ SentAs V cx new w v) →
      ∃ result w' xs', ((fun _ => Answer.done) <$> use v).run w₃ = (result, w') ∧
        o.Follows V cx kind r xs w result w'.guest xs') :
    ∃ result w' xs',
      ((fun _ => Answer.done) <$> ((new.send cx).orError cx .convert >>= use)).run w₂ = (result, w') ∧
        o.Follows V cx kind r xs w result w'.guest xs' := by
  rw [map_bind]
  rcases sends (w := w₂) laws possible known.ready with
    ⟨fine, v, w₃, crossed, sent, keeps⟩ | ⟨type, e, w₃, refused, failed, keeps⟩
  · rw [run_bind_of_ok crossed]
    refine used v w₃ keeps (known.trans keeps) fun new' same => ?_
    cases wanted.symm.trans same
    exact ⟨fine, w₂, w₃, known, sent, keeps⟩
  · exact ⟨_, w₃, xs, run_bind_of_error failed _, .unsent wanted refused rfl (known.trans keeps)⟩

variable (laws : V.Laws) (row : V.Row kind q.handle.object) (ready : V.Ready w.guest)
  (holds : (V.objects w.guest).Holds q.handle.object xs) (own : q.handle.session = cx.session)
  (short : xs.length ≤ IntType.isize.greatest)
include row ready holds own short

theorem follows_get (i : Index) : ∃ result w', ((get i).perform cx q).run w = (result, w') ∧
    (get i).Follows V cx kind q.handle.object xs w result w'.guest xs := by
  obtain ⟨result, w', run, keeps, told⟩ := get_serves row ready holds own short i
  cases there : at? xs i.toInt with
  | none =>
      rw [there] at told
      subst told
      refine ⟨_, w', run_map_error_iff.mpr run, .kept (v := Guest.noneRef) holds keeps nofun rfl ?_⟩
      rw [withValue, answer, there]
      rfl
  | some x =>
      rw [there] at told
      obtain ⟨e, shows, rfl⟩ := told
      refine ⟨_, w', run_map_ok_iff.mpr ⟨_, run, rfl⟩, .kept (v := Guest.noneRef) holds keeps nofun rfl ?_⟩
      rw [withValue, answer, there]
      exact ⟨e, shows, rfl⟩

include laws

theorem follows_set (i : Index) {new : HostValue} (possible : new.type.Possible cx new.value) :
    ∃ result w' xs', ((set i new).perform cx q).run w = (result, w') ∧
      (set i new).Follows V cx kind q.handle.object xs w result w'.guest xs' := by
  rw [perform, set_own own]
  cases placed : place i.toInt xs.length with
  | none =>
      obtain ⟨w₁, refused, keeps⟩ := checkIndex_fails row ready holds own short placed
      refine ⟨_, w₁, xs, run_map_error_iff.mpr (run_bind_of_error refused _), ?_⟩
      refine .kept (v := Guest.noneRef) holds keeps ?_ ?_ ?_
      · simp [sent?, placed]
      · simp [withValue, answer, placed]
      · simp [withValue, answer, placed, Reply.Told]
  | some p =>
      obtain ⟨_, w₁, checked, keeps⟩ := gives_checkIndex row ready holds own short placed
      obtain ⟨k, w₂, indexed, keeps₂, shape⟩ := gives_index cx row keeps.ready i
      rw [map_bind, run_bind_of_ok checked, map_bind, run_bind_of_ok indexed]
      have wanted : (set i new).sent? kind xs.length = some new := by simp [sent?, placed]
      refine follows_sending laws possible (keeps.trans keeps₂) wanted fun v w₃ keeps₃ later made => ?_
      have index := keeps₃.known.shape shape
      cases complaint : kind.onSet with
      | none =>
          have stores := row.setItem (v := v) complaint later.ready (holds.later later) index placed
          obtain ⟨_, w₄, stored, replaces⟩ := w₃.ask_of_answers stores
          refine ⟨_, w₄, xs.set p (.object v), run_map_ok_iff.mpr ⟨(), run_perform_of_ok stored _, rfl⟩,
            .changed rfl (replaces.after later) made ?_ rfl⟩
          simp [withValue, answer, placed, complaint]
      | some c =>
          have complains := row.noSet (v := v) complaint later.ready (holds.later later) index
          obtain ⟨e, w₄, failed, keeps₄⟩ := complains.fails cx (.inr ⟨q.handle.object, k, rfl⟩)
          refine ⟨_, w₄, xs, run_map_error_iff.mpr failed, .kept holds (later.trans keeps₄) made ?_ ?_⟩
          · simp [withValue, answer, placed, complaint]
          · simp [withValue, answer, placed, complaint, Reply.Told]

omit short in
theorem follows_push {new : HostValue} (possible : new.type.Possible cx new.value)
    (room : xs.length < IntType.isize.greatest) :
    ∃ result w' xs', ((push new).perform cx q).run w = (result, w') ∧
      (push new).Follows V cx kind q.handle.object xs w result w'.guest xs' := by
  rw [perform, push_own own]
  cases complaint : kind.onPush with
  | some c =>
      have complains := row.noAppend complaint ready holds
      obtain ⟨e, w₁, failed, keeps⟩ := complains.fails cx (.inl rfl)
      refine ⟨_, w₁, xs, run_map_error_iff.mpr (run_bind_of_error failed _), ?_⟩
      refine .kept (v := Guest.noneRef) holds keeps ?_ ?_ ?_
      · simp [sent?, complaint]
      · simp [withValue, answer, complaint]
      · simp [withValue, answer, complaint, Reply.Told]
  | none =>
      obtain ⟨method, w₁, looked, keeps, callable⟩ := w.ask_of_answers (row.append complaint ready holds room)
      obtain ⟨_, w₂, allowed, rfl, keeps₂, calls⟩ := w₁.ask_of_answers callable
      have allows : (allow cx method).run w₁ = (.ok method, w₂) := by
        rw [allow, run_always_bind, ask?, allowed]
        rfl
      rw [map_bind, run_bind_of_ok (run_perform_of_ok looked _), map_bind, run_bind_of_ok allows]
      have wanted : (push new).sent? kind xs.length = some new := by simp [sent?, complaint]
      refine follows_sending laws possible (keeps.trans keeps₂) wanted fun v w₃ keeps₃ later made => ?_
      obtain ⟨given, w₄, called, replaces⟩ := w₃.ask_of_answers (calls w₃.guest v keeps₃)
      have pushed : ((Order.push new).withValue v).answer kind xs = (.done, xs ++ [.object v]) := by
        simp [withValue, answer, complaint]
      have same : ((acquire cx given >>= releaseIn cx) w₄).2.guest = w₄.guest := World.guest_release _ _ _
      refine ⟨.ok .done, ((acquire cx given >>= releaseIn cx) w₄).2, xs ++ [.object v], ?_, ?_⟩
      · rw [map_bind, run_bind_of_ok (run_perform_of_ok called _)]
        rfl
      · rw [same]
        exact .changed rfl (replaces.after later) made pushed rfl

omit short in
/-- **The reference follows every order**, as long as there is room for what it adds. -/
theorem follows (o : Order HostValue) (possible : ∀ new, o.value? = some new → new.type.Possible cx new.value)
    (room : (xs.length + o.added : Nat) ≤ IntType.isize.greatest) :
    ∃ result w' xs', (o.perform cx q).run w = (result, w') ∧
      o.Follows V cx kind q.handle.object xs w result w'.guest xs' := by
  cases o with
  | get i =>
      obtain ⟨result, w', run, follows⟩ := follows_get row ready holds own room i
      exact ⟨result, w', xs, run, follows⟩
  | set i new => exact follows_set laws row ready holds own room i (possible new rfl)
  | push new => exact follows_push laws row ready holds own (possible new rfl) (Int.lt_of_add_one_le room)
  | length =>
      obtain ⟨_, w', counted, rfl, keeps⟩ := gives_length cx row ready holds
      refine ⟨_, w', xs, run_map_ok_iff.mpr ⟨_, ?_, rfl⟩, .kept (v := Guest.noneRef) holds keeps nofun rfl rfl⟩
      rw [length_own own]
      exact counted
  | isEmpty =>
      obtain ⟨_, w', counted, rfl, keeps⟩ := gives_length cx row ready holds
      refine ⟨_, w', xs, run_map_ok_iff.mpr ⟨xs.length == 0, ?_, rfl⟩,
        .kept (v := Guest.noneRef) holds keeps nofun rfl rfl⟩
      rw [Sequence.isEmpty, length_own own, run_bind_of_ok counted]
      rfl

end Order

end Sequence

end GuestBridge.Bridge
