import GuestBridge.Proofs.Mappings.Exceptions
import GuestBridge.Proofs.Mappings.Hashing
import GuestBridge.Proofs.Views.Outcomes

/-!
# Orders to a Dictionary

The operations of a mapping are orders: their values are sent, and then the order is fulfilled with the
objects. Over a dictionary of which a lexicon knows the entries an order is fulfilled as the ordered map
for reference replies to it. To fulfil it forgets nothing, unless it changes the dictionary; then
nothing else changes.

## Main statements

* `Lexicon.Laws.yields_keys` — the keys are listed in order, by way of a view.
* `Lexicon.Laws.fulfils` — an order is fulfilled as the reference replies.
-/

namespace GuestBridge.Bridge

open Guest (Ref Raised)

variable {σ : Type} [GuestState σ] {V : Lexicon σ} {cx : Context}

/-- What an order gives the host. -/
inductive Answer
  | done
  | value (h : Handle)
  | truth (b : Bool)
  | keys (hs : List Handle)
  | count (n : Nat)
  deriving DecidableEq

/-- The item of a key that has been sent, -/
def item (cx : Context) (d k : Ref) : Boundary σ Handle := do
  let v ← perform cx (.subscript d k) (.getItem d k)
  always (acquire cx v)

/-- and the same where the bridge first asks whether the key is there. -/
def checkedItem (cx : Context) (d k : Ref) : Boundary σ Handle := do
  if ← perform cx .member (.contains d k) then item cx d k else missingEntry cx d k

theorem Mapping.get_eq {m : Mapping} (own : m.handle.session = cx.session) (key : HostValue) :
    (m.get cx key : Boundary σ Handle) = (key.send cx).orError cx .convert >>= checkedItem cx m.handle.object := by
  rw [Mapping.get, Handle.bind_own own]
  rfl

namespace Order

/-- Carries an order out. -/
def perform (cx : Context) (m : Mapping) : Order HostValue → Boundary σ Answer
  | set key new => (fun _ => .done) <$> m.set cx key new
  | remove key => (fun _ => .done) <$> m.remove cx key
  | get key => .value <$> m.get cx key
  | contains key => .truth <$> m.containsKey cx key
  | keys => .keys <$> m.keys cx
  | length => .count <$> m.length cx
  | isEmpty => .truth <$> m.isEmpty cx

theorem perform_contains_iff {m : Mapping} {key : HostValue} {b : Bool} {w w' : World σ} :
    ((contains key).perform cx m).run w = (.ok (.truth b), w') ↔ (m.containsKey cx key).run w = (.ok b, w') := by
  rw [perform, run_map_ok_iff]
  simp

/-- Sends the values of an order. -/
def send (cx : Context) : Order HostValue → Crossing σ (Order Ref)
  | set key new => do
    let k ← key.send cx
    let v ← new.send cx
    return set k v
  | remove key => remove <$> key.send cx
  | get key => get <$> key.send cx
  | contains key => contains <$> key.send cx
  | keys => return keys
  | length => return length
  | isEmpty => return isEmpty

/-- Carries out an order whose values have been sent. -/
def fulfil (cx : Context) (m : Mapping) : Order Ref → Boundary σ Answer
  | set k v => (fun _ => .done) <$> Bridge.perform cx (.subscript m.handle.object k) (.setItem m.handle.object k v)
  | remove k => (fun _ => .done) <$> Bridge.perform cx (.subscript m.handle.object k) (.deleteItem m.handle.object k)
  | get k => .value <$> checkedItem cx m.handle.object k
  | contains k => .truth <$> Bridge.perform cx .member (.contains m.handle.object k)
  | keys => .keys <$> m.keys cx
  | length => .count <$> Bridge.perform cx .length (.length m.handle.object)
  | isEmpty => do return .truth ((← Bridge.perform cx .length (.length m.handle.object)) == 0)

/-- **An operation of a mapping sends its values first**, and then it is fulfilled. -/
theorem perform_eq {m : Mapping} (own : m.handle.session = cx.session) (o : Order HostValue) :
    (o.perform cx m : Boundary σ Answer) = (o.send cx).orError cx .convert >>= fulfil cx m := by
  cases o with
  | set key new =>
      simp only [perform, Mapping.set, Handle.setSubscript, Handle.bind_own own, send, orError_bind, bind_assoc,
        map_bind]
      rfl
  | remove key =>
      simp only [perform, Mapping.remove, Handle.deleteSubscript, Handle.bind_own own, send, orError_map,
        bind_map_left, map_bind]
      rfl
  | get key =>
      simp only [perform, Mapping.get_eq own, send, orError_map, bind_map_left, map_bind]
      rfl
  | contains key =>
      simp only [perform, Mapping.containsKey, Handle.bind_own own, send, orError_map, bind_map_left, map_bind]
      rfl
  | keys => rfl
  | length =>
      simp only [perform, Mapping.length, Handle.bind_own own]
      rfl
  | isEmpty =>
      simp only [perform, Mapping.isEmpty, Mapping.length, Handle.bind_own own, map_bind, map_pure]
      rfl

end Order

/-! ### Listing keys -/

namespace Lexicon

variable {w : World σ}

omit [GuestState σ] in
theorem Yields.acquired (ready : V.Ready w.guest) (r : Ref) {ε : Type} :
    V.Yields (Bridge.always (acquire cx r) : ExceptT (Stop ε) (StateM (World σ)) Handle).run w (.ok (cx.handle r)) :=
  .of_eq rfl rfl ready

namespace Laws

variable (laws : V.Laws)
include laws

/-- A foreign step gives what the iterator has left. -/
theorem foreign_next (ready : V.Ready w.guest) {it k : Ref} {ks : List Ref}
    (left : V.left w.guest it = some (k :: ks)) : ∃ w', View.foreign it w = (.element k, w') ∧
      V.Learns w.guest w'.guest ∧ V.left w'.guest it = some ks := by
  obtain ⟨method, w₁, looked, learned, calls⟩ := w.ask_of_answers (laws.next ready left)
  obtain ⟨_, w₂, called, rfl, learned', left⟩ := w₁.ask_of_answers calls
  refine ⟨w₂, ?_, learned.trans learned', left⟩
  rw [View.foreign, bind_apply, ask?, looked]
  dsimp only
  rw [bind_apply, ask?, called]
  rfl

/-- In the end it stops. -/
theorem foreign_stop (ready : V.Ready w.guest) {it : Ref} (left : V.left w.guest it = some []) :
    V.Yields (View.foreign it) w .stop := by
  obtain ⟨method, w₁, looked, learned, throws⟩ := w.ask_of_answers (laws.stop ready left)
  obtain ⟨e, writes, s', raised, learned', -, f, known, stops⟩ := throws w₁.held
  obtain ⟨w₂, called, rfl⟩ := World.ask_of_perform raised
  obtain ⟨w₃, asked, learned''⟩ := laws.yields_isRaised learned'.ready known .stopIteration
  refine ⟨w₃, ?_, (learned.trans learned').trans learned''⟩
  rw [View.foreign, bind_apply, ask?, looked]
  dsimp only
  rw [bind_apply, ask?, called]
  dsimp only
  rw [View.Outcome.ofRaised, bind_apply, asked, stops]
  rfl

/-- The loop of a collection collects what the iterator has left. -/
theorem loop_collects {it : Handle} (own : it.session = cx.session) (ks : List Ref) (hs : List Handle)
    (ready : V.Ready w.guest) (left : V.left w.guest it.object = some ks) :
    ∃ w', LoopsTo View.Gathering.isFinished (View.Gathering.step cx) (.going ⟨some it⟩ hs, w)
        (.finished (.ok (hs.reverse ++ ks.map cx.handle)), w') ∧ V.Learns w.guest w'.guest := by
  induction ks generalizing hs w with
  | nil =>
      obtain ⟨w₁, stopped, learned⟩ := laws.foreign_stop ready left
      have ended : (View.Gathering.going ⟨some it⟩ hs).step cx w =
          (.finished (.ok hs.reverse), w₁.release (.owner cx.session) it) := by
        rw [View.Gathering.step, bind_apply, Consumer.run_advance own, View.run_step, stopped]
        rfl
      refine ⟨w₁.release (.owner cx.session) it, .next rfl ?_, World.guest_release w₁ _ it ▸ learned⟩
      rw [ended, List.map_nil, List.append_nil]
      exact .here rfl
  | cons k ks ih =>
      obtain ⟨w₁, given, learned, left⟩ := laws.foreign_next ready left
      have goesOn : (View.Gathering.going ⟨some it⟩ hs).step cx w =
          (.going ⟨some it⟩ (cx.handle k :: hs), (w₁.acquire cx.session k).2) := by
        rw [View.Gathering.step, bind_apply, Consumer.run_advance own, View.run_step, given]
        rfl
      obtain ⟨w', collected, learned'⟩ :=
        ih (cx.handle k :: hs) (w := (w₁.acquire cx.session k).2) learned.ready left
      refine ⟨w', .next rfl ?_, learned.trans learned'⟩
      rw [goesOn]
      rw [List.reverse_cons, List.append_assoc] at collected
      exact collected

/-- **The keys are listed in order**, and to list them changes nothing. -/
theorem yields_keys {m : Mapping} (own : m.handle.session = cx.session) {es : Entries} (ready : V.Ready w.guest)
    (dict : V.Dict w.guest m.handle.object es) :
    V.Yields (m.keys cx).run w (.ok (es.map fun e => cx.handle e.1)) := by
  obtain ⟨method, w₁, looked, learned, callable⟩ := w.ask_of_answers (laws.keys ready dict)
  obtain ⟨_, w₂, allowed, rfl, learned', calls⟩ := w₁.ask_of_answers callable
  obtain ⟨keys, w₃, called, learned'', iterates⟩ := w₂.ask_of_answers calls
  let w₄ := (w₃.acquire cx.session keys).2
  obtain ⟨it, w₅, iterated, learned₅, left⟩ := w₄.ask_of_answers iterates
  let w₆ := (w₅.acquire cx.session it).2
  have ownIt : (cx.handle it).session = cx.session := rfl
  obtain ⟨w₇, collected, learned₇⟩ := laws.loop_collects (w := w₆) ownIt _ [] learned₅.ready left
  have listing : (m.handle.callMethod cx "keys" [] []).run w = (.ok (cx.handle keys), w₄) := by
    have allows : (allow cx method).run w₁ = (.ok method, w₂) := by
      rw [allow, run_always_bind, ask?, allowed]
      rfl
    have invoked : (Handle.invoke cx method [] []).run w₂ = (.ok (cx.handle keys), w₄) := by
      change (perform cx .call (.call method [] []) >>= fun v => always (acquire cx v)).run w₂ = _
      rw [run_bind_of_ok (run_perform_of_ok called .call)]
      rfl
    rw [Handle.callMethod, Handle.bind_own own, run_bind_of_ok (run_perform_of_ok looked .member), callObject_eq,
      run_bind_of_ok allows, invoked]
  have iteration : ((cx.handle keys).iterate cx).run w₄ = (.ok ⟨some (cx.handle it)⟩, w₆) := by
    have iterated : w₄.ask (.iterate (cx.handle keys).object) = (.ok it, w₅) := iterated
    rw [Handle.iterate, Handle.bind_own rfl, run_bind_of_ok (run_perform_of_ok iterated _)]
    rfl
  have kept : (View.collect cx ⟨some (cx.handle it)⟩ []).run w₆ = (.ok (es.map fun e => cx.handle e.1), w₇) := by
    change View.collect cx _ [] w₆ = _
    rw [View.collect, repeatUntil_eq_some_iff.mpr collected, List.map_map]
    rfl
  have listed : ((cx.handle keys).iterate cx >>= fun v => View.collect cx v []).run w₄ =
      (.ok (es.map fun e => cx.handle e.1), w₇) := by
    rw [run_bind_of_ok iteration, kept]
  refine ⟨w₇.release (.owner cx.session) (cx.handle keys), ?_, ?_⟩
  · rw [Mapping.keys, run_bind_of_ok listing, run_always_bind, listed]
    rfl
  · rw [World.guest_release]
    exact (((learned.trans learned').trans learned'').trans learned₅).trans learned₇

end Laws

end Lexicon

/-! ### Fulfilling orders -/

/-- What a lookup gives: the value of the key, or that there is no entry for it. -/
def looked (cx : Context) (d : Ref) (text : String) : Option Ref → Except (Stop Error) Handle
  | some v => .ok (cx.handle v)
  | none => .error (.failed (.indexError (cx.handle d) text ⟨"KeyError", text, none⟩))

/-- What the host is told where the reference gives a reply. -/
def Reply.Told (cx : Context) (d : Ref) : Reply → Except (Stop Error) Answer → Prop
  | done, result => result = .ok .done
  | value v, result => result = .ok (.value (cx.handle v))
  | truth b, result => result = .ok (.truth b)
  | keys ks, result => result = .ok (.keys (ks.map cx.handle))
  | count n, result => result = .ok (.count n)
  | absent, result => ∃ key text, result = .error (.failed (.indexError (cx.handle d) key ⟨"KeyError", text, none⟩))
  | refused type, result => ∃ e, result = .error (.failed (unhashable cx e type))

namespace Lexicon

variable (V) in
/-- The type for which the key of an order is refused. -/
def refusal (s : σ) (o : Order Ref) : Option String := o.key?.bind (V.barrier s)

variable (V) in
/-- The host is told what the reference replies, the dictionary holds what the reference does, and
nothing else has changed; nothing at all has, if only a look was taken, or if it failed. -/
structure Serves (cx : Context) (d : Ref) (look : Bool) (reply : Reply × Entries)
    (result : Except (Stop Error) Answer) (s s' : σ) : Prop where
  told : reply.1.Told cx d result
  dict : V.Dict s' d reply.2
  rewrites : V.Rewrites d s s'
  unchanged : look ∨ (∃ e, result = .error e) → V.Learns s s'

variable {w : World σ} {m : Mapping} {es : Entries} {o : Order Ref}

omit [GuestState σ] in
/-- An order that changes the dictionary. -/
theorem Serves.changed {d : Ref} {reply : Reply × Entries} {a : Answer} {s s' : σ} (told : reply.1.Told cx d (.ok a))
    (dict : V.Dict s' d reply.2) (rewrites : V.Rewrites d s s') : V.Serves cx d false reply (.ok a) s s' :=
  ⟨told, dict, rewrites, fun idle => idle.elim nofun nofun⟩

omit [GuestState σ] in
theorem Yields.serves {x : Boundary σ Answer} {result : Except (Stop Error) Answer} {look : Bool}
    {reply : Reply × Entries} {d : Ref} (yields : V.Yields x.run w result) (dict : V.Dict w.guest d es)
    (told : reply.1.Told cx d result) (same : reply.2 = es) :
    ∃ result w', x.run w = (result, w') ∧ V.Serves cx d look reply result w.guest w'.guest := by
  obtain ⟨w', run, learned⟩ := yields
  exact ⟨result, w', run, told, same ▸ dict.later learned, learned.rewrites d, fun _ => learned⟩

omit [GuestState σ] in
theorem refusal_of_refused {s : σ} {k : Ref} {type : String} (key : o.key? = some k)
    (hash : V.hash s k = some (.refused type)) : V.refusal s o = some type := by
  rw [refusal, key, Option.bind_some, barrier_of_refused hash]

omit [GuestState σ] in
theorem refusal_of_sound {s : σ} (sound : ∀ k, o.key? = some k → V.hash s k = some .sound) :
    V.refusal s o = none := by
  rw [refusal]
  cases key : o.key? with
  | none => rfl
  | some k => exact barrier_of_sound (sound k key)

/-- What is there is found, -/
theorem Laws.yields_item_of_found (laws : V.Laws) (ready : V.Ready w.guest) {d k v : Ref}
    (dict : V.Dict w.guest d es) (sound : V.hash w.guest k = some .sound)
    (found : es.find? (V.same w.guest) k = some v) :
    V.Yields (item cx d k).run w (.ok (cx.handle v)) :=
  (Yields.perform (laws.getItem ready dict sound found) _).bindOk fun _ later => .acquired later.ready v

/-- and of what is not there it is said so. -/
theorem Laws.yields_checkedItem (laws : V.Laws) (cx : Context) (ready : V.Ready w.guest) {d k : Ref}
    (dict : V.Dict w.guest d es) (sound : V.hash w.guest k = some .sound) :
    V.Yields (checkedItem cx d k).run w (looked cx d (V.keyText w.guest k) (es.find? (V.same w.guest) k)) := by
  have asked : V.Yields (perform cx .member (.contains d k)).run w (.ok (es.has (V.same w.guest) k)) :=
    .perform (laws.contains ready dict sound) _
  rw [← Entries.find?_isSome] at asked
  refine asked.bindOk fun w₁ learned => ?_
  have sound₁ := learned.hash sound
  cases found : es.find? (V.same w.guest) k with
  | some v =>
      have same := Entries.find?_congr (dict.same_later learned sound)
      exact laws.yields_item_of_found learned.ready (dict.later learned) sound₁ (same.trans found)
  | none =>
      have missing : V.Yields (missingEntry cx d k : Boundary σ Handle).run w₁ _ :=
        laws.yields_missingEntry learned.ready sound₁ d
      rw [keyText_later learned sound] at missing
      exact missing

variable (laws : V.Laws) (own : m.handle.session = cx.session) (ready : V.Ready w.guest)
  (dict : V.Dict w.guest m.handle.object es)
include laws ready dict

/-- An object without a hash is refused, whatever is to be done with it as a key. -/
theorem Laws.yields_unhashable {k : Ref} {type : String} (key : o.key? = some k)
    (hash : V.hash w.guest k = some (.refused type)) :
    ∃ e, V.Yields (o.fulfil cx m).run w (.error (.failed (unhashable cx e type))) := by
  obtain ⟨ps, shape, -⟩ := dict.shape
  have throws {α : Type} {r : Request α} (item : r.item? = some (m.handle.object, k)) :
      V.Throws w.guest r (Report.IsUnhashable type) := laws.refuse item ready shape hash
  cases o with
  | set k' v =>
      cases key
      obtain ⟨e, yields⟩ := laws.yields_refused (r := .setItem m.handle.object k v) (throws rfl) (.inr ⟨_, _, rfl⟩)
      exact ⟨e, yields.mapError _⟩
  | remove k' =>
      cases key
      obtain ⟨e, yields⟩ := laws.yields_refused (r := .deleteItem m.handle.object k) (throws rfl) (.inr ⟨_, _, rfl⟩)
      exact ⟨e, yields.mapError _⟩
  | get k' =>
      cases key
      obtain ⟨e, yields⟩ := laws.yields_refused (r := .contains m.handle.object k) (throws rfl) (.inl rfl)
      exact ⟨e, (yields.bindError _).mapError _⟩
  | contains k' =>
      cases key
      obtain ⟨e, yields⟩ := laws.yields_refused (r := .contains m.handle.object k) (throws rfl) (.inl rfl)
      exact ⟨e, yields.mapError _⟩
  | keys | length | isEmpty => cases key

include own

/-- **An order is fulfilled as the reference replies.** -/
theorem Laws.fulfils (known : ∀ k, o.key? = some k → ∃ h, V.hash w.guest k = some h) :
    ∃ result w', (o.fulfil cx m).run w = (result, w') ∧
      V.Serves cx m.handle.object o.isLook (o.reply (V.same w.guest) es (V.refusal w.guest o)) result
        w.guest w'.guest := by
  by_cases refused : ∃ k type, o.key? = some k ∧ V.hash w.guest k = some (.refused type)
  · obtain ⟨k, type, key, hash⟩ := refused
    obtain ⟨e, yields⟩ := laws.yields_unhashable ready dict key hash
    rw [refusal_of_refused key hash]
    exact yields.serves dict ⟨e, rfl⟩ rfl
  have sound (k : Ref) (key : o.key? = some k) : V.hash w.guest k = some .sound := by
    obtain ⟨h, hash⟩ := known k key
    cases h with
    | sound => exact hash
    | refused type => exact absurd ⟨k, type, key, hash⟩ refused
  rw [refusal_of_sound sound, Order.reply]
  cases o with
  | set k v =>
      obtain ⟨_, w', stored, rewrites, after⟩ := w.ask_of_answers (laws.setItem (v := v) ready dict (sound k rfl))
      exact ⟨_, w', run_map_ok_iff.mpr ⟨_, run_perform_of_ok stored _, rfl⟩, .changed rfl after rewrites⟩
  | remove k =>
      rw [Order.answer]
      split
      · rename_i there
        obtain ⟨_, w', taken, rewrites, after⟩ := w.ask_of_answers (laws.deleteItem ready dict (sound k rfl) there)
        exact ⟨_, w', run_map_ok_iff.mpr ⟨_, run_perform_of_ok taken _, rfl⟩, .changed rfl after rewrites⟩
      · rename_i other
        have throws := laws.deleteAbsent ready dict (sound k rfl) (Bool.not_eq_true _ ▸ other)
        obtain ⟨text, -, yields⟩ := laws.yields_keyError cx (sound k rfl) throws
        exact (yields.mapError _).serves dict ⟨_, _, rfl⟩ rfl
  | get k =>
      have looked := laws.yields_checkedItem cx ready dict (sound k rfl)
      rw [Order.answer]
      cases found : es.find? (V.same w.guest) k with
      | some v =>
          rw [found] at looked
          exact (looked.map Answer.value).serves dict rfl rfl
      | none =>
          rw [found] at looked
          exact (looked.mapError Answer.value).serves dict ⟨_, _, rfl⟩ rfl
  | contains k => exact ((Yields.perform (laws.contains ready dict (sound k rfl)) .member).map _).serves dict rfl rfl
  | keys =>
      refine ((laws.yields_keys own ready dict).map _).serves dict ?_ rfl
      rw [Order.answer, Reply.Told, List.map_map]
      rfl
  | length => exact ((Yields.perform (laws.length ready dict) .length).map _).serves dict rfl rfl
  | isEmpty =>
      have counted : V.Yields (perform cx .length (.length m.handle.object)).run w (.ok es.length) :=
        .perform (laws.length ready dict) _
      have yields : V.Yields (Order.fulfil cx m .isEmpty).run w (.ok (.truth (es.length == 0))) :=
        counted.bindOk fun w₁ learned => .of_eq rfl rfl learned.ready
      exact yields.serves dict rfl rfl

end Lexicon

end GuestBridge.Bridge
