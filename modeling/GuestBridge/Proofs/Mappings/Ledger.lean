import GuestBridge.Proofs.Mappings.Bookcase
import GuestBridge.Proofs.Mappings.Orders

/-!
# A Mapping Is an Ordered Map

The host gives one order after the other to a mapping over a dictionary (`Deeds`), and between two of
them anything may happen by which nothing is forgotten. A `Ledger` keeps what the ordered map for
reference does with the same orders: an order whose values cannot be sent is none, and of any other it
says what the host is told and what the dictionary holds. Keys are told apart as the guest itself does,
by identity or by `==`, in the world in which the values have been sent.

## Main statements

* `Deed.follows` — one order, by what sending its values and fulfilling it does.
* `Mapping.ordered_map` — a run of orders, over a new dictionary or any other.
-/

namespace GuestBridge.Bridge

open Guest (Ref Raised noneRef trueRef)

variable {σ : Type} [GuestState σ] {V : Lexicon σ} {cx : Context}

/-! ### Sending the values of an order -/

/-- Which objects are one key to the guest: the same object, or equal ones. -/
def World.sameKey (w : World σ) (a b : Ref) : Bool := a == b || (askOr (.equal a b) id false w).1

namespace Order

/-- The values that are sent. -/
def values : Order HostValue → List HostValue
  | set key new => [key, new]
  | remove key | get key | contains key => [key]
  | keys | length | isEmpty => []

/-- An order that can be given: its values can be there in a session, and it is known of the key whether
it has a hash. -/
structure Fits (V : Lexicon σ) (cx : Context) (s : σ) (o : Order HostValue) : Prop where
  possible : ∀ v ∈ o.values, v.type.Possible cx v.value
  known : ∀ key, o.key? = some key → ∃ h, key.type.hashing (V.hash s) key.value = some h

/-- The values of an order have been sent. Nothing was forgotten, and the key has the hash that was
known. -/
structure Sent (V : Lexicon σ) (s : σ) (o : Order HostValue) (o' : Order Ref) (s' : σ) : Prop where
  learns : V.Learns s s'
  look : o'.isLook = o.isLook
  keyed : o'.key?.isSome = o.key?.isSome
  key : ∀ k, o'.key? = some k → ∃ key, o.key? = some key ∧
    ∀ h, key.type.hashing (V.hash s) key.value = some h → V.hash s' k = some h

variable {w : World σ}

/-- **The values of an order are sent**, or the first refused key in them decides. -/
theorem finishes_send (laws : V.Laws) {o : Order HostValue} (fits : o.Fits V cx w.guest)
    (ready : V.Ready w.guest) :
    Finishes (o.send cx) w (o.values.findSome? fun v => v.type.refusal v.value)
      (fun o' w' => Sent V w.guest o o' w'.guest) ((V.since w.guest).Refused w.guest) := by
  have from₀ := Lexicon.Learns.refl ready
  have one (key : HostValue) (mem : key ∈ o.values) (make : Ref → Order Ref)
      (same : o.key? = some key) (keyed : ∀ k, (make k).key? = some k) (look : ∀ k, (make k).isLook = o.isLook) :
      Finishes (make <$> key.send cx) w ([key].findSome? fun v => v.type.refusal v.value)
        (fun o' w' => Sent V w.guest o o' w'.guest) ((V.since w.guest).Refused w.guest) := by
    rw [List.findSome?_singleton, map_eq_pure_bind]
    refine (finishes_hashing (laws.since w.guest) (fits.possible key mem) from₀).andThen fun k w₁ sent => .pure ?_
    refine ⟨sent.grows.ready, look k, by rw [keyed, same]; rfl, fun k' h => ⟨key, same, fun _ hash => ?_⟩⟩
    cases (keyed k).symm.trans h
    exact sent.hash hash
  cases o with
  | set key new =>
      have possible := fits.possible new (.tail _ (.head _))
      rw [show (set key new).values = [key] ++ [new] from rfl, List.findSome?_append, List.findSome?_singleton,
        List.findSome?_singleton]
      refine (finishes_hashing (laws.since w.guest) (fits.possible key (.head _)) from₀).bind fun k w₁ sent => ?_
      have second := finishes_hashing (laws.since w.guest) possible (w := w₁) sent.grows.ready
      refine (finishes_earlier sent.grows second).andThen fun v w₂ sent' => .pure ?_
      refine ⟨sent'.grows.ready, rfl, rfl, fun k' h => ⟨key, rfl, fun _ hash => ?_⟩⟩
      cases h
      exact sent'.grows.hash (sent.hash hash)
  | remove key => exact one key (.head _) remove rfl (fun _ => rfl) fun _ => rfl
  | get key => exact one key (.head _) get rfl (fun _ => rfl) fun _ => rfl
  | contains key => exact one key (.head _) contains rfl (fun _ => rfl) fun _ => rfl
  | keys | length | isEmpty => exact .pure ⟨from₀, rfl, rfl, nofun⟩

/-- An order for a key that has to be there sends that key. -/
theorem send_of_isDemand (cx : Context) {o : Order HostValue} (demand : o.isDemand) {key : HostValue} (asked : o.key? = some key) :
    ∃ make : Ref → Order Ref, (o.send cx : Crossing σ _) = make <$> key.send cx ∧ o.values = [key] ∧
      ∀ k, (make k).key? = some k ∧ (make k).isDemand := by
  cases o with
  | remove key' =>
      cases asked
      exact ⟨remove, rfl, rfl, fun k => ⟨rfl, rfl⟩⟩
  | get key' =>
      cases asked
      exact ⟨get, rfl, rfl, fun k => ⟨rfl, rfl⟩⟩
  | set | contains | keys | length | isEmpty => cases demand

end Order

/-! ### One order -/

/-- An order that was carried out: in which world it began, what the host was told, and the world after
it. -/
structure Deed (σ : Type) where
  order : Order HostValue
  start : World σ
  result : Except (Stop Error) Answer
  finish : World σ

namespace Deed

/-- It went as it says. -/
def Happens (cx : Context) (m : Mapping) (t : Deed σ) : Prop :=
  (t.order.perform cx m).run t.start = (t.result, t.finish)

/-- What the reference makes of an order. -/
inductive Follows (V : Lexicon σ) (cx : Context) (d : Ref) (es : Entries) (t : Deed σ) : Entries → Prop
  /-- A value cannot be sent, so the order is none. -/
  | unsent {e : Ref} {type : String}
      (stopped : ((t.order.send cx).orError cx .convert).run t.start =
        (.error (.failed (unhashable cx e type)), t.finish))
      (result : t.result = .error (.failed (unhashable cx e type)))
      (unchanged : V.Learns t.start.guest t.finish.guest) : Follows V cx d es t es
  /-- The values are sent, and the host is told what the reference replies. A key that was taken out is
  not there. -/
  | sent {o : Order Ref} {w : World σ} (sent : (t.order.send cx).run t.start = (.ok o, w))
      (serves : V.Serves cx d t.order.isLook (o.reply w.sameKey es (V.refusal w.guest o)) t.result
        t.start.guest t.finish.guest)
      (gone : ∀ k, o = .remove k → t.result = .ok .done →
        (o.reply w.sameKey es (V.refusal w.guest o)).2.has w.sameKey k = false) :
      Follows V cx d es t (o.reply w.sameKey es (V.refusal w.guest o)).2

end Deed

section

variable {w : World σ} {es : Entries} {k : Ref}

/-- The guest tells keys apart as the lexicon says. -/
theorem Lexicon.Laws.sameKey (laws : V.Laws) (ready : V.Ready w.guest) {a b : Ref}
    (ha : V.hash w.guest a = some .sound) (hb : V.hash w.guest b = some .sound) :
    w.sameKey a b = V.same w.guest a b := by
  obtain ⟨answer, w', asked, same⟩ := w.ask_of_answers (laws.equal ready ha hb)
  rw [World.sameKey, askOr_of_ok asked, same]
  rfl

theorem Lexicon.Laws.reply_sameKey (laws : V.Laws) (ready : V.Ready w.guest) {d : Ref} (dict : V.Dict w.guest d es)
    {o : Order Ref} (known : ∀ k, o.key? = some k → ∃ h, V.hash w.guest k = some h) :
    o.reply w.sameKey es (V.refusal w.guest o) = o.reply (V.same w.guest) es (V.refusal w.guest o) := by
  cases refusal : V.refusal w.guest o with
  | some type => rfl
  | none =>
      refine Order.answer_congr fun k key e he => laws.sameKey ready (dict.sound e he) ?_
      obtain ⟨h, hash⟩ := known k key
      cases h with
      | sound => exact hash
      | refused type => cases refusal.symm.trans (Lexicon.refusal_of_refused key hash)

/-- A key that was taken out is not there any more. -/
theorem Lexicon.Laws.gone (laws : V.Laws) (ready : V.Ready w.guest) {d : Ref} (dict : V.Dict w.guest d es) {h : Hash}
    (hash : V.hash w.guest k = some h)
    (told : ((Order.remove k).reply w.sameKey es (V.refusal w.guest (.remove k))).1.Told cx d (.ok .done)) :
    ((Order.remove k).reply w.sameKey es (V.refusal w.guest (.remove k))).2.has w.sameKey k = false := by
  cases h with
  | refused type =>
      rw [Lexicon.refusal_of_refused rfl hash] at told
      obtain ⟨e, h⟩ := told
      cases h
  | sound =>
      rw [Lexicon.refusal_of_sound fun k' same => Option.some.inj same ▸ hash] at told ⊢
      change ((Order.remove k).answer w.sameKey es).1.Told cx d _ at told
      change ((Order.remove k).answer w.sameKey es).2.has w.sameKey k = false
      have same (e : Ref × Ref) (he : e ∈ es) : w.sameKey e.1 k = V.same w.guest e.1 k :=
        laws.sameKey ready (dict.sound e he) hash
      rw [Order.answer] at told ⊢
      split
      · have kept (e : Ref × Ref) (he : e ∈ es.erase (V.same w.guest) k) := same e (List.mem_of_mem_eraseP he)
        rw [Entries.erase_congr same, Entries.has_congr kept]
        refine Entries.has_erase (laws.distinct ready dict) fun e he e' he' first second => ?_
        exact laws.alike ready (dict.sound e he) (dict.sound e' he') hash first second
      · rename_i other
        rw [if_neg other] at told
        obtain ⟨_, _, h⟩ := told
        cases h

end

/-! ### Over a dictionary -/

/-- A mapping of the session over a dictionary of which the entries are known. -/
structure Mapping.Over (V : Lexicon σ) (cx : Context) (m : Mapping) (es : Entries) (s : σ) : Prop where
  own : m.handle.session = cx.session
  ready : V.Ready s
  dict : V.Dict s m.handle.object es

namespace Lexicon

variable {m : Mapping} {es : Entries} {w : World σ}

/-- What sending the values of an order leads to. -/
theorem Laws.performs (laws : V.Laws) (holds : m.Over V cx es w.guest) {o : Order HostValue}
    (fits : o.Fits V cx w.guest) :
    (∃ e type w', ((o.send cx).orError cx .convert).run w = (.error (.failed (unhashable cx e type)), w') ∧
      (o.perform cx m).run w = (.error (.failed (unhashable cx e type)), w') ∧ V.Learns w.guest w'.guest) ∨
    ∃ o' w₁ result w', (o.send cx).run w = (.ok o', w₁) ∧ Order.Sent V w.guest o o' w₁.guest ∧
      (o.perform cx m).run w = (result, w') ∧ V.Serves cx m.handle.object o.isLook
        (o'.reply w₁.sameKey es (V.refusal w₁.guest o')) result w.guest w'.guest ∧
      ∀ k, o' = .remove k → result = .ok .done →
        (o'.reply w₁.sameKey es (V.refusal w₁.guest o')).2.has w₁.sameKey k = false := by
  rw [Order.perform_eq holds.own]
  have ends := Order.finishes_send laws fits holds.ready
  cases refused : o.values.findSome? fun v => v.type.refusal v.value with
  | some type =>
      rw [refused] at ends
      obtain ⟨e, w', failed, keeps⟩ := orError_of_refused cx ends
      exact .inl ⟨e, type, w', failed, run_bind_of_error failed _, keeps.ready⟩
  | none =>
      rw [refused] at ends
      obtain ⟨o', w₁, given, sent⟩ := ends
      have known (k : Ref) (key : o'.key? = some k) : ∃ h, V.hash w₁.guest k = some h := by
        obtain ⟨key, same, hash⟩ := sent.key k key
        obtain ⟨h, known⟩ := fits.known key same
        exact ⟨h, hash h known⟩
      have dict := holds.dict.later sent.learns
      obtain ⟨result, w', run, serves⟩ := laws.fulfils holds.own sent.learns.ready dict known
      rw [← laws.reply_sameKey sent.learns.ready dict known, sent.look] at serves
      refine .inr ⟨o', w₁, result, w', given, sent, ?_, ⟨serves.told, serves.dict, ?_, fun h => ?_⟩, ?_⟩
      · rw [run_bind_of_ok (run_orError_of_ok given cx .convert), run]
      · exact serves.rewrites.after sent.learns
      · exact sent.learns.trans (serves.unchanged h)
      · rintro k rfl rfl
        obtain ⟨h, hash⟩ := known k rfl
        exact laws.gone sent.learns.ready dict hash serves.told

/-- Where the values are sent, -/
theorem Laws.serves (laws : V.Laws) (holds : m.Over V cx es w.guest) {o : Order HostValue}
    (fits : o.Fits V cx w.guest) {o' : Order Ref} {w₁ : World σ} (sent : (o.send cx).run w = (.ok o', w₁)) :
    ∃ result w', (o.perform cx m).run w = (result, w') ∧ V.Serves cx m.handle.object o.isLook
      (o'.reply w₁.sameKey es (V.refusal w₁.guest o')) result w.guest w'.guest := by
  rcases laws.performs holds fits with ⟨e, type, w', stopped, -⟩ | ⟨o'', w₂, result, w', sent', -, run, serves, -⟩
  · cases (run_orError_of_ok sent cx .convert).symm.trans stopped
  · cases sent.symm.trans sent'
    exact ⟨result, w', run, serves⟩

/-- and where they are not. -/
theorem Laws.unsent (laws : V.Laws) (holds : m.Over V cx es w.guest) {o : Order HostValue}
    (fits : o.Fits V cx w.guest) {stop : Stop Raised} {w₁ : World σ}
    (unsent : (o.send cx).run w = (.error stop, w₁)) :
    ∃ e type w', (o.perform cx m).run w = (.error (.failed (unhashable cx e type)), w') := by
  rcases laws.performs holds fits with ⟨e, type, w', -, run, -⟩ | ⟨o', w₂, result, w', sent, -⟩
  · exact ⟨e, type, w', run⟩
  · cases unsent.symm.trans sent

end Lexicon

/-! ### What the host is told -/

namespace Reply

variable {reply : Reply} {d : Ref} {result : Except (Stop Error) Answer}

/-- An index error is told only where the key is not there. -/
theorem Told.absent_iff (told : reply.Told cx d result) :
    (∃ c key diagnostic, result = .error (.failed (.indexError c key diagnostic))) ↔ reply = .absent := by
  cases reply with
  | absent =>
      obtain ⟨key, text, rfl⟩ := told
      exact ⟨fun _ => rfl, fun _ => ⟨_, _, _, rfl⟩⟩
  | refused type =>
      obtain ⟨e, rfl⟩ := told
      exact ⟨fun ⟨_, _, _, h⟩ => (by cases h), nofun⟩
  | done | value | truth | keys | count =>
      cases told
      exact ⟨nofun, nofun⟩

theorem Told.truth_iff {b : Bool} (told : reply.Told cx d result) :
    result = .ok (.truth b) ↔ reply = .truth b := by
  cases reply with
  | absent =>
      obtain ⟨key, text, rfl⟩ := told
      exact ⟨nofun, nofun⟩
  | refused type =>
      obtain ⟨e, rfl⟩ := told
      exact ⟨nofun, nofun⟩
  | done | value | truth | keys | count =>
      cases told
      simp

end Reply

namespace Deed

variable {t : Deed σ} {m : Mapping} {es : Entries}

/-- **One order**: the reference follows it. -/
theorem follows (laws : V.Laws) (holds : m.Over V cx es t.start.guest) (fits : t.order.Fits V cx t.start.guest)
    (happens : t.Happens cx m) :
    ∃ es', t.Follows V cx m.handle.object es es' ∧ m.Over V cx es' t.finish.guest := by
  rcases laws.performs holds fits with
    ⟨e, type, w', stopped, run, learned⟩ | ⟨o, w₁, result, w', sent, made, run, serves, gone⟩
  all_goals
    have same := happens.symm.trans run
    rw [Prod.mk.injEq] at same
    obtain ⟨result, rfl⟩ := same
  · exact ⟨es, .unsent stopped result learned, holds.own, learned.ready, holds.dict.later learned⟩
  · rw [← result] at serves gone
    exact ⟨_, .sent sent serves gone, holds.own, serves.rewrites.ready, serves.dict⟩

/-- **A key that has to be there is reported missing** exactly where the mapping says that it does not
contain it. -/
theorem absent_iff (laws : V.Laws) (holds : m.Over V cx es t.start.guest) (fits : t.order.Fits V cx t.start.guest)
    (happens : t.Happens cx m) (demand : t.order.isDemand) {key : HostValue} (asked : t.order.key? = some key) :
    (∃ c text diagnostic, t.result = .error (.failed (.indexError c text diagnostic))) ↔
      ∃ w, (m.containsKey cx key).run t.start = (.ok false, w) := by
  obtain ⟨make, sends, values, keyed⟩ := Order.send_of_isDemand (σ := σ) cx demand asked
  have fits' : (Order.contains key).Fits V cx t.start.guest :=
    ⟨fun v mem => fits.possible v (values ▸ mem), fun key' same => Option.some.inj same ▸ fits.known key asked⟩
  simp only [← Order.perform_contains_iff]
  have happens : (t.order.perform cx m).run t.start = (t.result, t.finish) := happens
  rcases crossed : (key.send cx).run t.start with ⟨stop | k, w₁⟩
  · have unsent : (t.order.send cx).run t.start = (.error stop, w₁) := sends ▸ run_map_error_iff.mpr crossed
    have unsent' : ((Order.contains key).send cx).run t.start = (.error stop, w₁) :=
      run_map_error_iff.mpr crossed
    obtain ⟨e, type, w', run⟩ := laws.unsent holds fits unsent
    obtain ⟨e', type', w'', run'⟩ := laws.unsent holds fits' unsent'
    have result : t.result = .error (.failed (unhashable cx e type)) := congrArg Prod.fst (happens.symm.trans run)
    constructor
    · rintro ⟨c, text, diagnostic, same⟩
      cases result.symm.trans same
    · rintro ⟨w, ran⟩
      cases ran.symm.trans run'
  · have sent : (t.order.send cx).run t.start = (.ok (make k), w₁) := sends ▸ run_map_ok_iff.mpr ⟨k, crossed, rfl⟩
    have sent' : ((Order.contains key).send cx).run t.start = (.ok (.contains k), w₁) :=
      run_map_ok_iff.mpr ⟨k, crossed, rfl⟩
    obtain ⟨result, w', run, serves⟩ := laws.serves holds fits sent
    obtain ⟨result', w'', run', serves'⟩ := laws.serves holds fits' sent'
    have result : t.result = result := congrArg Prod.fst (happens.symm.trans run)
    have truth : (∃ w, ((Order.contains key).perform cx m).run t.start = (.ok (.truth false), w)) ↔
        result' = .ok (.truth false) := by
      rw [run']
      constructor
      · rintro ⟨w, same⟩
        exact congrArg Prod.fst same
      · rintro rfl
        exact ⟨w'', rfl⟩
    -- both say that the key is not refused, and not there
    have refusal : V.refusal w₁.guest (.contains k) = V.refusal w₁.guest (make k) := by
      rw [Lexicon.refusal, Lexicon.refusal, (keyed k).1]
      rfl
    rw [result, serves.told.absent_iff, truth, serves'.told.truth_iff, refusal]
    exact Order.absent_iff_not_has (keyed k).2 (keyed k).1

/-- **An object without a hash is refused as a key.** -/
theorem unhashable_of_refused (laws : V.Laws) (holds : m.Over V cx es t.start.guest)
    (fits : t.order.Fits V cx t.start.guest) (happens : t.Happens cx m) {key : HostValue} {type : String}
    (asked : t.order.key? = some key)
    (hash : key.type.hashing (V.hash t.start.guest) key.value = some (.refused type)) :
    ∃ e type', t.result = .error (.failed (unhashable cx e type')) := by
  have happens : (t.order.perform cx m).run t.start = (t.result, t.finish) := happens
  rcases laws.performs holds fits with
    ⟨e, type', w', -, run, -⟩ | ⟨o, w₁, result, w', -, made, run, serves, -⟩
  · exact ⟨e, type', congrArg Prod.fst (happens.symm.trans run)⟩
  · obtain ⟨k, key'⟩ := Option.isSome_iff_exists.mp (made.keyed.trans (Option.isSome_iff_exists.mpr ⟨key, asked⟩))
    obtain ⟨_, same, kept⟩ := made.key k key'
    cases asked.symm.trans same
    have told := serves.told
    rw [Lexicon.refusal_of_refused key' (kept _ hash)] at told
    obtain ⟨e, told⟩ := told
    exact ⟨e, type, (congrArg Prod.fst (happens.symm.trans run)).trans told⟩

/-- What only looks, or fails, changes nothing. -/
theorem Follows.unchanged {d : Ref} {es' : Entries} (h : t.Follows V cx d es es')
    (idle : t.order.isLook ∨ ∃ e, t.result = .error e) : V.Learns t.start.guest t.finish.guest := by
  cases h with
  | unsent stopped result unchanged => exact unchanged
  | sent sent serves gone => exact serves.unchanged idle

end Deed

/-! ### A run of orders -/

/-- Orders one after the other. Between two of them nothing is forgotten. -/
inductive Deeds (V : Lexicon σ) (cx : Context) (m : Mapping) : σ → List (Deed σ) → Prop
  | nil (s : σ) : Deeds V cx m s []
  | cons {s : σ} {t : Deed σ} {ts : List (Deed σ)} (meanwhile : V.Learns s t.start.guest)
      (fits : t.order.Fits V cx t.start.guest) (happens : t.Happens cx m) (rest : Deeds V cx m t.finish.guest ts) :
      Deeds V cx m s (t :: ts)

/-- The entries of the reference before and after a run of orders. -/
inductive Ledger (V : Lexicon σ) (cx : Context) (d : Ref) : Entries → List (Deed σ) → Entries → Prop
  | nil (es : Entries) : Ledger V cx d es [] es
  | cons {es es' es'' : Entries} {t : Deed σ} {ts : List (Deed σ)} (follows : t.Follows V cx d es es')
      (rest : Ledger V cx d es' ts es'') : Ledger V cx d es (t :: ts) es''

/-- A run of orders to a mapping goes as with an ordered map. -/
structure Mapping.Orderly (V : Lexicon σ) (cx : Context) (m : Mapping) (es : Entries) (ts : List (Deed σ)) :
    Prop where
  /-- Every answer is that of the reference, and the dictionary holds what the reference does. -/
  ledger : ∃ es', Ledger V cx m.handle.object es ts es'
  /-- A key that has to be there is reported missing exactly where the mapping says that it does not
  contain it. -/
  absent : ∀ t ∈ ts, ∀ key, t.order.isDemand → t.order.key? = some key →
    ((∃ c text diagnostic, t.result = .error (.failed (.indexError c text diagnostic))) ↔
      ∃ w, (m.containsKey cx key).run t.start = (.ok false, w))
  /-- A key without a hash is refused. -/
  unhashable : ∀ t ∈ ts, ∀ key type, t.order.key? = some key →
    key.type.hashing (V.hash t.start.guest) key.value = some (.refused type) →
    ∃ e type', t.result = .error (.failed (unhashable cx e type'))
  /-- What only looks, or fails, changes nothing. -/
  unchanged : ∀ t ∈ ts, t.order.isLook ∨ (∃ e, t.result = .error e) → V.Learns t.start.guest t.finish.guest

omit [GuestState σ] in
theorem Mapping.Over.later {m : Mapping} {es : Entries} {s s' : σ} (h : m.Over V cx es s) (learned : V.Learns s s') :
    m.Over V cx es s' :=
  ⟨h.own, learned.ready, h.dict.later learned⟩

/-- A run over a dictionary goes as with an ordered map. -/
theorem Deeds.orderly (laws : V.Laws) {m : Mapping} {es : Entries} {s : σ} {ts : List (Deed σ)}
    (deeds : Deeds V cx m s ts) (holds : m.Over V cx es s) : m.Orderly V cx es ts := by
  induction deeds generalizing es with
  | nil s => exact ⟨⟨es, .nil es⟩, List.forall_mem_nil _, List.forall_mem_nil _, List.forall_mem_nil _⟩
  | @cons s t ts meanwhile fits happens rest ih =>
      have holds := holds.later meanwhile
      obtain ⟨es', follows, next⟩ := Deed.follows laws holds fits happens
      obtain ⟨⟨es'', ledger⟩, absent, unhashable, unchanged⟩ := ih next
      refine ⟨⟨es'', .cons follows ledger⟩, List.forall_mem_cons.mpr ⟨fun key demand asked => ?_, absent⟩,
        List.forall_mem_cons.mpr ⟨fun key type asked hash => ?_, unhashable⟩,
        List.forall_mem_cons.mpr ⟨follows.unchanged, unchanged⟩⟩
      · exact Deed.absent_iff laws holds fits happens demand asked
      · exact Deed.unhashable_of_refused laws holds fits happens asked hash

/-- A new mapping is over an empty dictionary. -/
theorem Mapping.empty_over (laws : V.Laws) {w : World σ} (ready : V.Ready w.guest) :
    ∃ m w', (Mapping.empty cx).run w = (.ok m, w') ∧ m.Over V cx [] w'.guest := by
  obtain ⟨d, w₁, made, brings, -, shape⟩ := w.ask_of_answers (laws.newDict ready)
  refine ⟨⟨cx.handle d⟩, (w₁.acquire cx.session d).2, ?_, rfl, brings.learns.ready, ⟨[], shape, rfl⟩, nofun⟩
  rw [Mapping.empty, run_bind_of_ok (run_perform_of_ok made _)]
  rfl

/-- **A mapping over a dictionary is an insertion-ordered map**, whether the dictionary is a new one or
was there before. -/
theorem Mapping.ordered_map (laws : V.Laws) (cx : Context) :
    (∀ w : World σ, V.Ready w.guest →
      ∃ m w', (Mapping.empty cx).run w = (.ok m, w') ∧ m.Over V cx [] w'.guest) ∧
    ∀ (m : Mapping) (es : Entries) (s : σ) (ts : List (Deed σ)), m.Over V cx es s → Deeds V cx m s ts →
      m.Orderly V cx es ts :=
  ⟨fun _ ready => Mapping.empty_over laws ready, fun _ _ _ _ holds deeds => deeds.orderly laws holds⟩

/-! ### A dictionary, and one with a value for absent keys -/

/-- The orders that are carried out if nothing happens between them. -/
def Deed.carryOut (cx : Context) (m : Mapping) : List (Order HostValue) → World σ → List (Deed σ)
  | [], _ => []
  | o :: os, w =>
    let p := (o.perform cx m).run w
    ⟨o, w, p.1, p.2⟩ :: carryOut cx m os p.2

theorem Deeds.of_carryOut (laws : V.Laws) {m : Mapping} (os : List (Order HostValue))
    (fits : ∀ o ∈ os, ∀ s, o.Fits V cx s) {es : Entries} {w : World σ} (holds : m.Over V cx es w.guest) :
    Deeds V cx m w.guest (Deed.carryOut cx m os w) := by
  induction os generalizing es w with
  | nil => exact .nil _
  | cons o os ih =>
      obtain ⟨here, later⟩ := List.forall_mem_cons.mp fits
      let t : Deed σ := ⟨o, w, ((o.perform cx m).run w).1, ((o.perform cx m).run w).2⟩
      have happens : t.Happens cx m := rfl
      obtain ⟨es', -, next⟩ := Deed.follows laws holds (here w.guest) happens
      exact .cons (.refl holds.ready) (here w.guest) happens (ih later next)

namespace Bookcase

/-- The session's world with an empty bookcase, -/
def world : World Bookcase := ⟨.initial, [], [.fresh], []⟩

/-- and with one dictionary in it. -/
def withDict (es : Entries) (absent : Option Ref) : World Bookcase :=
  ⟨initial.set ⟨initial.next⟩ (.dict es absent), [], [.fresh], []⟩

/-- The mapping over the first dictionary that is made. -/
def mapping : Mapping := ⟨⟨⟨initial.next⟩, 0, none⟩⟩

def int (n : Int) : HostValue := ⟨.bigInt, n⟩
def float (bits : UInt64) : HostValue := ⟨.float64, bits⟩
def bool (b : Bool) : HostValue := ⟨.bool, b⟩
def str (t : String) : HostValue := ⟨.string, t⟩
def list : HostValue := ⟨.list .bool, []⟩

/-- One key in three types, an absent one and a list. -/
def orders : List (Order HostValue) :=
  [.set (int 1) (bool false), .set (str "x") (bool true), .set (float 0x3FF0000000000000) (bool true),
    .get (bool true), .get (str "y"), .contains list, .remove (bool true), .remove (int 1),
    .set (float 0x3FF0000000000000) (bool false), .length]

/-- Looks at absent keys. -/
def looks : List (Order HostValue) := [.get (str "x"), .contains (str "x"), .length, .isEmpty, .remove (str "x")]

theorem orders_fit (o : Order HostValue) (known : o ∈ orders ++ looks) (s : Bookcase) : o.Fits lexicon ⟨0⟩ s := by
  simp only [orders, looks, List.cons_append, List.nil_append, List.mem_cons, List.not_mem_nil, or_false] at known
  rcases known with rfl | rfl | rfl | rfl | rfl | rfl | rfl | rfl | rfl | rfl | rfl | rfl | rfl | rfl | rfl
  all_goals
    constructor
    · simp [Order.values, int, bool, str, float, list, HostType.Possible]
    · rintro key ⟨⟩ <;> exact ⟨_, rfl⟩

theorem withDict_over {es : Entries} {absent : Option Ref} (keyed : ∀ e ∈ es, initial.hash e.1 = some .sound)
    (distinct : es.Distinct initial.same) : mapping.Over lexicon ⟨0⟩ es (withDict es absent).guest := by
  have filled : initial.Keyed (.dict es absent) := fun es absent same => by
    cases same
    exact ⟨keyed, distinct⟩
  have there : (withDict es absent).guest.things mapping.handle.object = some (.dict es absent) := things_set_self
  have ready : (withDict es absent).guest.Ready := (ready_initial.learns_make filled).ready
  exact ⟨rfl, ready, ready.dict there⟩

/-- A dictionary that has a value for absent keys. -/
def defaults : World Bookcase := withDict [] (some trueRef)

theorem defaults_over : mapping.Over lexicon ⟨0⟩ [] defaults.guest := withDict_over nofun .nil

end Bookcase

open Bookcase in
theorem Mapping.ordered_map_bookcase : lexicon.Laws ∧ lexicon.Ready world.guest ∧
    (∃ w, (Mapping.empty ⟨0⟩).run world = (.ok mapping, w) ∧ mapping.Over lexicon ⟨0⟩ [] w.guest ∧
      let ts := Deed.carryOut ⟨0⟩ mapping orders w
      Deeds lexicon ⟨0⟩ mapping w.guest ts ∧ mapping.Orderly lexicon ⟨0⟩ [] ts ∧ ts.map Deed.result =
        [.ok .done, .ok .done, .ok .done, .ok (.value ⟨trueRef, 0, none⟩),
          .error (.failed (.indexError mapping.handle "'y'" ⟨"KeyError", "'y'", none⟩)),
          .error (.failed (unhashable ⟨0⟩ ⟨157⟩ "list")), .ok .done,
          .error (.failed (.indexError mapping.handle "1" ⟨"KeyError", "1", none⟩)), .ok .done, .ok (.count 2)]) ∧
    mapping.Over lexicon ⟨0⟩ [] defaults.guest ∧
      mapping.Orderly lexicon ⟨0⟩ [] (Deed.carryOut ⟨0⟩ mapping looks defaults) := by
  obtain ⟨made, orderly⟩ := Mapping.ordered_map laws ⟨0⟩
  obtain ⟨m, w, run, holds⟩ := made world ready_initial
  have begins : (Mapping.empty ⟨0⟩).run world = (.ok mapping, ((Mapping.empty ⟨0⟩).run world).2) := rfl
  have same := run.symm.trans begins
  rw [Prod.mk.injEq, Except.ok.injEq] at same
  obtain ⟨rfl, rfl⟩ := same
  have deeds := Deeds.of_carryOut laws orders (fun o mem => orders_fit o (List.mem_append_left _ mem)) holds
  have looked := Deeds.of_carryOut laws looks (fun o mem => orders_fit o (List.mem_append_right _ mem)) defaults_over
  refine ⟨laws, ready_initial, ⟨_, begins, holds, deeds, orderly _ _ _ _ holds deeds, ?_⟩, defaults_over,
    orderly _ _ _ _ defaults_over looked⟩
  decide +kernel

end GuestBridge.Bridge
