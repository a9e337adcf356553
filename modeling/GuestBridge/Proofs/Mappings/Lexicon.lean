import GuestBridge.Proofs.Mappings.Entries
import GuestBridge.Proofs.Sending.Catalogue

/-!
# What Is Known of Dictionaries

A `Lexicon` is a way to look at a guest that knows, besides the hashes of objects, which of them are one
key, what shows them, what exceptions tell and what iterators have left. Its laws say what the guest
does with dictionaries whose keys are objects of built-in types: a dictionary is an ordered map, a key
without a hash is refused, and an absent key raises a `KeyError` that shows it. To look at a dictionary
changes nothing of what is known (`Learns`), and to write to one changes nothing else (`Rewrites`).

Of a key that is absent from a dictionary nothing is said where it is looked up by its subscript, unless
the dictionary is plain: one whose class has a `__missing__` may answer, and may add the key.

While values are sent nothing is written to the dictionaries that were there before. `Lexicon.since`
looks at a guest from a state on and does not see these dictionaries, so what is proved of sending over
any catalogue says that nothing known in that state is forgotten.
-/

namespace GuestBridge.Bridge

open Guest (Ref Raised ErrorKind noneRef boolRef)

/-- A request raises, whatever the bridge holds, and `Q` holds of the exception and the state after. -/
def Raises {σ α : Type} [GuestState σ] (s : σ) (r : Request α) (Q : Raised → σ → Prop) : Prop :=
  ∀ held, ∃ e writes s', GuestState.perform held r s = (.error e, writes, s') ∧ Q e s'

/-! ### Exceptions -/

/-- What an exception tells: the name of its type, its text, and to which types it belongs. -/
structure Report where
  typeName : String
  text : Text
  belongs : ErrorKind → Bool

namespace Report

/-- What is kept of it, if it passed through no frame. -/
def diagnostic (f : Report) : Diagnostic := ⟨f.typeName, f.text.lossy, none⟩

/-- It says that an object of a type cannot be a key. -/
structure IsUnhashable (type : String) (f : Report) : Prop where
  typeName : f.typeName = "TypeError"
  text : f.text = Text.ofString ("unhashable type: '" ++ type ++ "'")
  noLookup : f.belongs .lookupError = false

/-- It says that a key is not there. Its text is what shows the key, if anything does. -/
structure IsKeyError (shown : Option Text) (f : Report) : Prop where
  typeName : f.typeName = "KeyError"
  text {t : Text} : shown = some t → f.text = t
  lookup : f.belongs .lookupError = true

end Report

/-- The container and the key of a request that looks for a key. -/
def Request.item? : {α : Type} → Request α → Option (Ref × Ref)
  | _, .contains d k | _, .getItem d k | _, .setItem d k _ | _, .deleteItem d k => some (d, k)
  | _, _ => none

/-! ### The lexicon -/

variable {σ : Type}

/-- A way to look at the states of a guest that knows about its dictionaries. -/
structure Lexicon (σ : Type) extends Catalogue σ where
  /-- Which objects are one key: the same object, or equal ones. -/
  same : σ → Ref → Ref → Bool
  /-- The dictionaries in which an absent key is not looked up in another way. -/
  plain : σ → Ref → Prop
  /-- What shows an object, if it can be shown. -/
  shown : σ → Ref → Option Text
  report : σ → Ref → Option Report
  /-- What an iterator has left. -/
  left : σ → Ref → Option (List Ref)

namespace Lexicon

variable (V : Lexicon σ)

/-- What is known of keys and exceptions is still known. -/
structure Recalls (s s' : σ) : Prop where
  hash {r : Ref} {h : Hash} : V.hash s r = some h → V.hash s' r = some h
  same {a b : Ref} : V.hash s a = some .sound → V.hash s b = some .sound → V.same s' a b = V.same s a b
  shown {r : Ref} : V.hash s r = some .sound → V.shown s' r = V.shown s r
  plain {r : Ref} : V.plain s r → V.plain s' r
  report {r : Ref} {f : Report} : V.report s r = some f → V.report s' r = some f

/-- The guest is ready, and everything is known that was known before. -/
structure Learns (s s' : σ) : Prop extends V.toOutlook.Keeps s s', V.Recalls s s'

/-- So it is, but for what a dictionary holds. -/
structure Rewrites (d : Ref) (s s' : σ) : Prop extends V.Recalls s s' where
  ready : V.Ready s'
  others : ((V.objects s).without [d]).Extends (V.objects s')

/-- A dictionary that holds entries whose keys can be keys. -/
structure Dict (s : σ) (d : Ref) (es : Entries) : Prop where
  shape : ∃ ps, (V.objects s).shape d = some (.dict ps) ∧ ps.map Prod.snd = es
  sound : ∀ e ∈ es, V.hash s e.1 = some .sound

/-- An object has been made, with its hash. -/
structure Brings (h : Hash) (s : σ) (r : Ref) (s' : σ) : Prop where
  learns : V.Learns s s'
  hash : V.hash s' r = some h

/-- A request raises an exception that passed through no frame, and of which it is known what it tells. -/
def Throws [GuestState σ] {α : Type} (s : σ) (r : Request α) (P : Report → Prop) : Prop :=
  Raises s r fun e s' => V.Learns s s' ∧ e.trace = [] ∧ ∃ f, V.report s' e.value = some f ∧ P f

/-- The type for which a key is refused. -/
def barrier (s : σ) (k : Ref) : Option String :=
  match V.hash s k with
  | some (.refused type) => some type
  | _ => none

/-- What the bridge relies on where objects are keys of dictionaries. -/
structure Laws [GuestState σ] : Prop where
  noneHash {s : σ} : V.Ready s → V.hash s noneRef = some .sound
  boolHash {s : σ} (b : Bool) : V.Ready s → V.hash s (boolRef b) = some .sound
  newInt {s : σ} (n : Int) : V.Ready s → Answers s (.newInt n) (V.Brings .sound s)
  newFloat {s : σ} (bits : Nat) : V.Ready s → Answers s (.newFloat bits) (V.Brings .sound s)
  newStr {s : σ} (t : String) : V.Ready s → Answers s (.newStr t) (V.Brings .sound s)
  newBytes {s : σ} (bs : List UInt8) : V.Ready s → Answers s (.newBytes bs) (V.Brings .sound s)
  newList {s : σ} (items : List Ref) : V.Ready s → Answers s (.newList items) (V.Brings (.refused "list") s)
  newSlice {s : σ} (start stop step : Ref) : V.Ready s →
    Answers s (.newSlice start stop step) (V.Brings (.refused "slice") s)
  newTuple {s : σ} (items : List Ref) : V.Ready s → Answers s (.newTuple items) fun q s' =>
    V.Learns s s' ∧ ∀ hs, items.mapM (V.hash s) = some hs → V.hash s' q = some (.tuple hs)
  /-- A new dictionary is empty and was not there before. -/
  newDict {s : σ} : V.Ready s → Answers s (.newDict []) fun d s' =>
    V.Brings (.refused "dict") s d s' ∧ (V.objects s).shape d = none ∧ (V.objects s').shape d = some (.dict [])
  /-- Keys are one if they are the same object or equal, -/
  equal {s : σ} {a b : Ref} : V.Ready s → V.hash s a = some .sound → V.hash s b = some .sound →
    Answers s (.equal a b) fun answer _ => V.same s a b = (a == b || answer)
  /-- and if they are one key with a third. -/
  alike {s : σ} {a b k : Ref} : V.Ready s → V.hash s a = some .sound → V.hash s b = some .sound →
    V.hash s k = some .sound → V.same s a k → V.same s b k → V.same s a b
  /-- No two keys of a dictionary are one. -/
  distinct {s : σ} {d : Ref} {es : Entries} : V.Ready s → V.Dict s d es → es.Distinct (V.same s)
  contains {s : σ} {d k : Ref} {es : Entries} : V.Ready s → V.Dict s d es → V.hash s k = some .sound →
    Answers s (.contains d k) fun found s' => found = es.has (V.same s) k ∧ V.Learns s s'
  getItem {s : σ} {d k v : Ref} {es : Entries} : V.Ready s → V.Dict s d es → V.hash s k = some .sound →
    es.find? (V.same s) k = some v → Answers s (.getItem d k) fun u s' => u = v ∧ V.Learns s s'
  setItem {s : σ} {d k v : Ref} {es : Entries} : V.Ready s → V.Dict s d es → V.hash s k = some .sound →
    Answers s (.setItem d k v) fun _ s' => V.Rewrites d s s' ∧ V.Dict s' d (es.put (V.same s) k v)
  deleteItem {s : σ} {d k : Ref} {es : Entries} : V.Ready s → V.Dict s d es → V.hash s k = some .sound →
    es.has (V.same s) k → Answers s (.deleteItem d k) fun _ s' =>
      V.Rewrites d s s' ∧ V.Dict s' d (es.erase (V.same s) k)
  length {s : σ} {d : Ref} {es : Entries} : V.Ready s → V.Dict s d es →
    Answers s (.length d) fun n s' => n = es.length ∧ V.Learns s s'
  /-- A key without a hash is refused, and nothing changes. -/
  refuse {s : σ} {α : Type} {r : Request α} {d k : Ref} {ps : List (Nat × Ref × Ref)} {type : String} :
    r.item? = some (d, k) → V.Ready s → (V.objects s).shape d = some (.dict ps) →
    V.hash s k = some (.refused type) → V.Throws s r (Report.IsUnhashable type)
  deleteAbsent {s : σ} {d k : Ref} {es : Entries} : V.Ready s → V.Dict s d es → V.hash s k = some .sound →
    es.has (V.same s) k = false → V.Throws s (.deleteItem d k) (Report.IsKeyError (V.shown s k))
  getAbsent {s : σ} {d k : Ref} {es : Entries} : V.Ready s → V.Dict s d es → V.plain s d →
    V.hash s k = some .sound → es.has (V.same s) k = false →
    V.Throws s (.getItem d k) (Report.IsKeyError (V.shown s k))
  /-- The method `keys` gives something that is iterated over in the order of the keys. -/
  keys {s : σ} {d : Ref} {es : Entries} : V.Ready s → V.Dict s d es →
    Answers s (.getAttr d "keys") fun method s₁ => V.Learns s s₁ ∧
      Answers s₁ (.isCallable method) fun callable s₂ => callable = true ∧ V.Learns s₁ s₂ ∧
        Answers s₂ (.call method [] []) fun keys s₃ => V.Learns s₂ s₃ ∧
          Answers s₃ (.iterate keys) fun it s₄ => V.Learns s₃ s₄ ∧ V.left s₄ it = some (es.map Prod.fst)
  next {s : σ} {it k : Ref} {ks : List Ref} : V.Ready s → V.left s it = some (k :: ks) →
    Answers s (.getAttr it "__next__") fun method s₁ => V.Learns s s₁ ∧
      Answers s₁ (.call method [] []) fun o s₂ => o = k ∧ V.Learns s₁ s₂ ∧ V.left s₂ it = some ks
  stop {s : σ} {it : Ref} : V.Ready s → V.left s it = some [] →
    Answers s (.getAttr it "__next__") fun method s₁ => V.Learns s s₁ ∧
      V.Throws s₁ (.call method [] []) fun f => f.belongs .stopIteration = true
  typeName {s : σ} {e : Ref} {f : Report} : V.Ready s → V.report s e = some f →
    Answers s (.typeName e) fun name s' => name = f.typeName ∧ V.Learns s s'
  str {s : σ} {e : Ref} {f : Report} : V.Ready s → V.report s e = some f →
    Answers s (.str e) fun text s' => text = f.text ∧ V.Learns s s'
  belongs {s : σ} {e : Ref} {f : Report} (kind : ErrorKind) : V.Ready s → V.report s e = some f →
    Answers s (.belongs e (.error kind)) fun b s' => b = f.belongs kind ∧ V.Learns s s'
  /-- A key is shown, or to show it fails. -/
  repr {s : σ} {k : Ref} {t : Text} : V.Ready s → V.hash s k = some .sound → V.shown s k = some t →
    Answers s (.repr k) fun text s' => text = t ∧ V.Learns s s'
  noRepr {s : σ} {k : Ref} : V.Ready s → V.hash s k = some .sound → V.shown s k = none →
    Raises s (.repr k) fun _ s' => V.Learns s s'

variable {V} {s s' s'' : σ} {d k : Ref} {es : Entries}

theorem Learns.refl (ready : V.Ready s) : V.Learns s s :=
  ⟨.refl ready, id, fun _ _ => rfl, fun _ => rfl, id, id⟩

theorem Recalls.trans (h : V.Recalls s s') (h' : V.Recalls s' s'') : V.Recalls s s'' where
  hash known := h'.hash (h.hash known)
  same ha hb := (h'.same (h.hash ha) (h.hash hb)).trans (h.same ha hb)
  shown known := (h'.shown (h.hash known)).trans (h.shown known)
  plain known := h'.plain (h.plain known)
  report known := h'.report (h.report known)

theorem Learns.trans (h : V.Learns s s') (h' : V.Learns s' s'') : V.Learns s s'' :=
  ⟨h.toKeeps.trans h'.toKeeps, h.toRecalls.trans h'.toRecalls⟩

theorem Learns.rewrites (h : V.Learns s s') (d : Ref) : V.Rewrites d s s' :=
  ⟨h.toRecalls, h.ready, (Objects.without_extends _ _).trans h.known⟩

theorem Rewrites.after (h : V.Rewrites d s' s'') (learned : V.Learns s s') : V.Rewrites d s s'' :=
  ⟨learned.toRecalls.trans h.toRecalls, h.ready, (learned.known.without [d]).trans h.others⟩

theorem Dict.later (h : V.Dict s d es) (learned : V.Learns s s') : V.Dict s' d es := by
  obtain ⟨ps, shape, entries⟩ := h.shape
  exact ⟨⟨ps, learned.known.shape shape, entries⟩, fun e he => learned.hash (h.sound e he)⟩

/-- What is one key with a key of a dictionary stays so. -/
theorem Dict.same_later (h : V.Dict s d es) (learned : V.Learns s s') (sound : V.hash s k = some .sound) :
    ∀ e ∈ es, V.same s' e.1 k = V.same s e.1 k :=
  fun e he => learned.same (h.sound e he) sound

theorem barrier_of_refused {type : String} (h : V.hash s k = some (.refused type)) : V.barrier s k = some type := by
  rw [barrier, h]

theorem barrier_of_sound (h : V.hash s k = some .sound) : V.barrier s k = none := by
  rw [barrier, h]

/-! ### Sending from a state on -/

variable (V) in
/-- A guest from a state on. It is ready as long as everything is known that was known then, and what
was there then is not looked at. -/
def since (s₀ : σ) : Catalogue σ where
  Ready := V.Learns s₀
  objects s := { V.objects s with
    shape := fun r => if ((V.objects s₀).shape r).isSome then none else (V.objects s).shape r }
  hash := V.hash

section

variable {s₀ : σ} {r : Ref} {x : Shape}

theorem shape_since (new : (V.objects s₀).shape r = none) :
    ((V.since s₀).objects s).shape r = (V.objects s).shape r :=
  if_neg (by rw [new]; exact Bool.false_ne_true)

theorem shape_since_of_known (known : (V.objects s₀).shape r = some x) :
    ((V.since s₀).objects s).shape r = none :=
  if_pos (by rw [known]; rfl)

/-- What is looked at is new. -/
theorem of_shape_since (h : ((V.since s₀).objects s).shape r = some x) :
    (V.objects s₀).shape r = none ∧ (V.objects s).shape r = some x := by
  cases old : (V.objects s₀).shape r with
  | none => exact ⟨rfl, shape_since old ▸ h⟩
  | some y =>
      rw [shape_since_of_known old] at h
      cases h

theorem Learns.since (from₀ : V.Learns s₀ s) (h : V.Learns s s') : (V.since s₀).Grows s s' := by
  refine ⟨⟨from₀.trans h, fun known => ?_, h.known.key⟩, h.hash⟩
  obtain ⟨new, known⟩ := of_shape_since known
  rw [shape_since new]
  exact h.known.shape known

theorem Brings.since {h : Hash} (from₀ : V.Learns s₀ s) (brings : V.Brings h s r s') :
    (V.since s₀).New h s r s' :=
  ⟨from₀.since brings.learns, brings.hash⟩

/-- Writing to a dictionary that is new changes nothing that was known. -/
theorem Rewrites.since (from₀ : V.Learns s₀ s) (new : (V.objects s₀).shape d = none) (h : V.Rewrites d s s') :
    V.Learns s₀ s' :=
  ⟨⟨h.ready, (from₀.known.past_unknown new).trans h.others⟩, from₀.toRecalls.trans h.toRecalls⟩

end

variable [GuestState σ]

theorem Laws.refusal_since (laws : V.Laws) {s₀ : σ} {e : Raised} {f : Report} {type : String}
    (from₀ : V.Learns s₀ s) (trace : e.trace = []) (report : V.report s e.value = some f)
    (unhashable : f.IsUnhashable type) : (V.since s₀).Refusal s e type := by
  refine ⟨trace, (laws.typeName from₀.ready report).mono fun name s₁ ⟨named, learned⟩ => ?_⟩
  refine ⟨named.trans unhashable.typeName, (from₀.since learned).toKeeps, ?_⟩
  have from₁ := from₀.trans learned
  refine (laws.str from₁.ready (learned.report report)).mono fun text s₂ ⟨said, learned⟩ => ?_
  exact ⟨said.trans unhashable.text, (from₁.since learned).toKeeps⟩

/-- **From any state on the guest is a catalogue.** -/
theorem Laws.since (laws : V.Laws) (s₀ : σ) : (V.since s₀).Laws where
  noneHash h := laws.noneHash h.ready
  boolHash b h := laws.boolHash b h.ready
  newInt n h := (laws.newInt n h.ready).mono fun _ _ => Brings.since h
  newFloat bits h := (laws.newFloat bits h.ready).mono fun _ _ => Brings.since h
  newStr t h := (laws.newStr t h.ready).mono fun _ _ => Brings.since h
  newBytes bs h := (laws.newBytes bs h.ready).mono fun _ _ => Brings.since h
  newList items h := (laws.newList items h.ready).mono fun _ _ => Brings.since h
  newSlice start stop step h := (laws.newSlice start stop step h.ready).mono fun _ _ => Brings.since h
  newTuple items h := (laws.newTuple items h.ready).mono fun _ _ made => ⟨h.since made.1, made.2⟩
  newDict {s} h := (laws.newDict h.ready).mono fun d s' ⟨brings, unknown, shape⟩ => by
    have new : (V.objects s₀).shape d = none := by
      by_contra known
      obtain ⟨x, known⟩ := Option.ne_none_iff_exists'.mp known
      exact Option.some_ne_none x ((h.known.shape known).symm.trans unknown)
    exact ⟨brings.since h, (shape_since new).trans unknown, (shape_since new).trans shape⟩
  setItem {s d k v ps} h dict sound key := by
    obtain ⟨new, shape⟩ := of_shape_since dict
    have dict : V.Dict s d (ps.map Prod.snd) :=
      ⟨⟨ps, shape, rfl⟩, fun e he => by obtain ⟨p, hp, rfl⟩ := List.mem_map.mp he; exact sound p hp⟩
    refine (laws.setItem h.ready dict key).mono fun _ s' ⟨rewrites, after⟩ => ?_
    obtain ⟨ps', shape', entries⟩ := after.shape
    refine ⟨rewrites.since h new, ?_, rewrites.hash, ps', (shape_since new).trans shape', fun p' hp' => ?_⟩
    · refine ⟨fun {r x} known => ?_, rewrites.others.key⟩
      by_cases here : r ∈ [d]
      · rw [Objects.shape_without_of_mem here] at known
        cases known
      · rw [Objects.shape_without here] at known
        obtain ⟨newer, known⟩ := of_shape_since known
        exact (shape_since newer).trans (rewrites.others.shape ((Objects.shape_without here).trans known))
    · have mem : p'.2 ∈ Entries.put (V.same s) (ps.map Prod.snd) k v := entries ▸ List.mem_map_of_mem hp'
      refine (Entries.mem_keys_put mem).imp_right fun old => ?_
      rw [List.map_map] at old
      obtain ⟨p, hp, same⟩ := List.mem_map.mp old
      exact ⟨p, hp, same⟩
  refuse {s d k v ps type} h dict key held := by
    obtain ⟨new, shape⟩ := of_shape_since dict
    have item : (Request.setItem d k v).item? = some (d, k) := rfl
    obtain ⟨e, writes, s', raised, learned, trace, f, report, unhashable⟩ := laws.refuse item h.ready shape key held
    exact ⟨e, writes, s', raised, (h.since learned).toKeeps,
      laws.refusal_since (h.trans learned) trace report unhashable⟩

end Lexicon

end GuestBridge.Bridge
