import GuestBridge.Proofs.RoundTrip.Reading
import Mathlib.Data.List.Forall2

/-!
# Sending Makes What Stands for a Value

Sending a value makes an object that stands for what the value collapses to. Objects that are made
stay what they are, but for the dictionary that is being filled: while its keys and values are made,
nothing that they stand for goes through it (`Sends.stands`), so it may change.

## Main results

* `gives_send` — sending never stops, and its result stands for the collapsed value.
-/

namespace GuestBridge.Bridge

open Guest (Ref noneRef boolRef)

variable {σ : Type} {V : Outlook σ} {cx : Context}

/-- Objects that are dictionaries. -/
def Objects.Dicts (o : Objects) (ds : List Ref) : Prop := ∀ d ∈ ds, ∃ es, o.shape d = some (.dict es)

namespace Objects

variable {o o' : Objects} {ds : List Ref}

theorem Dicts.extend (h : o.Extends o') (dicts : o.Dicts ds) : o'.Dicts ds := fun d hd =>
  (dicts d hd).imp fun _ shape => h.shape shape

/-- What is known not to be a dictionary is known without looking at dictionaries. -/
theorem shape_without_dicts (h : o.Extends o') (dicts : o.Dicts ds) {r : Ref} {x : Shape}
    (shape : o'.shape r = some x) (hx : ∀ es, x ≠ .dict es) :
    (o'.without ds).shape r = some x := by
  rw [shape_without fun hr => ?_, shape]
  obtain ⟨es, dict⟩ := dicts r hr
  have same := (h.shape dict).symm.trans shape
  exact hx es (Option.some.inj same).symm

end Objects

namespace Outlook

/-- Between two states, the object of a value has been made. What it stands for does not go through
dictionaries that were there before. -/
structure Sends (V : Outlook σ) (cx : Context) (t : HostType) (v : t.Value) (s : σ) (r : Ref) (s' : σ) :
    Prop where
  keeps : V.Keeps s s'
  key : t.isKey → (V.objects s').key r = some (t.keyOf v)
  stands (ds : List Ref) : (V.objects s).Dicts ds →
    ((V.objects s').without ds).Stands cx t (t.collapse (t.settle v)) r

theorem Sends.later {t : HostType} {v : t.Value} {s s' s'' : σ} {r : Ref} (h : V.Sends cx t v s r s')
    (keeps : V.Keeps s' s'') : V.Sends cx t v s r s'' where
  keeps := h.keeps.trans keeps
  key ht := keeps.known.key (h.key ht)
  stands ds dicts := (h.stands ds dicts).extend (keeps.known.without ds)

theorem Sends.earlier {t : HostType} {v : t.Value} {s s' s'' : σ} {r : Ref}
    (keeps : V.Keeps s s') (h : V.Sends cx t v s' r s'') : V.Sends cx t v s r s'' where
  keeps := keeps.trans h.keeps
  key := h.key
  stands ds dicts := h.stands ds (dicts.extend keeps.known)

theorem Makes.shape_without {x : Shape} {k : Option Key} {s s' : σ} {r : Ref}
    (h : V.Makes x k s r s') {ds : List Ref} (dicts : (V.objects s).Dicts ds)
    (hx : ∀ es, x ≠ .dict es) : ((V.objects s').without ds).shape r = some x :=
  Objects.shape_without_dicts h.keeps.known dicts h.shape hx

/-- An object without parts stands for the value that it was made from. -/
theorem Makes.sends {t : HostType} {v : t.Value} {s s' : σ} {r : Ref} {x : Shape} {k : Option Key}
    (h : V.Makes x k s r s') (hx : ∀ es, x ≠ .dict es) (key : t.isKey → k = some (t.keyOf v))
    (stands : ∀ o : Objects, o.shape r = some x → o.Stands cx t (t.collapse (t.settle v)) r) :
    V.Sends cx t v s r s' where
  keeps := h.keeps
  key ht := h.key (key ht)
  stands _ dicts := stands _ (h.shape_without dicts hx)

/-- What an option holds stands for the option, unless it stands for `None` and the option does not. -/
theorem Sends.option {t : HostType} {x : t.Value} {s s' : σ} {r : Ref} (h : V.Sends cx t x s r s')
    (none : (V.objects s').shape noneRef = some .none) (shows : t.isNone x = t.isNothing x) :
    V.Sends cx (.option t) (some x) s r s' := by
  refine ⟨h.keeps, h.key, fun ds dicts => ?_⟩
  have stands := h.stands ds dicts
  have known := Objects.shape_without_dicts h.keeps.known dicts none fun _ => Shape.noConfusion
  have isNone := stands.isNone_iff known
  rw [HostType.isNone_collapse, HostType.settle, HostType.isNone_mapFloats, shows,
    ← HostType.isNothing_mapFloats HostType.settle32 id, ← HostType.isNothing_collapse] at isNone
  change Objects.Stands _ cx (.option t) ((HostType.option t).collapse (some (t.settle x))) r
  by_cases nothing : t.isNothing (t.collapse (t.settle x))
  · rw [HostType.collapse_some_of_isNothing nothing]
    exact isNone.mp nothing
  · rw [HostType.collapse_some nothing]
    exact ⟨mt isNone.mpr nothing, stands⟩

section

variable {s s₁ s₂ : σ} {p q u r : Ref} {k : Option Key}

theorem Sends.list {t : HostType} {xs : List t.Value} {items : List Ref} (keeps : V.Keeps s s₁)
    (each : List.Forall₂ (fun x q => V.Sends cx t x s q s₁) xs items)
    (made : V.Makes (.sequence items) k s₁ r s₂) : V.Sends cx (.list t) xs s r s₂ := by
  refine ⟨keeps.trans made.keeps, fun isKey => absurd isKey Bool.false_ne_true, fun ds dicts => ?_⟩
  refine ⟨items, made.shape_without (dicts.extend keeps.known) fun _ => Shape.noConfusion, ?_⟩
  refine List.forall₂_map_left_iff.mpr (List.forall₂_map_left_iff.mpr ?_)
  exact each.imp fun x q part => (part.later made.keeps).stands ds dicts

theorem Sends.pair {a b : HostType} {v : (HostType.pair a b).Value} (first : V.Sends cx a v.1 s p s₁)
    (second : V.Sends cx b v.2 s q s₁)
    (made : V.Makes (.sequence [p, q]) (([p, q].mapM (V.objects s₁).key).map Key.tuple) s₁ r s₂) :
    V.Sends cx (.pair a b) v s r s₂ := by
  refine ⟨first.keeps.trans made.keeps, fun isKey => ?_, fun ds dicts => ?_⟩
  · simp only [HostType.isKey, Bool.and_eq_true] at isKey
    have keys : [p, q].mapM (V.objects s₁).key = some [a.keyOf v.1, b.keyOf v.2] := by
      simp [List.mapM_cons, first.key isKey.1, second.key isKey.2]
    exact made.key (congrArg (Option.map Key.tuple) keys)
  · have shape := made.shape_without (dicts.extend first.keeps.known) fun _ => Shape.noConfusion
    exact ⟨p, q, shape, (first.later made.keeps).stands ds dicts,
      (second.later made.keeps).stands ds dicts⟩

theorem Sends.triple {a b c : HostType} {v : (HostType.triple a b c).Value}
    (first : V.Sends cx a v.1 s p s₁) (second : V.Sends cx b v.2.1 s q s₁)
    (third : V.Sends cx c v.2.2 s u s₁)
    (made : V.Makes (.sequence [p, q, u]) (([p, q, u].mapM (V.objects s₁).key).map Key.tuple) s₁ r s₂) :
    V.Sends cx (.triple a b c) v s r s₂ := by
  refine ⟨first.keeps.trans made.keeps, fun isKey => ?_, fun ds dicts => ?_⟩
  · simp only [HostType.isKey, Bool.and_eq_true] at isKey
    have keys : [p, q, u].mapM (V.objects s₁).key =
        some [a.keyOf v.1, b.keyOf v.2.1, c.keyOf v.2.2] := by
      simp [List.mapM_cons, first.key isKey.1.1, second.key isKey.1.2, third.key isKey.2]
    exact made.key (congrArg (Option.map Key.tuple) keys)
  · have shape := made.shape_without (dicts.extend first.keeps.known) fun _ => Shape.noConfusion
    exact ⟨p, q, u, shape, (first.later made.keeps).stands ds dicts,
      (second.later made.keeps).stands ds dicts, (third.later made.keeps).stands ds dicts⟩

theorem Sends.range {v : HostType.range.Value} (keeps : V.Keeps s s₁)
    (start : (V.objects s₁).shape p = some (.int v.1.val))
    (stop : (V.objects s₁).shape q = some (.int v.2.val)) (step : (V.objects s₁).shape u = some (.int 1))
    (made : V.Makes (.slice p q u) k s₁ r s₂) : V.Sends cx .range v s r s₂ := by
  have keeps' := keeps.trans made.keeps
  refine ⟨keeps', fun isKey => absurd isKey Bool.false_ne_true, fun ds dicts => ?_⟩
  have seen {x : Ref} {n : Int} (shape : (V.objects s₁).shape x = some (.int n)) :
      ((V.objects s₂).without ds).shape x = some (.int n) :=
    Objects.shape_without_dicts keeps'.known dicts (made.keeps.known.shape shape)
      fun _ => Shape.noConfusion
  have slice := made.shape_without (dicts.extend keeps.known) fun _ => Shape.noConfusion
  exact ⟨p, q, u, slice, seen start, seen stop, seen step⟩

end

end Outlook

/-! ### Filling dictionaries -/

/-- Whether the guest does not tell two keys apart. -/
def HostType.sameObject (k : HostType) (x y : k.Value) : Bool := k.keyOf x == k.keyOf y

namespace Objects

theorem places_put (o : Objects) (place : Nat) (k v : Ref) (es : List (Nat × Ref × Ref)) :
    (o.put place k v es).map Prod.fst = es.map Prod.fst ∨
      (o.put place k v es).map Prod.fst = es.map Prod.fst ++ [place] := by
  induction es with
  | nil => exact .inr rfl
  | cons e es ih =>
      obtain ⟨p, k', v'⟩ := e
      rw [put]
      split
      · exact .inl rfl
      · exact ih.imp (congrArg (p :: ·)) (congrArg (p :: ·))

/-- A new entry comes after all others. -/
theorem growing_put (o : Objects) {place : Nat} (k v : Ref) {es : List (Nat × Ref × Ref)}
    (growing : es.Pairwise fun e e' => e.1 < e'.1) (past : ∀ e ∈ es, e.1 < place) :
    (o.put place k v es).Pairwise fun e e' => e.1 < e'.1 := by
  have places : (es.map Prod.fst ++ [place]).Pairwise (· < ·) := by
    refine List.pairwise_append.mpr ⟨List.pairwise_map.mpr growing, List.pairwise_singleton _ _, ?_⟩
    intro p hp q hq
    obtain ⟨e, he, rfl⟩ := List.mem_map.mp hp
    rw [List.mem_singleton.mp hq]
    exact past e he
  refine List.pairwise_map.mp ?_
  rcases o.places_put place k v es with same | more
  · rw [same]
    exact (List.pairwise_append.mp places).1
  · rw [more]
    exact places

/-- Giving a key a value is adding an entry, where the objects of keys are told apart as the keys
are. -/
theorem forall₂_put {o : Objects} {k : HostType} {β : Type} {P : k.Value → Ref → Prop}
    {Q : β → Ref → Prop} (hkey : ∀ x r, P x r → o.key r = some (k.keyOf x)) {x : k.Value} {y : β}
    {r u : Ref} (hx : P x r) (hy : Q y u) (place : Nat) {raw : List (k.Value × β)}
    {es : List (Nat × Ref × Ref)}
    (each : List.Forall₂ (fun p e => P p.1 e.2.1 ∧ Q p.2 e.2.2) raw es) :
    List.Forall₂ (fun p e => P p.1 e.2.1 ∧ Q p.2 e.2.2) (HostType.addEntry k.sameObject x y raw)
      (o.put place r u es) := by
  induction each with
  | nil => exact .cons ⟨hx, hy⟩ .nil
  | @cons p e raw es part rest ih =>
      have agree : o.key e.2.1 = o.key r ↔ k.sameObject p.1 x = true := by
        rw [hkey _ _ part.1, hkey _ _ hx, Option.some.injEq]
        exact beq_iff_eq.symm
      rw [HostType.addEntry, put]
      by_cases h : k.sameObject p.1 x = true
      · rw [if_pos h, if_pos (agree.mpr h)]
        exact .cons ⟨part.1, hy⟩ rest
      · rw [if_neg h, if_neg (mt agree.mp h)]
        exact .cons part ih

end Objects

namespace Outlook

/-- An object stands for a value without looking at a dictionary that is being filled, nor at those
that were there before. -/
structure Part (V : Outlook σ) (cx : Context) (s : σ) (d : Ref) (s' : σ) (t : HostType) (v : t.Value) (r : Ref) :
    Prop where
  key : t.isKey → (V.objects s').key r = some (t.keyOf v)
  stands (ds : List Ref) : (V.objects s).Dicts ds →
    ((V.objects s').without (d :: ds)).Stands cx t (t.collapse (t.settle v)) r

theorem Part.extend {s s' s'' : σ} {d : Ref} {t : HostType} {v : t.Value} {r : Ref}
    (h : V.Part cx s d s' t v r) (known : ((V.objects s').without [d]).Extends (V.objects s'')) :
    V.Part cx s d s'' t v r where
  key ht := known.key (h.key ht)
  stands ds dicts := (h.stands ds dicts).extend (known.without_cons ds)

theorem Part.later {s s' s'' : σ} {d : Ref} {t : HostType} {v : t.Value} {r : Ref}
    (h : V.Part cx s d s' t v r) (keeps : V.Keeps s' s'') : V.Part cx s d s'' t v r :=
  h.extend ((Objects.without_extends _ _).trans keeps.known)

/-- What is sent after a dictionary was made does not go through it. -/
theorem Sends.part {s s₁ s₂ : σ} {d : Ref} {t : HostType} {v : t.Value} {r : Ref}
    (h : V.Sends cx t v s₁ r s₂) (keeps : V.Keeps s s₁) {es : List (Nat × Ref × Ref)}
    (dict : (V.objects s₁).shape d = some (.dict es)) : V.Part cx s d s₂ t v r where
  key := h.key
  stands ds dicts := h.stands (d :: ds) (List.forall_mem_cons.mpr
    ⟨⟨es, dict⟩, dicts.extend keeps.known⟩)

/-- Between two states, a dictionary has been made and has been given entries. -/
structure Fills (V : Outlook σ) (cx : Context) (s : σ) (d : Ref) (k t : HostType)
    (raw : List (k.Value × t.Value)) (s' : σ) : Prop where
  keeps : V.Keeps s s'
  unknown : (V.objects s).shape d = none
  entries : ∃ es, (V.objects s').shape d = some (.dict es) ∧
    es.Pairwise (fun e e' => e.1 < e'.1) ∧
    List.Forall₂ (fun p e => V.Part cx s d s' k p.1 e.2.1 ∧ V.Part cx s d s' t p.2 e.2.2) raw es

theorem Fills.setItem [GuestState σ] (laws : V.Builtins) {s s₁ s₂ s₃ : σ} {d : Ref}
    {k t : HostType} (hk : k.isKey) {raw : List (k.Value × t.Value)} (h : V.Fills cx s d k t raw s₁)
    {x : k.Value} {y : t.Value} {r u : Ref} (key : V.Sends cx k x s₁ r s₂)
    (value : V.Sends cx t y s₂ u s₃) :
    Answers s₃ (.setItem d r u) fun _ s₄ =>
      V.Fills cx s d k t (HostType.addEntry k.sameObject x y raw) s₄ := by
  obtain ⟨es, shape, growing, each⟩ := h.entries
  have keeps : V.Keeps s₁ s₃ := key.keeps.trans value.keeps
  have parts := each.imp fun p e part => And.intro (part.1.later keeps) (part.2.later keeps)
  have newKey := (key.later value.keeps).part h.keeps shape
  have newValue := (value.earlier key.keeps).part h.keeps shape
  have keyed : ∀ e ∈ es, ((V.objects s₃).key e.2.1).isSome := by
    have each : List.Forall₂ (fun e _ => ((V.objects s₃).key e.2.1).isSome ∧ True) es raw :=
      .flip (parts.imp fun p e part => ⟨Option.isSome_of_eq_some (part.1.key hk), trivial⟩)
    exact ((List.forall₂_and_left _ _).mp each).1
  refine (laws.setItem keeps.ready (keeps.known.shape shape) keyed (newKey.key hk)).mono ?_
  rintro ⟨⟩ s₄ ⟨ready, others, place, past, dict⟩
  refine ⟨⟨ready, ?_⟩, h.unknown, _, dict, Objects.growing_put _ _ _ growing past, ?_⟩
  · exact (h.keeps.trans keeps).known.past_unknown h.unknown |>.trans others
  · have put := Objects.forall₂_put (o := V.objects s₃) (P := V.Part cx s d s₃ k)
      (Q := V.Part cx s d s₃ t) (fun _ _ part => part.key hk) newKey newValue place parts
    exact put.imp fun p e part => ⟨part.1.extend others, part.2.extend others⟩

/-- A filled dictionary stands for what the map collapses to. -/
theorem Fills.sends {s s' : σ} {d : Ref} {kind : MapKind} {k t : HostType} (hk : k.isKey)
    {es : List (k.Value × t.Value)} (h : V.Fills cx s d k t (HostType.addEntries k.sameObject [] es) s') :
    V.Sends cx (.map kind k t) es s d s' := by
  obtain ⟨entries, shape, growing, each⟩ := h.entries
  refine ⟨h.keeps, (fun isKey => absurd isKey Bool.false_ne_true), fun ds dicts => ?_⟩
  have there : d ∉ ds := fun hd => by
    obtain ⟨es, dict⟩ := dicts d hd
    rw [h.unknown] at dict
    cases dict
  have same (x y : k.Value) :
      k.sameKey (k.collapse (k.settle x)) (k.collapse (k.settle y)) = k.sameObject x y := by
    rw [Bool.eq_iff_iff, HostType.sameKey_iff hk, HostType.sameObject, beq_iff_eq,
      HostType.keyOf_eq_iff hk, HostType.settle, HostType.mapFloats_of_isKey _ _ hk,
      HostType.mapFloats_of_isKey _ _ hk]
  refine ⟨entries, (HostType.addEntries k.sameObject [] es).map
    (Prod.map (fun x => k.collapse (k.settle x)) fun y => t.collapse (t.settle y)), ?_, growing,
    ?_, ?_⟩
  · rw [Objects.shape_without there, shape]
  · refine List.forall₂_map_left_iff.mpr (each.imp fun p e part => ?_)
    have fewer := (V.objects s').without_cons_extends d ds
    exact ⟨(part.1.stands ds dicts).extend fewer, (part.2.stands ds dicts).extend fewer⟩
  · rw [HostType.addEntries_map _ same, List.map_nil, HostType.collectEntries_addEntries kind hk]
    exact congrArg (HostType.collectEntries kind k) List.map_map

end Outlook

/-! ### Sending parts -/

section

variable [GuestState σ]

omit [GuestState σ] in
theorem gives_sendAll {t : HostType} {send : t.Value → Crossing σ Ref} (xs : List t.Value)
    (hsend : ∀ x ∈ xs, ∀ w, V.Ready w.guest →
      Gives (send x) w fun r w' => V.Sends cx t x w.guest r w'.guest)
    {w : World σ} (ready : V.Ready w.guest) :
    Gives (sendAll send xs) w fun rs w' => V.Keeps w.guest w'.guest ∧
      List.Forall₂ (fun x r => V.Sends cx t x w.guest r w'.guest) xs rs := by
  induction xs generalizing w with
  | nil => exact .pure ⟨.refl ready, .nil⟩
  | cons x xs ih =>
      refine (hsend x List.mem_cons_self w ready).bind fun r w₁ first => ?_
      have rest := ih (fun x hx => hsend x (List.mem_cons_of_mem _ hx)) first.keeps.ready
      refine rest.bind fun rs w₂ ⟨keeps, others⟩ => .pure ⟨?_, ?_⟩
      · exact first.keeps.trans keeps
      · exact .cons (first.later keeps) (others.imp fun _ _ part => part.earlier first.keeps)

theorem gives_sendEntries (laws : V.Builtins) {k t : HostType} (hk : k.isKey)
    {sendKey : k.Value → Crossing σ Ref} {sendValue : t.Value → Crossing σ Ref} {s : σ} {d : Ref}
    (es : List (k.Value × t.Value))
    (hkey : ∀ e ∈ es, ∀ w, V.Ready w.guest →
      Gives (sendKey e.1) w fun r w' => V.Sends cx k e.1 w.guest r w'.guest)
    (hvalue : ∀ e ∈ es, ∀ w, V.Ready w.guest →
      Gives (sendValue e.2) w fun r w' => V.Sends cx t e.2 w.guest r w'.guest)
    {raw : List (k.Value × t.Value)} {w : World σ} (h : V.Fills cx s d k t raw w.guest) :
    Gives (sendEntries sendKey sendValue d es) w fun _ w' =>
      V.Fills cx s d k t (HostType.addEntries k.sameObject raw es) w'.guest := by
  induction es generalizing raw w with
  | nil => exact .pure h
  | cons e es ih =>
      refine (hkey e List.mem_cons_self w h.keeps.ready).bind fun r w₁ key => ?_
      refine (hvalue e List.mem_cons_self w₁ key.keeps.ready).bind fun u w₂ value => ?_
      refine (Gives.request (h.setItem laws hk key value)).bind fun _ w₃ filled => ?_
      exact ih (fun e he => hkey e (List.mem_cons_of_mem _ he))
        (fun e he => hvalue e (List.mem_cons_of_mem _ he)) filled

/-- What is made by one request, and is no dictionary, is sent. -/
theorem gives_new {t : HostType} {v : t.Value} {r : Request Ref} {x : Shape} {k : Option Key} {w : World σ}
    (made : Answers w.guest r (V.Makes x k w.guest)) (hx : ∀ es, x ≠ .dict es)
    (key : t.isKey → k = some (t.keyOf v))
    (stands : ∀ (o : Objects) q, o.shape q = some x → o.Stands cx t (t.collapse (t.settle v)) q) :
    Gives (request r) w fun q w' => V.Sends cx t v w.guest q w'.guest :=
  (Gives.request made).mono fun q _ made => made.sends hx key fun o => stands o q

/-- **Sending a value never stops**, and makes an object that stands for what the value collapses
to. -/
theorem gives_send (laws : V.Builtins) (cx : Context) {t : HostType} (ht : t.isTwoWay) {v : t.Value}
    (sendable : t.Sendable cx v) {w : World σ} (ready : V.Ready w.guest) :
    Gives (send cx t v) w fun r w' => V.Sends cx t v w.guest r w'.guest := by
  induction t generalizing w with
  | unit => exact .pure ⟨.refl ready, fun _ => laws.noneKey ready, fun _ _ => rfl⟩
  | bool =>
      refine .pure ⟨.refl ready, fun _ => laws.boolKey v ready, fun ds dicts => ?_⟩
      exact Objects.shape_without_dicts (.refl _) dicts (laws.boolShape v ready)
        fun _ => Shape.noConfusion
  | int | bigInt =>
      exact gives_new (laws.newInt _ ready) (fun _ => Shape.noConfusion) (fun _ => rfl)
        fun o r shape => shape
  | float32 =>
      refine gives_new (laws.newFloat (widen v) ready) (fun _ => Shape.noConfusion)
        (fun isKey => absurd isKey Bool.false_ne_true) fun o r shape => ?_
      exact ⟨_, shape, HostType.narrow?_settle32 v⟩
  | float64 =>
      refine gives_new (laws.newFloat (UInt64.toNat v) ready) (fun _ => Shape.noConfusion)
        (fun isKey => absurd isKey Bool.false_ne_true) fun o r shape => ?_
      exact ⟨_, shape, UInt64.ofNat_toNat⟩
  | string | char =>
      exact gives_new (laws.newStr _ ready) (fun _ => Shape.noConfusion) (fun _ => rfl)
        fun o r shape => shape
  | bytes =>
      exact gives_new (laws.newBytes v ready) (fun _ => Shape.noConfusion) (fun _ => rfl)
        fun o r shape => shape
  | option t ih =>
      cases v with
      | none => exact .pure ⟨.refl ready, fun _ => laws.noneKey ready, fun _ _ => rfl⟩
      | some x =>
          obtain ⟨shows, inner⟩ := sendable
          exact (ih ht inner ready).mono fun r w' sent =>
            sent.option (laws.noneShape sent.keeps.ready) shows
  | list t ih =>
      have each (x : t.Value) (hx : List.Mem x v) (w : World σ) (ready : V.Ready w.guest) :=
        ih ht (sendable x hx) ready
      refine (gives_sendAll v each ready).bind fun items w₁ parts => ?_
      obtain ⟨keeps, each⟩ := parts
      exact (Gives.request (laws.newList items keeps.ready)).mono fun r w₂ made => .list keeps each made
  | pair a b iha ihb =>
      obtain ⟨x, y⟩ := v
      simp only [HostType.isTwoWay, Bool.and_eq_true] at ht
      refine (iha ht.1 sendable.1 ready).bind fun p w₁ first => ?_
      refine (ihb ht.2 sendable.2 first.keeps.ready).bind fun q w₂ second => ?_
      have one := first.later second.keeps
      have two := second.earlier first.keeps
      exact (Gives.request (laws.newTuple [p, q] two.keeps.ready)).mono fun r w₃ made =>
        .pair one two made
  | triple a b c iha ihb ihc =>
      obtain ⟨x, y, z⟩ := v
      simp only [HostType.isTwoWay, Bool.and_eq_true] at ht
      refine (iha ht.1.1 sendable.1 ready).bind fun p w₁ first => ?_
      refine (ihb ht.1.2 sendable.2.1 first.keeps.ready).bind fun q w₂ second => ?_
      refine (ihc ht.2 sendable.2.2 second.keeps.ready).bind fun u w₃ third => ?_
      have one := (first.later second.keeps).later third.keeps
      have two := (second.earlier first.keeps).later third.keeps
      have three := (third.earlier second.keeps).earlier first.keeps
      exact (Gives.request (laws.newTuple [p, q, u] three.keeps.ready)).mono fun r w₄ made =>
        .triple one two three made
  | map kind k t ihk iht =>
      simp only [HostType.isTwoWay, Bool.and_eq_true] at ht
      refine (Gives.request (laws.newDict ready)).bind fun d w₁ dict => ?_
      obtain ⟨made, unknown⟩ := dict
      have begun : V.Fills cx w.guest d k t [] w₁.guest :=
        ⟨made.keeps, unknown, [], made.shape, .nil, .nil⟩
      have keys (e : k.Value × t.Value) (he : List.Mem e v) (w : World σ)
          (ready : V.Ready w.guest) := ihk (HostType.isTwoWay_of_isKey ht.1) (sendable e he).1 ready
      have values (e : k.Value × t.Value) (he : List.Mem e v) (w : World σ)
          (ready : V.Ready w.guest) := iht ht.2 (sendable e he).2 ready
      refine (gives_sendEntries laws ht.1 v keys values begun).bind ?_
      exact fun _ w' filled => .pure (filled.sends ht.1)
  | range =>
      obtain ⟨a, b⟩ := v
      refine (Gives.request (laws.newInt a.val ready)).bind fun start w₁ first => ?_
      refine (Gives.request (laws.newInt b.val first.keeps.ready)).bind fun stop w₂ second => ?_
      refine (Gives.request (laws.newInt 1 second.keeps.ready)).bind fun step w₃ third => ?_
      have keeps := second.keeps.trans third.keeps
      exact (Gives.request (laws.newSlice start stop step third.keeps.ready)).mono fun r w₄ made =>
        .range (first.keeps.trans keeps) (keeps.known.shape first.shape)
          (third.keeps.known.shape second.shape) third.shape made
  | handle =>
      obtain ⟨r, s, tag⟩ := v
      cases sendable
      refine ⟨r, w, ?_, .refl ready, fun isKey => absurd isKey Bool.false_ne_true, fun _ _ => rfl⟩
      change (Handle.bind _ cx) w = _
      rw [Handle.bind, if_pos rfl]
      rfl

end

end GuestBridge.Bridge
