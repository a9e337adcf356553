import GuestBridge.Proofs.Sending.Domain

/-!
# The Hash of What Is Sent

Whether a value of the host makes an object that can be a key is known before it is sent: it depends on
its type and, where there are handles in it, on the objects behind them. Unlike the keys of a map a key
of its own may be a floating-point number or a handle, or a tuple with such parts.

## Main statements

* `finishes_hashing` — what is sent has the hash of the value, by induction on the type.
-/

namespace GuestBridge.Bridge

open Guest (Ref noneRef boolRef)

namespace HostType

/-- The hash of a value, by the hashes of the objects behind its handles. -/
def hashing (hash : Ref → Option Hash) : (t : HostType) → t.Value → Option Hash
  | option t, v => match v with
    | some x => t.hashing hash x
    | none => some .sound
  | list _, _ => some (.refused "list")
  | map _ _ _, _ => some (.refused "dict")
  | range, _ => some (.refused "slice")
  | pair a b, (x, y) => do return .tuple [← a.hashing hash x, ← b.hashing hash y]
  | triple a b c, (x, y, z) => do return .tuple [← a.hashing hash x, ← b.hashing hash y, ← c.hashing hash z]
  | handle, h => hash (Handle.object h)
  | unit, _ | bool, _ | int _, _ | bigInt, _ | float32, _ | float64, _ | string, _ | char, _
  | bytes, _ => some .sound

variable {hash hash' : Ref → Option Hash}

theorem hashing_pair {a b : HostType} {x : a.Value} {y : b.Value} {h : Hash} :
    (pair a b).hashing hash (x, y) = some h ↔
      ∃ h₁ h₂, a.hashing hash x = some h₁ ∧ b.hashing hash y = some h₂ ∧ .tuple [h₁, h₂] = h := by
  simp [hashing, Option.bind_eq_some_iff]

theorem hashing_triple {a b c : HostType} {x : a.Value} {y : b.Value} {z : c.Value} {h : Hash} :
    (triple a b c).hashing hash (x, y, z) = some h ↔ ∃ h₁ h₂ h₃, a.hashing hash x = some h₁ ∧
      b.hashing hash y = some h₂ ∧ c.hashing hash z = some h₃ ∧ .tuple [h₁, h₂, h₃] = h := by
  simp [hashing, Option.bind_eq_some_iff]

/-- The hash of a value stays known. -/
theorem hashing_mono (more : ∀ {r h}, hash r = some h → hash' r = some h) (t : HostType) (v : t.Value) {h : Hash}
    (known : t.hashing hash v = some h) : t.hashing hash' v = some h := by
  induction t generalizing h with
  | option t ih =>
      cases v with
      | none => exact known
      | some x => exact ih x known
  | pair a b iha ihb =>
      obtain ⟨x, y⟩ := v
      obtain ⟨h₁, h₂, first, second, same⟩ := hashing_pair.mp known
      exact hashing_pair.mpr ⟨h₁, h₂, iha x first, ihb y second, same⟩
  | triple a b c iha ihb ihc =>
      obtain ⟨x, y, z⟩ := v
      obtain ⟨h₁, h₂, h₃, first, second, third, same⟩ := hashing_triple.mp known
      exact hashing_triple.mpr ⟨h₁, h₂, h₃, iha x first, ihb y second, ihc z third, same⟩
  | handle => exact more known
  | _ => exact known

end HostType

variable {σ : Type}

/-- What sending a value makes: everything is known that was known, and the object has the hash of the
value. -/
structure Catalogue.Hashed (V : Catalogue σ) (t : HostType) (v : t.Value) (s : σ) (r : Ref) (w : World σ) :
    Prop where
  grows : V.Grows s w.guest
  hash {h : Hash} : t.hashing (V.hash s) v = some h → V.hash w.guest r = some h

variable [GuestState σ] {V : Catalogue σ} {cx : Context}

theorem finishes_made {t : HostType} {v : t.Value} {r : Request Ref} {h : Hash} {s : σ} {w : World σ}
    (grown : V.Grows s w.guest) (made : Answers w.guest r (V.New h w.guest))
    (same : t.hashing (V.hash s) v = some h) : Finishes (request r) w none (V.Hashed t v s) (V.Refused s) := by
  refine (Finishes.request made).mono (fun q w' new => ?_) fun _ _ _ => id
  refine ⟨grown.trans new.grows, fun known => ?_⟩
  cases same.symm.trans known
  exact new.hash

/-- A tuple has the hash that the hashes of its items say. -/
theorem finishes_tuple (laws : V.Laws) {t : HostType} {v : t.Value} {items : List Ref} {s : σ} {w : World σ}
    (grown : V.Grows s w.guest)
    (hashes : ∀ {h}, t.hashing (V.hash s) v = some h →
      ∃ hs, items.mapM (V.hash w.guest) = some hs ∧ .tuple hs = h) :
    Finishes (request (.newTuple items)) w none (V.Hashed t v s) (V.Refused s) := by
  refine (Finishes.request (laws.newTuple items grown.ready)).mono (fun q w' new => ?_) fun _ _ _ => id
  refine ⟨grown.trans new.1, fun known => ?_⟩
  obtain ⟨hs, itemHashes, rfl⟩ := hashes known
  exact new.2 hs itemHashes

/-- **What is sent has the hash of the value.** -/
theorem finishes_hashing (laws : V.Laws) {t : HostType} {v : t.Value} (possible : t.Possible cx v) {w : World σ}
    (ready : V.Ready w.guest) :
    Finishes (send cx t v) w (t.refusal v) (V.Hashed t v w.guest) (V.Refused w.guest) := by
  have grown := Catalogue.Grows.refl (V := V) ready
  induction t generalizing w with
  | unit =>
      refine .pure ⟨grown, fun known => ?_⟩
      cases known
      exact laws.noneHash ready
  | bool =>
      refine .pure ⟨grown, fun known => ?_⟩
      cases known
      exact laws.boolHash v ready
  | int | bigInt => exact finishes_made grown (laws.newInt _ ready) rfl
  | string | char => exact finishes_made grown (laws.newStr _ ready) rfl
  | bytes => exact finishes_made grown (laws.newBytes _ ready) rfl
  | float32 | float64 => exact finishes_made grown (laws.newFloat _ ready) rfl
  | option t ih =>
      cases v with
      | none =>
          refine .pure ⟨grown, fun known => ?_⟩
          cases known
          exact laws.noneHash ready
      | some x =>
          refine (ih possible ready grown).mono (fun r w' sent => ?_) fun _ _ _ => id
          exact ⟨sent.grows, sent.hash⟩
  | list t =>
      have each (x : t.Value) (hx : List.Mem x v) (w : World σ) (ready : V.Ready w.guest) :=
        finishes_send laws (possible x hx) ready
      refine (finishes_sendAll v each ready).andThen fun items w₁ grown => ?_
      exact finishes_made grown (laws.newList items grown.ready) rfl
  | pair a b iha ihb =>
      rw [HostType.refusal_pair v]
      obtain ⟨x, y⟩ := v
      refine (iha possible.1 ready grown).bind fun p w₁ first => ?_
      have second := ihb possible.2 first.grows.ready (.refl first.grows.ready)
      refine (finishes_earlier first.grows second).andThen fun q w₂ second => ?_
      refine finishes_tuple laws (first.grows.trans second.grows) fun known => ?_
      obtain ⟨h₁, h₂, hx, hy, same⟩ := HostType.hashing_pair.mp known
      refine ⟨[h₁, h₂], ?_, same⟩
      have one := second.grows.hash (first.hash hx)
      simp [List.mapM_cons, one, second.hash (b.hashing_mono first.grows.hash y hy)]
  | triple a b c iha ihb ihc =>
      rw [HostType.refusal_triple v]
      obtain ⟨x, y, z⟩ := v
      refine (iha possible.1 ready grown).bind fun p w₁ first => ?_
      have second := ihb possible.2.1 first.grows.ready (.refl first.grows.ready)
      refine (finishes_earlier first.grows second).bind fun q w₂ second => ?_
      have grown := first.grows.trans second.grows
      have third := ihc possible.2.2 grown.ready (.refl grown.ready)
      refine (finishes_earlier grown third).andThen fun u w₃ third => ?_
      refine finishes_tuple laws (grown.trans third.grows) fun known => ?_
      obtain ⟨h₁, h₂, h₃, hx, hy, hz, same⟩ := HostType.hashing_triple.mp known
      refine ⟨[h₁, h₂, h₃], ?_, same⟩
      have one := third.grows.hash (second.grows.hash (first.hash hx))
      have two := third.grows.hash (second.hash (b.hashing_mono first.grows.hash y hy))
      simp [List.mapM_cons, one, two, third.hash (c.hashing_mono grown.hash z hz)]
  | map kind k t =>
      refine (Finishes.request (laws.newDict ready)).followedBy fun d w₁ new => ?_
      obtain ⟨made, unknown, shape⟩ := new
      have filling : V.Filling w.guest d w₁.guest :=
        ⟨made.grows, unknown, made.hash, [], shape, List.forall_mem_nil _⟩
      have ordered (e : k.Value × t.Value) (he : List.Mem e v) := (possible e he).1
      have keys (e : k.Value × t.Value) (he : List.Mem e v) (w : World σ) (ready : V.Ready w.guest) :=
        finishes_send laws (HostType.possible_of_isOrdered cx (ordered e he) e.1) ready
      have values (e : k.Value × t.Value) (he : List.Mem e v) (w : World σ) (ready : V.Ready w.guest) :=
        finishes_send laws (possible e he).2 ready
      have entries := finishes_sendEntries laws kind v ordered keys values filling
      refine entries.andThen fun _ w₂ filled => .pure ⟨filled.grows, fun known => ?_⟩
      cases known
      exact filled.hash
  | range =>
      obtain ⟨a, b⟩ := v
      refine (Finishes.request (laws.newInt _ ready)).followedBy fun start w₁ first => ?_
      refine (Finishes.request (laws.newInt _ first.grows.ready)).followedBy fun stop w₂ second => ?_
      refine (Finishes.request (laws.newInt _ second.grows.ready)).followedBy fun step w₃ third => ?_
      have grown := (first.grows.trans second.grows).trans third.grows
      exact finishes_made grown (laws.newSlice start stop step grown.ready) rfl
  | handle =>
      have bound : (Handle.bind v cx : Crossing σ Ref) = pure (Handle.object v) := if_pos possible
      exact ⟨Handle.object v, w, congrFun bound w, grown, id⟩

end GuestBridge.Bridge
