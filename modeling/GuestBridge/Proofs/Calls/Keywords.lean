import GuestBridge.Bridge.Access
import GuestBridge.Proofs.RoundTrip.Values

/-!
# Keyword Arguments and Their Repeats

Keyword arguments are split, one after the other, into those whose name is new and those whose name was
there before. `Keywords.add` is one step of it, and `Keywords.split` the whole.

Where the names are distinct there are no repeats, and everything keeps its order. Otherwise the first
of the repeats is the name whose second occurrence comes first (`FirstRepeat`), whatever follows: a
later occurrence of a name that was repeated before changes its value and not its place.

## Main statements

* `Keywords.split_of_nodup` — distinct names are kept as they are.
* `Keywords.split_of_firstRepeat` — which name leads the repeats.
* `exists_firstRepeat_iff` — there is such a name if and only if the names are not distinct.
* `sendKeywords_eq` — how keyword arguments are sent.
-/

namespace GuestBridge.Bridge

open Guest (Ref)

/-! ### The first name that is repeated -/

/-- A name whose second occurrence comes before that of any other. -/
def FirstRepeat (names : List String) (x : String) : Prop :=
  ∃ before after, names = before ++ x :: after ∧ before.Nodup ∧ x ∈ before

/-- Behind names that are distinct, either all are distinct or one is the first to be repeated. -/
theorem nodup_or_firstRepeat {before : List String} (distinct : before.Nodup) (after : List String) :
    (before ++ after).Nodup ∨ ∃ x, FirstRepeat (before ++ after) x := by
  induction after generalizing before with
  | nil => exact .inl ((List.append_nil before).symm ▸ distinct)
  | cons x after ih =>
      by_cases old : x ∈ before
      · exact .inr ⟨x, before, after, rfl, distinct, old⟩
      · have more : (before ++ [x]).Nodup :=
          distinct.append (List.nodup_singleton x) (List.disjoint_singleton.mpr old)
        have later := ih more
        rwa [List.append_assoc, List.singleton_append] at later

theorem FirstRepeat.not_nodup {names : List String} {x : String} (h : FirstRepeat names x) :
    ¬ names.Nodup := by
  obtain ⟨before, after, rfl, -, old⟩ := h
  intro distinct
  exact (List.nodup_append.mp distinct).2.2 x old x List.mem_cons_self rfl

/-- There is only one such name. -/
theorem FirstRepeat.unique {names : List String} {x y : String} (h : FirstRepeat names x)
    (h' : FirstRepeat names y) : x = y := by
  obtain ⟨before, after, rfl, distinct, old⟩ := h
  obtain ⟨before', after', same, distinct', old'⟩ := h'
  rcases List.append_eq_append_iff.mp same with ⟨more, rfl, rest⟩ | ⟨more, rfl, rest⟩
  · cases more with
    | nil => exact (List.cons.inj rest).1
    | cons z more =>
        cases (List.cons.inj rest).1
        exact absurd rfl ((List.nodup_append.mp distinct').2.2 x old x List.mem_cons_self)
  · cases more with
    | nil => exact (List.cons.inj rest).1.symm
    | cons z more =>
        cases (List.cons.inj rest).1
        exact absurd rfl ((List.nodup_append.mp distinct).2.2 y old' y List.mem_cons_self)

/-- **A name is the first to be repeated** if and only if the names are not distinct. -/
theorem exists_firstRepeat_iff {names : List String} : (∃ x, FirstRepeat names x) ↔ ¬ names.Nodup := by
  refine ⟨fun ⟨_, first⟩ => first.not_nodup, fun repeated => ?_⟩
  exact (nodup_or_firstRepeat List.nodup_nil names).resolve_left repeated

namespace Handle

/-! ### One keyword argument after the other -/

theorem lookup_isSome {es : List (String × Ref)} {name : String} :
    (es.lookup name).isSome ↔ name ∈ es.map Prod.fst := by
  simp only [List.lookup_isSome_iff, List.mem_map, beq_iff_eq, @eq_comm _ name]

namespace Keywords

/-- One more keyword argument. -/
def add (ks : Keywords) (e : String × Ref) : Keywords :=
  if (ks.first.lookup e.1).isSome then { ks with repeated := putNamed ks.repeated e.1 e.2 }
  else { ks with first := ks.first ++ [e] }

/-- Keyword arguments, split by whether their names were there before. -/
def split (es : List (String × Ref)) : Keywords := es.foldl add ⟨[], []⟩

variable {ks : Keywords} {e : String × Ref}

theorem add_new (new : e.1 ∉ ks.first.map Prod.fst) :
    ks.add e = { ks with first := ks.first ++ [e] } :=
  if_neg (mt lookup_isSome.mp new)

theorem add_old (old : e.1 ∈ ks.first.map Prod.fst) :
    ks.add e = { ks with repeated := putNamed ks.repeated e.1 e.2 } :=
  if_pos (lookup_isSome.mpr old)

/-- Distinct names come one behind the other. -/
theorem foldl_add_of_nodup {es : List (String × Ref)} (distinct : ((ks.first ++ es).map Prod.fst).Nodup) :
    es.foldl add ks = { ks with first := ks.first ++ es } := by
  induction es generalizing ks with
  | nil => rw [List.append_nil, List.foldl_nil]
  | cons e es ih =>
      have new : e.1 ∉ ks.first.map Prod.fst := fun old => by
        rw [List.map_append, List.map_cons] at distinct
        exact (List.nodup_append.mp distinct).2.2 e.1 old e.1 List.mem_cons_self rfl
      rw [List.append_cons] at distinct ⊢
      rw [List.foldl_cons, add_new new, ih distinct]

/-- **Distinct names are kept as they are**, without repeats. -/
theorem split_of_nodup {es : List (String × Ref)} (distinct : (es.map Prod.fst).Nodup) :
    split es = ⟨es, []⟩ :=
  foldl_add_of_nodup distinct

/-! ### The two dictionaries -/

/-- No name occurs twice among the first or among the repeats, and only names that occur among the first
are repeated. -/
structure Sound (ks : Keywords) : Prop where
  first : (ks.first.map Prod.fst).Nodup
  repeated : (ks.repeated.map Prod.fst).Nodup
  known : ∀ x ∈ ks.repeated.map Prod.fst, x ∈ ks.first.map Prod.fst

theorem Sound.add (h : ks.Sound) (e : String × Ref) : (ks.add e).Sound := by
  by_cases old : e.1 ∈ ks.first.map Prod.fst
  · rw [add_old old]
    refine ⟨h.first, HostType.nodup_addEntry (fun _ _ => beq_iff_eq) _ _ h.repeated, fun x hx => ?_⟩
    by_cases before : e.1 ∈ ks.repeated.map Prod.fst
    · rw [putNamed, HostType.keys_addEntry_of_mem (fun _ _ => beq_iff_eq) _ before] at hx
      exact h.known x hx
    · rw [putNamed, HostType.addEntry_of_not_mem (fun _ _ => beq_iff_eq) _ before, List.map_append] at hx
      rcases List.mem_append.mp hx with hx | hx
      · exact h.known x hx
      · exact List.mem_singleton.mp hx ▸ old
  · rw [add_new old]
    refine ⟨?_, h.repeated, fun x hx => ?_⟩
    · rw [List.map_append]
      exact h.first.append (List.nodup_singleton _) (List.disjoint_singleton.mpr old)
    · rw [List.map_append]
      exact List.mem_append_left _ (h.known x hx)

/-- However keyword arguments are split, both parts are dictionaries. -/
theorem sound_split (es : List (String × Ref)) : (split es).Sound :=
  List.foldlRecOn es add (motive := Sound) ⟨List.nodup_nil, List.nodup_nil, nofun⟩ fun _ h e _ => h.add e

/-! ### Which repeat comes first -/

/-- A name leads the repeats. -/
def Leads (x : String) (ks : Keywords) : Prop := ∃ v rest, ks.repeated = (x, v) :: rest

theorem Leads.add {x : String} (h : Leads x ks) (e : String × Ref) : Leads x (ks.add e) := by
  obtain ⟨v, rest, leads⟩ := h
  by_cases old : e.1 ∈ ks.first.map Prod.fst
  · rw [add_old old, Leads, leads, putNamed, HostType.addEntry]
    split
    · exact ⟨_, _, rfl⟩
    · exact ⟨_, _, rfl⟩
  · rw [add_new old]
    exact ⟨v, rest, leads⟩

/-- **The name whose second occurrence comes first leads the repeats.** -/
theorem split_of_firstRepeat {es : List (String × Ref)} {x : String}
    (repeated : FirstRepeat (es.map Prod.fst) x) : Leads x (split es) := by
  obtain ⟨before, after, names, distinct, old⟩ := repeated
  obtain ⟨es₁, rest, rfl, rfl, next⟩ := List.map_eq_append_iff.mp names
  obtain ⟨e, es₂, rfl, rfl, -⟩ := List.map_eq_cons_iff.mp next
  have start : es₁.foldl add ⟨[], []⟩ = ⟨es₁, []⟩ := split_of_nodup distinct
  rw [split, List.foldl_append, start, List.foldl_cons]
  refine List.foldlRecOn es₂ add (motive := Leads e.1) ?_ fun _ h e' _ => h.add e'
  rw [add_old old]
  exact ⟨e.2, [], rfl⟩

end Keywords

/-! ### Sending keyword arguments -/

section

variable {σ : Type} [GuestState σ] {cx : Context}

theorem sendKeywords_cons (e : String × HostValue) (keywords : List (String × HostValue)) (ks : Keywords) :
    (sendKeywords cx (e :: keywords) ks : Crossing σ Keywords) =
      e.2.send cx >>= fun r => sendKeywords cx keywords (ks.add (e.1, r)) := by
  rw [sendKeywords]
  refine congrArg _ (funext fun r => ?_)
  rw [Keywords.add]
  split <;> rfl

/-- Keyword arguments are sent as their values are, and split. -/
theorem sendKeywords_eq (keywords : List (String × HostValue)) (ks : Keywords) :
    (sendKeywords cx keywords ks : Crossing σ Keywords) =
      (fun values => ((keywords.map Prod.fst).zip values).foldl Keywords.add ks) <$>
        sendAll (HostValue.send cx) (keywords.map Prod.snd) := by
  induction keywords generalizing ks with
  | nil => rfl
  | cons e keywords ih =>
      rw [sendKeywords_cons, List.map_cons, List.map_cons]
      change _ = _ <$> (e.2.send cx >>= fun r =>
        sendAll (HostValue.send cx) (keywords.map Prod.snd) >>= fun rs => pure (r :: rs))
      rw [map_bind]
      refine congrArg _ (funext fun r => ?_)
      rw [ih, map_bind, map_eq_pure_bind]
      rfl

end

end Handle

end GuestBridge.Bridge
