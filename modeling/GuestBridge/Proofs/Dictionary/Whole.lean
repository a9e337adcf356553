import GuestBridge.Proofs.Dictionary.Keys
import GuestBridge.Proofs.Handles.Stay
import GuestBridge.Proofs.RoundTrip.Order
import GuestBridge.Proofs.RoundTrip.Shelf

/-!
# Reading a Dictionary as a Whole

The entries of a dictionary are collected into a map of the host, where keys that are equal become one.
Keys that the guest tells apart are not read as the same value, so that does not happen: a map has as many
entries as the dictionary, whatever its kind.

## Main results

* `extracted_map` — a dictionary is read if all its keys and values are, and then entry for entry;
* `extracted_map_meddling` — unless reading runs code that changes the dictionary.
-/

namespace GuestBridge.Bridge

open Guest (Ref noneRef)

/-! ### Dictionaries in a picture -/

/-- A dictionary in a picture, with its entries in the order of their places and keys that are pairwise
different to the guest. -/
structure Picture.Keeps (p : Picture) (d : Ref) (es : List (Nat × Ref × Ref)) : Prop where
  shape : p.shape d = some (.dict es)
  growing : es.Pairwise fun e e' => e.1 < e'.1
  solid : ∀ e ∈ es, p.Solid e.2.1
  different : es.Pairwise fun e e' => ¬ p.Alike e.2.1 e'.2.1

namespace Picture

variable {p : Picture} {cx : Context} {k t : HostType} {d : Ref} {es : List (Nat × Ref × Ref)}

/-- An entry is read as a pair. -/
def readEntry (p : Picture) (cx : Context) (k t : HostType) (e : Nat × Ref × Ref) :
    Option (k.Value × t.Value) :=
  (p.read cx k e.2.1).bind fun x => (p.read cx t e.2.2).map fun y => (x, y)

theorem readEntry_eq_some_iff {e : Nat × Ref × Ref} {q : k.Value × t.Value} :
    p.readEntry cx k t e = some q ↔ p.read cx k e.2.1 = some q.1 ∧ p.read cx t e.2.2 = some q.2 := by
  refine Option.bind_eq_some_iff.trans ⟨?_, ?_⟩
  · rintro ⟨x, key, h⟩
    obtain ⟨y, value, rfl⟩ := Option.map_eq_some_iff.mp h
    exact ⟨key, value⟩
  · rintro ⟨key, value⟩
    exact ⟨q.1, key, Option.map_eq_some_iff.mpr ⟨q.2, value, rfl⟩⟩

theorem readEntry_eq_none_iff {e : Nat × Ref × Ref} :
    p.readEntry cx k t e = none ↔ p.read cx k e.2.1 = none ∨ p.read cx t e.2.2 = none := by
  rw [readEntry]
  cases p.read cx k e.2.1 with
  | none => exact iff_of_true rfl (.inl rfl)
  | some x => exact Option.map_eq_none_iff.trans ⟨.inr, fun h => h.resolve_left nofun⟩

theorem read_map_of_shape (kind : MapKind) (shape : p.shape d = some (.dict es)) :
    p.read cx (.map kind k t) d = (es.mapM (p.readEntry cx k t)).map (HostType.collectEntries kind k) := by
  rw [read, shape]
  rfl

/-- Keys that are different to the guest are read as different values. -/
theorem Keeps.nodup (dict : p.Keeps d es) (hk : k.isOrdered) {m : List (k.Value × t.Value)}
    (each : List.Forall₂ (fun e q => p.readEntry cx k t e = some q) es m) : (m.map Prod.fst).Nodup := by
  have solid := dict.solid
  have different := dict.different
  clear dict
  induction each with
  | nil => exact List.nodup_nil
  | @cons e q es m first rest ih =>
      obtain ⟨others, different⟩ := List.pairwise_cons.mp different
      rw [List.map_cons, List.nodup_cons]
      refine ⟨fun again => ?_, ih (fun e he => solid e (List.mem_cons_of_mem _ he)) different⟩
      obtain ⟨q', hq', same⟩ := List.mem_map.mp again
      obtain ⟨e', he', read⟩ := exists_left_of_forall₂ rest q' hq'
      have solid' := solid e' (List.mem_cons_of_mem _ he')
      refine others e' he' (alike_of_read hk (solid e List.mem_cons_self) solid'
        (readEntry_eq_some_iff.mp first).1 ?_)
      rw [← same]
      exact (readEntry_eq_some_iff.mp read).1

/-- **No two entries become one**: a dictionary is read entry for entry. -/
theorem Keeps.read (dict : p.Keeps d es) (hk : k.isOrdered) (kind : MapKind) :
    p.read cx (.map kind k t) d = (es.mapM (p.readEntry cx k t)).map (HostType.arrange kind k) := by
  rw [read_map_of_shape kind dict.shape]
  cases read : es.mapM (p.readEntry cx k t) with
  | none => rfl
  | some m =>
      have nodup := dict.nodup hk (mapM_eq_some_iff.mp read)
      have kept : HostType.addEntries k.sameKey [] m = m :=
        HostType.addEntries_of_nodup (HostType.sameKey_iff_of_isOrdered hk) nodup
      exact congrArg (fun m => some (HostType.arrange kind k m)) kept

end Picture

/-! ### Reading through handles -/

section

variable {σ : Type} [GuestState σ]

/-- What comes of reading an object through a handle of the session. -/
def extracted (cx : Context) (t : HostType) (r : Ref) (w : World σ) :
    Except (Stop Error) (Option t.Value) :=
  (((⟨r, cx.session, none⟩ : Handle).extract cx t : Boundary σ (Option t.Value)).run.run w).1

variable {V : Outlook σ} {p : Picture} {cx : Context} {w : World σ}

omit [GuestState σ] in
theorem run_fits {α : Type} (x : StateM (World σ) (Option α)) (w : World σ) :
    (fits x).run w = (found (x w).1, (x w).2) := by
  rw [fits, run_always_bind]
  cases (x w).1 <;> rfl

/-- Where reading finds something, or finds that the object does not fit, that comes of it. -/
theorem extracted_of_run {t : HostType} {r : Ref} {v? : Option t.Value} {w' : World σ}
    (run : (receive cx t r).run w = (found v?, w')) : extracted cx t r w = .ok v? := by
  have bound : (Handle.bind ⟨r, cx.session, none⟩ cx : Boundary σ Ref) = pure r := if_pos rfl
  change ((Handle.extract ⟨r, cx.session, none⟩ cx t : Boundary σ (Option t.Value)).run w).1 = _
  rw [Handle.extract, bound, pure_bind, run_always_bind, run]
  cases v? <;> rfl

/-- What is read of an object that is legible is what the picture says. -/
theorem extracted_eq (laws : V.Builtins) {t : HostType} {r : Ref} (legible : V.Legible p t r)
    (seen : V.Sees p.toObjects w.guest) : extracted cx t r w = .ok (p.read cx t r) := by
  obtain ⟨w', run, -⟩ := finds_receive laws cx legible w seen
  exact extracted_of_run run

/-- A dictionary is read entry for entry, and its map has the order of its kind. -/
theorem extracted_map_eq (laws : V.Builtins) {k t : HostType} (hk : k.isOrdered) {d : Ref}
    {es : List (Nat × Ref × Ref)} (dict : p.Keeps d es)
    (legible : ∀ e ∈ es, V.Legible p k e.2.1 ∧ V.Legible p t e.2.2) (seen : V.Sees p.toObjects w.guest)
    (kind : MapKind) : extracted cx (.map kind k t) d w =
      .ok ((es.mapM (p.readEntry cx k t)).map (HostType.arrange kind k)) := by
  have dictLegible : V.Legible p (.map kind k t) d := by
    refine ⟨_, dict.shape, fun es' same => ?_⟩
    cases same
    exact ⟨dict.growing, legible⟩
  exact (extracted_eq laws dictLegible seen).trans (congrArg Except.ok (dict.read hk kind))

/-- **Reading a dictionary loses no entry.** -/
theorem extracted_map (laws : V.Builtins) (cx : Context) {k t : HostType} (hk : k.isOrdered) {d : Ref}
    {es : List (Nat × Ref × Ref)} (dict : p.Keeps d es)
    (legible : ∀ e ∈ es, V.Legible p k e.2.1 ∧ V.Legible p t e.2.2) (seen : V.Sees p.toObjects w.guest) :
    (∀ kind, ((∃ m?, extracted cx (.map kind k t) d w = .ok m?) ∧
      (extracted cx (.map kind k t) d w = .ok none ↔
        ∃ e ∈ es, extracted cx k e.2.1 w = .ok none ∨ extracted cx t e.2.2 w = .ok none))) ∧
    ∀ m, extracted cx (.map .indexed k t) d w = .ok (some m) → List.length m = es.length ∧
      List.Forall₂ (fun e q => extracted cx k e.2.1 w = .ok (some (Prod.fst q)) ∧
        extracted cx t e.2.2 w = .ok (some (Prod.snd q))) es m ∧
      ∀ kind, ∃ m', extracted cx (.map kind k t) d w = .ok (some m') ∧ List.Perm m' m ∧
        HostType.InOrder kind k m' := by
  have key (e : Nat × Ref × Ref) (he : e ∈ es) : extracted cx k e.2.1 w = .ok (p.read cx k e.2.1) :=
    extracted_eq laws (legible e he).1 seen
  have value (e : Nat × Ref × Ref) (he : e ∈ es) : extracted cx t e.2.2 w = .ok (p.read cx t e.2.2) :=
    extracted_eq laws (legible e he).2 seen
  have whole (kind : MapKind) : extracted cx (.map kind k t) d w =
      .ok ((es.mapM (p.readEntry cx k t)).map (HostType.arrange kind k)) :=
    extracted_map_eq laws hk dict legible seen kind
  refine ⟨fun kind => ⟨⟨_, whole kind⟩, ?_⟩, fun m read => ?_⟩
  · have missing : extracted cx (.map kind k t) d w = .ok none ↔ es.mapM (p.readEntry cx k t) = none := by
      rw [whole kind, Except.ok.injEq]
      exact Option.map_eq_none_iff
    rw [missing, mapM_eq_none_iff]
    refine exists_congr fun e => and_congr_right fun he => ?_
    rw [key e he, value e he, Picture.readEntry_eq_none_iff, Except.ok.injEq, Except.ok.injEq]
  · have given := Except.ok.inj ((whole .indexed).symm.trans read)
    obtain ⟨m', entries, same⟩ := Option.map_eq_some_iff.mp given
    cases same
    have each := mapM_eq_some_iff.mp entries
    refine ⟨each.length_eq.symm, ?_, fun kind => ?_⟩
    · have there := (List.forall₂_and_left _ _).mpr ⟨fun e he => he, each⟩
      refine there.imp fun e q part => ?_
      obtain ⟨keyRead, valueRead⟩ := Picture.readEntry_eq_some_iff.mp part.2
      exact ⟨(key e part.1).trans (congrArg Except.ok keyRead),
        (value e part.1).trans (congrArg Except.ok valueRead)⟩
    · refine ⟨HostType.arrange kind k m', ?_, HostType.arrange_perm kind k m',
        HostType.arrange_inOrder kind k m'⟩
      rw [whole kind, entries]
      rfl

end

/-! ### A dictionary on the shelf -/

namespace Shelf

/-- The position that an object stands for, by its shape. -/
def position? : Shape → Option Int
  | .int n => some n
  | _ => none

/-- What can be seen on the shelf. -/
def picture (s : Shelf) : Picture where
  toObjects := s.objects
  float _ := none
  equals _ _ := none
  index r := (s.objects.shape r).bind position?

theorem settled_index {s : Shelf} {q : Ref} {x : Shape} (known : s.objects.shape q = some x) :
    outlook.Settled s.objects (.toIndex q) (s.picture.index q) := by
  intro s' seen held
  have known' : s'.objects.shape q = some x := seen.known.shape known
  have index : s.picture.index q = position? x := congrArg (Option.bind · position?) known
  change ∃ a writes s'', performed (s'.answer (.toIndex q)) = (a, writes, s'') ∧ _
  rw [answer, known', index]
  cases x <;> exact ⟨_, _, _, rfl, rfl, seen⟩

/-- A shelf with integers, a slice without a step, a range, and a dictionary from integers to these. -/
def filed : Shelf :=
  ((((initial.set ⟨10⟩ ⟨.int 7, some (.number 7)⟩).set ⟨11⟩ ⟨.int 8, some (.number 8)⟩).set ⟨12⟩
    ⟨.slice noneRef ⟨10⟩ noneRef, none⟩).set ⟨13⟩ ⟨.range 2 4 1, none⟩).set ⟨14⟩
    ⟨.dict [(0, ⟨10⟩, ⟨12⟩), (3, ⟨11⟩, ⟨13⟩)], none⟩

theorem stocked_filed : filed.Stocked :=
  ((((stocked_initial.set _ (by decide +kernel) (by decide +kernel)).set _ (by decide +kernel)
    (by decide +kernel)).set _ (by decide +kernel) (by decide +kernel)).set _ (by decide +kernel)
    (by decide +kernel)).set _ (by decide +kernel) (by decide +kernel)

/-- The entries of the dictionary. -/
def filing : List (Nat × Ref × Ref) := [(0, ⟨10⟩, ⟨12⟩), (3, ⟨11⟩, ⟨13⟩)]

theorem keeps_filing : filed.picture.Keeps ⟨14⟩ filing where
  shape := rfl
  growing := by decide
  solid := List.forall_mem_cons.mpr ⟨.atom (x := .int 7) rfl rfl,
    List.forall_mem_singleton.mpr (.atom (x := .int 8) rfl rfl)⟩
  different := List.pairwise_pair.mpr
    (Objects.not_alike_of_ne (x := .int 7) (y := .int 8) rfl rfl rfl rfl (by decide))

theorem legible_filing (e : Nat × Ref × Ref) (he : e ∈ filing) :
    outlook.Legible filed.picture .bigInt e.2.1 ∧ outlook.Legible filed.picture .range e.2.2 := by
  have none : filed.objects.shape noneRef = some .none := shape_eq_some.mpr ⟨_, stocked_filed.none⟩
  have seven : filed.objects.shape ⟨10⟩ = some (.int 7) := rfl
  rcases List.mem_pair.mp he with rfl | rfl
  · refine ⟨⟨.int 7, rfl⟩, .slice noneRef ⟨10⟩ noneRef, rfl, fun start stop step same => ?_⟩
    cases same
    exact List.forall_mem_cons.mpr ⟨settled_index none, List.forall_mem_cons.mpr
      ⟨settled_index seven, List.forall_mem_singleton.mpr (settled_index none)⟩⟩
  · exact ⟨⟨.int 8, rfl⟩, .range 2 4 1, rfl, nofun⟩

end Shelf

/-- The session's world with that shelf. -/
def archive : World Shelf := ⟨Shelf.filed, [], [.fresh], []⟩

set_option maxRecDepth 4096 in
theorem extracted_map_filing : HostType.bigInt.isOrdered = true ∧
    Shelf.filed.picture.Keeps ⟨14⟩ Shelf.filing ∧
    (∀ e ∈ Shelf.filing, Shelf.outlook.Legible Shelf.filed.picture .bigInt e.2.1 ∧
      Shelf.outlook.Legible Shelf.filed.picture .range e.2.2) ∧
    Shelf.outlook.Sees Shelf.filed.objects archive.guest ∧
    ∃ m, extracted ⟨0⟩ (.map .indexed .bigInt .range) ⟨14⟩ archive = .ok (some m) ∧ List.length m = 2 ∧
      ∀ kind, ∃ m', extracted ⟨0⟩ (.map kind .bigInt .range) ⟨14⟩ archive = .ok (some m') ∧
        List.Perm m' m ∧ HostType.InOrder kind .bigInt m' := by
  have seen : Shelf.outlook.Sees Shelf.filed.objects archive.guest := ⟨Shelf.stocked_filed, .refl _⟩
  have read := extracted_map Shelf.builtins ⟨0⟩ rfl Shelf.keeps_filing Shelf.legible_filing seen
  obtain ⟨length, -, others⟩ := read.2 _ rfl
  exact ⟨rfl, Shelf.keeps_filing, Shelf.legible_filing, seen, _, rfl, length, others⟩

/-! ### A dictionary that changes while it is read -/

/-- A shelf with an object of a script, whose position is zero. Asked for it, the object puts something
else into a dictionary. -/
structure Meddler where
  shelf : Shelf

namespace Meddler

/-- Answers a request; nothing if that raises. -/
def answer (g : Meddler) : {α : Type} → Request α → Option α × Meddler
  | _, .toIndex r =>
    if r = ⟨15⟩ then (some 0, ⟨g.shelf.set ⟨18⟩ ⟨.dict [(0, ⟨10⟩, ⟨16⟩), (1, ⟨11⟩, ⟨14⟩)], none⟩⟩)
    else ((g.shelf.answer (.toIndex r)).1, ⟨(g.shelf.answer (.toIndex r)).2⟩)
  | _, r => ((g.shelf.answer r).1, ⟨(g.shelf.answer r).2⟩)

instance : GuestState Meddler where
  perform _ r g := match g.answer r with
    | (some a, g) => (.ok a, [], g)
    | (none, g) => (.error ⟨noneRef, []⟩, [], g)

/-- The objects of the script: `{'a': slice(Once(), 5), 'b': slice(0, 1)}`. -/
def initial : Meddler where
  shelf := ((((((((Shelf.initial.set ⟨10⟩ ⟨.text (Text.ofString "a"), some (.text "a")⟩).set ⟨11⟩
    ⟨.text (Text.ofString "b"), some (.text "b")⟩).set ⟨12⟩ ⟨.int 0, some (.number 0)⟩).set ⟨13⟩
    ⟨.int 1, some (.number 1)⟩).set ⟨14⟩ ⟨.int 5, some (.number 5)⟩).set ⟨15⟩ ⟨.other, none⟩).set ⟨16⟩
    ⟨.slice ⟨15⟩ ⟨14⟩ noneRef, none⟩).set ⟨17⟩ ⟨.slice ⟨12⟩ ⟨13⟩ noneRef, none⟩).set ⟨18⟩
    ⟨.dict [(0, ⟨10⟩, ⟨16⟩), (1, ⟨11⟩, ⟨17⟩)], none⟩

end Meddler

/-- The session's world with these objects. -/
def meddling : World Meddler := ⟨Meddler.initial, [], [.fresh], []⟩

set_option maxRecDepth 4096 in
/-- The keys are different texts, every key and every value is read, and yet the dictionary is not: once
the first value is read, the second is another. -/
theorem extracted_map_meddling :
    ∃ es, meddling.guest.shelf.picture.Keeps ⟨18⟩ es ∧
      (∀ e ∈ es, (∃ x, extracted ⟨0⟩ .string e.2.1 meddling = .ok (some x)) ∧
        ∃ y, extracted ⟨0⟩ .range e.2.2 meddling = .ok (some y)) ∧
      extracted ⟨0⟩ (.map .indexed .string .range) ⟨18⟩ meddling = .ok none := by
  refine ⟨[(0, ⟨10⟩, ⟨16⟩), (1, ⟨11⟩, ⟨17⟩)], ⟨rfl, by decide, ?_, ?_⟩, ?_, rfl⟩
  · exact List.forall_mem_cons.mpr ⟨.atom (x := .text (Text.ofString "a")) rfl rfl,
      List.forall_mem_singleton.mpr (.atom (x := .text (Text.ofString "b")) rfl rfl)⟩
  · exact List.pairwise_pair.mpr (Objects.not_alike_of_ne (x := .text (Text.ofString "a"))
      (y := .text (Text.ofString "b")) rfl rfl rfl rfl (by decide))
  · exact List.forall_mem_cons.mpr ⟨⟨⟨_, rfl⟩, _, rfl⟩,
      List.forall_mem_singleton.mpr ⟨⟨_, rfl⟩, _, rfl⟩⟩

end GuestBridge.Bridge
