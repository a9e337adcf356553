import GuestBridge.Proofs.RoundTrip.Received
import GuestBridge.Proofs.RoundTrip.Sending
import GuestBridge.Proofs.RoundTrip.Shelf

/-!
# The Round Trip

A value of a type without handles is sent to the guest and read back. What comes back is what the
value collapses to, so it is the value itself unless a `some` around what stands for `None` occurs in
it.

## Main results

* `round_trip` — for every plain type and every value of it, sending succeeds, reading succeeds, and
  gives the collapsed value;
* `Shelf.builtins` — a guest that only keeps objects of built-in types satisfies the laws;
* `sent_object_iff` — the guest's `None` is sent for the values of which `HostType.isNone` says so, and
  for no others;
* `reads_again` — what was read once is read again after it was sent back.
-/

namespace GuestBridge.Bridge

open Guest (Ref Raised noneRef boolRef)

variable {σ : Type} [GuestState σ] {V : Outlook σ}

/-! ### Sending and reading -/

/-- Sending makes a handle of the session on an object that stands for the collapsed value. -/
theorem gives_toForeign_of_sendable (laws : V.Builtins) (cx : Context) {t : HostType} (ht : t.isTwoWay)
    {v : t.Value} (sendable : t.Sendable cx v) {w : World σ} (ready : V.Ready w.guest) :
    Gives (toForeign cx ⟨t, v⟩) w fun h w' => h.session = cx.session ∧ V.Ready w'.guest ∧
      (V.objects w'.guest).Stands cx t (t.collapse (t.settle v)) h.object := by
  refine ((gives_send laws cx ht sendable ready).orError cx .convert).bind fun r w₁ sent => ?_
  refine ⟨_, (w₁.acquire cx.session r).2, rfl, rfl, sent.keeps.ready, ?_⟩
  have stands := sent.stands [] fun _ h => nomatch h
  exact stands.extend (Objects.without_extends _ _)

/-- Without handles there is nothing that could not be sent. -/
theorem gives_toForeign (laws : V.Builtins) (cx : Context) {t : HostType} (ht : t.isPlain)
    (v : t.Value) {w : World σ} (ready : V.Ready w.guest) :
    Gives (toForeign cx ⟨t, v⟩) w fun h w' => h.session = cx.session ∧ V.Ready w'.guest ∧
      (V.objects w'.guest).Stands cx t (t.collapse (t.settle v)) h.object :=
  gives_toForeign_of_sendable laws cx (HostType.isTwoWay_of_isPlain ht)
    (HostType.sendable_of_isPlain ht v) ready

/-- Reading an object that stands for a value through a handle gives the value. -/
theorem reads_extract_of_isTwoWay {ε : Type} (laws : V.Builtins) {o : Objects}
    (known : o.shape noneRef = some .none) {cx : Context} {h : Handle}
    (own : h.session = cx.session) {t : HostType} (ht : t.isTwoWay) {v : t.Value}
    (stands : o.Stands cx t v h.object) : V.Reads (ε := ε) o (h.extract cx t) (some v) := by
  have bound : V.Reads (ε := ε) o (h.bind cx) h.object := by
    rw [Handle.bind, if_pos own]
    exact .pure _
  exact bound.bind ((reads_receive laws known cx ht stands).attempt.bind (.pure (some v)))

theorem reads_extract {ε : Type} (laws : V.Builtins) {o : Objects}
    (known : o.shape noneRef = some .none) {cx : Context} {h : Handle}
    (own : h.session = cx.session) {t : HostType} (ht : t.isPlain) {v : t.Value}
    (stands : o.Stands cx t v h.object) : V.Reads (ε := ε) o (h.extract cx t) (some v) :=
  reads_extract_of_isTwoWay laws known own (HostType.isTwoWay_of_isPlain ht) stands

/-- **The round trip over all types without handles.** Sending a value succeeds, and so does reading
it back. What is read is what the value collapses to, up to the patterns of what is not a number; so
it is the value itself if and only if no `some` around what stands for `None` occurs in it. -/
theorem round_trip (laws : V.Builtins) (cx : Context) {t : HostType} (ht : t.isPlain) {v : t.Value}
    (valid : t.collected v = v) {w : World σ} (ready : V.Ready w.guest) :
    ∃ h w' u, (toForeign cx ⟨t, v⟩).run.run w = (.ok h, w') ∧
      ((h.extract cx t : Boundary σ (Option t.Value)).run.run w').1 = .ok (some u) ∧
      t.quiet u = t.quiet (t.collapse v) ∧ (t.quiet u = t.quiet v ↔ t.hides v = false) := by
  obtain ⟨h, w', sent, own, ready', stands⟩ := gives_toForeign laws cx ht v ready
  obtain ⟨_, w'', read, rfl, -⟩ := reads_extract (ε := Error) laws (laws.noneShape ready') own ht
    stands w' ready' rfl
  have same : t.quiet (t.collapse (t.settle v)) = t.quiet (t.collapse v) := by
    rw [HostType.quiet, ← HostType.collapse_mapFloats _ _ ht, ← HostType.collapse_mapFloats _ _ ht]
    exact congrArg t.collapse (HostType.quiet_settle t v)
  refine ⟨h, w', _, sent, congrArg Prod.fst read, same, ?_⟩
  rw [same]
  exact HostType.quiet_collapse_eq_iff valid

/-- A map with two keys that are one to the guest, and with a number that is none. -/
def merging : HostValue :=
  ⟨.map .indexed (.option .unit) (.list (.option (.option .float32))),
    [(some (), [some none]), (none, [some (some (0x7FC00001 : UInt32)), some none])]⟩

/-- The session's world before anything is made. -/
def shelved : World Shelf := ⟨Shelf.initial, [], [.fresh], []⟩

theorem round_trip_merging : merging.type.isPlain = true ∧
    merging.type.collected merging.value = merging.value ∧ shelved.guest.Stocked ∧
    ∃ h w' u, (toForeign ⟨0⟩ merging).run.run shelved = (.ok h, w') ∧
      ((h.extract ⟨0⟩ merging.type :
        Boundary Shelf (Option merging.type.Value)).run.run w').1 = .ok (some u) ∧
      merging.type.quiet u = merging.type.quiet (merging.type.collapse merging.value) ∧
      (merging.type.quiet u = merging.type.quiet merging.value ↔
        merging.type.hides merging.value = false) :=
  ⟨rfl, rfl, Shelf.stocked_initial,
    round_trip Shelf.builtins ⟨0⟩ rfl rfl Shelf.stocked_initial⟩

/-! ### Reading, sending back and reading again

An object of any class can be read, if its data fit: a tuple as a list, an integer as a floating-point
number, an instance of a subclass for its base. What comes of it is in normal form, and a value in normal
form survives the way back and forth. So what was lost is lost with the first reading.
-/

/-- A value becomes the guest's `None` if and only if it `isNone`. -/
theorem sent_object_iff (laws : V.Builtins) (cx : Context) {t : HostType} (ht : t.isTwoWay)
    {v : t.Value} (sendable : t.Sendable cx v) {w : World σ} (ready : V.Ready w.guest) :
    Gives (toForeign cx ⟨t, v⟩) w fun h _ => h.object = noneRef ↔ t.isNone v = true := by
  refine (gives_toForeign_of_sendable laws cx ht sendable ready).mono fun h w' sent => ?_
  obtain ⟨-, ready', stands⟩ := sent
  have none := stands.isNone_iff (laws.noneShape ready')
  rw [HostType.isNone_collapse, HostType.settle, HostType.isNone_mapFloats] at none
  exact none.symm

/-- **Reading normalises once.** Whatever object was read, and whatever code of its own ran on the way: no
`some` stands around what becomes `None`, and sent back at any later time, with its hashed maps in any
order, the value is read again as it was. -/
theorem reads_again (laws : V.Builtins) {cx : Context} {t : HostType} (ht : t.isTwoWay) {h : Handle}
    {w : World σ} {v : t.Value}
    (read : ((h.extract cx t : Boundary σ (Option t.Value)).run.run w).1 = .ok (some v)) :
    t.hidesNone v = false ∧ ∀ v', t.Relists v v' → ∀ w₁ : World σ, V.Ready w₁.guest →
      ∃ h' w₂ u, (toForeign cx ⟨t, v'⟩).run.run w₁ = (.ok h', w₂) ∧
        ((h'.extract cx t : Boundary σ (Option t.Value)).run.run w₂).1 = .ok (some u) ∧
        t.quiet u = t.quiet v' := by
  have normal : t.Normal cx v := normal_extract ht h w (some v) read v rfl
  refine ⟨normal.hidesNone, fun v' relists w₁ ready => ?_⟩
  have normal' : t.Normal cx v' := normal.relist relists
  obtain ⟨h', w₂, sent, own, ready', stands⟩ :=
    gives_toForeign_of_sendable laws cx ht normal'.sendable ready
  have settled : t.Normal cx (t.settle v') := normal'.mapFloats _ _ ht
  rw [settled.collapse ht] at stands
  obtain ⟨_, w₃, again, rfl, -⟩ := reads_extract_of_isTwoWay (ε := Error) laws
    (laws.noneShape ready') own ht stands w₂ ready' rfl
  exact ⟨h', w₂, _, sent, congrArg Prod.fst again, HostType.quiet_settle t v'⟩

/-- A shelf with two integers and a dictionary from them to `None` and to the first of them. -/
def cluttered : World Shelf :=
  { shelved with guest := ((Shelf.initial.set ⟨10⟩ ⟨.int 7, some (.number 7)⟩).set ⟨11⟩
      ⟨.int 8, some (.number 8)⟩).set ⟨12⟩ ⟨.dict [(0, ⟨10⟩, noneRef), (1, ⟨11⟩, ⟨10⟩)], none⟩ }

theorem stocked_cluttered : cluttered.guest.Stocked :=
  ((Shelf.stocked_initial.set _ (by decide +kernel) (by decide +kernel)).set _
    (by decide +kernel) (by decide +kernel)).set _ (by decide +kernel) (by decide +kernel)

/-- The type as which the dictionary is read. -/
abbrev Sparse : HostType := .map .hashed .bigInt (.option .handle)

/-- What is read: an entry without a value, and one with a handle. -/
def sparse : Sparse.Value := [((7 : Int), none), ((8 : Int), some (⟨⟨10⟩, 0, none⟩ : Handle))]

/-- The same, gone through from the other end. -/
def backwards : Sparse.Value := [((8 : Int), some (⟨⟨10⟩, 0, none⟩ : Handle)), ((7 : Int), none)]

theorem relists_backwards : Sparse.Relists sparse backwards :=
  ⟨sparse, .cons ⟨rfl, trivial⟩ (.cons ⟨rfl, rfl⟩ .nil), .inr ⟨rfl, List.Perm.swap _ _ _⟩⟩

set_option maxRecDepth 4096 in
theorem reads_again_sparse : Sparse.isTwoWay = true ∧
    (((⟨⟨12⟩, 0, none⟩ : Handle).extract ⟨0⟩ Sparse :
      Boundary Shelf (Option Sparse.Value)).run.run cluttered).1 = .ok (some sparse) ∧
    cluttered.guest.Stocked ∧ Sparse.hidesNone sparse = false ∧
    ∃ h w u, (toForeign ⟨0⟩ ⟨Sparse, backwards⟩).run.run cluttered = (.ok h, w) ∧
      ((h.extract ⟨0⟩ Sparse : Boundary Shelf (Option Sparse.Value)).run.run w).1 = .ok (some u) ∧
      Sparse.quiet u = Sparse.quiet backwards := by
  have read : (((⟨⟨12⟩, 0, none⟩ : Handle).extract ⟨0⟩ Sparse :
      Boundary Shelf (Option Sparse.Value)).run.run cluttered).1 = .ok (some sparse) := rfl
  obtain ⟨shows, again⟩ := reads_again Shelf.builtins rfl read
  exact ⟨rfl, read, stocked_cluttered, shows, again _ relists_backwards _ stocked_cluttered⟩

end GuestBridge.Bridge
