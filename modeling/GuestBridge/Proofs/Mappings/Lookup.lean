import GuestBridge.Proofs.Mappings.Ledger

/-!
# Two Ways to Look a Key Up

A mapping asks whether a key is there before it takes the item, and makes the error for an absent key
itself. The subscript of a handle takes the item at once, and the guest raises. Over a dictionary in
which absent keys are not looked up in another way the host cannot tell which of the two it was: both
ways give what the entries say (`looked`), where a key is one, and where it is not both fail with what
the guest says of its type.

## Main statements

* `Lexicon.Laws.yields_item` — what the guest raises for an absent key is reported as the bridge itself
  would.
* `Mapping.get_like_subscript` — the two ways have the same outcome.
-/

namespace GuestBridge.Bridge

open Guest (Ref Raised trueRef falseRef)

/-- Two errors that tell the same. -/
structure Error.Alike (e e' : Error) : Prop where
  kind : e'.kindName = e.kindName
  text : e'.text = e.text
  render : e'.render = e.render
  diagnostic : e'.diagnostic? = e.diagnostic?
  /-- An absent key is the same one, of the same container. -/
  entry {c : Handle} {key : String} {d : Diagnostic} : e = .indexError c key d →
    ∃ c', e' = .indexError c' key d ∧ c'.object = c.object

theorem Error.Alike.refl (e : Error) : e.Alike e := ⟨rfl, rfl, rfl, rfl, fun {c _ _} same => ⟨c, same, rfl⟩⟩

/-- Two objects that are refused as keys for one type tell the same. -/
theorem unhashable_alike (cx : Context) (r r' : Ref) (type : String) :
    (unhashable cx r type).Alike (unhashable cx r' type) := ⟨rfl, rfl, rfl, rfl, nofun⟩

/-- Two lookups with the same outcome: the same object, or errors that tell the same. -/
inductive SameOutcome : Except (Stop Error) Handle → Except (Stop Error) Handle → Prop
  | found {h h' : Handle} (same : h'.object = h.object) : SameOutcome (.ok h) (.ok h')
  | failed {e e' : Error} (alike : e.Alike e') : SameOutcome (.error (.failed e)) (.error (.failed e'))

theorem looked_same (cx : Context) (d : Ref) (text : String) (found : Option Ref) :
    SameOutcome (looked cx d text found) (looked cx d text found) := by
  cases found with
  | some v => exact .found rfl
  | none => exact .failed (.refl _)

variable {σ : Type} [GuestState σ] {V : Lexicon σ} {cx : Context}

namespace Lexicon

variable {w : World σ} {d k : Ref} {es : Entries}

/-- To take the item of a key gives what the entries say, if the key can be shown. -/
theorem Laws.yields_item (laws : V.Laws) (ready : V.Ready w.guest) (dict : V.Dict w.guest d es)
    (plain : V.plain w.guest d) (sound : V.hash w.guest k = some .sound) {t : Text}
    (shown : V.shown w.guest k = some t) :
    V.Yields (item cx d k).run w (looked cx d t.lossy (es.find? (V.same w.guest) k)) := by
  cases found : es.find? (V.same w.guest) k with
  | some v => exact laws.yields_item_of_found ready dict sound found
  | none =>
      have absent : es.has (V.same w.guest) k = false := by rw [← Entries.find?_isSome, found]; rfl
      obtain ⟨text, told, raised⟩ := laws.yields_keyError cx sound
        (laws.getAbsent ready dict plain sound absent)
      rw [told t shown, keyText, shown] at raised
      exact raised.bindError _

/-- An object without a hash is refused in both ways. -/
theorem Laws.yields_refusals (laws : V.Laws) (cx : Context) (ready : V.Ready w.guest) (dict : V.Dict w.guest d es)
    {type : String} (hash : V.hash w.guest k = some (.refused type)) :
    (∃ e, V.Yields (checkedItem cx d k).run w (.error (.failed (unhashable cx e type)))) ∧
      ∃ e, V.Yields (item cx d k).run w (.error (.failed (unhashable cx e type))) := by
  obtain ⟨ps, shape, -⟩ := dict.shape
  constructor
  · have throws := laws.refuse (r := .contains d k) rfl ready shape hash
    obtain ⟨e, yields⟩ := laws.yields_refused throws (.inl rfl)
    exact ⟨e, yields.bindError _⟩
  · have throws := laws.refuse (r := .getItem d k) rfl ready shape hash
    obtain ⟨e, yields⟩ := laws.yields_refused throws (.inr ⟨d, k, rfl⟩)
    exact ⟨e, yields.bindError _⟩

variable (V) in
/-- Two computations with the same outcome, and neither forgets anything. -/
def SameLookup (x y : Boundary σ Handle) (w : World σ) : Prop :=
  ∃ r r', V.Yields x.run w r ∧ V.Yields y.run w r' ∧ SameOutcome r r'

/-- **Of an object both ways give the same.** -/
theorem Laws.sameLookup (laws : V.Laws) (cx : Context) (ready : V.Ready w.guest) (dict : V.Dict w.guest d es)
    (plain : V.plain w.guest d) {h : Hash} (hash : V.hash w.guest k = some h)
    (shown : h = .sound → ∃ t, V.shown w.guest k = some t) : V.SameLookup (checkedItem cx d k) (item cx d k) w := by
  cases h with
  | refused type =>
      obtain ⟨⟨e, checked⟩, e', taken⟩ := laws.yields_refusals cx ready dict hash
      exact ⟨_, _, checked, taken, .failed (unhashable_alike cx e e' type)⟩
  | sound =>
      obtain ⟨t, shown⟩ := shown rfl
      have checked := laws.yields_checkedItem cx ready dict hash
      rw [keyText, shown] at checked
      exact ⟨_, _, checked, laws.yields_item ready dict plain hash shown, looked_same ..⟩

/-- What can be shown is shown where `repr` is asked for it. -/
theorem Laws.shown_of_repr (laws : V.Laws) (ready : V.Ready w.guest) (sound : V.hash w.guest k = some .sound)
    {t : Text} {w' : World σ} (asked : w.ask (.repr k) = (.ok t, w')) : V.shown w.guest k = some t := by
  cases shown : V.shown w.guest k with
  | some u =>
      obtain ⟨_, _, again, rfl, -⟩ := w.ask_of_answers (laws.repr ready sound shown)
      cases again.symm.trans asked
      rfl
  | none =>
      obtain ⟨e, writes, s', raised, -⟩ := laws.noRepr ready sound shown w.held
      obtain ⟨w₁, again, -⟩ := World.ask_of_perform raised
      cases again.symm.trans asked

end Lexicon

/-- Where a value is sent and can be a key, `repr` shows the object. -/
def HostValue.Shows (V : Lexicon σ) (cx : Context) (key : HostValue) (w : World σ) : Prop :=
  ∀ k w₁, (key.send cx).run w = (.ok k, w₁) → V.hash w₁.guest k = some .sound →
    ∃ t w₂, w₁.ask (.repr k) = (.ok t, w₂)

/-- **To get a key from a mapping is to take its item**: both have the same outcome, and forget nothing. -/
theorem Mapping.get_like_subscript (laws : V.Laws) {m : Mapping} {es : Entries} {w : World σ}
    (holds : m.Over V cx es w.guest) (plain : V.plain w.guest m.handle.object) {key : HostValue}
    (fits : (Order.get key).Fits V cx w.guest) (shows : key.Shows V cx w) :
    V.SameLookup (m.get cx key) (m.handle.subscript cx key) w := by
  have subscript : (m.handle.subscript cx key : Boundary σ Handle) =
      (key.send cx).orError cx .convert >>= item cx m.handle.object := by
    rw [Handle.subscript, Handle.bind_own holds.own]
    rfl
  rw [Mapping.get_eq holds.own, subscript]
  have ends := finishes_hashing (laws.since w.guest) (fits.possible key (.head _)) (.refl holds.ready)
  cases refused : key.type.refusal key.value with
  | some type =>
      rw [refused] at ends
      obtain ⟨e, w₁, failed, keeps⟩ := orError_of_refused cx ends
      have yields : V.Yields ((key.send cx).orError cx .convert).run w (.error (.failed (unhashable cx e type))) :=
        ⟨w₁, failed, keeps.ready⟩
      exact ⟨_, _, yields.bindError _, yields.bindError _, .failed (.refl _)⟩
  | none =>
      rw [refused] at ends
      obtain ⟨k, w₁, given, sent⟩ := ends
      have learned : V.Learns w.guest w₁.guest := sent.grows.ready
      obtain ⟨h, hash⟩ := fits.known key rfl
      have hash₁ : V.hash w₁.guest k = some h := sent.hash hash
      obtain ⟨r, r', checked, taken, same⟩ := laws.sameLookup cx learned.ready
        (holds.dict.later learned) (learned.plain plain) hash₁ fun sound => by
          subst sound
          obtain ⟨t, w₂, asked⟩ := shows k w₁ given hash₁
          exact ⟨t, laws.shown_of_repr learned.ready hash₁ asked⟩
      have crossed := run_orError_of_ok given cx .convert
      exact ⟨r, r', .after crossed learned checked, .after crossed learned taken, same⟩

/-! ### A present key, an absent one and one that is refused -/

namespace Bookcase

/-- A dictionary in which one key is there. -/
def switched : World Bookcase := withDict [(trueRef, falseRef)] none

theorem switched_over : mapping.Over lexicon ⟨0⟩ [(trueRef, falseRef)] switched.guest :=
  withDict_over (List.forall_mem_singleton.mpr (ready_initial.bool true)) (List.pairwise_singleton _ _)

theorem switched_plain : lexicon.plain switched.guest mapping.handle.object := by
  have there : switched.guest.things mapping.handle.object = some (.dict [(trueRef, falseRef)] none) :=
    things_set_self
  exact (Option.any_eq_true _ _).mpr ⟨_, there, rfl⟩

/-- The keys that are looked up. -/
def sought : List HostValue := [int 1, str "it's", list]

/-- A new object is shown, or is no key. -/
theorem shows_made {key : HostValue} {r : Request Ref} {t : Thing} 
    (sends : (key.send ⟨0⟩ : Crossing Bookcase Ref) = request r)
    (makes : ∀ s : Bookcase, s.answer r = s.make t) (shown : t.hash = some .sound → ∃ u, t.shown = some u)
    (w : World Bookcase) : key.Shows lexicon ⟨0⟩ w := by
  intro k w₁ sent hash
  obtain ⟨_, _, asked, rfl, made⟩ := w.ask_of_answers (r := r)
    (Q := fun k s => k = ⟨w.guest.next⟩ ∧ s = w.guest.set ⟨w.guest.next⟩ t) (answers (makes w.guest) ⟨rfl, rfl⟩)
  rw [sends, run_request_of_ok asked] at sent
  cases sent
  obtain ⟨u, shown⟩ := shown (hash_make.symm.trans (made ▸ hash))
  have seen : w₁.guest.shown ⟨w.guest.next⟩ = some u := by
    rw [made, Bookcase.shown, things_set_self, Option.bind_some, shown]
  have answered : w₁.guest.answer (.repr ⟨w.guest.next⟩) = (.ok u, w₁.guest) :=
    show w₁.guest.repr _ = _ by rw [Bookcase.repr, seen]
  obtain ⟨_, w₂, asked, -⟩ := w₁.ask_of_answers (Q := fun _ _ => True) (answers answered trivial)
  exact ⟨_, w₂, asked⟩

theorem sought_fit (key : HostValue) (known : key ∈ sought) :
    (Order.get key).Fits lexicon ⟨0⟩ switched.guest ∧ key.Shows lexicon ⟨0⟩ switched := by
  simp only [sought, List.mem_cons, List.not_mem_nil, or_false] at known
  rcases known with rfl | rfl | rfl
  all_goals
    refine ⟨⟨by simp [Order.values, int, str, list, HostType.Possible], ?_⟩, ?_⟩
    · rintro key ⟨⟩
      exact ⟨_, rfl⟩
  · exact shows_made (r := .newInt 1) (t := .int 1) rfl (fun _ => rfl) (fun _ => ⟨_, rfl⟩) _
  · refine shows_made (r := .newStr "it's") (t := .str (Text.ofString "it's")) rfl (fun _ => rfl) ?_ _
    exact fun _ => ⟨_, rfl⟩
  · refine shows_made (r := .newList []) (t := .list []) rfl (fun _ => rfl) (fun hash => ?_) _
    cases hash

end Bookcase

open Bookcase in
theorem Mapping.get_like_subscript_bookcase : lexicon.Laws ∧
    mapping.Over lexicon ⟨0⟩ [(trueRef, falseRef)] switched.guest ∧
    lexicon.plain switched.guest mapping.handle.object ∧
    (∀ key ∈ sought, (Order.get key).Fits lexicon ⟨0⟩ switched.guest ∧ key.Shows lexicon ⟨0⟩ switched ∧
      lexicon.SameLookup (mapping.get ⟨0⟩ key) (mapping.handle.subscript ⟨0⟩ key) switched) ∧
    (sought.map fun key => ((mapping.handle.subscript ⟨0⟩ key).run switched).1) =
      [.ok ⟨falseRef, 0, none⟩,
        .error (.failed (.indexError mapping.handle "\"it's\"" ⟨"KeyError", "\"it's\"", none⟩)),
        .error (.failed (unhashable ⟨0⟩ ⟨153⟩ "list"))] := by
  refine ⟨laws, switched_over, switched_plain, fun key mem => ?_, ?_⟩
  · obtain ⟨fits, shows⟩ := sought_fit key mem
    exact ⟨fits, shows, Mapping.get_like_subscript laws switched_over switched_plain fits shows⟩
  · decide +kernel

end GuestBridge.Bridge
