import GuestBridge.Proofs.Dictionary.Whole
import GuestBridge.Proofs.Requests.Writes
import GuestBridge.Proofs.Widening.Types

/-!
# Reading at a Wider Type

An object that is read at a type is read at every wider type as well, and as the same value, put into its
place. The two readings ask the guest the same questions in the same order, so whatever code the questions
run, they leave the same world behind.

Of the guest this needs one thing only: what makes a type optional reads `None` itself, so `None` must not
turn into something else on the way (`Lasting`).

## Main results

* `follows_receive` — the step for each way to widen a type, and the induction over them;
* `extract_widening` — what is extracted at a type is extracted at a wider one.
-/

namespace GuestBridge.Bridge

open Guest (Ref noneRef)

variable {σ : Type} [GuestState σ]

/-! ### What lasts -/

/-- Something that holds of the guest, and still holds after every request that jobs make; while it does,
`None` is nothing but `None`. -/
structure Lasting (I : σ → Prop) : Prop where
  kept {α : Type} (r : Request α) (held : List Ref) (s : σ) : r.sinkOf? = none → I s →
    I (GuestState.perform held r s).2.2
  none {held : List Ref} {s : σ} {x : Shape} : I s →
    (GuestState.perform held (.shape noneRef) s).1 = .ok x → x = .none

namespace Lasting

variable {I : σ → Prop} {α : Type} {w : World σ}

theorem turns (lasting : Lasting I) (cx : Context) {x : StateM (World σ) α} {into : α → List Handle}
    (hx : Turns cx [] x into) (start : I w.guest) : I (x w).2.guest := by
  obtain ⟨ws, writes⟩ := (hx w []).writes
  exact writes.keeps (fun r held s plain => lasting.kept r held s plain) start

theorem receive (lasting : Lasting I) (cx : Context) (t : HostType) (r : Ref) (start : I w.guest) :
    I ((Bridge.receive cx t r).run w).2.guest :=
  lasting.turns cx (makes_receive t r) start

end Lasting

/-! ### Readings that follow others -/

/-- While `I` holds, whenever `x` reads something, `y` reads what `e` makes of it, and leaves the same
world. -/
def Follows (I : σ → Prop) {α β : Type} (x : Reading σ α) (y : Reading σ β) (e : α → β) : Prop :=
  ∀ (w : World σ) (a : α) (w' : World σ), I w.guest → x.run w = (.ok a, w') →
    y.run w = (.ok (e a), w') ∧ I w'.guest

omit [GuestState σ] in
/-- Where reading does not stop early, nothing is discarded. -/
theorem run_discarding_ok_iff {α : Type} {d : StateM (World σ) Unit} {x : Reading σ α} {a : α}
    {w w' : World σ} : (discarding d x).run w = (.ok a, w') ↔ x.run w = (.ok a, w') := by
  rw [run_discarding, bind_apply]
  rcases x.run w with ⟨e | b, w₁⟩
  · exact iff_of_false (fun h => by cases h) (fun h => by cases h)
  · exact Iff.rfl

namespace Follows

variable {I : σ → Prop} {α β γ δ : Type} {x : Reading σ α} {y : Reading σ β} {e : α → β}

omit [GuestState σ]

theorem pure {a : α} {b : β} {e : α → β} (h : b = e a) : Follows I (Pure.pure a) (Pure.pure b) e := by
  intro w a' w' start ran
  cases ran
  exact ⟨h ▸ rfl, start⟩

theorem unfit (e : α → β) : Follows I (Bridge.unfit : Reading σ α) y e := fun _ _ _ _ ran => by cases ran

theorem panicked (message : String) (e : α → β) :
    Follows I (panicWith message : Reading σ α) y e := fun _ _ _ _ ran => by cases ran

theorem trans {z : Reading σ γ} {e' : β → γ} (first : Follows I x y e) (second : Follows I y z e') :
    Follows I x z fun a => e' (e a) := by
  intro w a w' start ran
  exact second _ _ _ start (first w a w' start ran).1

theorem bind {f : α → Reading σ γ} {g : β → Reading σ δ} {e' : γ → δ} (first : Follows I x y e)
    (rest : ∀ a, Follows I (f a) (g (e a)) e') : Follows I (x >>= f) (y >>= g) e' := by
  intro w c w' start ran
  obtain ⟨a, w₁, ran, ran'⟩ := run_bind_ok_iff.mp ran
  obtain ⟨follows, kept⟩ := first _ _ _ start ran
  obtain ⟨follows', kept'⟩ := rest a _ _ _ kept ran'
  exact ⟨run_bind_ok_iff.mpr ⟨_, _, follows, follows'⟩, kept'⟩

/-- What is read is put into something. -/
theorem into (first : Follows I x y e) (g : β → γ) :
    Follows I x (y >>= fun b => Pure.pure (g b)) fun a => g (e a) := by
  intro w a w' start ran
  obtain ⟨follows, kept⟩ := first _ _ _ start ran
  exact ⟨run_bind_ok_iff.mpr ⟨_, _, follows, rfl⟩, kept⟩

/-- Both do the same before. -/
theorem after {x : StateM (World σ) α} (kept : ∀ w, I w.guest → I (x w).2.guest) {f : α → Reading σ γ}
    {g : α → Reading σ δ} {e' : γ → δ} (rest : ∀ a, Follows I (f a) (g a) e') :
    Follows I (always x >>= f) (always x >>= g) e' := by
  intro w c w' start ran
  exact rest _ _ _ _ (kept w start) ran

theorem fits {a : Option α} {b : Option β} {e : α → β} (h : ∀ v, a = some v → b = some (e v)) :
    Follows I (Bridge.fits (Pure.pure a)) (Bridge.fits (Pure.pure b)) e := by
  cases a with
  | none => exact unfit e
  | some v =>
      rw [h v rfl]
      exact pure rfl

theorem discarding {d d' : StateM (World σ) Unit} (h : Follows I x y e) :
    Follows I (Bridge.discarding d x) (Bridge.discarding d' y) e := by
  intro w a w' start ran
  obtain ⟨follows, kept⟩ := h w a w' start (run_discarding_ok_iff.mp ran)
  exact ⟨run_discarding_ok_iff.mpr follows, kept⟩

theorem readAll {read : Ref → Reading σ α} {read' : Ref → Reading σ β} {d : α → StateM (World σ) Unit}
    {d' : β → StateM (World σ) Unit} (h : ∀ r, Follows I (read r) (read' r) e) (rs : List Ref) :
    Follows I (Bridge.readAll read d rs) (Bridge.readAll read' d' rs) (List.map e) := by
  induction rs with
  | nil => exact pure rfl
  | cons r rs ih => exact (h r).bind fun a => (discarding ih).bind fun as => pure rfl

theorem readEntries {α' β' : Type} {readKey : Ref → Reading σ α} {readKey' : Ref → Reading σ α'}
    {readValue : Ref → Reading σ β} {readValue' : Ref → Reading σ β'} {dk : α → StateM (World σ) Unit}
    {dk' : α' → StateM (World σ) Unit} {dv : β → StateM (World σ) Unit} {dv' : β' → StateM (World σ) Unit}
    {e : α → α'} {e' : β → β'} [GuestState σ] {dict : Ref}
    (entries : ∀ w, I w.guest → I (entriesNow dict w).2.guest)
    (key : ∀ r, Follows I (readKey r) (readKey' r) e)
    (value : ∀ r, Follows I (readValue r) (readValue' r) e') (size left : Nat) (last : Option Nat) :
    Follows I (Bridge.readEntries readKey readValue dk dv dict size left last)
      (Bridge.readEntries readKey' readValue' dk' dv' dict size left last) (List.map (Prod.map e e')) := by
  induction left generalizing last with
  | zero =>
      unfold Bridge.readEntries
      refine after entries fun es => ?_
      by_cases changed : (es.length != size) = true
      · rw [if_pos changed]
        exact panicked _ _
      · rw [if_neg changed]
        exact panicked _ _
  | succ left ih =>
      unfold Bridge.readEntries
      refine after entries fun es => ?_
      by_cases changed : (es.length != size) = true
      · rw [if_pos changed]
        exact panicked _ _
      · rw [if_neg changed, if_neg changed]
        dsimp only
        generalize es.find? _ = found
        rcases found with _ | ⟨place, k, v⟩
        · exact pure rfl
        · refine (key k).bind fun x => (discarding (value v)).bind fun y => ?_
          exact (discarding (ih (some place))).bind fun rest => pure rfl

end Follows

/-! ### Reading at a wider type -/

section

variable {I : σ → Prop} {cx : Context} {α β : Type} {e : α → β}

theorem follows_self (lasting : Lasting I) (cx : Context) (t : HostType) (r : Ref) :
    Follows I (receive cx t r) (receive cx t r) id := by
  intro w v w' start ran
  have kept := lasting.receive cx t r start
  rw [ran] at kept
  exact ⟨ran, kept⟩

/-- Both go by the shape of the object. -/
theorem follows_by_shape (lasting : Lasting I) (r : Ref) {f : Shape → Reading σ α} {g : Shape → Reading σ β}
    (h : ∀ s, Follows I (f s) (g s) e) : Follows I (always (shapeOf r) >>= f) (always (shapeOf r) >>= g) e :=
  .after (fun _ start => lasting.turns ⟨0⟩ (turns_shapeOf r) start) h

theorem shapeOf_noneRef (lasting : Lasting I) {w : World σ} (start : I w.guest) :
    (shapeOf noneRef w).1 = .none ∨ (shapeOf noneRef w).1 = .other := by
  rw [shapeOf, askOr_apply]
  match asked : (w.ask (.shape noneRef)).1 with
  | .ok x => exact .inl (lasting.none start asked)
  | .error e => exact .inr rfl

/-- `None` is not read at a type that becomes optional. -/
theorem receive_noneRef_ne_ok (lasting : Lasting I) {t : HostType} (something : t.readsNone = false)
    {w w' : World σ} (start : I w.guest) (v : t.Value) : (receive cx t noneRef).run w ≠ (.ok v, w') := by
  intro ran
  cases t with
  | unit | option | handle => cases something
  | bool | int | bigInt | string | char | bytes | list | pair | triple | map =>
      rw [receive, run_always_bind] at ran
      rcases shapeOf_noneRef lasting start with shape | shape <;> rw [shape] at ran <;> cases ran
  | float32 =>
      replace ran := (run_fits (readFloat32 noneRef) w).symm.trans ran
      rw [readFloat32, bind_apply, readFloat64, bind_apply] at ran
      rcases shapeOf_noneRef lasting start with shape | shape <;> rw [shape] at ran <;> cases ran
  | float64 =>
      replace ran := (run_fits (return (← readFloat64 noneRef).map UInt64.ofNat) w).symm.trans ran
      rw [bind_apply, readFloat64, bind_apply] at ran
      rcases shapeOf_noneRef lasting start with shape | shape <;> rw [shape] at ran <;> cases ran
  | range =>
      replace ran := (run_fits (readRange noneRef) w).symm.trans ran
      rw [readRange, bind_apply] at ran
      rcases shapeOf_noneRef lasting start with shape | shape <;> rw [shape] at ran <;> cases ran

theorem follows_optional (lasting : Lasting I) {t : HostType} (something : t.readsNone = false) (r : Ref) :
    Follows I (receive cx t r) (receive cx (.option t) r) some := by
  intro w v w' start ran
  have other : r ≠ noneRef := by
    rintro rfl
    exact receive_noneRef_ne_ok lasting something start v ran
  have part : (receive cx (.option t) r : Reading σ _) = receive cx t r >>= fun v => pure (some v) :=
    if_neg (mt beq_iff_eq.mp other)
  rw [part]
  exact (follows_self lasting cx t r).into some w v w' start ran

omit [GuestState σ] in
theorem fitting_of_within {k k' : IntType} (within : ∀ n, k.Contains n → k'.Contains n) {n : Int}
    {v : (HostType.int k).Value} (fit : fitting k n = some v) :
    fitting k' n = some ((Widening.int within).embed v) := by
  obtain rfl := Picture.fitting_eq_some fit
  exact dif_pos (within v.val v.property)

omit [GuestState σ] in
/-- A character is read of a text that has no other. -/
theorem follows_single (t : Text) : Follows (σ := σ) I (match t.toString?.map String.toList with
    | some [c] => pure c
    | _ => unfit) (fits (pure t.toString?)) Widening.char.embed := by
  split
  · next c single =>
      obtain ⟨s, text, list⟩ := Option.map_eq_some_iff.mp single
      have whole : s = String.ofList [c] := by rw [← list, String.ofList_toList]
      rw [text]
      exact .pure whole
  · exact .unfit _

omit [GuestState σ] in
/-- Entries of a map are collected alike, and the same handles are released. -/
theorem follows_collectRead (kind : MapKind) {k k' v v' : HostType} (key : Widening k k')
    (value : Widening v v') (es : List (k.Value × v.Value)) :
    Follows I (always (collectRead cx kind k v es))
      (always (collectRead cx kind k' v' (es.map (Prod.map key.embed value.embed))))
      (Widening.map kind key value).embed := by
  intro w m w' start ran
  cases ran
  have handles (es : List (k.Value × v.Value)) :
      (HostType.map kind k' v').handles (es.map (Prod.map key.embed value.embed)) =
        (HostType.map kind k v).handles es := (Widening.map kind key value).handles_embed es
  have collected := Widening.collectEntries_embed kind key value es
  refine ⟨?_, (World.guest_releaseAll _ _ _).symm ▸ start⟩
  have same : collectRead cx kind k' v' (es.map (Prod.map key.embed value.embed)) w =
      ((Widening.map kind key value).embed (HostType.collectEntries kind k es),
        (collectRead cx kind k v es w).2) := by
    simp only [collectRead, collected, handles]
    rfl
  exact congrArg (fun q => (Except.ok q.1, q.2)) same

omit [GuestState σ] in
/-- Two parts are read one after the other. -/
theorem follows_both {γ δ : Type} {e' : γ → δ} {x : Reading σ α} {x' : Reading σ β} {y : Reading σ γ}
    {y' : Reading σ δ} {d : α → StateM (World σ) Unit} {d' : β → StateM (World σ) Unit}
    (first : Follows I x x' e) (second : Follows I y y' e') :
    Follows I (do
      let u ← x
      let v ← discarding (d u) y
      return (u, v)) (do
      let u ← x'
      let v ← discarding (d' u) y'
      return (u, v)) fun p => (e p.1, e' p.2) :=
  first.bind fun _ => (Follows.discarding second).bind fun _ => .pure rfl

/-- Two parts are read as the items of a list. -/
theorem follows_items (lasting : Lasting I) (cx : Context) (t : HostType) (q q' : Ref) :
    Follows I (do
      let u ← receive cx t q
      let v ← discarding (discardValue cx t u) (receive cx t q')
      return (u, v)) (readAll (receive cx t) (discardValue cx t) [q, q']) fun p => [p.1, p.2] := by
  have last := (follows_self lasting cx t q').into fun v => [v]
  exact (follows_self lasting cx t q).bind fun u => (Follows.discarding last).bind fun v => .pure rfl

/-- **Reading at a type is followed by reading at a wider one.** -/
theorem follows_receive (lasting : Lasting I) {t t' : HostType} (e : Widening t t') (r : Ref) :
    Follows I (receive cx t r) (receive cx t' r) e.embed := by
  have self := follows_self lasting cx
  induction e generalizing r with
  | refl t => exact self t r
  | trans first second ih ih' => exact (ih r).trans (ih' r)
  | int within =>
      refine follows_by_shape lasting r fun s => ?_
      cases s with
      | int n => exact .fits fun v fit => fitting_of_within within fit
      | _ => exact .unfit _
  | bigInt k =>
      refine follows_by_shape lasting r fun s => ?_
      cases s with
      | int n => exact .fits (b := some n) fun v fit => congrArg some (Picture.fitting_eq_some fit).symm
      | _ => exact .unfit _
  | char =>
      refine follows_by_shape lasting r fun s => ?_
      cases s with
      | text t => exact follows_single t
      | _ => exact .unfit _
  | optional something => exact follows_optional lasting something r
  | couple a =>
      refine follows_by_shape lasting r fun s => ?_
      match s with
      | .sequence [x, y] => exact follows_items lasting cx a x y
      | .sequence [] | .sequence [_] | .sequence (_ :: _ :: _ :: _) | .none | .bool _ | .int _ | .float _
      | .text _ | .bytes _ | .dict _ | .range _ _ _ | .slice _ _ _ | .other => exact .unfit _
  | three a =>
      refine follows_by_shape lasting r fun s => ?_
      match s with
      | .sequence [x, y, z] =>
          have others := follows_items lasting cx a y z
          exact (self a x).bind fun u => (Follows.discarding others).bind fun (v, w) => .pure rfl
      | .sequence [] | .sequence [_] | .sequence [_, _] | .sequence (_ :: _ :: _ :: _ :: _) | .none
      | .bool _ | .int _ | .float _ | .text _ | .bytes _ | .dict _ | .range _ _ _ | .slice _ _ _
      | .other => exact .unfit _
  | @option t t' part ih =>
      by_cases none : r = noneRef
      · have empty (t : HostType) : (receive cx (.option t) r : Reading σ _) = pure Option.none :=
          if_pos (beq_iff_eq.mpr none)
        rw [empty, empty]
        exact .pure rfl
      · have part (t : HostType) : (receive cx (.option t) r : Reading σ _) =
            receive cx t r >>= fun v => pure (some v) := if_neg (mt beq_iff_eq.mp none)
        rw [part, part]
        exact (ih r).bind fun v => .pure rfl
  | list part ih =>
      refine follows_by_shape lasting r fun s => ?_
      cases s with
      | sequence items => exact .readAll ih items
      | _ => exact .unfit _
  | pair first second ih ih' =>
      refine follows_by_shape lasting r fun s => ?_
      match s with
      | .sequence [x, y] => exact follows_both (ih x) (ih' y)
      | .sequence [] | .sequence [_] | .sequence (_ :: _ :: _ :: _) | .none | .bool _ | .int _ | .float _
      | .text _ | .bytes _ | .dict _ | .range _ _ _ | .slice _ _ _ | .other => exact .unfit _
  | triple first second third ih ih' ih'' =>
      refine follows_by_shape lasting r fun s => ?_
      match s with
      | .sequence [x, y, z] =>
          exact (ih x).bind fun u => (Follows.discarding (follows_both (ih' y) (ih'' z))).bind fun (v, w) =>
            .pure rfl
      | .sequence [] | .sequence [_] | .sequence [_, _] | .sequence (_ :: _ :: _ :: _ :: _) | .none
      | .bool _ | .int _ | .float _ | .text _ | .bytes _ | .dict _ | .range _ _ _ | .slice _ _ _
      | .other => exact .unfit _
  | map kind key value ih ih' =>
      refine follows_by_shape lasting r fun s => ?_
      cases s with
      | dict es =>
          have entries (w : World σ) (start : I w.guest) : I (entriesNow r w).2.guest :=
            lasting.turns cx (turns_entriesNow r) start
          exact (Follows.readEntries entries ih ih' _ _ none).bind fun read =>
            follows_collectRead kind key value read
      | _ => exact .unfit _

end

/-! ### Reading through handles -/

section

variable {I : σ → Prop} {cx : Context} {w w' : World σ} {t t' : HostType} {v : t.Value}

/-- Where reading follows, extracting does. -/
theorem extract_of_follows {e : t.Value → t'.Value} {h : Handle}
    (follows : Follows I (receive cx t h.object) (receive cx t' h.object) e) (start : I w.guest)
    (given : (h.extract cx t : Boundary σ (Option t.Value)).run w = (.ok (some v), w')) :
    (h.extract cx t' : Boundary σ (Option t'.Value)).run w = (.ok (some (e v)), w') := by
  by_cases own : h.session = cx.session
  · have bound : (h.bind cx : Boundary σ Ref) = pure h.object := if_pos own
    rw [Handle.extract, bound, pure_bind, run_always_bind] at given ⊢
    rcases read : (receive cx t h.object).run w with ⟨(⟨⟩ | _) | u, w₁⟩ <;> rw [read] at given <;>
      cases given
    rw [(follows _ _ _ start read).1]
    rfl
  · have refused : (h.bind cx : Boundary σ Ref) =
        panicWith "handle used with a context of a different session" := if_neg own
    rw [Handle.extract, refused] at given
    cases given

/-- **What is extracted at a type is extracted at every wider one**, as the same value in its place, and the
same world is left behind. -/
theorem extract_widening (lasting : Lasting I) (e : Widening t t') (h : Handle) (start : I w.guest)
    (given : (h.extract cx t : Boundary σ (Option t.Value)).run w = (.ok (some v), w')) :
    (h.extract cx t' : Boundary σ (Option t'.Value)).run w = (.ok (some (e.embed v)), w') :=
  extract_of_follows (follows_receive lasting e h.object) start given

/-- While what is read stays as it is, it is extracted at the wider type at any other time as well. -/
theorem extracted_later {V : Outlook σ} {p : Picture} (laws : V.Builtins) (lasting : Lasting I)
    (e : Widening t t') {r : Ref} (legible : V.Legible p t' r) (start : I w.guest)
    (seen : V.Sees p.toObjects w.guest) (seen' : V.Sees p.toObjects w'.guest)
    (given : extracted cx t r w = .ok (some v)) : extracted cx t' r w' = .ok (some (e.embed v)) := by
  have now := extract_of_follows (h := ⟨r, cx.session, none⟩) (follows_receive lasting e r) start
    (Prod.ext given rfl)
  rw [extracted_eq laws legible seen', ← extracted_eq laws legible seen]
  exact congrArg Prod.fst now

end

/-! ### A wider reading of the shelf -/

namespace Shelf

/-- **The shelf stays in order**, whatever it is asked. -/
theorem Stocked.answer {s : Shelf} (h : s.Stocked) {α : Type} (r : Request α) : (s.answer r).2.Stocked := by
  have made (shape : Shape) (key : Option Key) : (s.make shape key).2.Stocked :=
    (h.make shape key).keeps.ready
  cases r with
  | newInt | newFloat | newStr | newBytes | newList | newTuple | newSlice | newDict => exact made _ _
  | toIndex r =>
      rw [Shelf.answer]
      split <;> exact h
  | setItem d k v =>
      rw [Shelf.answer]
      split
      · next es κ dict key => exact (h.fill dict _).1
      · exact h
  | _ => exact h

theorem lasting : Lasting Stocked where
  kept {α} r held s plain stocked := by
    have kept := stocked.answer r
    change (performed (s.answer r)).2.2.Stocked
    rcases answered : s.answer r with ⟨_ | a, s'⟩ <;> rw [answered] at kept <;> exact kept
  none {held s x} stocked answered := by
    have shape : s.objects.shape noneRef = some .none := shape_eq_some.mpr ⟨_, stocked.none⟩
    change (performed (s.objects.shape noneRef, s)).1 = _ at answered
    rw [shape] at answered
    cases answered
    rfl

/-- Keys become larger integers, and values optional. -/
def wider : Widening (.map .indexed (.int .u8) .range) (.map .indexed .bigInt (.option .range)) :=
  .map .indexed (.bigInt .u8) (.optional rfl)

end Shelf

set_option maxRecDepth 4096 in
theorem extract_widening_archive : Lasting Shelf.Stocked ∧ archive.guest.Stocked ∧
    ∃ m w', ((⟨⟨14⟩, 0, none⟩ : Handle).extract ⟨0⟩ (.map .indexed (.int .u8) .range) :
        Boundary Shelf (Option (HostType.map .indexed (.int .u8) .range).Value)).run archive =
          (.ok (some m), w') ∧ List.length m = 2 ∧
      ((⟨⟨14⟩, 0, none⟩ : Handle).extract ⟨0⟩ (.map .indexed .bigInt (.option .range)) :
        Boundary Shelf (Option (HostType.map .indexed .bigInt (.option .range)).Value)).run archive =
          (.ok (some (Shelf.wider.embed m)), w') :=
  ⟨Shelf.lasting, Shelf.stocked_filed, _, _, rfl, rfl,
    extract_widening Shelf.lasting Shelf.wider _ Shelf.stocked_filed rfl⟩

end GuestBridge.Bridge
