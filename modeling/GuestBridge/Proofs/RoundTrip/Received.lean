import GuestBridge.Proofs.Handles.Stay
import GuestBridge.Proofs.RoundTrip.Reading

/-!
# What Reading Can Give

Whatever the guest does while an object is read, what comes of it is in normal form. Nothing is assumed of
the guest here: an object may be of any class, and code of its own may run at every step.

## Main results

* `normal_receive`, `normal_extract` — what is read is in normal form.
-/

namespace GuestBridge.Bridge

open Guest (Ref noneRef)

variable {σ : Type} {cx : Context}

/-! ### What a computation can give -/

/-- Whatever the world is, what a computation gives satisfies `P`. -/
def Ensures {ε α : Type} (x : ExceptT (Stop ε) (StateM (World σ)) α) (P : α → Prop) : Prop :=
  ∀ w a, (x.run w).1 = .ok a → P a

namespace Ensures

variable {ε α β : Type} {P : α → Prop} {Q : β → Prop}

theorem pure {a : α} (h : P a) : Ensures (Pure.pure a : ExceptT (Stop ε) (StateM (World σ)) α) P := by
  intro w b given
  cases given
  exact h

theorem mono {P' : α → Prop} {x : ExceptT (Stop ε) (StateM (World σ)) α} (hx : Ensures x P)
    (h : ∀ a, P a → P' a) : Ensures x P' :=
  fun w a given => h a (hx w a given)

theorem bind {x : ExceptT (Stop ε) (StateM (World σ)) α}
    {f : α → ExceptT (Stop ε) (StateM (World σ)) β} (hx : Ensures x P)
    (hf : ∀ a, P a → Ensures (f a) Q) : Ensures (x >>= f) Q := by
  intro w b given
  rw [ExceptT.run_bind, bind_apply] at given
  cases hr : (x.run w).1 with
  | ok a =>
      rw [hr] at given
      exact hf a (hx w a hr) _ b given
  | error e =>
      rw [hr] at given
      cases given

/-- What comes first can be anything. -/
theorem after {x : ExceptT (Stop ε) (StateM (World σ)) α}
    {f : α → ExceptT (Stop ε) (StateM (World σ)) β} (hf : ∀ a, Ensures (f a) Q) :
    Ensures (x >>= f) Q :=
  given_bind hf

theorem always {x : StateM (World σ) α} (hx : ∀ w, P (x w).1) :
    Ensures (Bridge.always x : ExceptT (Stop ε) (StateM (World σ)) α) P := by
  intro w a given
  cases given
  exact hx w

theorem ifNone {r : Ref} {x y : ExceptT (Stop ε) (StateM (World σ)) α} (hx : r = noneRef → Ensures x P)
    (hy : r ≠ noneRef → Ensures y P) : Ensures (if r == noneRef then x else y) P := by
  by_cases h : r = noneRef
  · rw [if_pos (beq_iff_eq.mpr h)]
    exact hx h
  · rw [if_neg (mt beq_iff_eq.mp h)]
    exact hy h

theorem unfit : Ensures (Bridge.unfit : Reading σ α) P := nofun

theorem panics (message : String) :
    Ensures (panicWith message : ExceptT (Stop ε) (StateM (World σ)) α) P := nofun

theorem discarding {x : Reading σ α} (discard : StateM (World σ) Unit) (hx : Ensures x P) :
    Ensures (Bridge.discarding discard x) P := by
  intro w a given
  rw [run_discarding, bind_apply] at given
  cases hr : (x.run w).1 with
  | ok b =>
      rw [hr] at given
      cases given
      exact hx w _ hr
  | error e =>
      rw [hr] at given
      cases given

theorem readAll {read : Ref → Reading σ α} (discard : α → StateM (World σ) Unit)
    (hread : ∀ r, Ensures (read r) P) (rs : List Ref) :
    Ensures (Bridge.readAll read discard rs) fun xs => ∀ x ∈ xs, P x := by
  induction rs with
  | nil => exact .pure (List.forall_mem_nil P)
  | cons r rs ih =>
      refine (hread r).bind fun x hx => (ih.discarding _).bind fun xs hxs => .pure ?_
      exact List.forall_mem_cons.mpr ⟨hx, hxs⟩

theorem readEntries [GuestState σ] {readKey : Ref → Reading σ α} {readValue : Ref → Reading σ β}
    (discardKey : α → StateM (World σ) Unit) (discardVal : β → StateM (World σ) Unit)
    (hkey : ∀ r, Ensures (readKey r) P) (hvalue : ∀ r, Ensures (readValue r) Q) (dict : Ref)
    (size left : Nat) (last : Option Nat) :
    Ensures (Bridge.readEntries readKey readValue discardKey discardVal dict size left last)
      fun es => ∀ e ∈ es, P e.1 ∧ Q e.2 := by
  induction left generalizing last with
  | zero =>
      unfold Bridge.readEntries
      refine .after fun es => ?_
      split <;> exact .panics _
  | succ left ih =>
      unfold Bridge.readEntries
      refine .after fun es => ?_
      split
      · exact .panics _
      dsimp only
      split
      · exact .pure (List.forall_mem_nil fun e : α × β => P e.1 ∧ Q e.2)
      · next place k v _ =>
          refine (hkey k).bind fun x hx => ((hvalue v).discarding _).bind fun y hy => ?_
          refine ((ih (some place)).discarding _).bind fun rest hrest => .pure ?_
          exact List.forall_mem_cons.mpr ⟨⟨hx, hy⟩, hrest⟩

end Ensures

/-! ### Collecting -/

namespace HostType

/-- Keys and values that are collected are some of those there were. -/
theorem forall_addEntry {α β : Type} {same : α → α → Bool} {P : α → Prop} {Q : β → Prop} {x : α} {y : β}
    (hx : P x) (hy : Q y) {es : List (α × β)} (h : ∀ e ∈ es, P e.1 ∧ Q e.2) :
    ∀ e ∈ addEntry same x y es, P e.1 ∧ Q e.2 := by
  induction es with
  | nil => exact List.forall_mem_singleton.mpr ⟨hx, hy⟩
  | cons e es ih =>
      obtain ⟨here, others⟩ := List.forall_mem_cons.mp h
      rw [addEntry]
      split
      · exact List.forall_mem_cons.mpr ⟨⟨here.1, hy⟩, others⟩
      · exact List.forall_mem_cons.mpr ⟨here, ih others⟩

theorem forall_addEntries {α β : Type} {same : α → α → Bool} {P : α → Prop} {Q : β → Prop}
    {acc es : List (α × β)} (hacc : ∀ e ∈ acc, P e.1 ∧ Q e.2) (h : ∀ e ∈ es, P e.1 ∧ Q e.2) :
    ∀ e ∈ addEntries same acc es, P e.1 ∧ Q e.2 := by
  induction es generalizing acc with
  | nil => exact hacc
  | cons e es ih =>
      obtain ⟨here, others⟩ := List.forall_mem_cons.mp h
      exact ih (forall_addEntry here.1 here.2 hacc) others

/-- A map that is collected from entries in normal form is in normal form. -/
theorem normal_collectEntries {kind : MapKind} {k t : HostType} (hk : k.isOrdered)
    {es : List (k.Value × t.Value)} (h : ∀ e ∈ es, k.Normal cx e.1 ∧ t.Normal cx e.2) :
    (map kind k t).Normal cx (collectEntries kind k es) := by
  have perm := arrange_perm kind k (addEntries k.sameKey [] es)
  have nodup : ((addEntries k.sameKey [] es).map Prod.fst).Nodup :=
    nodup_addEntries (sameKey_iff_of_isOrdered hk) es List.nodup_nil
  refine ⟨(perm.map Prod.fst).nodup_iff.mpr nodup, arrange_inOrder kind k _, fun e he => ?_⟩
  exact forall_addEntries (List.forall_mem_nil _) h e (perm.mem_iff.mp he)

end HostType

/-! ### Reading -/

variable [GuestState σ]

/-- A value in normal form that becomes `None` only if it was read from `None`. -/
structure ReadFrom (cx : Context) (t : HostType) (r : Ref) (v : t.Value) : Prop where
  normal : t.Normal cx v
  none : t.isNone v = true → r = noneRef

theorem ReadFrom.ofSomething {t : HostType} {r : Ref} {v : t.Value} (normal : t.Normal cx v)
    (something : t.isNone v = false) : ReadFrom cx t r v :=
  ⟨normal, fun none => absurd none (Bool.eq_false_iff.mp something)⟩

/-- **What is read is in normal form**, and becomes `None` only if it was `None`. -/
theorem normal_receive {t : HostType} (ht : t.isTwoWay) (r : Ref) :
    Ensures (σ := σ) (receive cx t r) (ReadFrom cx t r) := by
  induction t generalizing r with
  | unit => exact Ensures.ifNone (fun h => .pure ⟨trivial, fun _ => h⟩) fun _ => .unfit
  | option t ih =>
      refine Ensures.ifNone (fun h => .pure ⟨trivial, fun _ => h⟩) fun h => ?_
      refine (ih ht r).bind fun x hx => .pure ?_
      have something : t.isNone x = false := Bool.eq_false_iff.mpr fun none => h (hx.none none)
      exact ⟨⟨something, hx.normal⟩, hx.none⟩
  | list t ih =>
      refine Ensures.after fun shape => ?_
      cases shape with
      | sequence items =>
          have each := Ensures.readAll (discardValue cx t) (P := t.Normal cx)
            (fun r => (ih ht r).mono fun x hx => hx.normal) items
          exact each.mono fun xs hxs => .ofSomething hxs rfl
      | _ => exact .unfit
  | pair a b iha ihb =>
      simp only [HostType.isTwoWay, Bool.and_eq_true] at ht
      refine Ensures.after fun shape => ?_
      cases shape with
      | sequence items =>
          rcases items with _ | ⟨x, _ | ⟨y, _ | ⟨z, rest⟩⟩⟩
          case cons.cons.nil =>
            refine (iha ht.1 x).bind fun u hu => ((ihb ht.2 y).discarding _).bind fun v hv => .pure ?_
            exact .ofSomething ⟨hu.normal, hv.normal⟩ rfl
          all_goals exact .unfit
      | _ => exact .unfit
  | triple a b c iha ihb ihc =>
      simp only [HostType.isTwoWay, Bool.and_eq_true] at ht
      refine Ensures.after fun shape => ?_
      cases shape with
      | sequence items =>
          rcases items with _ | ⟨x, _ | ⟨y, _ | ⟨z, _ | ⟨u, rest⟩⟩⟩⟩
          case cons.cons.cons.nil =>
            refine (iha ht.1.1 x).bind fun u hu => ?_
            refine Ensures.bind (P := fun p => b.Normal cx p.1 ∧ c.Normal cx p.2) ?_ fun p hp =>
              .pure (.ofSomething ⟨hu.normal, hp.1, hp.2⟩ rfl)
            refine Ensures.discarding _ ((ihb ht.1.2 y).bind fun v hv => ?_)
            exact ((ihc ht.2 z).discarding _).bind fun w hw => .pure ⟨hv.normal, hw.normal⟩
          all_goals exact .unfit
      | _ => exact .unfit
  | map kind k t ihk iht =>
      simp only [HostType.isTwoWay, Bool.and_eq_true] at ht
      refine Ensures.after fun shape => ?_
      cases shape with
      | dict es =>
          have entries := Ensures.readEntries (discardValue cx k) (discardValue cx t)
            (P := k.Normal cx) (Q := t.Normal cx)
            (fun r => (ihk (HostType.isTwoWay_of_isKey ht.1) r).mono fun x hx => hx.normal)
            (fun r => (iht ht.2 r).mono fun x hx => hx.normal) r es.length (es.length + 1) none
          refine entries.bind fun read hread => .always fun w => .ofSomething ?_ rfl
          exact HostType.normal_collectEntries (HostType.isOrdered_of_isKey ht.1) hread
      | _ => exact .unfit
  | handle => exact .always fun w => ⟨rfl, fun none => beq_iff_eq.mp none⟩
  | _ => exact fun _ _ _ => .ofSomething trivial rfl

/-- So is what is read through a handle. -/
theorem normal_extract {ε : Type} {t : HostType} (ht : t.isTwoWay) (h : Handle) :
    Ensures (σ := σ) (ε := ε) (h.extract cx t) fun v? => ∀ v, v? = some v → t.Normal cx v := by
  refine Ensures.after fun r => ?_
  have outcome : Ensures (σ := σ) (ε := ε) (always (receive cx t r).run) fun read =>
      ∀ v, read = .ok v → t.Normal cx v :=
    .always fun w v given => (normal_receive ht r w v given).normal
  refine outcome.bind fun read normal => ?_
  rcases read with (_ | message) | v
  · exact .pure fun v given => by cases given
  · exact .panics message
  · exact .pure fun u given => Option.some.inj given ▸ normal v rfl

end GuestBridge.Bridge
