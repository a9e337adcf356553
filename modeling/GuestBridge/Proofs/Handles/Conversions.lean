import GuestBridge.Proofs.Handles.Failures
import Mathlib.Data.List.Perm.Basic

/-!
# The Handles of Conversions

Sending takes no handles: a handle that is sent is looked at, not used up. Reading takes one handle
for each place of the type that asks for one, and where a later part does not fit, those that
earlier parts took are given back (`turns_discarding`); so reading leaves the handles of the value,
or none (`makes_receive`). A map that collects its entries gives back what its values lose.
-/

namespace GuestBridge.Bridge

open Guest (Ref Raised)

variable {σ : Type} [GuestState σ] {cx : Context}

/-! ### Sending -/

theorem quiet_sendAll {α : Type} {send : α → Crossing σ Ref} (hs : ∀ x, Quiet cx (send x))
    (xs : List α) : Quiet cx (sendAll send xs) := by
  induction xs with
  | nil => exact Makes.pure _ rfl
  | cons x xs ih =>
      refine (hs x).bind fun r => ?_
      exact ih.bind fun rs => Makes.pure _ rfl

theorem quiet_sendEntries {α β : Type} {sendKey : α → Crossing σ Ref}
    {sendValue : β → Crossing σ Ref} (hk : ∀ x, Quiet cx (sendKey x))
    (hv : ∀ y, Quiet cx (sendValue y)) (dict : Ref) (es : List (α × β)) :
    Quiet cx (sendEntries sendKey sendValue dict es) := by
  induction es with
  | nil => exact Makes.pure _ rfl
  | cons e es ih =>
      refine (hk e.1).bind fun k => ?_
      refine (hv e.2).bind fun v => ?_
      exact (quiet_request _ (by rfl)).bind fun _ => ih

/-- Sending takes no handles, whatever the type. -/
theorem quiet_send (t : HostType) : ∀ v : t.Value, Quiet (σ := σ) cx (send cx t v) := by
  induction t with
  | unit | bool => exact fun v => Makes.pure _ rfl
  | int | bigInt | float32 | float64 | string | char | bytes => exact fun v => quiet_request _ (by rfl)
  | option t ih =>
      intro v
      match v with
      | some x => exact ih x
      | none => exact Makes.pure _ rfl
  | list t ih => exact fun xs => (quiet_sendAll ih xs).bind fun rs => quiet_request _ (by rfl)
  | pair a b iha ihb =>
      rintro ⟨x, y⟩
      refine (iha x).bind fun r => ?_
      exact (ihb y).bind fun s => quiet_request _ (by rfl)
  | triple a b c iha ihb ihc =>
      rintro ⟨x, y, z⟩
      refine (iha x).bind fun r => ?_
      refine (ihb y).bind fun s => ?_
      exact (ihc z).bind fun u => quiet_request _ (by rfl)
  | map kind k v ihk ihv =>
      intro es
      refine (quiet_request _ (by rfl)).bind fun d => ?_
      exact (quiet_sendEntries ihk ihv d es).bind fun _ => Makes.pure _ rfl
  | range =>
      rintro ⟨a, b⟩
      refine (quiet_request _ (by rfl)).bind fun start => ?_
      refine (quiet_request _ (by rfl)).bind fun stop => ?_
      exact (quiet_request _ (by rfl)).bind fun step => quiet_request _ (by rfl)
  | handle => exact fun h => quiet_bind h

theorem HostValue.quiet_send (v : HostValue) : Quiet (σ := σ) cx (v.send cx) :=
  Bridge.quiet_send v.type v.value

theorem makes_toForeign (v : HostValue) :
    Makes (σ := σ) cx (toForeign cx v) fun h => [h] := by
  refine (v.quiet_send.orError .convert).bind fun r => ?_
  exact Makes.always (Turns.acquire r)

/-! ### Reading numbers and ranges -/

theorem turns_readExact (r : Ref) : Turns (σ := σ) cx [] (readExact r) fun _ => [] := by
  unfold readExact
  refine (Turns.ask _ _ (fun _ => rfl) (by rfl)).bind' fun a => ?_
  cases a with
  | error _ => exact Turns.pure _ rfl
  | ok bits =>
      refine (Turns.ask _ _ (fun _ => rfl) (by rfl)).bind' fun f => ?_
      cases f with
      | error _ => exact Turns.pure _ rfl
      | ok f =>
          refine (Turns.ask _ _ (fun _ => rfl) (by rfl)).bind' fun same => ?_
          match same with
          | .ok true | .ok false | .error _ => exact Turns.pure _ rfl

theorem turns_shapeOf (r : Ref) : Turns (σ := σ) cx [] (shapeOf r) fun _ => [] :=
  Turns.askOr _ _ _ (by rfl)

theorem turns_readFloat64 (r : Ref) : Turns (σ := σ) cx [] (readFloat64 r) fun _ => [] := by
  refine (turns_shapeOf r).bind' fun s => ?_
  cases s with
  | int n => exact turns_readExact r
  | _ => exact Turns.pure _ rfl

theorem turns_readFloat32 (r : Ref) : Turns (σ := σ) cx [] (readFloat32 r) fun _ => [] := by
  refine (turns_readFloat64 r).bind' fun bits => ?_
  cases bits with
  | none => exact Turns.pure _ rfl
  | some bits =>
      refine (turns_shapeOf r).bind' fun s => ?_
      cases s <;> exact Turns.pure _ rfl

theorem turns_isSingle (step : Ref) : Turns (σ := σ) cx [] (isSingle step) fun _ => [] := by
  unfold isSingle
  split
  · exact Turns.pure _ rfl
  · exact (Turns.askOr _ _ _ (by rfl)).bind' fun n => Turns.pure _ rfl

theorem turns_readStart (start : Ref) : Turns (σ := σ) cx [] (readStart start) fun _ => [] := by
  unfold readStart
  split
  · exact Turns.pure _ rfl
  · exact Turns.askOr _ _ _ (by rfl)

theorem turns_readRange (r : Ref) : Turns (σ := σ) cx [] (readRange r) fun _ => [] := by
  refine (turns_shapeOf r).bind' fun s => ?_
  cases s with
  | range start stop step =>
      dsimp only
      split <;> exact Turns.pure _ rfl
  | slice start stop step =>
      refine (turns_isSingle step).bind' fun single => ?_
      cases single with
      | false => exact Turns.pure _ rfl
      | true =>
          refine (turns_readStart start).bind' fun a => ?_
          cases a with
          | none => exact Turns.pure _ rfl
          | some a => exact (Turns.askOr _ _ _ (by rfl)).bind' fun b => Turns.pure _ rfl
  | _ => exact Turns.pure _ rfl

/-! ### Reading part by part -/

section

variable {α β : Type} {made : α → List Handle} {made' : β → List Handle}

theorem makes_unfit : Makes (σ := σ) cx (unfit : Reading σ α) made := Turns.failed () rfl

theorem makes_fits {x : StateM (World σ) (Option α)} (hx : Turns cx [] x fun _ => [])
    (h : ∀ a, made a = []) : Makes cx (fits x) made := by
  refine Turns.meanwhile hx fun a => ?_
  cases a with
  | some a => exact Makes.pure a (h a)
  | none => exact makes_unfit

/-- What follows an ending, where a reading that stops early first discards something. -/
def afterReading (d : StateM (World σ) Unit) : Except (Stop Unit) α → Reading σ α
  | .ok a => pure a
  | .error e => do
    always d
    throw e

omit [GuestState σ] in
theorem run_discarding (d : StateM (World σ) Unit) (x : Reading σ α) :
    (discarding d x).run = x.run >>= fun r => (afterReading d r).run := by
  change ExceptT.run (ExceptT.tryCatch x _) = _
  rw [ExceptT.tryCatch, ExceptT.run_mk]
  congr 1
  funext r
  cases r <;> rfl

/-- Where reading stops early, what was read before is discarded. -/
theorem turns_discarding {us : List Handle} {d : StateM (World σ) Unit} {x : Reading σ α}
    (hd : Turns cx us d fun _ => []) (hx : Makes cx x made) :
    Turns cx us (discarding d x).run (leaves (fun a => us ++ made a) []) := by
  have held := hx.frame us
  have discarded : Turns cx us (always d : Reading σ Unit).run (leaves (fun _ => []) []) :=
    Turns.always hd
  rw [List.append_nil] at held
  rw [run_discarding]
  refine held.bind fun r => ?_
  match r with
  | .ok a => exact Turns.ok a rfl
  | .error (.failed ()) =>
      simp only [leaves, HasHandles.handles, List.append_nil]
      exact discarded.andThen fun _ => Turns.failed () rfl
  | .error (.panicked message) =>
      simp only [leaves, List.append_nil]
      exact discarded.andThen fun _ => Turns.panicked message

/-- Two things read in order. -/
theorem makes_both {x : Reading σ α} {y : Reading σ β} {discard : α → StateM (World σ) Unit}
    (hx : Makes cx x made)
    (hd : ∀ a, (∀ h ∈ made a, h.session = cx.session) → Turns cx (made a) (discard a) fun _ => [])
    (hy : Makes cx y made') :
    Makes cx (do
      let a ← x
      let b ← discarding (discard a) y
      return (a, b)) fun (a, b) => made a ++ made' b := by
  refine hx.hold fun a own => ?_
  exact (turns_discarding (hd a own) hy).andThen fun b => Turns.ok _ rfl

/-- Objects read in order leave the handles of what was read. -/
theorem makes_readAll {read : Ref → Reading σ α} {discard : α → StateM (World σ) Unit}
    (hr : ∀ r, Makes cx (read r) made)
    (hd : ∀ x, (∀ h ∈ made x, h.session = cx.session) → Turns cx (made x) (discard x) fun _ => [])
    (rs : List Ref) : Makes cx (readAll read discard rs) fun xs => xs.flatMap made := by
  induction rs with
  | nil => exact Makes.pure _ rfl
  | cons r rs ih =>
      refine (hr r).hold fun x own => ?_
      exact (turns_discarding (hd x own) ih).andThen fun xs => Turns.ok _ rfl

theorem turns_entriesNow (dict : Ref) : Turns (σ := σ) cx [] (entriesNow dict) fun _ => [] := by
  refine (turns_shapeOf dict).bind' fun s => ?_
  cases s <;> exact Turns.pure _ rfl

/-- Entries read in order leave the handles of what was read, each key's before its value's. -/
theorem makes_readEntries {readKey : Ref → Reading σ α} {readValue : Ref → Reading σ β}
    {discardKey : α → StateM (World σ) Unit} {discardVal : β → StateM (World σ) Unit}
    (hk : ∀ r, Makes cx (readKey r) made) (hv : ∀ r, Makes cx (readValue r) made')
    (hdk : ∀ x, (∀ h ∈ made x, h.session = cx.session) →
      Turns cx (made x) (discardKey x) fun _ => [])
    (hdv : ∀ y, (∀ h ∈ made' y, h.session = cx.session) →
      Turns cx (made' y) (discardVal y) fun _ => [])
    (dict : Ref) (size left : Nat) (last : Option Nat) :
    Makes cx (readEntries readKey readValue discardKey discardVal dict size left last)
      fun es => es.flatMap fun (x, y) => made x ++ made' y := by
  induction left generalizing last with
  | zero =>
      unfold readEntries
      refine Turns.meanwhile (turns_entriesNow dict) fun es => ?_
      split <;> exact Makes.panicked _
  | succ left ih =>
      unfold readEntries
      refine Turns.meanwhile (turns_entriesNow dict) fun es => ?_
      split
      · exact Makes.panicked _
      · generalize es.find? _ = found
        match found with
        | none => exact Turns.pure _ rfl
        | some (place, k, v) =>
          refine (hk k).hold fun x ownX => ?_
          refine (turns_discarding (hdk x ownX) (hv v)).holdThen ownX fun y own => ?_
          have ownY : ∀ h ∈ made' y, h.session = cx.session := fun h hh =>
            own h (List.mem_append_right _ hh)
          have discardBoth : Turns cx (made x ++ made' y)
              (do discardKey x; discardVal y) fun _ => [] := by
            refine Turns.bind ?_ fun _ => hdv y ownY
            exact ((hdk x ownX).beside (made' y))
          exact (turns_discarding discardBoth (ih (some place))).andThen fun rest => Turns.ok _ rfl

end

/-! ### Reading maps -/

section

variable {α β : Type} (keyHandles : α → List Handle) (valueHandles : β → List Handle)

/-- Adding an entry adds no other handles than the entry's. -/
theorem count_addEntry (h : Handle) (same : α → α → Bool) (x : α) (y : β) (es : List (α × β)) :
    ((HostType.addEntry same x y es).flatMap fun (a, b) =>
        keyHandles a ++ valueHandles b).count h ≤
      (es.flatMap fun (a, b) => keyHandles a ++ valueHandles b).count h +
        (keyHandles x ++ valueHandles y).count h := by
  induction es with
  | nil => simp [HostType.addEntry]
  | cons e es ih =>
      rw [HostType.addEntry]
      split
      · simp only [List.flatMap_cons, List.count_append]
        omega
      · simp only [List.flatMap_cons, List.count_append] at ih ⊢
        omega

theorem count_addEntries (h : Handle) (same : α → α → Bool) (es acc : List (α × β)) :
    ((es.foldl (fun acc (x, y) => HostType.addEntry same x y acc) acc).flatMap fun (a, b) =>
        keyHandles a ++ valueHandles b).count h ≤
      (acc.flatMap fun (a, b) => keyHandles a ++ valueHandles b).count h +
        (es.flatMap fun (a, b) => keyHandles a ++ valueHandles b).count h := by
  induction es generalizing acc with
  | nil => simp
  | cons e es ih =>
      obtain ⟨x, y⟩ := e
      have added := count_addEntry keyHandles valueHandles h same x y acc
      have rest := ih (HostType.addEntry same x y acc)
      simp only [List.flatMap_cons, List.count_append, List.foldl_cons] at added rest ⊢
      omega

end

/-- The entries of a map that is collected hold no other handles than what was collected. -/
theorem subperm_collectEntries (kind : MapKind) (k v : HostType) (es : List (k.Value × v.Value)) :
    ((HostType.map kind k v).handles (HostType.collectEntries kind k es)).Subperm
      ((HostType.map kind k v).handles es) := by
  refine List.subperm_ext_iff.mpr fun h _ => ?_
  have counted := count_addEntries k.handles v.handles h
    (fun a b => k.compareValues a b == .eq) es []
  rw [List.flatMap_nil, List.count_nil, Nat.zero_add] at counted
  cases kind with
  | hashed | indexed => exact counted
  | sorted =>
      have sorted := (List.mergeSort_perm (es.foldl (fun acc e =>
        HostType.addEntry (fun a b => k.compareValues a b == .eq) e.1 e.2 acc) [])
        fun a b => k.compareValues a.1 b.1 != .gt).flatMap_right fun e =>
          k.handles e.1 ++ v.handles e.2
      exact Nat.le_trans (Nat.le_of_eq (sorted.count_eq h)) counted

theorem turns_collectRead (kind : MapKind) (k v : HostType) (es : List (k.Value × v.Value))
    (own : ∀ h ∈ (HostType.map kind k v).handles es, h.session = cx.session) :
    Turns (σ := σ) cx ((HostType.map kind k v).handles es) (collectRead cx kind k v es)
      (HostType.map kind k v).handles := by
  intro w hs
  have fewer := subperm_collectEntries kind k v es
  change Moves cx w _ (w.releaseAll _ (List.foldl List.erase _ _)) _
  rw [← List.diff_eq_foldl]
  generalize (HostType.map kind k v).handles es = all at own fewer ⊢
  have split : (all ++ hs).Perm
      (all.diff ((HostType.map kind k v).handles (HostType.collectEntries kind k es)) ++
        ((HostType.map kind k v).handles (HostType.collectEntries kind k es) ++ hs)) := by
    rw [← List.append_assoc]
    refine List.Perm.append_right hs ?_
    exact ((List.subperm_append_diff_self_of_count_le fun h _ => fewer.count_le h).symm).trans
      List.perm_append_comm
  refine (Moves.perm w split).trans (Moves.giveAll w _ _ fun h hh => own h ?_)
  exact (List.diff_subset all _) hh

/-! ### Reading values -/

theorem turns_discardValue (t : HostType) (v : t.Value)
    (own : ∀ h ∈ t.handles v, h.session = cx.session) :
    Turns (σ := σ) cx (t.handles v) (discardValue cx t v) fun _ => [] :=
  Turns.releaseAll own

/-- **Reading leaves the handles of the value**, and none where the object does not fit. -/
theorem makes_receive (t : HostType) (r : Ref) :
    Makes (σ := σ) cx (receive cx t r) t.handles := by
  induction t generalizing r with
  | unit =>
      rw [receive]
      generalize (r == Guest.noneRef) = isNone
      cases isNone with
      | true => exact Makes.pure _ rfl
      | false => exact makes_unfit
  | bool =>
      refine Turns.meanwhile (turns_shapeOf r) fun s => ?_
      cases s with
      | bool b => exact Makes.pure _ rfl
      | _ => exact makes_unfit
  | int k =>
      refine Turns.meanwhile (turns_shapeOf r) fun s => ?_
      cases s with
      | int n => exact makes_fits (Turns.pure _ rfl) fun _ => rfl
      | _ => exact makes_unfit
  | bigInt =>
      refine Turns.meanwhile (turns_shapeOf r) fun s => ?_
      cases s with
      | int n => exact Makes.pure _ rfl
      | _ => exact makes_unfit
  | float32 => exact makes_fits (turns_readFloat32 r) fun _ => rfl
  | float64 =>
      refine makes_fits ?_ fun _ => rfl
      exact (turns_readFloat64 r).bind' fun bits => Turns.pure _ rfl
  | string =>
      refine Turns.meanwhile (turns_shapeOf r) fun s => ?_
      cases s with
      | text t => exact makes_fits (Turns.pure _ rfl) fun _ => rfl
      | _ => exact makes_unfit
  | char =>
      refine Turns.meanwhile (turns_shapeOf r) fun s => ?_
      cases s with
      | text t =>
          dsimp only
          generalize t.toString?.map String.toList = cs
          match cs with
          | some [c] => exact Makes.pure _ rfl
          | none | some [] | some (_ :: _ :: _) => exact makes_unfit
      | _ => exact makes_unfit
  | bytes =>
      refine Turns.meanwhile (turns_shapeOf r) fun s => ?_
      cases s with
      | bytes bs => exact Makes.pure _ rfl
      | _ => exact makes_unfit
  | option t ih =>
      rw [receive]
      generalize (r == Guest.noneRef) = isNone
      cases isNone with
      | true => exact Makes.pure _ rfl
      | false => exact (ih r).hold fun x _ => Turns.ok _ rfl
  | list t ih =>
      refine Turns.meanwhile (turns_shapeOf r) fun s => ?_
      cases s with
      | sequence items => exact makes_readAll ih (turns_discardValue t) items
      | _ => exact makes_unfit
  | pair a b iha ihb =>
      refine Turns.meanwhile (turns_shapeOf r) fun s => ?_
      cases s with
      | sequence items =>
          match items with
          | [x, y] => exact makes_both (iha x) (turns_discardValue a) (ihb y)
          | [] | [_] | _ :: _ :: _ :: _ => exact makes_unfit
      | _ => exact makes_unfit
  | triple a b c iha ihb ihc =>
      refine Turns.meanwhile (turns_shapeOf r) fun s => ?_
      cases s with
      | sequence items =>
          match items with
          | [x, y, z] =>
              refine (iha x).hold fun u own => ?_
              have rest := makes_both (ihb y) (turns_discardValue b) (ihc z)
              exact (turns_discarding (turns_discardValue a u own) rest).andThen fun (v, w) =>
                Turns.ok _ (List.append_assoc _ _ _)
          | [] | [_] | [_, _] | _ :: _ :: _ :: _ :: _ => exact makes_unfit
      | _ => exact makes_unfit
  | map kind k v ihk ihv =>
      refine Turns.meanwhile (turns_shapeOf r) fun s => ?_
      cases s with
      | dict es =>
          refine Makes.hold (makes_readEntries ihk ihv (turns_discardValue k)
            (turns_discardValue v) r _ _ none) fun read own => ?_
          exact Turns.always (turns_collectRead kind k v read own)
      | _ => exact makes_unfit
  | range => exact makes_fits (turns_readRange r) fun _ => rfl
  | handle => exact Makes.always (Turns.acquire r)

/-- Extracting a value leaves its handles; the handle that is read stays as it is. -/
theorem makes_extract {ε : Type} [HasHandles ε] (h : Handle) (t : HostType) :
    Makes (σ := σ) (ε := ε) cx (h.extract cx t) fun v => v.elim [] t.handles := by
  refine (quiet_bind h).bind fun r => ?_
  refine Makes.hold (Makes.always (makes_receive t r)) fun read _ => ?_
  match read with
  | .ok v => exact Turns.ok _ rfl
  | .error (.failed ()) => exact Turns.ok _ rfl
  | .error (.panicked message) => exact Turns.panicked message

end GuestBridge.Bridge
