import GuestBridge.Bridge.Evaluate

/-!
# How Handles Come and Go

Inside a job the bridge changes the world in few ways: it asks the guest, notes a line, takes a
handle, gives one back, and remembers a module. `Moves cx w hs w' hs'` says that the world goes
from `w` to `w'` by such changes in a job of the session of `cx`, while the handles that exist go
from `hs` to `hs'`. Every operation of the bridge is shown to be such a sequence of moves, with the
handles of its outcome for those that it makes; what moves preserve is then proved once.

`Turns cx used x into` is the framed form for a computation: whatever else exists, `x` turns the
handles `used` into those that `into` names for its result. `Makes cx x made` is the case of a
computation that may stop early and starts from nothing: it leaves the handles of its value, or
those of its failure, or none after a panic.

The frame is part of the definition, so computations are put together without moving handles
around (`Turns.bind`, `Makes.bind`, `Makes.hold`).
-/

namespace GuestBridge.Bridge

open Guest (Ref Raised)

variable {σ : Type} [GuestState σ]

/-- An exception of the guest is an object of the guest; nothing of the host holds it. -/
instance : HasHandles Raised := ⟨fun _ => []⟩

instance : HasHandles Unit := ⟨fun _ => []⟩

/-! ### Moves -/

/-- The session whose sink a request makes. -/
def Request.sinkOf? {α : Type} : Request α → Option SessionId
  | newSink s => some s
  | _ => none

/-- Changes of the world inside a job, with the handles that exist before and after. -/
inductive Moves (cx : Context) : World σ → List Handle → World σ → List Handle → Prop
  /-- Jobs ask for anything but sinks. -/
  | ask {α : Type} (w : World σ) (hs : List Handle) (r : Request α) (plain : r.sinkOf? = none) :
      Moves cx w hs (w.ask r).2 hs
  /-- Only owners note how much they gave back. -/
  | note (w : World σ) (hs : List Handle) (level : Level) (message : String)
      (fields : List (String × String)) (h : fields.lookup "drained" = none) :
      Moves cx w hs (w.note level message fields) hs
  | take (w : World σ) (hs : List Handle) (r : Ref) :
      Moves cx w hs (w.acquire cx.session r).2 ((w.acquire cx.session r).1 :: hs)
  | give (w : World σ) (h : Handle) (hs : List Handle) (own : h.session = cx.session) :
      Moves cx w (h :: hs) (w.release (.owner cx.session) h) hs
  /-- A handle learns the name of its object's type. -/
  | tag (w : World σ) (h : Handle) (hs : List Handle) (t : Option String) :
      Moves cx w (h :: hs) w ({ h with typeTag := t } :: hs)
  | remember (w : World σ) (hs : List Handle) (name : String) (m : Ref) :
      Moves cx w hs (rememberModule cx name m w).2 hs
  | perm (w : World σ) {hs hs' : List Handle} (p : hs.Perm hs') : Moves cx w hs w hs'
  | trans {w₁ w₂ w₃ : World σ} {hs₁ hs₂ hs₃ : List Handle} :
      Moves cx w₁ hs₁ w₂ hs₂ → Moves cx w₂ hs₂ w₃ hs₃ → Moves cx w₁ hs₁ w₃ hs₃

namespace Moves

variable {cx : Context} {w w' : World σ} {hs hs' : List Handle}

theorem refl (w : World σ) (hs : List Handle) : Moves cx w hs w hs := .perm w (.refl hs)

/-- Every handle that exists afterwards belongs to the session of the job or was there before. -/
theorem session_of_mem (m : Moves cx w hs w' hs') :
    ∀ h ∈ hs', h.session = cx.session ∨ ∃ g ∈ hs, g.session = h.session := by
  induction m with
  | ask | note | remember => exact fun h hh => .inr ⟨h, hh, rfl⟩
  | take w hs r =>
      intro h hh
      rcases List.mem_cons.mp hh with rfl | hh
      · exact .inl rfl
      · exact .inr ⟨h, hh, rfl⟩
  | give w g hs own => exact fun h hh => .inr ⟨h, List.mem_cons_of_mem _ hh, rfl⟩
  | tag w g hs t =>
      intro h hh
      rcases List.mem_cons.mp hh with rfl | hh
      · exact .inr ⟨g, List.mem_cons_self, rfl⟩
      · exact .inr ⟨h, List.mem_cons_of_mem _ hh, rfl⟩
  | perm w p => exact fun h hh => .inr ⟨h, p.mem_iff.mpr hh, rfl⟩
  | trans _ _ ih₁ ih₂ =>
      intro h hh
      rcases ih₂ h hh with own | ⟨g, hg, hs⟩
      · exact .inl own
      · rcases ih₁ g hg with own | ⟨k, hk, hs'⟩
        · exact .inl (hs ▸ own)
        · exact .inr ⟨k, hk, hs'.trans hs⟩

/-- Giving back several handles of the session, one after the other. -/
theorem giveAll (w : World σ) (gs hs : List Handle) (own : ∀ h ∈ gs, h.session = cx.session) :
    Moves cx w (gs ++ hs) (w.releaseAll (.owner cx.session) gs) hs := by
  induction gs generalizing w with
  | nil => exact refl w hs
  | cons g gs ih =>
      have hg : Moves cx w (g :: (gs ++ hs)) (w.release (.owner cx.session) g) (gs ++ hs) :=
        .give w g _ (own g List.mem_cons_self)
      exact hg.trans (ih _ fun h hh => own h (List.mem_cons_of_mem _ hh))

end Moves

/-! ### Computations -/

/-- Whatever else exists, `x` turns the handles `used` into those that `into` names for its
result. -/
def Turns {α : Type} (cx : Context) (used : List Handle) (x : StateM (World σ) α)
    (into : α → List Handle) : Prop :=
  ∀ w hs, Moves cx w (used ++ hs) (x w).2 (into (x w).1 ++ hs)

namespace Turns

variable {cx : Context} {α β : Type} {used : List Handle} {x : StateM (World σ) α}
  {f : α → StateM (World σ) β} {into : α → List Handle} {into' : β → List Handle}

theorem pure (a : α) (h : into a = used) : Turns cx used (Pure.pure a : StateM (World σ) α) into :=
  fun w hs => h ▸ Moves.refl w (into a ++ hs)

/-- Computations one after the other: the second starts from what the first leaves. -/
theorem bind (hx : Turns cx used x into) (hf : ∀ a, Turns cx (into a) (f a) into') :
    Turns cx used (x >>= f) into' :=
  fun w hs => (hx w hs).trans (hf (x w).1 (x w).2 hs)

/-- The same where the first leaves nothing. -/
theorem bind' (hx : Turns cx [] x fun _ => []) (hf : ∀ a, Turns cx [] (f a) into') :
    Turns cx [] (x >>= f) into' :=
  hx.bind hf

theorem map {g : α → β} (hx : Turns cx used x into) (h : ∀ a, into' (g a) = into a) :
    Turns cx used (g <$> x) into' :=
  hx.bind fun a => Turns.pure _ (h a)

/-- Handles that a computation does not touch. -/
theorem frame (hx : Turns cx used x into) (kept : List Handle) :
    Turns cx (kept ++ used) x fun a => kept ++ into a := by
  intro w hs
  have before : (kept ++ used ++ hs).Perm (used ++ (kept ++ hs)) := by
    rw [List.append_assoc]
    exact List.perm_append_comm_assoc kept used hs
  have after : (into (x w).1 ++ (kept ++ hs)).Perm (kept ++ into (x w).1 ++ hs) := by
    rw [List.append_assoc]
    exact List.perm_append_comm_assoc _ _ _
  exact (Moves.perm w before).trans ((hx w (kept ++ hs)).trans (.perm _ after))

/-- The same, with the handles that are not touched at the end. -/
theorem beside (hx : Turns cx used x into) (kept : List Handle) :
    Turns cx (used ++ kept) x fun a => into a ++ kept := by
  intro w hs
  rw [List.append_assoc, List.append_assoc]
  exact hx w (kept ++ hs)

/-- Handles that a computation makes belong to the session of the job, as long as those that it
uses do. -/
theorem own (hx : Turns cx used x into) (hu : ∀ h ∈ used, h.session = cx.session) (w : World σ) :
    ∀ h ∈ into (x w).1, h.session = cx.session := by
  intro h hh
  have m := hx w []
  simp only [List.append_nil] at m
  rcases m.session_of_mem h hh with own | ⟨g, hg, same⟩
  · exact own
  · exact same ▸ hu g hg

/-- What follows a first part knows that the handles in its hands belong to the session of the
job. -/
theorem hold (hx : Turns cx used x into) (hu : ∀ h ∈ used, h.session = cx.session)
    (hf : ∀ a, (∀ h ∈ into a, h.session = cx.session) → Turns cx (into a) (f a) into') :
    Turns cx used (x >>= f) into' :=
  fun w hs => (hx w hs).trans (hf (x w).1 (hx.own hu w) (x w).2 hs)

/-! #### The ways to change the world -/

/-- Looking at the world changes nothing. -/
theorem look (h : ∀ w, (x w).2 = w) : Turns cx used x fun _ => used :=
  fun w hs => (h w).symm ▸ Moves.refl w (used ++ hs)

theorem ask {α : Type} (r : Request α) (into : Except Raised α → List Handle)
    (h : ∀ a, into a = []) (plain : r.sinkOf? = none) :
    Turns (σ := σ) cx [] (ask? r) into := by
  intro w hs
  rw [h]
  exact Moves.ask w hs r plain

theorem askOr {α β : Type} (r : Request α) (f : α → β) (otherwise : β)
    (plain : r.sinkOf? = none) :
    Turns (σ := σ) cx [] (Bridge.askOr r f otherwise) fun _ => [] := by
  refine (ask r _ (fun _ => rfl) plain).bind' fun a => ?_
  cases a <;> exact pure _ rfl

theorem acquire (r : Ref) : Turns (σ := σ) cx [] (Bridge.acquire cx r) fun h => [h] :=
  fun w hs => .take w hs r

theorem note (level : Level) (message : String) (fields : List (String × String))
    (h : fields.lookup "drained" = none) :
    Turns (σ := σ) cx [] (Bridge.note level message fields) fun _ => [] :=
  fun w hs => .note w hs level message fields h

theorem release {h : Handle} (own : h.session = cx.session) :
    Turns (σ := σ) cx [h] (releaseIn cx h) fun _ => [] :=
  fun w hs => .give w h hs own

theorem releaseAll {gs : List Handle} (own : ∀ h ∈ gs, h.session = cx.session) :
    Turns (σ := σ) cx gs (fun w => ((), w.releaseAll (.owner cx.session) gs)) fun _ => [] :=
  fun w hs => .giveAll w gs hs own

theorem remember (name : String) (m : Ref) :
    Turns (σ := σ) cx [] (rememberModule cx name m) fun _ => [] :=
  fun w hs => .remember w hs name m

end Turns

/-! ### Computations that may stop early -/

/-- The handles that an ending leaves: those of the value, those of the failure, or those in `kept`
after a panic. -/
def leaves {ε α : Type} [HasHandles ε] (made : α → List Handle) (kept : List Handle) :
    Except (Stop ε) α → List Handle
  | .ok a => made a
  | .error (.failed e) => HasHandles.handles e
  | .error (.panicked _) => kept

/-- A computation that starts from nothing and makes the handles of its value or of its failure. -/
def Makes {ε α : Type} [HasHandles ε] (cx : Context)
    (x : ExceptT (Stop ε) (StateM (World σ)) α) (made : α → List Handle) : Prop :=
  Turns cx [] x.run (leaves made [])

/-- A computation that makes no handles but those of its failure. -/
def Quiet {ε α : Type} [HasHandles ε] (cx : Context)
    (x : ExceptT (Stop ε) (StateM (World σ)) α) : Prop :=
  Makes cx x fun _ => []

section

variable {cx : Context} {ε α β : Type} {used kept : List Handle}
  {x : ExceptT (Stop ε) (StateM (World σ)) α} {f : α → ExceptT (Stop ε) (StateM (World σ)) β}
  {made : α → List Handle} {made' : β → List Handle}

/-- A first part and what follows it. Where the first part stops early, all is over, so both
descriptions have to agree there. -/
theorem Turns.bindExcept {into : Except (Stop ε) α → List Handle}
    {into' : Except (Stop ε) β → List Handle} (hx : Turns cx used x.run into)
    (hf : ∀ a, Turns cx (into (.ok a)) (f a).run into')
    (he : ∀ e, into (.error e) = into' (.error e)) : Turns cx used (x >>= f).run into' := by
  rw [ExceptT.run_bind]
  refine hx.bind fun r => ?_
  cases r with
  | ok a => exact hf a
  | error e => exact Turns.pure _ (he e).symm

variable [HasHandles ε]

/-- A first part whose handles are in the hands of what follows. -/
theorem Turns.andThen (hx : Turns cx used x.run (leaves made kept))
    (hf : ∀ a, Turns cx (made a) (f a).run (leaves made' kept)) :
    Turns cx used (x >>= f).run (leaves made' kept) := by
  refine hx.bindExcept hf fun e => ?_
  cases e <;> rfl

/-- The same, where the handles belong to the session of the job. -/
theorem Turns.holdThen (hx : Turns cx used x.run (leaves made kept))
    (hu : ∀ h ∈ used, h.session = cx.session)
    (hf : ∀ a, (∀ h ∈ made a, h.session = cx.session) →
      Turns cx (made a) (f a).run (leaves made' kept)) :
    Turns cx used (x >>= f).run (leaves made' kept) := by
  rw [ExceptT.run_bind]
  refine Turns.hold hx hu fun r own => ?_
  cases r with
  | ok a => exact hf a own
  | error e =>
      refine Turns.pure _ ?_
      cases e <;> rfl

theorem Turns.ok (a : α) (h : made a = used) :
    Turns cx used (Pure.pure a : ExceptT (Stop ε) (StateM (World σ)) α).run (leaves made kept) :=
  Turns.pure _ h

theorem Turns.failed (e : ε) (h : HasHandles.handles e = used) :
    Turns cx used (throw (.failed e) : ExceptT (Stop ε) (StateM (World σ)) α).run
      (leaves made kept) :=
  Turns.pure _ h

theorem Turns.panicked (message : String) :
    Turns cx kept (panicWith message : ExceptT (Stop ε) (StateM (World σ)) α).run
      (leaves made kept) :=
  Turns.pure _ rfl

/-- What cannot stop early, among what can. -/
theorem Turns.always {y : StateM (World σ) α} (hy : Turns cx used y made) :
    Turns cx used (Bridge.always y : ExceptT (Stop ε) (StateM (World σ)) α).run
      (leaves made kept) :=
  hy.map fun _ => rfl

/-- Something that makes no handles is done while handles are held. -/
theorem Turns.meanwhile {y : StateM (World σ) α} (hy : Turns cx [] y fun _ => [])
    (hf : ∀ a, Turns cx used (f a).run (leaves made' kept)) :
    Turns cx used (Bridge.always y >>= f).run (leaves made' kept) := by
  have held : Turns cx used y fun _ => used := by
    simpa using hy.frame used
  intro w hs
  exact (held w hs).trans (hf (y w).1 (y w).2 hs)

namespace Makes

theorem pure (a : α) (h : made a = []) :
    Makes cx (Pure.pure a : ExceptT (Stop ε) (StateM (World σ)) α) made :=
  Turns.ok a h

theorem panicked (message : String) :
    Makes cx (panicWith message : ExceptT (Stop ε) (StateM (World σ)) α) made :=
  Turns.panicked message

theorem always {y : StateM (World σ) α} (hy : Turns cx [] y made) :
    Makes cx (Bridge.always y : ExceptT (Stop ε) (StateM (World σ)) α) made :=
  Turns.always hy

/-- A first part whose handles are in the hands of what follows. -/
theorem hold (hx : Makes cx x made)
    (hf : ∀ a, (∀ h ∈ made a, h.session = cx.session) →
      Turns cx (made a) (f a).run (leaves made' [])) : Makes cx (x >>= f) made' :=
  Turns.holdThen hx (by simp) hf

end Makes

/-- A quiet first part. -/
theorem Quiet.bind (hx : Quiet cx x) (hf : ∀ a, Makes cx (f a) made') : Makes cx (x >>= f) made' :=
  Makes.hold hx fun a _ => hf a

end

end GuestBridge.Bridge
