import GuestBridge.Proofs.Process.Jobs
import GuestBridge.Proofs.Requests.Departure

/-!
# What Steps Do to the Claim and to the Guest

A session takes the claim, enters the guest, and gives the claim back; everything between is inner
steps. Most of these are aside: they change neither the claim nor the guest nor what sessions live
on, and no owner enters or leaves the guest in them. The two others are an operation of a job and
the step in which a session leaves the guest. `inner_step` is the inversion by which everything
about the claim and about the guest's own state is proved.

## Main results

* `Moves.base` — no job changes what its session lives on, apart from the modules it remembers.
* `inner_step` — what the steps between the start and the end of sessions do.
-/

namespace GuestBridge.Bridge

open Guest (Ref)

variable {σ : Type}

/-- What a session lives on, without the modules that its jobs have loaded. -/
def Runtime.base (rt : Runtime) : Runtime := { rt with modules := [] }

/-- What a session lives on, without its modules. -/
def World.base (w : World σ) (s : SessionId) : Option Runtime :=
  (w.session s).runtime.map Runtime.base

theorem World.base_of_books {w w' : World σ}
    (books : w'.sessions.map SessionState.books = w.sessions.map SessionState.books)
    (s : SessionId) : w'.base s = w.base s :=
  congrArg (fun b => b.2.2.map Runtime.base) (World.books_session books s)

theorem World.base_of_runtime {w w' : World σ} {s : SessionId}
    (same : (w'.session s).runtime = (w.session s).runtime) : w'.base s = w.base s :=
  congrArg (Option.map Runtime.base) same

theorem World.guest_reclaim (w : World σ) (s : SessionId) : (w.reclaim s).guest = w.guest := by
  have drained : (w.drain s).2.guest = w.guest := by
    unfold World.drain
    split
    · exact (dropAll_elsewhere _ w).1
    · rfl
  unfold World.reclaim
  dsimp only
  split <;> exact drained

theorem World.runtime_reclaim (w : World σ) (s u : SessionId) :
    ((w.reclaim s).session u).runtime = (w.session u).runtime := by
  rw [World.session_reclaim]
  exact w.runtime_modifySession s u fun _ => rfl

/-- Remembering a module changes the modules alone. -/
theorem base_remember (cx : Context) (name : String) (m : Ref) (w : World σ) (u : SessionId) :
    (rememberModule cx name m w).2.base u = w.base u := by
  have put (w' : World σ) (rt : Runtime) (runtime : (w'.session cx.session).runtime = some rt)
      (modules : List (String × Ref)) :
      (w'.modifySession cx.session fun st =>
        { st with runtime := some { rt with modules } }).base u = w'.base u := by
    by_cases hu : cx.session = u
    · subst hu
      rw [World.base, World.session_modifySession _ _ _ (lt_of_runtime runtime), World.base, runtime]
      rfl
    · rw [World.base, World.session_modifySession_ne _ _ hu, World.base]
  dsimp only [rememberModule]
  cases hr : ((w.hold m).session cx.session).runtime with
  | none => rfl
  | some rt =>
      dsimp only
      cases rt.modules.lookup name with
      | none => exact put (w.hold m) rt hr _
      | some old => exact put ((w.hold m).drop old) rt hr _

/-- **No job changes what its session lives on**, apart from the modules. -/
theorem Moves.base [GuestState σ] {cx : Context} {w w' : World σ} {hs hs' : List Handle}
    (m : Moves cx w hs w' hs') (u : SessionId) : w'.base u = w.base u := by
  induction m with
  | ask w hs r plain => exact World.base_of_books (w.books_ask r) u
  | note w hs level message fields h => rfl
  | take w hs r =>
      exact World.base_of_runtime ((w.hold r).runtime_modifySession cx.session u fun _ => rfl)
  | give w h hs own => exact World.base_of_runtime (w.runtime_release _ h u)
  | tag w h hs t => rfl
  | remember w hs name m => exact base_remember cx name m w u
  | perm w p => rfl
  | trans _ _ ih₁ ih₂ => exact ih₂.trans ih₁

end GuestBridge.Bridge

namespace GuestBridge.Session

open Bridge

variable {σ J R : Type}

/-- Where an owner stands towards the guest. -/
inductive Phase
  | starting
  /-- The guest could not be entered, and the claim has yet to be given back. -/
  | failed
  /-- In the guest: it waits for jobs or has one. -/
  | inside
  /-- The guest has been left, and the claim has yet to be given back. -/
  | outside
  | gone
  deriving DecidableEq, Repr

namespace Owner

/-- Where an owner stands towards the guest. -/
def phase : Owner J → Phase
  | starting => .starting
  | failed => .failed
  | idle | taking _ _ | working _ _ => .inside
  | leaving | shut _ | left => .outside
  | gone => .gone

theorem phase_starting {owner : Owner J} : owner.phase = .starting ↔ owner = starting := by
  cases owner <;> simp [phase]

theorem phase_gone {owner : Owner J} : owner.phase = .gone ↔ owner = gone := by
  cases owner <;> simp [phase]

end Owner

theorem phase_prepared (c : Control J R) (reason : Option String) :
    (c.prepared reason).owner.phase = reason.elim .inside fun _ => .failed := by
  cases reason <;> rfl

/-- Whether a step neither claims the guest, nor enters it, nor gives the claim back. -/
def Action.isInner : Action J R → Bool
  | claim _ | prepare _ | abort _ | surrender _ => false
  | _ => true

namespace Process

/-- Where the owner of a session stands towards the guest. -/
def phase (p : Process σ J R) (s : SessionId) : Phase := (p.owner s).phase

/-- A step that leaves the claim and the guest alone, and in which no owner starts, enters or leaves
the guest, or comes to its end. -/
structure Aside (p p' : Process σ J R) : Prop where
  claimed : p'.system.claimed = p.system.claimed
  length : p'.system.controls.length = p.system.controls.length
  config : ∀ u, (p'.system.control u).config = (p.system.control u).config
  phase : ∀ u, p'.phase u = p.phase u
  guest : p'.system.world.guest = p.system.world.guest
  runtime : ∀ u, (p'.system.world.session u).runtime = (p.system.world.session u).runtime

variable {p p' : Process σ J R} {s : SessionId}

theorem Aside.base (aside : p.Aside p') (u : SessionId) :
    p'.system.world.base u = p.system.world.base u :=
  World.base_of_runtime (aside.runtime u)

theorem Aside.refl (p : Process σ J R) : p.Aside p :=
  ⟨rfl, rfl, fun _ => rfl, fun _ => rfl, rfl, fun _ => rfl⟩

/-- The phases after a step at one session. -/
theorem phase_of_modify {f : Control J R → Control J R}
    (controls : p'.system.controls = p.system.controls.modify s f) (u : SessionId) :
    p'.phase u = if u = s ∧ s < p.system.controls.length then (f (p.system.control s)).owner.phase
      else p.phase u := by
  rw [phase, owner]
  rcases System.control_of_modify controls u with ⟨other, same⟩ | ⟨own, lt, changed⟩
  · rw [same, if_neg fun h => other h.2 h.1]
    rfl
  · rw [changed, if_pos ⟨own, lt⟩]

/-- A step of one owner within its phase, or a change of its queue. -/
theorem Aside.at {f : Control J R → Control J R}
    (controls : p'.system.controls = p.system.controls.modify s f)
    (config : (f (p.system.control s)).config = (p.system.control s).config)
    (phase : (f (p.system.control s)).owner.phase = p.phase s)
    (claimed : p'.system.claimed = p.system.claimed)
    (guest : p'.system.world.guest = p.system.world.guest)
    (runtime : ∀ u, (p'.system.world.session u).runtime = (p.system.world.session u).runtime) :
    p.Aside p' where
  claimed := claimed
  length := by rw [controls, List.length_modify]
  config u := by
    rcases System.control_of_modify controls u with ⟨-, same⟩ | ⟨own, -, changed⟩
    · rw [same]
    · rw [changed, own, config]
  phase u := by
    rw [phase_of_modify controls]
    split
    · rename_i own
      rw [own.1, phase]
    · rfl
  guest := guest
  runtime := runtime

/-- A step that changes neither queues nor owners. -/
theorem Aside.world (controls : p'.system.controls = p.system.controls)
    (claimed : p'.system.claimed = p.system.claimed)
    (guest : p'.system.world.guest = p.system.world.guest)
    (runtime : ∀ u, (p'.system.world.session u).runtime = (p.system.world.session u).runtime) :
    p.Aside p' :=
  .at (s := 0) (f := id) (by rw [controls, List.modify_id]) rfl rfl claimed guest runtime

/-! ### Giving the claim back -/

/-- A session gives the claim back: its owner, which stood at `before`, is gone. -/
structure GivesBack (p p' : Process σ J R) (s : SessionId) (before : Phase) : Prop where
  here : p.phase s = before
  /-- No owner gives the claim back in the guest. -/
  apart : before ≠ .gone ∧ before ≠ .inside
  controls : ∃ f : Control J R → Control J R,
    (∀ c, (f c).owner = .gone ∧ (f c).config = c.config) ∧
      p'.system.controls = p.system.controls.modify s f
  claimed : p'.system.claimed = false
  world : p'.system.world = p.system.world

theorem givesBack_withdraw (starting : p.owner s = .starting) :
    p.GivesBack (p.act (p.system.withdraw s)) s .starting := by
  have owner : (p.system.control s).owner = .starting := starting
  rw [System.withdraw, owner]
  exact ⟨congrArg Owner.phase starting, by simp,
    ⟨fun c => { c with owner := .gone, accepting := false }, fun _ => ⟨rfl, rfl⟩, rfl⟩, rfl, rfl⟩

/-- After a start that failed, or when all is done. -/
theorem givesBack_last
    (last : p.owner s = .failed ∧ p' = p.act (p.system.abort s) ∨
      p.owner s = .left ∧ p' = p.act (p.system.surrender s)) :
    ∃ before, (before = .failed ∨ before = .outside) ∧ (before = .outside → p.owner s = .left) ∧
      p.GivesBack p' s before := by
  rcases last with ⟨failed, rfl⟩ | ⟨left, rfl⟩
  · have owner : (p.system.control s).owner = .failed := failed
    refine ⟨.failed, .inl rfl, fun h => (by cases h), ?_⟩
    rw [System.abort, owner]
    exact ⟨congrArg Owner.phase failed, by simp,
      ⟨fun c => { c with owner := .gone }, fun _ => ⟨rfl, rfl⟩, rfl⟩, rfl, rfl⟩
  · have owner : (p.system.control s).owner = .left := left
    refine ⟨.outside, .inr rfl, fun _ => left, ?_⟩
    rw [System.surrender, owner]
    exact ⟨congrArg Owner.phase left, by simp,
      ⟨fun c => { c with owner := .gone }, fun _ => ⟨rfl, rfl⟩, rfl⟩, rfl, rfl⟩

namespace GivesBack

variable {before : Phase}

theorem length (g : p.GivesBack p' s before) :
    p'.system.controls.length = p.system.controls.length := by
  obtain ⟨f, -, controls⟩ := g.controls
  rw [controls, List.length_modify]

theorem config (g : p.GivesBack p' s before) (u : SessionId) :
    (p'.system.control u).config = (p.system.control u).config := by
  obtain ⟨f, same, controls⟩ := g.controls
  rcases System.control_of_modify controls u with ⟨-, unchanged⟩ | ⟨rfl, -, changed⟩
  · rw [unchanged]
  · rw [changed, (same _).2]

/-- The owner is gone, and all others stand where they did. -/
theorem phase (g : p.GivesBack p' s before) (u : SessionId) :
    p'.phase u = if u = s then .gone else p.phase u := by
  obtain ⟨f, gone, controls⟩ := g.controls
  have known : s < p.system.controls.length :=
    System.lt_of_owner fun h => g.apart.1 (g.here.symm.trans (congrArg Owner.phase h))
  rw [phase_of_modify controls, (gone _).1]
  by_cases own : u = s
  · rw [if_pos ⟨own, known⟩, if_pos own]
    rfl
  · rw [if_neg fun h => own h.1, if_neg own]

end GivesBack

/-! ### Steps between the start and the end -/

/-- What the steps do that neither claim the guest, nor enter it, nor give the claim back. -/
inductive Inner [GuestState σ] (p : Process σ J R) (a : Action J R) (p' : Process σ J R) : Prop
  | aside (aside : p.Aside p')
  | operates (s : SessionId) (ticket : Nat) (job : J) (op : Operation) (action : a = .operate s op)
      (working : p.owner s = .working ticket job)
      (system : p'.system = { p.system with world := (op.run ⟨s⟩ p.system.world).2 })
  | leaves (s : SessionId) (idle : p.owner s = .idle) (queue : (p.system.control s).queue = [])
      (closed : p.system.isRunning s = false)
      (system : p'.system = { p.system with world := (leaveGuest s p.system.world).2 }.modifyControl
        s fun c => { c with owner := .leaving })

variable [GuestState σ]

theorem inner_leave (s : SessionId) : p.Inner (.leave s) (p.act (p.system.leave s)) := by
  unfold System.leave
  dsimp only
  split
  · rename_i idle queue closed
    exact .leaves s idle queue closed rfl
  · exact .aside (.refl p)

theorem inner_operate (s : SessionId) (op : Operation) :
    p.Inner (.operate s op) (p.operate s op) := by
  unfold Process.operate
  split
  · rename_i ticket job working
    split
    · exact .operates s ticket job op rfl working rfl
    · exact .aside (.refl p)
  · exact .aside (.refl p)

omit [GuestState σ]

theorem aside_submit (t : Thread) (s : SessionId) (job : J) : p.Aside (p.submit t s job) := by
  unfold Process.submit System.submit
  split
  · by_cases reentrant : t = .owner s
    · rw [if_pos reentrant]
      exact .refl p
    · rw [if_neg reentrant]
      split
      · rename_i ticket system h
        split at h
        · cases h
          exact .at (s := s) rfl rfl rfl rfl rfl fun _ => rfl
        · cases h
      · exact .refl p
  · exact .refl p

theorem aside_close (t : Thread) (s : SessionId) : p.Aside (p.close t s) := by
  unfold Process.close System.close
  split
  · by_cases reentrant : t = .owner s
    · rw [if_pos reentrant]
      exact .refl p
    · rw [if_neg reentrant]
      exact .at (s := s) (f := fun c => { c with accepting := false }) rfl rfl rfl rfl rfl fun _ => rfl
  · exact .refl p

theorem aside_closeFromJob (s : SessionId) : p.Aside (p.closeFromJob s) := by
  unfold Process.closeFromJob System.closeFromJob
  split
  · dsimp only
    split <;>
      exact .at (s := s) (f := fun c => { c with accepting := false }) rfl rfl rfl rfl rfl fun _ => rfl
  · exact .refl p

theorem aside_receive (s : SessionId) : p.Aside (p.act (p.system.receive s)) := by
  unfold System.receive
  dsimp only
  split
  · rename_i ticket job rest idle queue
    refine .at (s := s) (f := fun c => { c with owner := .taking ticket job, queue := rest }) rfl rfl
      ?_ rfl rfl fun _ => rfl
    rw [phase, owner, idle]
    rfl
  · exact .refl p

theorem aside_begin (s : SessionId) : p.Aside (p.begin s) := by
  unfold Process.begin System.begin
  split
  · rename_i ticket job job' system taking h
    have owner : (p.system.control s).owner = .taking ticket job := taking
    rw [owner] at h
    cases h
    refine .at (s := s) (f := fun c => { c with owner := .working ticket job }) rfl rfl ?_ rfl ?_ ?_
    · rw [phase, taking]
      rfl
    · exact World.guest_reclaim p.system.world s
    · exact fun u => World.runtime_reclaim p.system.world s u
  · exact .refl p

theorem aside_release (t : Thread) (h : Handle) : p.Aside (p.release t h) := by
  unfold Process.release
  split
  · exact .world rfl rfl rfl fun u =>
      World.runtime_modifySession p.system.world h.session u fun _ => rfl
  · exact .refl p

theorem aside_advance (i : Nat) : p.Aside (p.advance i) := by
  unfold Process.advance
  dsimp only
  split
  · exact .refl p
  · rename_i r hr
    split
    · split
      · exact .world rfl rfl rfl fun _ => rfl
      · split
        · rename_i world hp
          obtain ⟨rs, -, rfl⟩ := Option.map_eq_some_iff.mp hp
          exact .world rfl rfl rfl fun u =>
            World.runtime_modifySession p.system.world r.handle.session u fun _ => rfl
        · exact .world rfl rfl rfl fun _ => rfl
    · exact .world rfl rfl rfl fun _ => rfl
    · exact .refl p

theorem aside_shut (s : SessionId) : p.Aside (p.shut s) := by
  unfold Process.shut System.shut
  dsimp only
  split
  · rename_i system h
    split at h
    · rename_i leaving
      cases h
      refine .at (s := s) (f := fun c => { c with owner := .shut (p.system.world.closeParked s).1 })
        rfl rfl ?_ rfl rfl fun u => World.runtime_modifySession p.system.world s u fun _ => rfl
      rw [phase, owner, leaving]
      rfl
    · cases h
  · exact .refl p

theorem aside_giveBack (s : SessionId) : p.Aside (p.giveBack s) := by
  unfold Process.giveBack System.giveBack
  split
  · rename_i rest system closed h
    have owner : (p.system.control s).owner = .shut rest := closed
    rw [owner] at h
    cases h
    refine .at (s := s) (f := fun c => { c with owner := .left }) rfl rfl ?_ rfl ?_ fun u => ?_
    · rw [phase, closed]
      rfl
    · exact (dropAll_elsewhere rest p.system.world).1
    · exact congrArg SessionState.runtime (p.system.world.session_dropAll rest u)
  · exact .refl p

section

variable [HasHandles R]

theorem aside_finish (s : SessionId) (e : Ending R) : p.Aside (p.finish s e) := by
  unfold Process.finish System.finish
  split
  · split
    · rename_i ticket job unwanted system working h
      have owner : (p.system.control s).owner = .working ticket job := working
      rw [owner] at h
      cases h
      refine .at (s := s) rfl rfl ?_ rfl ?_ fun u => ?_
      · rw [phase, working]
        rfl
      · cases e <;> rfl
      · cases e <;> rfl
    · exact .refl p
  · exact .refl p

theorem aside_collect (s : SessionId) (ticket : Nat) : p.Aside (p.collect s ticket) := by
  unfold Process.collect
  split
  · rename_i e system h
    obtain ⟨-, rfl⟩ := collect_eq_some h
    exact .at (s := s) rfl rfl rfl rfl rfl fun _ => rfl
  · exact .refl p

theorem aside_abandon (s : SessionId) (ticket : Nat) : p.Aside (p.abandon s ticket) := by
  have system := p.abandon_system s ticket
  refine .at (s := s) (congrArg System.controls system) rfl rfl ?_ ?_ fun u => ?_
  all_goals rw [system]; rfl

theorem aside_timeOut (s : SessionId) (ticket : Nat) : p.Aside (p.timeOut s ticket) := by
  unfold Process.timeOut
  split
  · have abandoned := p.aside_abandon s ticket
    exact ⟨abandoned.claimed, abandoned.length, abandoned.config, abandoned.phase, abandoned.guest,
      abandoned.runtime⟩
  · exact .refl p

/-- **What the inner steps do** to the claim, to owners and to the guest. -/
theorem inner_step [GuestState σ] (p : Process σ J R) {a : Action J R} (inner : a.isInner = true) :
    p.Inner a (p.step a) := by
  cases a with
  | claim | prepare | abort | surrender => cases inner
  | operate s op => exact inner_operate s op
  | leave s => exact inner_leave s
  | submit t s job => exact .aside (aside_submit t s job)
  | close t s => exact .aside (aside_close t s)
  | closeFromJob s => exact .aside (aside_closeFromJob s)
  | receive s => exact .aside (aside_receive s)
  | begin s => exact .aside (aside_begin s)
  | finish s e => exact .aside (aside_finish s e)
  | collect s ticket => exact .aside (aside_collect s ticket)
  | timeOut s ticket => exact .aside (aside_timeOut s ticket)
  | abandon s ticket => exact .aside (aside_abandon s ticket)
  | release t h => exact .aside (aside_release t h)
  | advance i => exact .aside (aside_advance i)
  | shut s => exact .aside (aside_shut s)
  | giveBack s => exact .aside (aside_giveBack s)
  | clearOutput s =>
      exact .aside (.world rfl rfl rfl fun u => World.runtime_modifySession _ s u fun _ => rfl)

end

end Process

end GuestBridge.Session
