import GuestBridge.Proofs.Process.Books
import GuestBridge.Proofs.Process.Service
import Mathlib.Algebra.GroupWithZero.Nat

/-!
# What Steps Do to Releases

Most steps are calm: they neither set a release going nor bring one on, and no owner takes what is
parked. What a step can do to the handles that exist, the releases and the pending lists is said here
once for all calm steps (`Calm`), and for each of the five others.

## Main results

* `served_step` — a session that was handed out to the host, and whose list is closed if its owner is
  gone, stays so.
* `Phased` — the handles that exist and the releases that have begun are of such sessions.
-/

namespace GuestBridge.Session

open Bridge
open Guest (Ref)

variable {σ J R : Type}

/-- Whether an owner has taken what was parked for the last time, and still has the claim. -/
def Owner.hasShut : Owner J → Bool
  | shut _ | left => true
  | starting | failed | idle | taking _ _ | working _ _ | leaving | gone => false

/-- The stages that come after a stage. -/
def Stage.next : Stage → List Stage
  | counted => [refused, parked, dropped]
  | refused => [dropped]
  | parked => [taken, reclaimed]
  | taken => [reclaimed]
  | reclaimed | dropped => []

/-- An owner of a session that was handed out gives the claim back as the last thing. -/
theorem Turn.gone {c c' : Control J R} {es : List (Event J R)}
    (t : Turn c es c') (started : c.owner.hasStarted = true) (gone : c'.owner = .gone) :
    c.owner = .gone ∨ c.owner = .left := by
  cases t with
  | stay | accept | close | forget | answer => exact .inl gone
  | prepare starting reason =>
      rw [starting] at started
      cases started
  | abort failed =>
      rw [failed] at started
      cases started
  | receive | begin | finish | leave | shut | giveBack => cases gone
  | surrender left => exact .inr left

namespace Process

/-- Whether nothing is parked for a session any more. -/
def isShut (p : Process σ J R) (s : SessionId) : Prop :=
  (p.system.world.session s).parked = none

section

variable [HasHandles R]

/-- Handles come into being only in jobs of their sessions. -/
def Kin (p p' : Process σ J R) : Prop :=
  ∀ h ∈ p'.existing, (∃ g ∈ p.existing, g.session = h.session) ∨
    ∃ ticket job, p.owner h.session = .working ticket job

/-- A step that brings no release on, begins no job and ends no session. -/
structure Calm (p p' : Process σ J R) : Prop where
  releases : p'.releases = p.releases
  returns : p'.returns = p.returns
  reports : p'.reports = p.reports
  drained : p'.system.world.drained = p.system.world.drained
  parked : ∀ u, (p'.system.world.session u).parked = (p.system.world.session u).parked
  begins : ∀ u ticket job, p'.owner u = .working ticket job → p.owner u = .working ticket job
  shuts : ∀ u, (p'.owner u).hasShut = true → (p.owner u).hasShut = true
  kin : p.Kin p'

variable {p p' : Process σ J R} {s : SessionId}

/-- The handles are those from before. -/
theorem Kin.perm (h : p.existing.Perm p'.existing) : p.Kin p' :=
  fun g hg => .inl ⟨g, h.mem_iff.mpr hg, rfl⟩

theorem Kin.same (h : p'.existing = p.existing) : p.Kin p' := .perm (.of_eq h.symm)

/-! ### Calm steps -/

theorem Calm.refl (p : Process σ J R) : p.Calm p :=
  ⟨rfl, rfl, rfl, rfl, fun _ => rfl, fun _ _ _ h => h, fun _ h => h, .same rfl⟩

/-- What happens to jobs is not about releases. -/
theorem Calm.record (c : p.Calm p') (s : SessionId) (e : Event J R) : p.Calm (p'.record s e) :=
  ⟨c.releases, c.returns, c.reports, c.drained, c.parked, c.begins, c.shuts, c.kin⟩

/-- A calm step at one session. -/
theorem Calm.at {f : Control J R → Control J R}
    (controls : p'.system.controls = p.system.controls.modify s f)
    (world : Steady ⟨s⟩ p.system.world p'.system.world)
    (same : p'.releases = p.releases ∧ p'.returns = p.returns ∧ p'.reports = p.reports)
    (kin : p.Kin p')
    (begins : ∀ ticket job, (f (p.system.control s)).owner = .working ticket job →
      (p.system.control s).owner = .working ticket job)
    (shuts : (f (p.system.control s)).owner.hasShut = true →
      (p.system.control s).owner.hasShut = true) : p.Calm p' where
  releases := same.1
  returns := same.2.1
  reports := same.2.2
  drained := world.drained
  parked := world.parked
  begins u ticket job h := by
    rw [owner] at h ⊢
    rcases System.control_of_modify controls u with ⟨-, kept⟩ | ⟨rfl, -, changed⟩
    · exact kept ▸ h
    · exact begins ticket job (changed ▸ h)
  shuts u h := by
    rw [owner] at h ⊢
    rcases System.control_of_modify controls u with ⟨-, kept⟩ | ⟨rfl, -, changed⟩
    · exact kept ▸ h
    · exact shuts (changed ▸ h)
  kin := kin

/-- A calm step at one session that leaves the handles where they are. -/
theorem Calm.within {f : Control J R → Control J R}
    (controls : p'.system.controls = p.system.controls.modify s f)
    (world : Steady ⟨s⟩ p.system.world p'.system.world)
    (same : p'.releases = p.releases ∧ p'.returns = p.returns ∧ p'.reports = p.reports)
    (handles : p'.handles = p.handles)
    (results : (f (p.system.control s)).resultHandles = (p.system.control s).resultHandles)
    (begins : ∀ ticket job, (f (p.system.control s)).owner = .working ticket job →
      (p.system.control s).owner = .working ticket job)
    (shuts : (f (p.system.control s)).owner.hasShut = true →
      (p.system.control s).owner.hasShut = true) : p.Calm p' :=
  .at controls world same (.same (existing_modify controls handles results)) begins shuts

theorem calm_claim (config : SessionConfig) : p.Calm (p.claim config) := by
  unfold Process.claim System.claim
  split
  · rename_i s system h
    split at h
    · cases h
    · cases h
      have controls : (p.system.opened config).controls = p.system.controls ++ [_] := rfl
      refine ⟨rfl, rfl, rfl, rfl, fun u => ?_, fun u ticket job h => ?_, fun u h => ?_,
        .same (existing_opened config)⟩
      · exact congrArg (·.parked) (p.system.world.session_concat u)
      · rw [owner] at h ⊢
        rcases System.control_of_concat controls u with same | ⟨-, new⟩
        · exact same ▸ h
        · rw [new] at h
          cases h
      · rw [owner] at h ⊢
        rcases System.control_of_concat controls u with same | ⟨-, new⟩
        · exact same ▸ h
        · rw [new] at h
          cases h
  · exact .refl p

theorem calm_prepare [GuestState σ] (s : SessionId) : p.Calm (p.prepare s) := by
  unfold Process.prepare
  split
  · refine .within (f := fun c => c.prepared (p.system.prepare s).1) rfl
      (steady_enter (p.system.control s).config p.system.world) ⟨rfl, rfl, rfl⟩ rfl ?_ ?_ ?_
    · cases (p.system.prepare s).1 <;> rfl
    · cases (p.system.prepare s).1 <;> exact fun _ _ h => nomatch h
    · cases (p.system.prepare s).1 <;> exact fun h => nomatch h
  · exact .refl p

theorem calm_abort (s : SessionId) : p.Calm (p.act (p.system.abort s)) := by
  unfold System.abort
  split
  · exact .within (f := fun c => { c with owner := .gone }) rfl (.refl _) ⟨rfl, rfl, rfl⟩
      rfl rfl (fun _ _ h => nomatch h) fun h => nomatch h
  · exact .refl p

theorem calm_submit (t : Thread) (s : SessionId) (job : J) : p.Calm (p.submit t s job) := by
  unfold Process.submit System.submit
  split
  · by_cases reentrant : t = .owner s
    · rw [if_pos reentrant]
      exact .refl p
    · rw [if_neg reentrant]
      by_cases open_ : (p.system.control s).accepting = true
      · rw [if_pos open_]
        exact .within (s := s) rfl (.refl _) ⟨rfl, rfl, rfl⟩ rfl rfl (fun _ _ h => h) fun h => h
      · rw [if_neg open_]
        exact .refl p
  · exact .refl p

theorem calm_close (t : Thread) (s : SessionId) : p.Calm (p.close t s) := by
  unfold Process.close System.close
  split
  · by_cases reentrant : t = .owner s
    · rw [if_pos reentrant]
      exact .refl p
    · rw [if_neg reentrant]
      exact .within (s := s) (f := fun c => { c with accepting := false }) rfl (.refl _)
        ⟨rfl, rfl, rfl⟩ rfl rfl (fun _ _ h => h) fun h => h
  · exact .refl p

theorem calm_closeFromJob (s : SessionId) : p.Calm (p.closeFromJob s) := by
  unfold Process.closeFromJob System.closeFromJob
  split
  · dsimp only
    split
    · exact .within (s := s) (f := fun c => { c with accepting := false }) rfl
        (sameBooks_note _ _ _ _ rfl).steady ⟨rfl, rfl, rfl⟩ rfl rfl (fun _ _ h => h) fun h => h
    · exact .within (s := s) (f := fun c => { c with accepting := false }) rfl (.refl _)
        ⟨rfl, rfl, rfl⟩ rfl rfl (fun _ _ h => h) fun h => h
  · exact .refl p

theorem calm_receive (s : SessionId) : p.Calm (p.act (p.system.receive s)) := by
  unfold System.receive
  dsimp only
  split
  · rename_i ticket job rest idle queue
    exact .within (s := s) (f := fun c => { c with owner := .taking ticket job, queue := rest }) rfl
      (.refl _) ⟨rfl, rfl, rfl⟩ rfl rfl (fun _ _ h => nomatch h) fun h => nomatch h
  · exact .refl p

theorem calm_operate [GuestState σ] (s : SessionId) (op : Operation) :
    p.Calm (p.operate s op) := by
  unfold Process.operate
  split
  · rename_i ticket job working
    split
    · rename_i exist
      refine .at (s := s) (f := id) (List.modify_id _ _).symm (op.turns_run _ []).steady
        ⟨rfl, rfl, rfl⟩ (fun h hh => ?_) (fun _ _ h => h) fun h => h
      have turns : Turns (σ := σ) ⟨s⟩ op.used (op.run ⟨s⟩) id := op.turns_run
      have moves := turns p.system.world
        (p.handles.diff op.used ++ p.system.controls.flatMap (Control.resultHandles (R := R)))
      have before := (split_used exist).append_right
        (p.system.controls.flatMap (Control.resultHandles (R := R)))
      rw [List.append_assoc] at before
      have after : h ∈ (op.run ⟨s⟩ p.system.world).1 ++ (p.handles.diff op.used ++
          p.system.controls.flatMap (Control.resultHandles (R := R))) :=
        List.append_assoc _ _ _ ▸ hh
      rcases moves.session_of_mem h after with own | ⟨g, hg, same⟩
      · exact .inr ⟨ticket, job, own ▸ working⟩
      · exact .inl ⟨g, before.mem_iff.mpr hg, same⟩
    · exact .refl p
  · exact .refl p

theorem calm_leave [GuestState σ] (s : SessionId) : p.Calm (p.act (p.system.leave s)) := by
  unfold System.leave
  dsimp only
  split
  · exact .within (s := s) (f := fun c => { c with owner := .leaving }) rfl (steady_leave _)
      ⟨rfl, rfl, rfl⟩ rfl rfl (fun _ _ h => nomatch h) fun h => nomatch h
  · exact .refl p

theorem calm_surrender (s : SessionId) : p.Calm (p.act (p.system.surrender s)) := by
  unfold System.surrender
  split
  · exact .within (s := s) (f := fun c => { c with owner := .gone }) rfl (.refl _) ⟨rfl, rfl, rfl⟩
      rfl rfl (fun _ _ h => nomatch h) fun h => nomatch h
  · exact .refl p

theorem calm_clearOutput (s : SessionId) : p.Calm (p.act (some (p.system.clearOutput s))) :=
  .within (s := s) (f := id) (List.modify_id _ _).symm (.modifySession _ fun _ => rfl)
    ⟨rfl, rfl, rfl⟩ rfl rfl (fun _ _ h => h) fun h => h

/-- Forgetting a ticket. -/
theorem calm_forget (ticket : Nat) (system : p'.system = p.system.forget s ticket)
    (same : p'.releases = p.releases ∧ p'.returns = p.returns ∧ p'.reports = p.reports)
    (kin : p.Kin p') : p.Calm p' := by
  have world : p'.system.world = p.system.world := by
    rw [system]
    rfl
  exact .at (congrArg System.controls system) (world ▸ .refl _) same kin (fun _ _ h => h)
    fun h => h

/-- A result goes to those that wait, or comes back. -/
theorem calm_finish (s : SessionId) (e : Ending R) : p.Calm (p.finish s e) := by
  unfold Process.finish System.finish
  split
  · rename_i exist
    split
    · rename_i ticket job unwanted system working h
      have owner : (p.system.control s).owner = .working ticket job := working
      have lt : s < p.system.controls.length := System.lt_of_owner (by simp [owner])
      rw [owner] at h
      cases h
      exact .at (s := s) rfl (sameBooks_ending e _).steady ⟨rfl, rfl, rfl⟩
        (.perm (p.existing_finish lt exist ticket _)) (fun _ _ h => nomatch h) fun h => nomatch h
    · exact .refl p
  · exact .refl p

theorem calm_collect (q : p.Queued) (s : SessionId) (ticket : Nat) :
    p.Calm (p.collect s ticket) := by
  have existing := existing_collect q s ticket
  unfold Process.collect at existing ⊢
  split at existing
  · rename_i e system h
    obtain ⟨-, rfl⟩ := collect_eq_some h
    exact calm_forget (s := s) ticket rfl ⟨rfl, rfl, rfl⟩ (.perm existing)
  · exact .refl p

theorem calm_abandon (q : p.Queued) (s : SessionId) (ticket : Nat) :
    p.Calm (p.abandon s ticket) := by
  refine calm_forget ticket (p.abandon_system s ticket) ?_ (.perm (existing_abandon q s ticket))
  unfold Process.abandon
  split <;> exact ⟨rfl, rfl, rfl⟩

theorem calm_timeOut (q : p.Queued) (s : SessionId) (ticket : Nat) :
    p.Calm (p.timeOut s ticket) := by
  unfold Process.timeOut
  split
  · exact (calm_abandon q s ticket).record s _
  · exact .refl p

/-! ### Every step -/

/-- The owner of a session brings the releases at one stage to the next, and says of how many
references, if of any, it has given them back. -/
structure Brings (p p' : Process σ J R) (s : SessionId) (before after : Stage) (ns : List Nat) :
    Prop where
  releases : p'.releases = p.releases.map (Release.move s before after)
  returns : p'.returns =
    if after.given then p.returns ++ numbersAt s before p.releases else p.returns
  reports : p'.reports = ns.map (fun n => (s, n)) ++ p.reports
  drained : p'.system.world.drained = ns.map toString ++ p.system.world.drained
  existing : p'.existing = p.existing
  stays : ∀ u, p.isShut u → p'.isShut u
  others : ∀ u, u ≠ s → p'.owner u = p.owner u

/-- The release of a handle begins on a thread. -/
structure Begins (p p' : Process σ J R) (t : Thread) (h : Handle) : Prop where
  there : h ∈ p.handles
  releases : p'.releases = p.releases ++ [⟨t, h, .counted⟩]
  returns : p'.returns = p.returns
  reports : p'.reports = p.reports
  drained : p'.system.world.drained = p.system.world.drained
  kin : p.Kin p'
  stays : ∀ u, p.isShut u → p'.isShut u
  owners : ∀ u, p'.owner u = p.owner u

/-- The release of a number comes from the hand of its thread to a stage. -/
structure Continues (p p' : Process σ J R) (i : Nat) (r : Release) (stage : Stage) : Prop where
  there : p.releases[i]? = some r
  hand : r.stage = .counted ∨ r.stage = .refused
  next : stage = .dropped ∨
    r.stage = .counted ∧ (stage = .refused ∨ stage = .parked ∧ ¬ p.isShut r.handle.session)
  releases : p'.releases = p.releases.set i { r with stage }
  returns : p'.returns = if stage.given then p.returns ++ [i] else p.returns
  reports : p'.reports = p.reports
  drained : p'.system.world.drained = p.system.world.drained
  existing : p'.existing = p.existing
  stays : ∀ u, p.isShut u → p'.isShut u
  owners : ∀ u, p'.owner u = p.owner u

/-- What a step does to releases and to the owners of sessions. -/
inductive Flow (p p' : Process σ J R) : Prop
  | calm (calm : p.Calm p')
  | begins (t : Thread) (h : Handle) (begins : p.Begins p' t h)
  | continues (i : Nat) (r : Release) (stage : Stage) (continues : p.Continues p' i r stage)
  | reclaims (s : SessionId) (ticket : Nat) (job : J) (ns : List Nat)
      (taking : p.owner s = .taking ticket job) (working : p'.owner s = .working ticket job)
      (sum : ns.sum = p.releases.countP (Release.isAt s .parked))
      (brings : p.Brings p' s .parked .reclaimed ns)
  | shuts (s : SessionId) (rest : List Ref) (leaving : p.owner s = .leaving)
      (shut : p'.owner s = .shut rest) (closed : p'.isShut s)
      (brings : p.Brings p' s .parked .taken [])
  | ends (s : SessionId) (rest : List Ref) (n : Nat) (shut : p.owner s = .shut rest)
      (left : p'.owner s = .left) (number : n = p.releases.countP (Release.isAt s .taken))
      (brings : p.Brings p' s .taken .reclaimed [n])

omit [HasHandles R] in
/-- The owner that takes a step. -/
theorem owner_own {f : Control J R → Control J R} {o : Owner J} (lt : s < p.system.controls.length)
    (controls : p'.system.controls = p.system.controls.modify s f)
    (after : (f (p.system.control s)).owner = o) : p'.owner s = o := by
  rw [owner]
  rcases System.control_of_modify controls s with ⟨other, -⟩ | ⟨-, -, changed⟩
  · exact absurd rfl (other lt)
  · rw [changed, after]

omit [HasHandles R] in
/-- The owners that do not. -/
theorem owner_others {f : Control J R → Control J R}
    (controls : p'.system.controls = p.system.controls.modify s f) (u : SessionId) (hu : u ≠ s) :
    p'.owner u = p.owner u := by
  rw [owner, owner]
  rcases System.control_of_modify controls u with ⟨-, same⟩ | ⟨rfl, -⟩
  · rw [same]
  · exact absurd rfl hu

omit [HasHandles R] in
theorem length_refsAt (s : SessionId) (stage : Stage) (rs : List Release) :
    (refsAt s stage rs).length = rs.countP (Release.isAt s stage) := by
  induction rs with
  | nil => rfl
  | cons r rs ih =>
      rw [refsAt, List.flatMap_cons, List.length_append, List.countP_cons]
      rw [refsAt] at ih
      rw [ih, Release.refAt, Nat.add_comm]
      split <;> rfl

theorem flow_begin (b : p.Booked) (s : SessionId) : p.Flow (p.begin s) := by
  unfold Process.begin System.begin
  split
  · rename_i ticket job job' system taking h
    have owner : (p.system.control s).owner = .taking ticket job := taking
    have lt : s < p.system.controls.length := System.lt_of_owner (by simp [owner])
    rw [owner] at h
    cases h
    have number : (p.system.world.drain s).1 = p.releases.countP (Release.isAt s .parked) := by
      rw [World.fst_drain, (b.parked s).length_eq, length_refsAt]
    refine .reclaims s ticket job
      (if (p.system.world.drain s).1 = 0 then [] else [(p.system.world.drain s).1]) taking
      (owner_own lt rfl rfl) ?_ ⟨rfl, rfl, ?_, ?_, existing_modify (s := s) rfl rfl rfl,
        fun u hu => ?_, owner_others rfl⟩
    · rw [← number]
      split
      · rename_i none
        rw [none, List.sum_nil]
      · exact List.sum_singleton
    · dsimp only [record]
      split <;> rfl
    · change (p.system.world.reclaim s).drained = _
      rw [World.drained_reclaim]
      split <;> rfl
    · change ((p.system.world.reclaim s).session u).parked = none
      rw [World.session_reclaim]
      refine World.kept_modifySession (P := fun st => st.parked = none) _ s u ?_ hu
      exact fun st none => congrArg (Option.map _) none
  · exact .calm (.refl p)

theorem flow_shut (b : p.Booked) (s : SessionId) : p.Flow (p.shut s) := by
  unfold Process.shut System.shut
  split
  · rename_i system h
    split at h
    · rename_i leaving
      cases h
      have lt : s < p.system.controls.length := System.lt_of_owner (by simp [leaving])
      refine .shuts s _ leaving (owner_own lt rfl rfl) ?_ ⟨rfl, rfl, rfl, rfl,
        existing_modify (s := s) rfl rfl rfl, fun u hu => ?_, owner_others rfl⟩
      · change ((p.system.world.modifySession s _).session s).parked = none
        rw [World.session_modifySession _ _ _ (b.sessions ▸ lt)]
      · exact World.kept_modifySession (P := fun st => st.parked = none) _ s u (fun _ _ => rfl) hu
    · cases h
  · exact .calm (.refl p)

theorem flow_giveBack (b : p.Booked) (s : SessionId) : p.Flow (p.giveBack s) := by
  unfold Process.giveBack System.giveBack
  split
  · rename_i rest system shut h
    have owner : (p.system.control s).owner = .shut rest := shut
    have lt : s < p.system.controls.length := System.lt_of_owner (by simp [owner])
    rw [owner] at h
    cases h
    have number : rest.length = p.releases.countP (Release.isAt s .taken) := by
      have taken := b.taken s
      rw [shut] at taken
      rw [← length_refsAt, ← taken.length_eq]
      rfl
    refine .ends s rest rest.length shut (owner_own lt rfl rfl) number ⟨rfl, rfl, rfl, ?_,
      existing_modify (s := s) rfl rfl rfl, fun u hu => ?_, owner_others rfl⟩
    · exact congrArg (toString rest.length :: ·) (World.drained_dropAll _ rest)
    · change ((p.system.world.dropAll rest).session u).parked = none
      rw [World.session_dropAll]
      exact hu
  · exact .calm (.refl p)

theorem flow_release (t : Thread) (h : Handle) : p.Flow (p.release t h) := by
  unfold Process.release
  split
  · rename_i there
    refine .begins t h ⟨there, rfl, rfl, rfl, rfl, fun g hg => .inl ⟨g, ?_, rfl⟩, fun u hu => ?_,
      fun u => rfl⟩
    · rcases List.mem_append.mp hg with kept | result
      · exact List.mem_append_left _ (List.mem_of_mem_erase kept)
      · exact List.mem_append_right _ result
    · have same : ((p.system.world.countOut h.session).session u).parked =
          (p.system.world.session u).parked :=
        p.system.world.field_modifySession h.session u (·.parked) fun _ => rfl
      exact same.trans hu
  · exact .calm (.refl p)

theorem flow_advance (i : Nat) : p.Flow (p.advance i) := by
  unfold Process.advance
  dsimp only
  split
  · exact .calm (.refl p)
  · rename_i r hr
    split
    · rename_i counted
      split
      · exact .continues i r .dropped ⟨hr, .inl counted, .inl rfl, rfl, rfl, rfl, rfl, rfl,
          fun _ hu => hu, fun _ => rfl⟩
      · split
        · rename_i world hp
          obtain ⟨rs, parked, rfl⟩ := Option.map_eq_some_iff.mp hp
          have open_ : ¬ p.isShut r.handle.session := by simp [isShut, parked]
          refine .continues i r .parked ⟨hr, .inl counted,
            .inr ⟨counted, .inr ⟨rfl, open_⟩⟩, rfl, rfl, rfl, rfl, rfl, fun u hu => ?_, fun _ => rfl⟩
          have other : r.handle.session ≠ u := fun same => open_ (same ▸ hu)
          exact (congrArg _ (World.session_modifySession_ne _ _ other)).trans hu
        · exact .continues i r .refused ⟨hr, .inl counted, .inr ⟨counted, .inl rfl⟩, rfl, rfl, rfl,
            rfl, rfl, fun _ hu => hu, fun _ => rfl⟩
    · rename_i refused
      exact .continues i r .dropped ⟨hr, .inr refused, .inl rfl, rfl, rfl, rfl, rfl, rfl,
        fun _ hu => hu, fun _ => rfl⟩
    · exact .calm (.refl p)

/-- **What every step does to releases.** -/
theorem flow_step [GuestState σ] (b : p.Booked) (q : p.Queued) (a : Action J R) :
    p.Flow (p.step a) := by
  cases a with
  | begin s => exact flow_begin b s
  | release t h => exact flow_release t h
  | advance i => exact flow_advance i
  | shut s => exact flow_shut b s
  | giveBack s => exact flow_giveBack b s
  | claim config => exact .calm (calm_claim config)
  | prepare s => exact .calm (calm_prepare s)
  | abort s => exact .calm (calm_abort s)
  | submit t s job => exact .calm (calm_submit t s job)
  | close t s => exact .calm (calm_close t s)
  | closeFromJob s => exact .calm (calm_closeFromJob s)
  | receive s => exact .calm (calm_receive s)
  | operate s op => exact .calm (calm_operate s op)
  | finish s e => exact .calm (calm_finish s e)
  | collect s ticket => exact .calm (calm_collect q s ticket)
  | timeOut s ticket => exact .calm (calm_timeOut q s ticket)
  | abandon s ticket => exact .calm (calm_abandon q s ticket)
  | leave s => exact .calm (calm_leave s)
  | surrender s => exact .calm (calm_surrender s)
  | clearOutput s => exact .calm (calm_clearOutput s)

/-! ### Sessions that were handed out -/

omit [HasHandles R] in
/-- A session that was handed out to the host, and whose list is closed if its owner is gone. -/
def served (p : Process σ J R) (s : SessionId) : Prop :=
  (p.owner s).hasStarted = true ∧ (p.owner s = .gone → p.isShut s)

/-- Lists are closed at the end of sessions, and handles are of sessions that were handed out. -/
structure Phased (p : Process σ J R) : Prop where
  shut : ∀ s, (p.owner s).hasShut = true → p.isShut s
  handles : ∀ h ∈ p.existing, p.served h.session
  releases : ∀ r ∈ p.releases, p.served r.handle.session

/-- A closed list stays closed. -/
theorem Flow.stays (flow : p.Flow p') {u : SessionId} (hu : p.isShut u) : p'.isShut u := by
  cases flow with
  | calm calm => exact (calm.parked u).trans hu
  | begins t h begins => exact begins.stays u hu
  | continues i r stage continues => exact continues.stays u hu
  | reclaims s ticket job ns taking working sum brings => exact brings.stays u hu
  | shuts s rest leaving shut closed brings => exact brings.stays u hu
  | ends s rest n shut left number brings => exact brings.stays u hu

theorem Flow.kin (flow : p.Flow p') : p.Kin p' := by
  cases flow with
  | calm calm => exact calm.kin
  | begins t h begins => exact begins.kin
  | continues i r stage continues => exact .same continues.existing
  | reclaims s ticket job ns taking working sum brings => exact .same brings.existing
  | shuts s rest leaving shut closed brings => exact .same brings.existing
  | ends s rest n shut left number brings => exact .same brings.existing

/-- A release is one from before, or begins with a handle that was there. -/
theorem Flow.handle_of_mem (flow : p.Flow p') (r : Release) (hr : r ∈ p'.releases) :
    (∃ r' ∈ p.releases, r'.handle = r.handle) ∨ r.handle ∈ p.handles := by
  have brought {s : SessionId} {before after : Stage} {ns : List Nat}
      (brings : p.Brings p' s before after ns) : ∃ r' ∈ p.releases, r'.handle = r.handle := by
    rw [brings.releases] at hr
    obtain ⟨r', hr', rfl⟩ := List.mem_map.mp hr
    exact ⟨r', hr', (handle_move s before after r').symm⟩
  cases flow with
  | calm calm => exact .inl ⟨r, calm.releases ▸ hr, rfl⟩
  | begins t h begins =>
      rw [begins.releases] at hr
      rcases List.mem_append.mp hr with hr | hr
      · exact .inl ⟨r, hr, rfl⟩
      · cases List.mem_singleton.mp hr
        exact .inr begins.there
  | continues i r' stage continues =>
      rw [continues.releases] at hr
      rcases List.mem_or_eq_of_mem_set hr with hr | rfl
      · exact .inl ⟨r, hr, rfl⟩
      · exact .inl ⟨r', List.mem_of_getElem? continues.there, rfl⟩
  | reclaims s ticket job ns taking working sum brings => exact .inl (brought brings)
  | shuts s rest leaving shut closed brings => exact .inl (brought brings)
  | ends s rest n shut left number brings => exact .inl (brought brings)

/-- Owners close the lists of their sessions before they give the claim back. -/
theorem Flow.shut (flow : p.Flow p') (before : ∀ s, (p.owner s).hasShut = true → p.isShut s)
    {u : SessionId} (hu : (p'.owner u).hasShut = true) : p'.isShut u := by
  have same (kept : p'.owner u = p.owner u) : p'.isShut u :=
    flow.stays (before u (kept ▸ hu))
  cases flow with
  | calm calm => exact (calm.parked u).trans (before u (calm.shuts u hu))
  | begins t h begins => exact same (begins.owners u)
  | continues i r stage continues => exact same (continues.owners u)
  | reclaims s ticket job ns taking working sum brings =>
      by_cases own : u = s
      · rw [own, working] at hu
        cases hu
      · exact same (brings.others u own)
  | shuts s rest leaving shut closed brings =>
      by_cases own : u = s
      · exact own ▸ closed
      · exact same (brings.others u own)
  | ends s rest n shut left number brings =>
      by_cases own : u = s
      · exact brings.stays u (before u (by rw [own, shut]; rfl))
      · exact same (brings.others u own)

theorem served_lt (b : p.Booked) (h : p.served s) : s < p.system.controls.length := by
  by_contra outside
  have gone : p.owner s = .gone := by rw [owner, System.control_outside _ outside]
  have closed := h.2 gone
  rw [isShut, World.session, List.getD_eq_getElem?_getD,
    List.getElem?_eq_none (b.sessions ▸ Nat.le_of_not_lt outside)] at closed
  cases closed

/-- A session that was handed out stays so, and its list is closed when its owner is gone. -/
theorem served_step (b : p.Booked) (flow : p.Flow p') (turned : p.Turned p') (ph : p.Phased)
    (h : p.served s) : p'.served s := by
  obtain ⟨es, turn⟩ := turned.turn (served_lt b h)
  refine ⟨turn.started h.1, fun gone => ?_⟩
  rcases turn.gone h.1 gone with before | left
  · exact flow.stays (h.2 before)
  · exact flow.stays (ph.shut s (congrArg Owner.hasShut left))

theorem phased_step [GuestState σ] (b : p.Booked) (q : p.Queued) (ph : p.Phased) (a : Action J R) :
    (p.step a).Phased := by
  have flow := flow_step b q a
  have turned := turned_step q a
  have handle (h : Handle) (hh : h ∈ (p.step a).existing) : (p.step a).served h.session := by
    rcases flow.kin h hh with ⟨g, hg, same⟩ | ⟨ticket, job, working⟩
    · exact served_step b flow turned ph (same ▸ ph.handles g hg)
    · exact served_step b flow turned ph ⟨by rw [working]; rfl, fun gone => by
        rw [working] at gone
        cases gone⟩
  refine ⟨fun s hs => flow.shut ph.shut hs, handle, fun r hr => ?_⟩
  rcases flow.handle_of_mem r hr with ⟨r', hr', same⟩ | fresh
  · exact served_step b flow turned ph (same ▸ ph.releases r' hr')
  · exact served_step b flow turned ph (ph.handles _ (List.mem_append_left _ fresh))

theorem phased_initial (g : σ) : (initial g : Process σ J R).Phased where
  shut s h := by
    rw [owner, System.control_outside _ (Nat.not_lt_zero s)] at h
    cases h
  handles h hh := absurd hh List.not_mem_nil
  releases r hr := absurd hr List.not_mem_nil

end

end Process

end GuestBridge.Session
