import GuestBridge.Proofs.Handles.Stay
import GuestBridge.Proofs.Process.Jobs

/-!
# The Books of a Process

`Booked` is what holds of the handles and references of a process between any two steps: the books
of its world are in order for the handles that exist and the references in somebody's hands, and what
is parked, and what an owner holds at its end, are the references of the releases at that stage.
Every step keeps it (`booked_step`), so in every run the handles that exist are counted, and every
object is held as often as it should be (`balanced_run`).
-/

namespace GuestBridge.Session

open Bridge
open Guest (Ref)

variable {σ J R : Type}

/-! ### Releases and their references -/

namespace Release

/-- The reference of a release of a session at a stage. -/
def refAt (s : SessionId) (stage : Stage) (r : Release) : List Ref :=
  if r.isAt s stage then [r.object] else []

/-- The reference of a release that somebody has in hand. -/
def handRef (r : Release) : List Ref := if r.stage.inHand then [r.object] else []

end Release

/-- The references of the releases of a session at a stage. -/
def refsAt (s : SessionId) (stage : Stage) (rs : List Release) : List Ref :=
  rs.flatMap (Release.refAt s stage)

/-- The references that somebody has in hand. -/
def handRefs (rs : List Release) : List Ref := rs.flatMap Release.handRef

/-- The references that the owner of a session holds at its end. -/
def Owner.rest {J : Type} : Owner J → List Ref
  | shut rest => rest
  | _ => []

/-- The handles in the results that nobody has collected. -/
def Control.resultHandles [HasHandles R] (c : Control J R) : List Handle :=
  c.results.flatMap fun e => e.2.handles

namespace Process

variable [HasHandles R]

/-- The handles that exist. -/
def existing (p : Process σ J R) : List Handle :=
  p.handles ++ p.system.controls.flatMap Control.resultHandles

omit [HasHandles R] in
/-- The references that somebody has in hand: a thread in the middle of a release, or an owner at
its end. -/
def inHand (p : Process σ J R) : List Ref := handRefs p.releases

/-- The books of a process are in order. -/
structure Booked (p : Process σ J R) : Prop where
  accounted : Accounted p.system.world p.existing p.inHand
  sessions : p.system.world.sessions.length = p.system.controls.length
  known : ∀ r ∈ p.releases, r.handle.session < p.system.controls.length
  parked : ∀ s, (p.system.world.session s).parkedRefs.Perm (refsAt s .parked p.releases)
  taken : ∀ s, (p.owner s).rest.Perm (refsAt s .taken p.releases)
  starting : ∀ s, p.owner s = .starting → (p.system.world.session s).runtime = none

variable {p p' : Process σ J R} {s : SessionId}

/-! ### Steps at one session -/

omit [HasHandles R] in
/-- A part of a list that a change leaves alone. -/
theorem flatMap_modify {α β : Type} (g : α → List β) (xs : List α) (n : Nat) {f : α → α} (d : α)
    (hf : g (f (xs.getD n d)) = g (xs.getD n d)) : (xs.modify n f).flatMap g = xs.flatMap g := by
  induction xs generalizing n with
  | nil => rw [List.modify_nil]
  | cons x xs ih =>
      cases n with
      | zero =>
          rw [List.modify_zero_cons, List.flatMap_cons, List.flatMap_cons]
          exact congrArg (· ++ _) hf
      | succ n =>
          rw [List.modify_succ_cons, List.flatMap_cons, List.flatMap_cons, ih n hf]

section

variable {f : Control J R → Control J R}

/-- A step at one session that keeps its results. -/
theorem existing_modify (controls : p'.system.controls = p.system.controls.modify s f)
    (handles : p'.handles = p.handles)
    (results : (f (p.system.control s)).resultHandles = (p.system.control s).resultHandles) :
    p'.existing = p.existing := by
  rw [existing, handles, controls, flatMap_modify _ _ _ _ results, existing]

/-- A step at one session after which the world is accounted for. -/
theorem Booked.at (b : p.Booked)
    (controls : p'.system.controls = p.system.controls.modify s f)
    (accounted : Accounted p'.system.world p'.existing p'.inHand)
    (world : Steady ⟨s⟩ p.system.world p'.system.world) (releases : p'.releases = p.releases)
    (rest : (f (p.system.control s)).owner.rest = (p.system.control s).owner.rest)
    (starting : (f (p.system.control s)).owner = .starting →
      (p'.system.world.session s).runtime = none) : p'.Booked where
  accounted := accounted
  sessions := by rw [world.length, b.sessions, controls, List.length_modify]
  known := by
    rw [releases, controls, List.length_modify]
    exact b.known
  parked u := by
    rw [SessionState.parkedRefs, world.parked, releases]
    exact b.parked u
  taken u := by
    rw [releases, owner]
    rcases System.control_of_modify controls u with ⟨-, same⟩ | ⟨rfl, -, changed⟩
    · rw [same]
      exact b.taken u
    · rw [changed, rest]
      exact b.taken u
  starting u h := by
    rw [owner] at h
    rcases System.control_of_modify controls u with ⟨other, same⟩ | ⟨rfl, -, changed⟩
    · rw [same] at h
      have apart : u ≠ s := fun hu => other (hu ▸ System.lt_of_owner (by simp [h])) hu
      rw [world.runtime u apart]
      exact b.starting u h
    · rw [changed] at h
      exact starting h

/-- A step at one session that leaves handles, results and releases as they are. -/
theorem Booked.within (b : p.Booked)
    (controls : p'.system.controls = p.system.controls.modify s f)
    (accounted : Accounted p'.system.world p.existing p.inHand)
    (world : Steady ⟨s⟩ p.system.world p'.system.world) (handles : p'.handles = p.handles)
    (releases : p'.releases = p.releases)
    (results : (f (p.system.control s)).resultHandles = (p.system.control s).resultHandles)
    (rest : (f (p.system.control s)).owner.rest = (p.system.control s).owner.rest)
    (starting : (f (p.system.control s)).owner = .starting →
      (p'.system.world.session s).runtime = none) : p'.Booked := by
  refine b.at controls ?_ world releases rest starting
  rw [existing_modify controls handles results, inHand, releases]
  exact accounted

/-- A step at one session that the books do not show. -/
theorem Booked.quiet (b : p.Booked)
    (controls : p'.system.controls = p.system.controls.modify s f)
    (world : SameBooks p.system.world p'.system.world) (handles : p'.handles = p.handles)
    (releases : p'.releases = p.releases)
    (results : (f (p.system.control s)).resultHandles = (p.system.control s).resultHandles)
    (rest : (f (p.system.control s)).owner.rest = (p.system.control s).owner.rest)
    (starting : (f (p.system.control s)).owner = .starting →
      (p.system.control s).owner = .starting) : p'.Booked := by
  refine b.within controls (b.accounted.sameBooks world) world.steady handles releases results rest
    fun h => ?_
  have same : (p'.system.world.session s).runtime = (p.system.world.session s).runtime :=
    congrArg (·.2.2) (World.books_session world.books s)
  rw [same]
  exact b.starting s (starting h)

end

/-- Nothing but the log has changed. -/
theorem sameBooks_note (w : World σ) (level : Level) (message : String)
    (fields : List (String × String)) (h : fields.lookup "drained" = none) :
    SameBooks w (w.note level message fields) :=
  ⟨rfl, rfl, List.filterMap_cons_none h⟩

omit [HasHandles R] in
/-- Handles that exist, and the others. -/
theorem split_used {used handles : List Handle} (exist : used.Subperm handles) :
    handles.Perm (used ++ handles.diff used) :=
  (List.subperm_append_diff_self_of_count_le fun h _ => exist.count_le h).symm

theorem Booked.submit (b : p.Booked) (t : Thread) (s : SessionId) (job : J) :
    (p.submit t s job).Booked := by
  unfold Process.submit System.submit
  split
  · by_cases reentrant : t = .owner s
    · rw [if_pos reentrant]
      exact b
    · rw [if_neg reentrant]
      by_cases open_ : (p.system.control s).accepting = true
      · rw [if_pos open_]
        exact b.quiet (s := s) rfl ⟨rfl, rfl, rfl⟩ rfl rfl rfl rfl id
      · rw [if_neg open_]
        exact b
  · exact b

theorem Booked.close (b : p.Booked) (t : Thread) (s : SessionId) : (p.close t s).Booked := by
  unfold Process.close System.close
  split
  · by_cases reentrant : t = .owner s
    · rw [if_pos reentrant]
      exact b
    · rw [if_neg reentrant]
      exact b.quiet (f := fun c => { c with accepting := false }) rfl ⟨rfl, rfl, rfl⟩ rfl rfl
        rfl rfl id
  · exact b

theorem Booked.closeFromJob (b : p.Booked) (s : SessionId) : (p.closeFromJob s).Booked := by
  unfold Process.closeFromJob System.closeFromJob
  split
  · dsimp only
    split
    · exact b.quiet (s := s) (f := fun c => { c with accepting := false }) rfl
        (sameBooks_note _ _ _ _ rfl) rfl rfl rfl rfl id
    · exact b.quiet (s := s) (f := fun c => { c with accepting := false }) rfl ⟨rfl, rfl, rfl⟩
        rfl rfl rfl rfl id
  · exact b

theorem Booked.receive (b : p.Booked) (s : SessionId) : (p.act (p.system.receive s)).Booked := by
  unfold System.receive
  dsimp only
  split
  · rename_i ticket job rest idle queue
    refine b.quiet (f := fun c => { c with owner := .taking ticket job, queue := rest }) rfl
      ⟨rfl, rfl, rfl⟩ rfl rfl rfl ?_ fun h => nomatch h
    rw [idle]
    rfl
  · exact b

theorem Booked.abort (b : p.Booked) (s : SessionId) : (p.act (p.system.abort s)).Booked := by
  unfold System.abort
  split
  · rename_i failed
    refine b.quiet (f := fun c => { c with owner := .gone }) rfl ⟨rfl, rfl, rfl⟩ rfl rfl
      rfl ?_ fun h => nomatch h
    rw [failed]
    rfl
  · exact b

theorem Booked.surrender (b : p.Booked) (s : SessionId) :
    (p.act (p.system.surrender s)).Booked := by
  unfold System.surrender
  split
  · rename_i left
    refine b.quiet (f := fun c => { c with owner := .gone }) rfl ⟨rfl, rfl, rfl⟩ rfl rfl
      rfl ?_ fun h => nomatch h
    rw [left]
    rfl
  · exact b

theorem Booked.clearOutput (b : p.Booked) (s : SessionId) :
    (p.act (some (p.system.clearOutput s))).Booked := by
  have world : SameBooks p.system.world (p.system.clearOutput s).world :=
    ⟨rfl, p.system.world.books_modifySession s fun _ => rfl, rfl⟩
  refine b.quiet (s := s) (f := id) ?_ world rfl rfl rfl rfl id
  exact (List.modify_id _ _).symm

/-- A new session has no handles. -/
theorem existing_opened (config : SessionConfig) :
    ({ p with system := p.system.opened config } : Process σ J R).existing = p.existing := by
  have controls : (p.system.opened config).controls = p.system.controls ++ [_] := rfl
  simp [existing, controls, Control.resultHandles]

theorem Booked.claim (b : p.Booked) (config : SessionConfig) : (p.claim config).Booked := by
  unfold Process.claim System.claim
  split
  · rename_i s system h
    split at h
    · cases h
    · cases h
      have controls : (p.system.opened config).controls = p.system.controls ++ [_] := rfl
      have session (u : SessionId) :
          (p.system.opened config).world.session u = p.system.world.session u :=
        p.system.world.session_concat u
      refine ⟨?_, ?_, fun r hr => ?_, fun u => ?_, fun u => ?_, fun u h => ?_⟩
      · rw [existing_opened]
        exact b.accounted.newSession
      · simp [System.opened, b.sessions]
      · rw [controls, List.length_append]
        exact Nat.lt_add_right _ (b.known r hr)
      · rw [session]
        exact b.parked u
      · rw [Process.owner]
        have before := b.taken u
        rcases System.control_of_concat controls u with same | ⟨rfl, new⟩
        · rw [same]
          exact before
        · rw [Process.owner, p.system.control_outside (Nat.lt_irrefl _)] at before
          rw [new]
          exact before
      · rw [session]
        rw [Process.owner] at h
        rcases System.control_of_concat controls u with same | ⟨rfl, new⟩
        · rw [same] at h
          exact b.starting u h
        · simp [World.session, ← b.sessions, SessionState.fresh]
  · exact b

/-! ### The steps of owners -/

theorem Booked.prepare [GuestState σ] (b : p.Booked) (s : SessionId) : (p.prepare s).Booked := by
  unfold Process.prepare
  split
  · rename_i starting
    have owner : (p.system.control s).owner = .starting := starting
    have lt : s < p.system.world.sessions.length :=
      b.sessions ▸ System.lt_of_owner (by simp [owner])
    refine b.within (f := fun c => c.prepared (p.system.prepare s).1) rfl
      (b.accounted.enter lt (b.starting s starting) _)
      (steady_enter (p.system.control s).config p.system.world) rfl rfl ?_ ?_ ?_
    · cases (p.system.prepare s).1 <;> rfl
    · rw [owner]
      cases (p.system.prepare s).1 <;> rfl
    · cases (p.system.prepare s).1 <;> exact fun h => nomatch h
  · exact b

theorem Booked.leave [GuestState σ] (b : p.Booked) (s : SessionId) :
    (p.act (p.system.leave s)).Booked := by
  unfold System.leave
  dsimp only
  split
  · rename_i idle queue closed
    have lt : s < p.system.world.sessions.length :=
      b.sessions ▸ System.lt_of_owner (by simp [idle])
    refine b.within (f := fun c => { c with owner := .leaving }) rfl (b.accounted.leave lt)
      (steady_leave p.system.world) rfl rfl rfl ?_ fun h => nomatch h
    rw [idle]
    rfl
  · exact b

theorem Booked.operate [GuestState σ] (b : p.Booked) (s : SessionId) (op : Operation) :
    (p.operate s op).Booked := by
  unfold Process.operate
  split
  · rename_i ticket job working
    split
    · rename_i exist
      have owner : (p.system.control s).owner = .working ticket job := working
      have lt : s < p.system.world.sessions.length :=
        b.sessions ▸ System.lt_of_owner (by simp [owner])
      refine b.at (s := s) (f := id) (List.modify_id _ _).symm ?_ (op.turns_run _ []).steady rfl
        rfl (by simp [owner])
      have used := (split_used exist).append_right
        (p.system.controls.flatMap (Control.resultHandles (R := R)))
      rw [List.append_assoc] at used
      have after := (b.accounted.perm used (.refl _)).moves lt (op.turns_run p.system.world _)
      exact after.perm (.of_eq (List.append_assoc _ _ _).symm) (.refl _)
    · exact b
  · exact b

/-! ### Results -/

section

variable {f : Control J R → Control J R}

/-- The handles in all results, where one session gains some. -/
theorem results_gain (p : Process σ J R) (gained : List Handle)
    (lt : s < p.system.controls.length)
    (results : (f (p.system.control s)).resultHandles.Perm
      (gained ++ (p.system.control s).resultHandles)) :
    ((p.system.controls.modify s f).flatMap Control.resultHandles).Perm
      (gained ++ p.system.controls.flatMap Control.resultHandles) := by
  refine List.perm_iff_count.mpr fun h => ?_
  have changed := count_flatMap_modify Control.resultHandles p.system.controls s f
    ⟨.standard, false, .gone, [], 0, [], []⟩ h lt
  change _ + (p.system.control s).resultHandles.count h =
    _ + (f (p.system.control s)).resultHandles.count h at changed
  rw [results.count_eq h, List.count_append] at changed
  rw [List.count_append]
  omega

/-- The handles in all results, where one session loses some. -/
theorem results_lose (p : Process σ J R) {lost : List Handle} (lt : s < p.system.controls.length)
    (results : (p.system.control s).resultHandles.Perm
      (lost ++ (f (p.system.control s)).resultHandles)) :
    (p.system.controls.flatMap Control.resultHandles).Perm
      (lost ++ (p.system.controls.modify s f).flatMap Control.resultHandles) := by
  refine List.perm_iff_count.mpr fun h => ?_
  have changed := count_flatMap_modify Control.resultHandles p.system.controls s f
    ⟨.standard, false, .gone, [], 0, [], []⟩ h lt
  change _ + (p.system.control s).resultHandles.count h =
    _ + (f (p.system.control s)).resultHandles.count h at changed
  rw [results.count_eq h, List.count_append] at changed
  rw [List.count_append]
  omega

end

omit [HasHandles R] in
theorem sameBooks_ending (e : Ending R) (w : World σ) : SameBooks w (e.note w) := by
  cases e with
  | returned r => exact ⟨rfl, rfl, rfl⟩
  | panicked message => exact sameBooks_note w _ _ _ rfl

/-- The result of a job goes to those that wait, or comes back. -/
theorem existing_finish (p : Process σ J R) (lt : s < p.system.controls.length) {e : Ending R}
    (exist : e.handles.Subperm p.handles) (ticket : Nat) (wanted : Bool) :
    p.existing.Perm ((if wanted then none else some e).elim [] Ending.handles ++
      p.handles.diff e.handles ++ (p.system.controls.modify s fun c => { c with
        owner := .idle
        results := if wanted then (ticket, e) :: c.results else c.results }).flatMap
          Control.resultHandles) := by
  have used := split_used exist
  cases wanted with
  | true =>
      have gained := p.results_gain e.handles (f := fun c => { c with
        owner := .idle
        results := (ticket, e) :: c.results }) lt (.refl _)
      refine (used.append_right _).trans ?_
      rw [List.append_assoc]
      exact (List.perm_append_comm_assoc _ _ _).trans (gained.symm.append_left _)
  | false =>
      have kept : (p.system.controls.modify s fun c => { c with owner := .idle }).flatMap
          Control.resultHandles = p.system.controls.flatMap (Control.resultHandles (R := R)) :=
        flatMap_modify _ _ _ ⟨.standard, false, .gone, [], 0, [], []⟩ rfl
      exact kept ▸ used.append_right _

theorem Booked.finish (b : p.Booked) (s : SessionId) (e : Ending R) : (p.finish s e).Booked := by
  unfold Process.finish System.finish
  split
  · rename_i exist
    split
    · rename_i ticket job unwanted system working h
      have owner : (p.system.control s).owner = .working ticket job := working
      have lt : s < p.system.controls.length := System.lt_of_owner (by simp [owner])
      rw [owner] at h
      cases h
      refine b.at (s := s) rfl ?_ (sameBooks_ending e _).steady rfl ?_ ?_
      · exact (b.accounted.sameBooks (sameBooks_ending e _)).perm
          (p.existing_finish lt exist ticket _) (.refl _)
      · rw [owner]
        rfl
      · exact fun h => nomatch h
    · exact b
  · exact b

/-- What is collected comes into the hands of who waited, or gave up. -/
theorem existing_forget (q : p.Queued) {ticket : Nat} {e : Ending R}
    (found : (p.system.control s).results.lookup ticket = some e) :
    p.existing.Perm (e.handles ++ p.handles ++
      (p.system.forget s ticket).controls.flatMap Control.resultHandles) := by
  have lt : s < p.system.controls.length :=
    System.lt_of_wanted (((q s).results ticket e).mp (mem_of_lookup found)).2
  have split := (perm_of_lookup (q s).kept found).flatMap_right fun e => e.2.handles
  have lost := p.results_lose (f := fun c => { c with
    results := c.results.filter (·.1 != ticket)
    wanted := c.wanted.filter (· != ticket) }) lt split
  rw [existing, List.append_assoc]
  exact (lost.append_left p.handles).trans (List.perm_append_comm_assoc _ _ _)

/-- A step that only forgets a ticket, as long as the handles of its result still exist. -/
theorem Booked.forget (b : p.Booked) {ticket : Nat} (system : p'.system = p.system.forget s ticket)
    (existing : p.existing.Perm p'.existing) (releases : p'.releases = p.releases) :
    p'.Booked := by
  have world : p'.system.world = p.system.world := by
    rw [system]
    rfl
  refine b.at (congrArg System.controls system) ?_ (world ▸ Steady.refl _) releases rfl fun h => ?_
  · rw [world, inHand, releases]
    exact b.accounted.perm existing (.refl _)
  · rw [world]
    exact b.starting s h

theorem existing_collect (q : p.Queued) (s : SessionId) (ticket : Nat) :
    p.existing.Perm (p.collect s ticket).existing := by
  unfold Process.collect
  split
  · rename_i e system h
    obtain ⟨found, rfl⟩ := collect_eq_some h
    exact existing_forget q found
  · exact .refl _

theorem existing_abandon (q : p.Queued) (s : SessionId) (ticket : Nat) :
    p.existing.Perm (p.abandon s ticket).existing := by
  unfold Process.abandon
  split
  · rename_i e system h
    obtain ⟨found, rfl⟩ := collect_eq_some h
    exact existing_forget q found
  · rename_i h
    have absent : (p.system.control s).results.lookup ticket = none := Option.map_eq_none_iff.mp h
    have same : ({ p with system := p.system.forget s ticket } : Process σ J R).existing =
        p.existing := by
      refine existing_modify (s := s) rfl rfl ?_
      rw [Control.resultHandles, filter_of_lookup absent]
      rfl
    exact .of_eq same.symm

theorem Booked.collect (b : p.Booked) (q : p.Queued) (s : SessionId) (ticket : Nat) :
    (p.collect s ticket).Booked := by
  have existing := existing_collect q s ticket
  unfold Process.collect at existing ⊢
  split at existing
  · rename_i e system h
    obtain ⟨-, rfl⟩ := collect_eq_some h
    exact b.forget (s := s) rfl existing rfl
  · exact b

theorem Booked.abandon (b : p.Booked) (q : p.Queued) (s : SessionId) (ticket : Nat) :
    (p.abandon s ticket).Booked := by
  refine b.forget (p.abandon_system s ticket) (existing_abandon q s ticket) ?_
  unfold Process.abandon
  split <;> rfl

theorem Booked.timeOut (b : p.Booked) (q : p.Queued) (s : SessionId) (ticket : Nat) :
    (p.timeOut s ticket).Booked := by
  unfold Process.timeOut
  split
  · obtain ⟨accounted, sessions, known, parked, taken, starting⟩ := b.abandon q s ticket
    exact ⟨accounted, sessions, known, parked, taken, starting⟩
  · exact b

/-! ### Releases -/

omit [HasHandles R] in
/-- A release that has just begun is neither parked nor in the hands of an owner. -/
theorem refsAt_begun (u : SessionId) {stage : Stage} (other : Stage.counted ≠ stage)
    {rs : List Release} {t : Thread} {h : Handle} :
    refsAt u stage (rs ++ [⟨t, h, .counted⟩]) = refsAt u stage rs := by
  rw [refsAt, List.flatMap_append, List.flatMap_singleton, Release.refAt, Release.isAt]
  simp [refsAt, other]

theorem Booked.release (b : p.Booked) (t : Thread) (h : Handle) : (p.release t h).Booked := by
  unfold Process.release
  split
  · rename_i there
    have out := (List.perm_cons_erase there).append_right
      (p.system.controls.flatMap (Control.resultHandles (R := R)))
    refine ⟨?_, ?_, fun r hr => ?_, fun u => ?_, fun u => ?_, fun u starting => ?_⟩
    · have counted := (b.accounted.perm out (.refl _)).countOut
      refine counted.perm (.refl _) ?_
      change (_ :: handRefs p.releases).Perm (handRefs (p.releases ++ [_]))
      rw [handRefs, handRefs, List.flatMap_append]
      exact (List.perm_append_singleton _ _).symm
    · exact (p.system.world.length_modifySession _ _).trans b.sessions
    · rcases List.mem_append.mp hr with hr | hr
      · exact b.known r hr
      · cases List.mem_singleton.mp hr
        exact b.sessions ▸ (b.accounted.known h (List.mem_append_left _ there))
    · have same : ((p.system.world.countOut h.session).session u).parked =
          (p.system.world.session u).parked :=
        p.system.world.field_modifySession h.session u (·.parked) fun _ => rfl
      change (((p.system.world.countOut h.session).session u).parked.getD []).Perm _
      rw [same, refsAt_begun u (by decide)]
      exact b.parked u
    · rw [refsAt_begun u (by decide)]
      exact b.taken u
    · have same : ((p.system.world.countOut h.session).session u).runtime =
          (p.system.world.session u).runtime :=
        p.system.world.field_modifySession h.session u (·.runtime) fun _ => rfl
      exact same.trans (b.starting u starting)
  · exact b

omit [HasHandles R] in
/-- Where one release changes, the references of all change as much. -/
theorem flatMap_set {rs : List Release} {i : Nat} {r : Release} (hr : rs[i]? = some r)
    (r' : Release) (g : Release → List Ref) :
    ((rs.set i r').flatMap g ++ g r).Perm (rs.flatMap g ++ g r') := by
  induction rs generalizing i with
  | nil => cases hr
  | cons x rs ih =>
      cases i with
      | zero =>
          cases hr
          rw [List.set_cons_zero, List.flatMap_cons, List.flatMap_cons]
          refine List.perm_append_comm.trans ((List.perm_append_comm.append_left _).trans ?_)
          rw [List.append_assoc]
      | succ i =>
          rw [List.set_cons_succ, List.flatMap_cons, List.flatMap_cons, List.append_assoc,
            List.append_assoc]
          exact (ih hr).append_left _

section

variable {i : Nat} {r : Release} {stage : Stage}

omit [HasHandles R] in
/-- A release of another session, or at other stages before and after, does not count. -/
theorem refsAt_set {rs : List Release} (hr : rs[i]? = some r) (u : SessionId) {at_ : Stage}
    (other : r.handle.session ≠ u ∨ r.stage ≠ at_ ∧ stage ≠ at_) :
    (refsAt u at_ (rs.set i { r with stage })).Perm (refsAt u at_ rs) := by
  have changed := flatMap_set hr { r with stage } (Release.refAt u at_)
  have none : Release.refAt u at_ r = [] := by
    rcases other with h | h <;> simp [Release.refAt, Release.isAt, h]
  have none' : Release.refAt u at_ { r with stage } = [] := by
    rcases other with h | h <;> simp [Release.refAt, Release.isAt, h]
  rwa [none, none', List.append_nil, List.append_nil] at changed

omit [HasHandles R] in
/-- The reference of a release that was in hand and is not any more. -/
theorem handRefs_set {rs : List Release} (hr : rs[i]? = some r) (before : r.stage.inHand = true)
    (after : stage.inHand = false) :
    (handRefs rs).Perm (r.object :: handRefs (rs.set i { r with stage })) := by
  have changed := flatMap_set hr { r with stage } Release.handRef
  have ref : Release.handRef r = [r.object] := by simp [Release.handRef, before]
  have none : Release.handRef { r with stage } = [] := by simp [Release.handRef, after]
  rw [ref, none, List.append_nil] at changed
  exact changed.symm.trans (List.perm_append_singleton _ _)

/-- A release that comes to another stage. -/
theorem Booked.moveTo (b : p.Booked) (hr : p.releases[i]? = some r) {world : World σ}
    (accounted : Accounted world p.existing (handRefs (p.releases.set i { r with stage })))
    (length : world.sessions.length = p.system.world.sessions.length)
    (parked : ∀ u, (world.session u).parkedRefs.Perm
      (refsAt u .parked (p.releases.set i { r with stage })))
    (taken : r.stage ≠ .taken ∧ stage ≠ .taken)
    (runtime : ∀ u, (world.session u).runtime = (p.system.world.session u).runtime) :
    (p.moveTo i r stage world).Booked where
  accounted := accounted
  sessions := length.trans b.sessions
  known x hx := by
    rcases List.mem_or_eq_of_mem_set hx with hx | rfl
    · exact b.known x hx
    · exact b.known r (List.mem_of_getElem? hr)
  parked := parked
  taken u := (b.taken u).trans (refsAt_set hr u (.inr taken)).symm
  starting u h := (runtime u).trans (b.starting u h)

/-- A thread gives the reference back that it has in hand. -/
theorem Booked.dropped (b : p.Booked) (hr : p.releases[i]? = some r)
    (hand : r.stage = .counted ∨ r.stage = .refused) :
    (p.moveTo i r .dropped (p.system.world.drop r.object)).Booked := by
  have inHand : r.stage.inHand = true := by rcases hand with h | h <;> rw [h] <;> rfl
  have parked : r.stage ≠ .parked := by rcases hand with h | h <;> rw [h] <;> decide
  have taken : r.stage ≠ .taken := by rcases hand with h | h <;> rw [h] <;> decide
  refine b.moveTo hr ?_ rfl (fun u => ?_) ⟨taken, by decide⟩ fun u => rfl
  · exact (b.accounted.perm (.refl _) (handRefs_set hr inHand rfl)).drop
  · exact (b.parked u).trans (refsAt_set hr u (.inr ⟨parked, by decide⟩)).symm

/-- A thread finds that nothing is parked any more. -/
theorem Booked.refused (b : p.Booked) (hr : p.releases[i]? = some r) (hand : r.stage = .counted) :
    (p.moveTo i r .refused p.system.world).Booked := by
  refine b.moveTo hr (b.accounted.perm (.refl _) ?_) rfl (fun u => ?_) ?_ fun u => rfl
  · have changed := flatMap_set hr { r with stage := .refused } Release.handRef
    have ref : Release.handRef r = [r.object] := by simp [Release.handRef, hand, Stage.inHand]
    rw [ref] at changed
    exact ((List.perm_append_right_iff _).mp changed).symm
  · exact (b.parked u).trans (refsAt_set hr u (.inr ⟨by simp [hand], by decide⟩)).symm
  · exact ⟨by simp [hand], by decide⟩

/-- A thread parks the reference that it has in hand. -/
theorem Booked.park (b : p.Booked) (hr : p.releases[i]? = some r) (hand : r.stage = .counted)
    {world : World σ} (hp : p.system.world.park? r.handle.session r.object = some world) :
    (p.moveTo i r .parked world).Booked := by
  have lt : r.handle.session < p.system.world.sessions.length :=
    b.sessions ▸ b.known r (List.mem_of_getElem? hr)
  have inHand : r.stage.inHand = true := by rw [hand]; rfl
  have out : (handRefs p.releases).Perm
      (r.object :: handRefs (p.releases.set i { r with stage := .parked })) :=
    handRefs_set hr inHand rfl
  have accounted := (b.accounted.perm (.refl _) out).park lt hp
  obtain ⟨rs, parked, rfl⟩ := Option.map_eq_some_iff.mp hp
  refine b.moveTo hr accounted (World.length_modifySession _ _ _) (fun u => ?_) ?_ fun u => ?_
  · have before := b.parked u
    have changed := flatMap_set hr { r with stage := .parked } (Release.refAt u .parked)
    have none : Release.refAt u .parked r = [] := by simp [Release.refAt, Release.isAt, hand]
    rw [none, List.append_nil] at changed
    refine List.Perm.trans ?_ changed.symm
    by_cases own : r.handle.session = u
    · subst own
      have ref : Release.refAt r.handle.session .parked { r with stage := .parked } =
          [r.object] := by
        simp [Release.refAt, Release.isAt, Release.object]
      rw [SessionState.parkedRefs, parked] at before
      rw [SessionState.parkedRefs, World.session_modifySession _ _ _ lt, ref]
      exact before.append_right _
    · have ref : Release.refAt u .parked { r with stage := .parked } = [] := by
        simp [Release.refAt, Release.isAt, own]
      rw [World.session_modifySession_ne _ _ own, ref, List.append_nil]
      exact before
  · exact ⟨by simp [hand], by decide⟩
  · exact World.field_modifySession _ _ u _ fun _ => rfl

end

theorem Booked.advance (b : p.Booked) (i : Nat) : (p.advance i).Booked := by
  unfold Process.advance
  dsimp only
  split
  · exact b
  · rename_i r hr
    split
    · rename_i counted
      split
      · exact b.dropped hr (.inl counted)
      · split
        · rename_i world hp
          exact b.park hr counted hp
        · exact b.refused hr counted
    · rename_i refused
      exact b.dropped hr (.inr refused)
    · exact b

/-! ### What owners give back -/

section

variable {u : SessionId} {a b c : Stage} {r : Release}

omit [HasHandles R]

theorem handle_move (s : SessionId) (a b : Stage) (r : Release) :
    (r.move s a b).handle = r.handle := by
  unfold Release.move
  split <;> rfl

theorem move_pos (h : r.isAt s a = true) : r.move s a b = { r with stage := b } := if_pos h

theorem move_neg (h : ¬ r.isAt s a = true) : r.move s a b = r := if_neg h

theorem refAt_pos (h : r.isAt s a = true) : r.refAt s a = [r.object] := if_pos h

theorem refAt_neg (h : ¬ r.isAt s a = true) : r.refAt s a = [] := if_neg h

/-- Releases that move on are of one session, and between two stages. -/
theorem refAt_others (h : u ≠ s ∨ c ≠ a ∧ c ≠ b) :
    (r.move s a b).refAt u c = r.refAt u c := by
  by_cases hr : r.isAt s a = true
  · have same : r.handle.session = s ∧ r.stage = a := by simpa [Release.isAt] using hr
    rw [move_pos hr, refAt_neg, refAt_neg]
    · rcases h with h | h
      · simp [Release.isAt, same, Ne.symm h]
      · simp [Release.isAt, same, Ne.symm h.1]
    · rcases h with h | h
      · simp [Release.isAt, same, Ne.symm h]
      · simp [Release.isAt, Ne.symm h.2]
  · rw [move_neg hr]

/-- Releases that move on leave their stage. -/
theorem refAt_left (h : a ≠ b) : (r.move s a b).refAt s a = [] := by
  by_cases hr : r.isAt s a = true
  · rw [move_pos hr, refAt_neg]
    simp [Release.isAt, Ne.symm h]
  · rw [move_neg hr, refAt_neg hr]

/-- Releases that move on come to the next stage. -/
theorem refAt_arrived (h : a ≠ b) : (r.move s a b).refAt s b = r.refAt s a ++ r.refAt s b := by
  by_cases hr : r.isAt s a = true
  · have same : r.handle.session = s ∧ r.stage = a := by simpa [Release.isAt] using hr
    have there : ({ r with stage := b } : Release).isAt s b = true := by
      simp [Release.isAt, same]
    have other : ¬ r.isAt s b = true := by simp [Release.isAt, same, h]
    rw [move_pos hr, refAt_pos there, refAt_pos hr, refAt_neg other]
    rfl
  · rw [move_neg hr, refAt_neg hr, List.nil_append]

/-- Moving on between stages where nobody has the reference in hand. -/
theorem handRef_same (before : a.inHand = false) (after : b.inHand = false) :
    (r.move s a b).handRef = r.handRef := by
  by_cases hr : r.isAt s a = true
  · have same : r.handle.session = s ∧ r.stage = a := by simpa [Release.isAt] using hr
    rw [move_pos hr, Release.handRef, Release.handRef, same.2, before, after]
    rfl
  · rw [move_neg hr]

/-- Moving on into somebody's hands. -/
theorem handRef_into (before : a.inHand = false) (after : b.inHand = true) :
    (r.move s a b).handRef = r.refAt s a ++ r.handRef := by
  by_cases hr : r.isAt s a = true
  · have same : r.handle.session = s ∧ r.stage = a := by simpa [Release.isAt] using hr
    rw [move_pos hr, refAt_pos hr, Release.handRef, Release.handRef, same.2, before, after]
    rfl
  · rw [move_neg hr, refAt_neg hr, List.nil_append]

/-- Moving on out of somebody's hands. -/
theorem handRef_out (before : a.inHand = true) (after : b.inHand = false) :
    r.handRef = r.refAt s a ++ (r.move s a b).handRef := by
  by_cases hr : r.isAt s a = true
  · have same : r.handle.session = s ∧ r.stage = a := by simpa [Release.isAt] using hr
    rw [move_pos hr, refAt_pos hr, Release.handRef, Release.handRef, same.2, before, after]
    rfl
  · rw [move_neg hr, refAt_neg hr, List.nil_append]

variable {rs : List Release}

theorem refsAt_others (h : u ≠ s ∨ c ≠ a ∧ c ≠ b) :
    refsAt u c (rs.map (Release.move s a b)) = refsAt u c rs := by
  rw [refsAt, List.flatMap_map, refsAt]
  exact congrArg (rs.flatMap ·) (funext fun _ => refAt_others h)

theorem refsAt_left (h : a ≠ b) : refsAt s a (rs.map (Release.move s a b)) = [] := by
  rw [refsAt, List.flatMap_map, List.flatMap_eq_nil_iff]
  exact fun _ _ => refAt_left h

theorem refsAt_arrived (h : a ≠ b) :
    (refsAt s b (rs.map (Release.move s a b))).Perm (refsAt s a rs ++ refsAt s b rs) := by
  rw [refsAt, List.flatMap_map, show (fun r => Release.refAt s b (Release.move s a b r)) =
    fun r => r.refAt s a ++ r.refAt s b from funext fun _ => refAt_arrived h]
  exact (List.flatMap_append_perm rs _ _).symm

theorem handRefs_same (before : a.inHand = false) (after : b.inHand = false) :
    handRefs (rs.map (Release.move s a b)) = handRefs rs := by
  rw [handRefs, List.flatMap_map, handRefs]
  exact congrArg (rs.flatMap ·) (funext fun _ => handRef_same before after)

theorem handRefs_into (before : a.inHand = false) (after : b.inHand = true) :
    (handRefs (rs.map (Release.move s a b))).Perm (refsAt s a rs ++ handRefs rs) := by
  rw [handRefs, List.flatMap_map, show (fun r => Release.handRef (Release.move s a b r)) =
    fun r => r.refAt s a ++ r.handRef from funext fun _ => handRef_into before after]
  exact (List.flatMap_append_perm rs _ _).symm

theorem handRefs_out (before : a.inHand = true) (after : b.inHand = false) :
    (handRefs rs).Perm (refsAt s a rs ++ handRefs (rs.map (Release.move s a b))) := by
  have each : Release.handRef = fun r => r.refAt s a ++ (r.move s a b).handRef :=
    funext fun _ => handRef_out before after
  rw [handRefs, handRefs, List.flatMap_map]
  conv => lhs; rw [each]
  exact (List.flatMap_append_perm rs _ _).symm

end

section

variable {f : Control J R → Control J R} {before after : Stage}

/-- A step of an owner in which releases of its session come to another stage. -/
theorem Booked.moved (b : p.Booked) (lt : s < p.system.controls.length)
    (controls : p'.system.controls = p.system.controls.modify s f)
    (handles : p'.handles = p.handles)
    (results : (f (p.system.control s)).resultHandles = (p.system.control s).resultHandles)
    (releases : p'.releases = p.releases.map (Release.move s before after))
    (accounted : Accounted p'.system.world p.existing p'.inHand)
    (length : p'.system.world.sessions.length = p.system.world.sessions.length)
    (parked : ∀ u, (p'.system.world.session u).parkedRefs.Perm (refsAt u .parked p'.releases))
    (rest : (f (p.system.control s)).owner.rest.Perm (refsAt s .taken p'.releases))
    (started : (f (p.system.control s)).owner ≠ .starting)
    (runtime : ∀ u, (p'.system.world.session u).runtime = (p.system.world.session u).runtime) :
    p'.Booked where
  accounted := existing_modify controls handles results ▸ accounted
  sessions := by rw [length, b.sessions, controls, List.length_modify]
  known := by
    rw [releases, controls, List.length_modify]
    intro r' hr'
    obtain ⟨r, hr, rfl⟩ := List.mem_map.mp hr'
    rw [handle_move]
    exact b.known r hr
  parked := parked
  taken u := by
    rw [owner]
    rcases System.control_of_modify controls u with ⟨other, same⟩ | ⟨rfl, -, changed⟩
    · rw [same, releases, refsAt_others (.inl (other lt))]
      exact b.taken u
    · rw [changed]
      exact rest
  starting u h := by
    rw [owner] at h
    rw [runtime u]
    rcases System.control_of_modify controls u with ⟨-, same⟩ | ⟨rfl, -, changed⟩
    · rw [same] at h
      exact b.starting u h
    · rw [changed] at h
      exact absurd h started

end

theorem Booked.begin (b : p.Booked) (s : SessionId) : (p.begin s).Booked := by
  unfold Process.begin System.begin
  split
  · rename_i ticket job job' system taking h
    have owner : (p.system.control s).owner = .taking ticket job := taking
    rw [owner] at h
    cases h
    have lt : s < p.system.controls.length := System.lt_of_owner (by simp [owner])
    have ltw : s < p.system.world.sessions.length := b.sessions ▸ lt
    have rest := b.taken s
    rw [Process.owner, owner] at rest
    have sessions := p.system.world.sessions_reclaim s
    have session := p.system.world.session_reclaim s
    refine b.moved (s := s) lt rfl rfl rfl rfl ?_ ?_ (fun u => ?_) ?_
      (fun h => nomatch h) fun u => ?_
    · change Accounted (p.system.world.reclaim s) _ (handRefs (p.releases.map _))
      rw [handRefs_same rfl rfl]
      exact b.accounted.reclaim ltw
    · exact (congrArg List.length sessions).trans (World.length_modifySession _ _ _)
    · change ((p.system.world.reclaim s).session u).parkedRefs.Perm (refsAt u _ (p.releases.map _))
      rw [session]
      by_cases hu : u = s
      · subst hu
        rw [World.session_modifySession _ _ _ ltw, refsAt_left (by decide),
          SessionState.parkedRefs]
        cases (p.system.world.session u).parked <;> exact .refl _
      · rw [World.session_modifySession_ne _ _ (Ne.symm hu), refsAt_others (.inl hu)]
        exact b.parked u
    · change List.Perm _ (refsAt s _ (p.releases.map _))
      rw [refsAt_others (.inr (by decide))]
      exact rest
    · change ((p.system.world.reclaim s).session u).runtime = _
      rw [session]
      exact p.system.world.field_modifySession s u (·.runtime) fun _ => rfl
  · exact b

theorem Booked.shut (b : p.Booked) (s : SessionId) : (p.shut s).Booked := by
  unfold Process.shut System.shut
  split
  · rename_i system h
    split at h
    · rename_i leaving
      cases h
      have lt : s < p.system.controls.length := System.lt_of_owner (by simp [leaving])
      have ltw : s < p.system.world.sessions.length := b.sessions ▸ lt
      have none_ : refsAt s .taken p.releases = [] := by
        have rest := b.taken s
        rw [Process.owner, leaving] at rest
        exact rest.nil_eq.symm
      have taken := b.accounted.takeParked ltw none rfl
      refine b.moved lt rfl rfl rfl rfl ?_ ?_ (fun u => ?_) ?_ (fun h => nomatch h) fun u => ?_
      · refine taken.perm (.refl _) ?_
        exact ((b.parked s).append_right _).trans (handRefs_into rfl rfl).symm
      · exact World.length_modifySession _ _ _
      · change (((p.system.world.modifySession s _).session u).parkedRefs).Perm
          (refsAt u _ (p.releases.map _))
        by_cases hu : u = s
        · subst hu
          rw [World.session_modifySession _ _ _ ltw, refsAt_left (by decide)]
          exact .refl _
        · rw [World.session_modifySession_ne _ _ (Ne.symm hu), refsAt_others (.inl hu)]
          exact b.parked u
      · refine (b.parked s).trans (List.Perm.trans ?_ (refsAt_arrived (by decide)).symm)
        rw [none_, List.append_nil]
      · exact p.system.world.field_modifySession s u (·.runtime) fun _ => rfl
    · cases h
  · exact b

theorem Booked.giveBack (b : p.Booked) (s : SessionId) : (p.giveBack s).Booked := by
  unfold Process.giveBack System.giveBack
  split
  · rename_i rest system shut h
    have owner : (p.system.control s).owner = .shut rest := shut
    rw [owner] at h
    cases h
    have lt : s < p.system.controls.length := System.lt_of_owner (by simp [owner])
    have taken := b.taken s
    rw [Process.owner, owner] at taken
    have sessions := p.system.world.dropAll_sessions rest
    have session := p.system.world.session_dropAll rest
    refine b.moved lt rfl rfl rfl rfl ?_ (congrArg List.length sessions) (fun u => ?_) ?_
      (fun h => nomatch h) fun u => congrArg _ (session u)
    · have out : (handRefs p.releases).Perm (refsAt s .taken p.releases ++
          handRefs (p.releases.map (Release.move s .taken .reclaimed))) := handRefs_out rfl rfl
      have hand := out.trans (taken.symm.append_right _)
      exact ((b.accounted.perm (.refl _) hand).dropAll).congr rfl rfl
    · change ((p.system.world.dropAll rest).session u).parkedRefs.Perm
        (refsAt u _ (p.releases.map _))
      rw [session, refsAt_others (.inr (by decide))]
      exact b.parked u
    · change List.Perm [] (refsAt s _ (p.releases.map _))
      rw [refsAt_left (by decide)]
  · exact b

/-! ### The books of a run -/

theorem booked_step [GuestState σ] (b : p.Booked) (q : p.Queued) (a : Action J R) :
    (p.step a).Booked := by
  cases a with
  | claim config => exact b.claim config
  | prepare s => exact b.prepare s
  | abort s => exact b.abort s
  | submit t s job => exact b.submit t s job
  | close t s => exact b.close t s
  | closeFromJob s => exact b.closeFromJob s
  | receive s => exact b.receive s
  | begin s => exact b.begin s
  | operate s op => exact b.operate s op
  | finish s e => exact b.finish s e
  | collect s ticket => exact b.collect q s ticket
  | timeOut s ticket => exact b.timeOut q s ticket
  | abandon s ticket => exact b.abandon q s ticket
  | release t h => exact b.release t h
  | advance i => exact b.advance i
  | leave s => exact b.leave s
  | shut s => exact b.shut s
  | giveBack s => exact b.giveBack s
  | surrender s => exact b.surrender s
  | clearOutput s => exact b.clearOutput s

theorem booked_initial (g : σ) : (initial g : Process σ J R).Booked where
  accounted := Accounted.initial g
  sessions := rfl
  known r hr := absurd hr List.not_mem_nil
  parked s := by
    rw [SessionState.parkedRefs, World.session]
    exact .refl _
  taken s := by
    rw [owner, System.control_outside _ (Nat.not_lt_zero s)]
    exact .refl _
  starting s h := rfl

theorem booked_run [GuestState σ] (g : σ) (as : List (Action J R)) : (run g as).Booked := by
  have both : (run g as).Booked ∧ (run g as).Queued :=
    run_induction (P := fun p => p.Booked ∧ p.Queued) ⟨booked_initial g, queued_initial g⟩
      (fun p a h => ⟨booked_step h.1 h.2 a, h.2.turned (turned_step h.2 a)⟩) as
  exact both.1

/-- What the books of a process promise about its handles. -/
structure Balanced [GuestState σ] (p : Process σ J R) : Prop where
  /-- Each session counts those of its handles that exist, wherever they are. -/
  live : ∀ s, p.system.liveHandles s = p.existing.countP (·.session = s)
  /-- A handle that exists is in its session's count, which therefore never falls below zero. -/
  positive : ∀ h ∈ p.existing, 0 < p.system.liveHandles h.session
  /-- Besides what sessions hold for themselves, an object is held once for each handle on it, each
  entry of a pending list and each reference in somebody's hands. -/
  held : ∀ r, p.system.world.held.count r = (p.existing.map Handle.object).count r +
    p.system.world.parkedRefs.count r + p.system.world.ownRefs.count r + p.inHand.count r
  /-- Nobody is in the middle of a release: there are only handles and pending lists. -/
  settled : (∀ x ∈ p.releases, x.stage.inHand = false) → ∀ r, p.system.world.held.count r =
    (p.existing.map Handle.object).count r + p.system.world.parkedRefs.count r +
      p.system.world.ownRefs.count r
  /-- An operation that succeeds, fails or panics changes the counts by the handles that it takes
  over and those of its outcome. -/
  counted : ∀ s ticket job (op : Operation), p.owner s = .working ticket job → op.used.Subperm p.handles →
    ∀ u, ((op.run ⟨s⟩ p.system.world).2.session u).live + op.used.countP (·.session = u) =
      p.system.liveHandles u + (op.run ⟨s⟩ p.system.world).1.countP (·.session = u)
  /-- The same goes for the references that are held. -/
  exchanged : ∀ s ticket job (op : Operation), p.owner s = .working ticket job → op.used.Subperm p.handles →
    ∀ r, (op.run ⟨s⟩ p.system.world).2.held.count r + (op.used.map Handle.object).count r +
        p.system.world.ownRefs.count r =
      p.system.world.held.count r + ((op.run ⟨s⟩ p.system.world).1.map Handle.object).count r +
        (op.run ⟨s⟩ p.system.world).2.ownRefs.count r

section

variable [GuestState σ] {op : Operation}

/-- The books after an operation, by the handles that exist beside those that it takes over. -/
theorem Booked.operated (b : p.Booked) {ticket : Nat} {job : J}
    (working : p.owner s = .working ticket job) (exist : op.used.Subperm p.handles) :
    ∃ others, p.existing.Perm (op.used ++ others) ∧
      Steady ⟨s⟩ p.system.world (op.run ⟨s⟩ p.system.world).2 ∧
      Accounted (op.run ⟨s⟩ p.system.world).2 ((op.run ⟨s⟩ p.system.world).1 ++ others)
        p.inHand := by
  have owner : (p.system.control s).owner = .working ticket job := working
  have lt : s < p.system.world.sessions.length :=
    b.sessions ▸ System.lt_of_owner (by simp [owner])
  have used := (split_used exist).append_right
    (p.system.controls.flatMap (Control.resultHandles (R := R)))
  rw [List.append_assoc] at used
  have turns : Turns (σ := σ) ⟨s⟩ op.used (op.run ⟨s⟩) id := op.turns_run
  have turned := turns p.system.world
    (p.handles.diff op.used ++ p.system.controls.flatMap (Control.resultHandles (R := R)))
  exact ⟨_, used, turned.steady, (b.accounted.perm used (.refl _)).moves lt turned⟩

theorem Booked.balanced (b : p.Booked) : p.Balanced where
  live := b.accounted.live
  positive h hh := b.accounted.live_pos hh
  held := b.accounted.held
  settled quiet r := by
    have none : p.inHand = [] := by
      rw [inHand, handRefs, List.flatMap_eq_nil_iff]
      intro x hx
      simp [Release.handRef, quiet x hx]
    rw [b.accounted.held r, none, List.count_nil, Nat.add_zero]
  counted s ticket job op working exist u := by
    obtain ⟨others, used, -, after⟩ := b.operated working exist
    have before := b.accounted.live u
    rw [used.countP_eq, List.countP_append] at before
    rw [after.live u, List.countP_append, System.liveHandles]
    omega
  exchanged s ticket job op working exist r := by
    obtain ⟨others, used, steady, after⟩ := b.operated working exist
    have before := b.accounted.held r
    rw [(used.map Handle.object).count_eq, List.map_append, List.count_append] at before
    rw [after.held r, List.map_append, List.count_append]
    rw [steady.parkedRefs]
    omega

end

/-- **In every run every handle is counted, and every object is held as often as it should be.**
Whatever the guest does, whatever jobs do, whether it fails or panics, and whoever drops handles and
results on whichever thread and in whichever order. -/
theorem balanced_run [GuestState σ] (g : σ) (as : List (Action J R)) : (run g as).Balanced :=
  (booked_run g as).balanced

end Process

end GuestBridge.Session
