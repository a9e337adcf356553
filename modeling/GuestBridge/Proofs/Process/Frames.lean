import GuestBridge.Proofs.Process.Desk
import GuestBridge.Proofs.Requests.Writes

/-!
# What a Step Leaves Alone

Every step is about one session: the one that is started, or whose owner, jobs, handles or output are
dealt with. A step that does not reach the guest changes one place among the queues and owners, and one
among what the bridge keeps (`Process.Local`); one that does changes the books of its session alone, and
of the output what the guest writes meanwhile. `Touches` lists what a step can do to sessions and to the
guest.

## Main results

* `Process.touches_step`, `Desk.touches_step` — every step does one of these.
* `Touches.unmoved` — a step about another session leaves a session's owner, queue, results, count,
  parked references and runtime as they are.
-/

namespace GuestBridge.Bridge

open Guest (Ref)

variable {σ : Type}

/-- What the bridge keeps about a session, apart from its captured output. -/
def World.books (w : World σ) (s : SessionId) : Nat × Option (List Ref) × Option Runtime :=
  (w.session s).books

theorem World.books_modifySession_ne (w : World σ) {s u : SessionId}
    (f : SessionState → SessionState) (other : u ≠ s) : (w.modifySession s f).books u = w.books u :=
  congrArg SessionState.books (w.session_modifySession_ne f (Ne.symm other))

theorem books_release_ne (w : World σ) (t : Thread) (h : Handle) {u : SessionId}
    (other : u ≠ h.session) : (w.release t h).books u = w.books u := by
  have counted : (w.countOut h.session).books u = w.books u := w.books_modifySession_ne _ other
  rw [← counted, World.release]
  split
  · rfl
  · cases parks : (w.countOut h.session).park? h.session h.object with
    | none => rfl
    | some w' =>
        obtain ⟨rs, -, rfl⟩ := Option.map_eq_some_iff.mp parks
        exact (w.countOut h.session).books_modifySession_ne _ other

theorem books_remember_ne (cx : Context) (name : String) (m : Ref) (w : World σ) {u : SessionId}
    (other : u ≠ cx.session) : (rememberModule cx name m w).2.books u = w.books u := by
  dsimp only [rememberModule]
  cases ((w.hold m).session cx.session).runtime with
  | none => rfl
  | some rt =>
      dsimp only
      split <;> exact World.books_modifySession_ne _ _ other

variable [GuestState σ]

/-- **A job changes the books of its own session alone.** -/
theorem Moves.books_ne {cx : Context} {w w' : World σ} {hs hs' : List Handle}
    (m : Moves cx w hs w' hs') {u : SessionId} (other : u ≠ cx.session) : w'.books u = w.books u := by
  induction m with
  | ask w hs r plain => exact World.books_session (w.books_ask r) u
  | note w hs level message fields h => rfl
  | take w hs r => exact (w.hold r).books_modifySession_ne _ other
  | give w h hs own => exact books_release_ne w _ h (own ▸ other)
  | tag w h hs t => rfl
  | remember w hs name m => exact books_remember_ne cx name m w other
  | perm w p => rfl
  | trans _ _ ih₁ ih₂ => exact ih₂.trans ih₁

theorem books_enterGuest_ne {s u : SessionId} (config : SessionConfig) (w : World σ) (other : u ≠ s) :
    (enterGuest s config w).2.books u = w.books u := by
  have asked := World.books_session (asks_startRuntime s config w).books u
  rw [enterGuest, bind_apply]
  cases hr : ((startRuntime s config).run w).1 with
  | ok rt =>
      refine (World.books_modifySession_ne (rt.refs.foldl World.hold _) _ other).trans ?_
      rw [World.books, World.session, World.sessions_holdAll]
      exact asked
  | error e => cases e with
      | failed e => exact (World.books_session (asks_raisedText e _).books u).trans asked
      | panicked message => exact asked

theorem books_leaveGuest_ne {s u : SessionId} (w : World σ) (other : u ≠ s) :
    (leaveGuest s w).2.books u = w.books u := by
  cases runtime : (w.session s).runtime with
  | none =>
      rw [leaveGuest, runtime]
  | some rt =>
      rw [leaveGuest_eq runtime]
      refine (World.books_session (asks_noteRestored _ _).books u).trans ?_
      refine (World.books_modifySession_ne (World.dropAll _ rt.refs) _ other).trans ?_
      rw [World.books, World.session_dropAll]
      exact (World.books_session (World.books_ask _ (.clear rt.globals)) u).trans
        (World.books_session (asks_restoreOutput rt w).books u)

end GuestBridge.Bridge

namespace GuestBridge.Session

open Bridge

variable {σ J R : Type}

/-- The session whose output an action clears. -/
def Action.clears? : Action J R → Option SessionId
  | .clearOutput s => some s
  | _ => none

/-- The session whose output a step clears. -/
def Move.clears? : Move J R → Option SessionId
  | .act a => a.clears?
  | _ => none

/-- Nothing is left of what is cleared. -/
theorem System.output_clearOutput (sys : System σ J R) (s : SessionId) :
    (sys.clearOutput s).output s = "" := by
  by_cases known : s < sys.world.sessions.length
  · exact congrArg SessionState.output (sys.world.session_modifySession s _ known)
  · refine World.captured_unknown _ fun still => known ?_
    exact (World.length_modifySession _ s _) ▸ still

theorem System.output_clearOutput_ne (sys : System σ J R) {s u : SessionId} (other : u ≠ s) :
    (sys.clearOutput s).output u = sys.output u :=
  congrArg SessionState.output (sys.world.session_modifySession_ne _ (Ne.symm other))

/-! ### Steps of a process -/

namespace Process

/-- The session that an action is about. -/
def subject (p : Process σ J R) : Action J R → Option SessionId
  | .claim _ => some p.system.controls.length
  | .prepare s | .abort s | .submit _ s _ | .close _ s | .closeFromJob s | .receive s | .begin s
  | .operate s _ | .finish s _ | .collect s _ | .timeOut s _ | .abandon s _ | .leave s | .shut s
  | .giveBack s | .surrender s | .clearOutput s => some s
  | .release _ h => some h.session
  | .advance i => p.releases[i]?.map (·.handle.session)

/-- Nothing of a session has changed but what was captured of it. -/
structure Unmoved (p p' : Process σ J R) (u : SessionId) : Prop where
  control : p'.system.control u = p.system.control u
  books : p'.system.world.books u = p.system.world.books u

/-- A step at one session, of which the guest sees nothing and which leaves what was captured. -/
structure Local (p p' : Process σ J R) (s : SessionId) : Prop where
  controls : ∃ f, p'.system.controls = p.system.controls.modify s f
  sessions : ∃ f : SessionState → SessionState, (∀ st, (f st).output = st.output) ∧
    p'.system.world.sessions = p.system.world.sessions.modify s f
  guest : p'.system.world.guest = p.system.world.guest

variable {p p' : Process σ J R} {s u : SessionId}

theorem Unmoved.refl (p : Process σ J R) (u : SessionId) : p.Unmoved p u := ⟨rfl, rfl⟩

/-- A step that changes a queue or an owner. -/
theorem Local.control {f : Control J R → Control J R}
    (controls : p'.system.controls = p.system.controls.modify s f)
    (sessions : p'.system.world.sessions = p.system.world.sessions)
    (guest : p'.system.world.guest = p.system.world.guest) : p.Local p' s :=
  ⟨⟨f, controls⟩, ⟨id, fun _ => rfl, by rw [sessions, List.modify_id]⟩, guest⟩

/-- A step that changes what the bridge keeps. -/
theorem Local.session {f : SessionState → SessionState} (output : ∀ st, (f st).output = st.output)
    (sessions : p'.system.world.sessions = p.system.world.sessions.modify s f)
    (controls : p'.system.controls = p.system.controls)
    (guest : p'.system.world.guest = p.system.world.guest) : p.Local p' s :=
  ⟨⟨id, by rw [controls, List.modify_id]⟩, ⟨f, output, sessions⟩, guest⟩

theorem Local.refl (p : Process σ J R) (s : SessionId) : p.Local p s :=
  .control (List.modify_id s _).symm rfl rfl

theorem Local.unmoved (l : p.Local p' s) (other : u ≠ s) : p.Unmoved p' u where
  control := by
    obtain ⟨f, controls⟩ := l.controls
    rcases System.control_of_modify controls u with ⟨-, same⟩ | ⟨own, -⟩
    · exact same
    · exact absurd own other
  books := by
    obtain ⟨f, -, sessions⟩ := l.sessions
    have same : p'.system.world.books u = (p.system.world.modifySession s f).books u := by
      rw [World.books, World.session, sessions]
      rfl
    rw [same, World.books_modifySession_ne _ _ other]

/-- What was captured stays as it is. -/
theorem Local.writes [GuestState σ] {P : (α : Type) → Request α → Prop} (l : p.Local p' s) :
    Writes P p.system.world [] p'.system.world := by
  obtain ⟨f, output, sessions⟩ := l.sessions
  refine .own l.guest ?_ fun u => ?_
  · rw [sessions, List.length_modify]
  · refine Eq.trans ?_ (captured_modifySession p.system.world s u output)
    rw [World.captured, World.session, sessions]
    rfl

/-! #### The steps that do not reach the guest -/

theorem local_abort (s : SessionId) : p.Local (p.act (p.system.abort s)) s := by
  unfold System.abort
  split
  · exact .control (f := fun c => { c with owner := .gone }) rfl rfl rfl
  · exact .refl p s

theorem local_surrender (s : SessionId) : p.Local (p.act (p.system.surrender s)) s := by
  unfold System.surrender
  split
  · exact .control (f := fun c => { c with owner := .gone }) rfl rfl rfl
  · exact .refl p s

theorem local_withdraw (s : SessionId) : p.Local (p.act (p.system.withdraw s)) s := by
  unfold System.withdraw
  split
  · exact .control (f := fun c => { c with owner := .gone, accepting := false }) rfl rfl rfl
  · exact .refl p s

theorem local_submit (t : Thread) (s : SessionId) (job : J) : p.Local (p.submit t s job) s := by
  unfold Process.submit System.submit
  split
  · by_cases reentrant : t = .owner s
    · rw [if_pos reentrant]
      exact .refl p s
    · rw [if_neg reentrant]
      split
      · rename_i ticket system h
        split at h
        · cases h
          exact .control rfl rfl rfl
        · cases h
      · exact .refl p s
  · exact .refl p s

theorem local_close (t : Thread) (s : SessionId) : p.Local (p.close t s) s := by
  unfold Process.close System.close
  split
  · by_cases reentrant : t = .owner s
    · rw [if_pos reentrant]
      exact .refl p s
    · rw [if_neg reentrant]
      exact .control (f := fun c => { c with accepting := false }) rfl rfl rfl
  · exact .refl p s

theorem local_closeFromJob (s : SessionId) : p.Local (p.closeFromJob s) s := by
  unfold Process.closeFromJob System.closeFromJob
  split
  · dsimp only
    split <;> exact .control (f := fun c => { c with accepting := false }) rfl rfl rfl
  · exact .refl p s

theorem local_receive (s : SessionId) : p.Local (p.act (p.system.receive s)) s := by
  unfold System.receive
  dsimp only
  split
  · rename_i ticket job rest idle queue
    exact .control (f := fun c => { c with owner := .taking ticket job, queue := rest }) rfl rfl rfl
  · exact .refl p s

theorem local_begin (s : SessionId) : p.Local (p.begin s) s := by
  unfold Process.begin System.begin
  split
  · rename_i ticket job job' system taking h
    have owner : (p.system.control s).owner = .taking ticket job := taking
    rw [owner] at h
    cases h
    exact ⟨⟨fun c => { c with owner := .working ticket job }, rfl⟩,
      ⟨fun st => { st with parked := st.parked.map fun _ => [] }, fun _ => rfl,
        World.sessions_reclaim p.system.world s⟩, World.guest_reclaim _ s⟩
  · exact .refl p s

theorem local_collect [HasHandles R] (s : SessionId) (ticket : Nat) :
    p.Local (p.collect s ticket) s := by
  unfold Process.collect
  split
  · rename_i e system h
    obtain ⟨-, rfl⟩ := collect_eq_some h
    exact .control rfl rfl rfl
  · exact .refl p s

theorem local_abandon [HasHandles R] (s : SessionId) (ticket : Nat) :
    p.Local (p.abandon s ticket) s := by
  have system := p.abandon_system s ticket
  refine .control (congrArg System.controls system) ?_ ?_
  all_goals rw [system]; rfl

theorem local_timeOut [HasHandles R] (s : SessionId) (ticket : Nat) :
    p.Local (p.timeOut s ticket) s := by
  unfold Process.timeOut
  split
  · have abandoned := p.local_abandon s ticket
    exact ⟨abandoned.controls, abandoned.sessions, abandoned.guest⟩
  · exact .refl p s

theorem local_finish [HasHandles R] (s : SessionId) (e : Ending R) : p.Local (p.finish s e) s := by
  unfold Process.finish System.finish
  split
  · split
    · rename_i ticket job unwanted system working h
      have owner : (p.system.control s).owner = .working ticket job := working
      rw [owner] at h
      cases h
      refine .control rfl ?_ ?_ <;> cases e <;> rfl
    · exact .refl p s
  · exact .refl p s

theorem local_release (t : Thread) (h : Handle) : p.Local (p.release t h) h.session := by
  unfold Process.release
  split
  · exact .session (f := fun st => { st with live := st.live - 1 }) (fun _ => rfl) rfl rfl rfl
  · exact .refl p h.session

theorem local_advance {i : Nat} {r : Release} (known : p.releases[i]? = some r) :
    p.Local (p.advance i) r.handle.session := by
  unfold Process.advance
  dsimp only
  rw [known]
  dsimp only
  split
  · split
    · exact .control (List.modify_id _ _).symm rfl rfl
    · split
      · rename_i world parks
        obtain ⟨rs, -, rfl⟩ := Option.map_eq_some_iff.mp parks
        exact .session (f := fun st => { st with parked := some (rs ++ [r.object]) })
          (fun _ => rfl) rfl rfl rfl
      · exact .control (List.modify_id _ _).symm rfl rfl
  · exact .control (List.modify_id _ _).symm rfl rfl
  · exact .refl p _

theorem local_shut (s : SessionId) : p.Local (p.shut s) s := by
  unfold Process.shut System.shut
  dsimp only
  split
  · rename_i system h
    split at h
    · cases h
      exact ⟨⟨fun c => { c with owner := .shut (p.system.world.closeParked s).1 }, rfl⟩,
        ⟨fun st => { st with parked := none }, fun _ => rfl, rfl⟩, rfl⟩
    · cases h
  · exact .refl p s

theorem local_giveBack (s : SessionId) : p.Local (p.giveBack s) s := by
  unfold Process.giveBack System.giveBack
  split
  · rename_i rest system closed h
    have owner : (p.system.control s).owner = .shut rest := closed
    rw [owner] at h
    cases h
    exact .control (f := fun c => { c with owner := .left }) rfl
      (World.dropAll_sessions p.system.world rest) (dropAll_elsewhere rest p.system.world).1
  · exact .refl p s

/-! #### All steps -/

variable [GuestState σ]

/-- What the owner of a session may ask: a sink is made for this session alone, and only where its output
is to be captured. -/
def MayAsk (s : SessionId) (capture : Bool) (α : Type) (r : Request α) : Prop :=
  ∀ u, r.sinkOf? = some u → u = s ∧ capture = true

theorem mayAsk_of_noSink {s : SessionId} {capture : Bool} {α : Type} {r : Request α}
    (h : NoSink α r) : MayAsk s capture α r := fun u made => by
  rw [NoSink] at h
  rw [h] at made
  cases made

/-- What a step does that is about one session at most, and clears the output of one at most. -/
inductive Touches (p : Process σ J R) (about cleared : Option SessionId) (p' : Process σ J R) : Prop
  /-- Nothing happens to the sessions or to the guest. -/
  | rests (system : p'.system = p.system)
  | aside (s : SessionId) (subject : about = some s) (here : p.Local p' s)
  /-- The owner of a session asks the guest, for a job or because it enters or leaves the guest. -/
  | asks (s : SessionId) (subject : about = some s)
      (stage : p.phase s = .inside ∨ p.phase s = .starting ∧ p'.phase s ≠ .starting)
      (length : p'.system.controls.length = p.system.controls.length)
      (others : ∀ u, u ≠ s → p.Unmoved p' u)
      (writes : ∃ ws, Writes (MayAsk s (p.system.control s).config.captureOutput)
        p.system.world ws p'.system.world)
  | opens (config : SessionConfig) (subject : about = some p.system.controls.length)
      (system : p'.system = p.system.opened config)
  | clears (s : SessionId) (subject : about = some s) (clears : cleared = some s)
      (system : p'.system = p.system.clearOutput s)

omit [GuestState σ] in
/-- Others are left alone by a change at one session. -/
theorem control_modify_ne (p : Process σ J R) {s u : SessionId} (f : Control J R → Control J R)
    (world : World σ) (other : u ≠ s) :
    (({ p.system with world } : System σ J R).modifyControl s f).control u = p.system.control u :=
  System.control_modifyControl_ne _ f (Ne.symm other)

theorem touches_prepare (s : SessionId) : p.Touches (some s) none (p.prepare s) := by
  unfold Process.prepare
  split
  · rename_i starting
    have stage : p.phase s = .starting := by
      rw [phase, starting]
      rfl
    have lt : s < p.system.controls.length := by
      by_contra outside
      rw [owner, System.control_outside _ outside] at starting
      cases starting
    obtain ⟨ws, writes⟩ := writes_enterGuest s (p.system.control s).config p.system.world
    refine .asks s rfl (.inr ⟨stage, ?_⟩) (List.length_modify _ _ _)
      (fun u other => ⟨p.control_modify_ne _ _ other, books_enterGuest_ne _ _ other⟩)
      ⟨ws, writes.mono fun _ _ start _ => start.sink⟩
    rw [phase_of_modify (s := s) (f := fun c => c.prepared (p.system.prepare s).1) rfl,
      if_pos ⟨rfl, lt⟩, phase_prepared]
    cases (p.system.prepare s).1 <;> simp
  · exact .rests rfl

theorem touches_operate (s : SessionId) (op : Operation) :
    p.Touches (some s) none (p.operate s op) := by
  unfold Process.operate
  split
  · rename_i ticket job working
    split
    · have moves := (op.turns_run : Turns (σ := σ) ⟨s⟩ op.used (op.run ⟨s⟩) id) p.system.world []
      obtain ⟨ws, writes⟩ := moves.writes
      refine .asks s rfl (.inl ?_) rfl (fun u other => ⟨rfl, moves.books_ne other⟩)
        ⟨ws, writes.mono fun _ _ => mayAsk_of_noSink⟩
      rw [phase, working]
      rfl
    · exact .rests rfl
  · exact .rests rfl

theorem touches_leave (s : SessionId) : p.Touches (some s) none (p.act (p.system.leave s)) := by
  unfold System.leave
  dsimp only
  split
  · rename_i idle queue closed
    obtain ⟨ws, writes⟩ := writes_leaveGuest s p.system.world
    refine .asks s rfl (.inl ?_) (List.length_modify _ _ _)
      (fun u other => ⟨p.control_modify_ne _ _ other, books_leaveGuest_ne _ other⟩)
      ⟨ws, writes.mono fun _ _ => mayAsk_of_noSink⟩
    rw [phase, owner, idle]
    rfl
  · exact .rests rfl

theorem touches_claim (config : SessionConfig) :
    p.Touches (some p.system.controls.length) none (p.claim config) := by
  unfold Process.claim System.claim
  cases p.system.claimed with
  | true => exact .rests rfl
  | false => exact .opens config rfl rfl

/-- **What every step does** to sessions and to the guest. -/
theorem touches_step [HasHandles R] (p : Process σ J R) (a : Action J R) :
    p.Touches (p.subject a) a.clears? (p.step a) := by
  cases a with
  | claim config => exact touches_claim config
  | prepare s => exact touches_prepare s
  | operate s op => exact touches_operate s op
  | leave s => exact touches_leave s
  | clearOutput s => exact .clears s rfl rfl rfl
  | abort s => exact .aside s rfl (local_abort s)
  | submit t s job => exact .aside s rfl (local_submit t s job)
  | close t s => exact .aside s rfl (local_close t s)
  | closeFromJob s => exact .aside s rfl (local_closeFromJob s)
  | receive s => exact .aside s rfl (local_receive s)
  | begin s => exact .aside s rfl (local_begin s)
  | finish s e => exact .aside s rfl (local_finish s e)
  | collect s ticket => exact .aside s rfl (local_collect s ticket)
  | timeOut s ticket => exact .aside s rfl (local_timeOut s ticket)
  | abandon s ticket => exact .aside s rfl (local_abandon s ticket)
  | release t h => exact .aside h.session rfl (local_release t h)
  | shut s => exact .aside s rfl (local_shut s)
  | giveBack s => exact .aside s rfl (local_giveBack s)
  | surrender s => exact .aside s rfl (local_surrender s)
  | advance i =>
      cases known : p.releases[i]? with
      | none =>
          refine .rests ?_
          change (p.advance i).system = p.system
          unfold Process.advance
          rw [known]
      | some r =>
          have subject : p.subject (.advance i : Action J R) = some r.handle.session :=
            congrArg (Option.map fun r : Release => r.handle.session) known
          exact .aside r.handle.session subject (local_advance known)

/-! #### What follows from this -/

section

variable {about cleared : Option SessionId}

/-- There is one entry for each session among the queues and owners, and one in the world. -/
def Level (p : Process σ J R) : Prop :=
  p.system.world.sessions.length = p.system.controls.length

theorem Touches.level (t : p.Touches about cleared p') (level : p.Level) : p'.Level := by
  rw [Level] at level ⊢
  cases t with
  | rests system => rw [system, level]
  | aside s subject here =>
      obtain ⟨f, controls⟩ := here.controls
      obtain ⟨f', -, sessions⟩ := here.sessions
      rw [sessions, controls, List.length_modify, List.length_modify, level]
  | asks s subject stage length others writes =>
      obtain ⟨ws, writes⟩ := writes
      rw [writes.length, length, level]
  | opens config subject system =>
      rw [system]
      simp [System.opened, level]
  | clears s subject clears system =>
      rw [system]
      exact (World.length_modifySession _ s _).trans level

/-- No session is forgotten. -/
theorem Touches.grows (t : p.Touches about cleared p') :
    p.system.controls.length ≤ p'.system.controls.length := by
  cases t with
  | rests system => rw [system]
  | aside s subject here =>
      obtain ⟨f, controls⟩ := here.controls
      rw [controls, List.length_modify]
  | asks s subject stage length others writes => exact length.ge
  | opens config subject system =>
      rw [system]
      simp [System.opened]
  | clears s subject clears system =>
      rw [system]
      exact Nat.le_refl _

omit [GuestState σ] in
theorem captured_opened (p : Process σ J R) (config : SessionConfig) (u : SessionId) :
    (p.system.opened config).world.captured u = p.system.world.captured u :=
  congrArg SessionState.output (p.system.world.session_concat u)

/-- **Sessions that a step is not about** have afterwards what they had. -/
theorem Touches.unmoved (t : p.Touches about cleared p') (other : about ≠ some u) :
    p.Unmoved p' u := by
  cases t with
  | rests system => exact ⟨by rw [system], by rw [system]⟩
  | aside s subject here => exact here.unmoved fun own => other (own ▸ subject)
  | asks s subject stage length others writes => exact others u fun own => other (own ▸ subject)
  | opens config subject system =>
      refine ⟨?_, ?_⟩
      · have controls := congrArg System.controls system
        rcases System.control_of_concat controls u with old | new
        · exact old
        · exact absurd (new.1 ▸ subject) other
      · rw [system]
        exact congrArg SessionState.books (p.system.world.session_concat u)
  | clears s subject clears system =>
      have own : u ≠ s := fun own => other (own ▸ subject)
      exact ⟨by rw [system]; rfl, by rw [system]; exact World.books_modifySession_ne _ _ own⟩

/-- **Where no owner is at work** a step leaves the guest alone, and what was captured of the sessions
that it is not about. -/
theorem Touches.quiet (t : p.Touches about cleared p') (gone : ∀ s, about = some s → p.phase s = .gone) :
    p'.system.world.guest = p.system.world.guest ∧
      ∀ u, about ≠ some u → p'.system.world.captured u = p.system.world.captured u := by
  cases t with
  | rests system => exact ⟨by rw [system], fun u _ => by rw [system]⟩
  | aside s subject here => exact ⟨here.guest, fun u _ => (here.writes (P := NoSink)).quiet u⟩
  | asks s subject stage length others writes =>
      have gone := gone s subject
      rcases stage with inside | ⟨starting, -⟩
      · rw [inside] at gone
        cases gone
      · rw [starting] at gone
        cases gone
  | opens config subject system =>
      rw [system]
      exact ⟨rfl, fun u _ => p.captured_opened config u⟩
  | clears s subject clears system =>
      rw [system]
      exact ⟨rfl, fun u other => System.output_clearOutput_ne _ fun own => other (own ▸ subject)⟩

/-- What was captured of a session is not cleared in a step: it is there, and behind it what the guest
has written to the sink of the session, if the step is one of an owner that asks the guest. -/
theorem Touches.said (t : p.Touches about cleared p') (level : p.Level)
    (known : u < p.system.controls.length) (keeps : cleared ≠ some u) :
    ∃ ws, p'.system.world.captured u = p.system.world.captured u ++ said u ws ∧
      (ws = [] ∨ ∃ s, about = some s ∧ p.phase s ≠ .gone ∧
        Writes (MayAsk s (p.system.control s).config.captureOutput)
          p.system.world ws p'.system.world) := by
  have quiet (same : p'.system.world.captured u = p.system.world.captured u) :
      p'.system.world.captured u = p.system.world.captured u ++ Bridge.said u [] := by
    rw [same, said_nil, String.append_empty]
  cases t with
  | rests system => exact ⟨[], quiet (by rw [system]), .inl rfl⟩
  | aside s subject here => exact ⟨[], quiet ((here.writes (P := NoSink)).quiet u), .inl rfl⟩
  | asks s subject stage length others writes =>
      obtain ⟨ws, writes⟩ := writes
      refine ⟨ws, writes.output (level ▸ known), .inr ⟨s, subject, ?_, writes⟩⟩
      rcases stage with inside | ⟨starting, -⟩ <;> simp [*]
  | opens config subject system =>
      exact ⟨[], quiet (by rw [system]; exact p.captured_opened config u), .inl rfl⟩
  | clears s subject clears system =>
      have other : u ≠ s := fun own => keeps (own ▸ clears)
      exact ⟨[], quiet (by rw [system]; exact System.output_clearOutput_ne _ other), .inl rfl⟩

end

end Process

/-! ### Steps of a desk -/

namespace Desk

variable [GuestState σ] [HasHandles R] {d : Desk σ J R}

/-- The session that a step is about. -/
def subject (d : Desk σ J R) : Move J R → Option SessionId
  | .call _ => some d.process.system.controls.length
  | .spawn s | .failSpawn s _ | .withdraw s | .comeBack s => some s
  | .act a => d.process.subject a

omit [HasHandles R] in
theorem touches_surrender {s : SessionId} {system : Option (System σ J R)}
    (here : d.process.Local (d.process.act system) s) :
    d.process.Touches (some s) none (d.surrender s system).process := by
  unfold surrender
  cases system with
  | none => exact .rests rfl
  | some system => exact .aside s rfl here

theorem touches_act (a : Action J R) :
    d.process.Touches (d.process.subject a) a.clears? (d.act a).process := by
  have inner (a : Action J R) :
      d.process.Touches (d.process.subject a) a.clears? (d.inner a).process := by
    unfold Desk.inner
    split
    · exact d.process.touches_step a
    · exact .rests rfl
  cases a with
  | claim config => exact .rests rfl
  | prepare s =>
      change d.process.Touches (some s) none (d.prepare s).process
      unfold Desk.prepare
      split
      · rename_i there starting
        have touches := d.process.touches_prepare s
        rw [Process.prepare, starting] at touches
        exact touches
      · exact .rests rfl
  | abort s => exact touches_surrender (Process.local_abort s)
  | surrender s => exact touches_surrender (Process.local_surrender s)
  | _ => exact inner _

/-- **What every step of a desk does** to sessions and to the guest. -/
theorem touches_step (d : Desk σ J R) (m : Move J R) :
    d.process.Touches (d.subject m) m.clears? (d.step m).process := by
  cases m with
  | call config =>
      change d.process.Touches _ _ (d.call config).process
      unfold Desk.call System.claim
      cases d.process.system.claimed with
      | true => exact .rests rfl
      | false => exact .opens config rfl rfl
  | spawn s =>
      change d.process.Touches _ _ (d.spawn s).process
      unfold Desk.spawn
      split <;> exact .rests rfl
  | failSpawn s reason =>
      change d.process.Touches _ _ (d.failSpawn s reason).process
      unfold Desk.failSpawn
      split <;> exact .rests rfl
  | withdraw s =>
      change d.process.Touches _ _ (d.withdraw s).process
      unfold Desk.withdraw
      split
      · rename_i reason system there h
        have here := Process.local_withdraw (p := d.process) s
        rw [h] at here
        exact .aside s rfl here
      · exact .rests rfl
  | act a => exact touches_act a
  | comeBack s =>
      change d.process.Touches _ _ (d.comeBack s).process
      unfold Desk.comeBack
      split <;> exact .rests rfl

end Desk

end GuestBridge.Session
