import GuestBridge.Proofs.Handles.Moves
import GuestBridge.Bridge.Startup
import Mathlib.Data.List.Perm.Basic

/-!
# Accounts

`Accounted w hs loose` says that the books of a world are in order while the handles `hs` exist and
the references `loose` are in somebody's hands: each session counts its handles, and an object is
held once for each handle on it, each entry of a pending list, each place in which a session holds
it for itself, and each reference in hand.

Every change of the world is made of a few steps between these accounts: a reference is taken into
the hand or given back, counted in as a handle or out again, parked, or stored with the session.
-/

namespace GuestBridge.Bridge

open Guest (Ref)

variable {σ : Type}

/-! ### Counting -/

/-- Where one part of a list changes, a count over all of it changes as much as the part's. -/
theorem count_flatMap_modify {α β : Type} [BEq β] (g : α → List β) (xs : List α) (n : Nat)
    (f : α → α) (d : α) (b : β) (h : n < xs.length) :
    ((xs.modify n f).flatMap g).count b + (g (xs.getD n d)).count b =
      (xs.flatMap g).count b + (g (f (xs.getD n d))).count b := by
  induction xs generalizing n with
  | nil => exact absurd h (Nat.not_lt_zero n)
  | cons x xs ih =>
      cases n with
      | zero =>
          simp only [List.modify_zero_cons, List.flatMap_cons, List.count_append,
            List.getD_cons_zero]
          omega
      | succ n =>
          have rest := ih n (Nat.lt_of_succ_lt_succ h)
          simp only [List.modify_succ_cons, List.flatMap_cons, List.count_append,
            List.getD_cons_succ] at rest ⊢
          omega

/-- Only the part that changes matters. -/
theorem modify_congr {α : Type} (xs : List α) (n : Nat) {f g : α → α} (d : α)
    (h : f (xs.getD n d) = g (xs.getD n d)) : xs.modify n f = xs.modify n g := by
  refine List.ext_getElem? fun i => ?_
  rw [List.getElem?_modify, List.getElem?_modify]
  by_cases hi : n = i
  · subst hi
    cases hx : xs[n]? with
    | none => rfl
    | some x =>
        rw [List.getD_eq_getElem?_getD, hx] at h
        simpa using h
  · simp [hi]

/-! ### What is held where -/

/-- The references that are parked. -/
def SessionState.parkedRefs (st : SessionState) : List Ref := st.parked.getD []

/-- The references that a session holds for itself. -/
def SessionState.ownRefs (st : SessionState) : List Ref := (st.runtime.map Runtime.refs).getD []

/-- What the books say of a session: everything but its output. -/
def SessionState.books (st : SessionState) : Nat × Option (List Ref) × Option Runtime :=
  (st.live, st.parked, st.runtime)

namespace World

/-- All references that are parked. -/
def parkedRefs (w : World σ) : List Ref := w.sessions.flatMap SessionState.parkedRefs

/-- All references that sessions hold for themselves. -/
def ownRefs (w : World σ) : List Ref := w.sessions.flatMap SessionState.ownRefs

theorem session_concat (w : World σ) (s : SessionId) :
    ({ w with sessions := w.sessions ++ [.fresh] } : World σ).session s = w.session s := by
  simp only [session, List.getD_eq_getElem?_getD]
  by_cases lt : s < w.sessions.length
  · rw [List.getElem?_append_left lt]
  · rw [List.getElem?_append_right (Nat.le_of_not_lt lt), List.getElem?_eq_none (Nat.le_of_not_lt lt)]
    cases (s - w.sessions.length) <;> rfl

/-- A change that the books do not show. -/
theorem books_modifySession (w : World σ) (s : SessionId) {f : SessionState → SessionState}
    (hf : ∀ st, (f st).books = st.books) :
    (w.modifySession s f).sessions.map SessionState.books = w.sessions.map SessionState.books := by
  refine List.ext_getElem? fun i => ?_
  simp only [modifySession, List.getElem?_map, List.getElem?_modify]
  cases w.sessions[i]? with
  | none => rfl
  | some st =>
      by_cases h : s = i
      · simp [h, hf]
      · simp [h]

theorem books_session {w w' : World σ}
    (books : w'.sessions.map SessionState.books = w.sessions.map SessionState.books)
    (s : SessionId) : (w'.session s).books = (w.session s).books := by
  have same := congrArg (fun bs => (bs[s]?).getD SessionState.fresh.books) books
  simp only [List.getElem?_map, Option.getD_map] at same
  simpa only [World.session, List.getD_eq_getElem?_getD] using same

/-- A part of a session's state that a change leaves alone. -/
theorem field_modifySession {β : Type} (w : World σ) (s u : SessionId)
    {f : SessionState → SessionState} (g : SessionState → β) (hf : ∀ st, g (f st) = g st) :
    g ((w.modifySession s f).session u) = g (w.session u) := by
  by_cases hu : s = u
  · subst hu
    by_cases lt : s < w.sessions.length
    · rw [session_modifySession w s f lt, hf]
    · simp [session, modifySession, List.getD_eq_getElem?_getD, lt]
  · rw [session_modifySession_ne w f hu]

/-- What holds of a session's state and is kept by a change still holds. -/
theorem kept_modifySession {P : SessionState → Prop} (w : World σ) (s u : SessionId)
    {f : SessionState → SessionState} (hf : ∀ st, P st → P (f st)) (h : P (w.session u)) :
    P ((w.modifySession s f).session u) := by
  by_cases hu : s = u
  · subst hu
    by_cases lt : s < w.sessions.length
    · rw [session_modifySession w s f lt]
      exact hf _ h
    · rw [session, List.getD_eq_getElem?_getD] at h ⊢
      simpa [modifySession, lt] using h
  · rwa [session_modifySession_ne w f hu]

theorem runtime_modifySession (w : World σ) (s u : SessionId) {f : SessionState → SessionState}
    (hf : ∀ st, (f st).runtime = st.runtime) :
    ((w.modifySession s f).session u).runtime = (w.session u).runtime :=
  w.field_modifySession s u SessionState.runtime hf

/-- Releasing a handle is nothing to what sessions live on. -/
theorem runtime_release (w : World σ) (t : Thread) (h : Handle) (u : SessionId) :
    ((w.release t h).session u).runtime = (w.session u).runtime := by
  have counted : ((w.countOut h.session).session u).runtime = (w.session u).runtime :=
    w.runtime_modifySession h.session u fun _ => rfl
  refine Eq.trans ?_ counted
  unfold release
  dsimp only
  split
  · rfl
  · cases hp : (w.countOut h.session).park? h.session h.object with
    | none => rfl
    | some w' =>
        obtain ⟨rs, -, rfl⟩ := Option.map_eq_some_iff.mp hp
        exact runtime_modifySession _ h.session u fun _ => rfl

/-- What the guest writes is not in the books. -/
theorem books_writes (w : World σ) (writes : List (SessionId × String)) :
    (writes.foldl (fun w (s, text) => w.write s text) w).sessions.map SessionState.books =
      w.sessions.map SessionState.books := by
  induction writes generalizing w with
  | nil => rfl
  | cons e writes ih =>
      exact (ih (w.write e.1 e.2)).trans (w.books_modifySession e.1 fun _ => rfl)

theorem writes_elsewhere (w : World σ) (writes : List (SessionId × String)) :
    (writes.foldl (fun w (s, text) => w.write s text) w).held = w.held ∧
      (writes.foldl (fun w (s, text) => w.write s text) w).log = w.log := by
  induction writes generalizing w with
  | nil => exact ⟨rfl, rfl⟩
  | cons e writes ih => exact ih (w.write e.1 e.2)

section

variable [GuestState σ] {α : Type} (w : World σ) (r : Request α)

theorem held_ask : (w.ask r).2.held = w.held := (writes_elsewhere _ _).1

theorem log_ask : (w.ask r).2.log = w.log := (writes_elsewhere _ _).2

theorem books_ask :
    (w.ask r).2.sessions.map SessionState.books = w.sessions.map SessionState.books :=
  books_writes _ _

end

theorem modifySession_dropAll (w : World σ) (rs : List Ref) (s : SessionId)
    (f : SessionState → SessionState) :
    (w.dropAll rs).modifySession s f = (w.modifySession s f).dropAll rs := by
  induction rs generalizing w with
  | nil => rfl
  | cons r rs ih => exact ih (w.drop r)

theorem dropAll_sessions (w : World σ) (rs : List Ref) : (w.dropAll rs).sessions = w.sessions := by
  induction rs generalizing w with
  | nil => rfl
  | cons r rs ih => exact ih (w.drop r)

/-- Giving back what is parked leaves the session with an empty list, if it has one. -/
theorem sessions_reclaim (w : World σ) (s : SessionId) :
    (w.reclaim s).sessions =
      (w.modifySession s fun st => { st with parked := st.parked.map fun _ => [] }).sessions := by
  have drained : (w.reclaim s).sessions = (w.drain s).2.sessions := by
    unfold reclaim
    dsimp only
    split <;> rfl
  rw [drained, drain]
  split
  · rename_i rs parked
    rw [modifySession_dropAll, dropAll_sessions]
    refine modify_congr _ _ .fresh ?_
    change _ = { w.session s with parked := (w.session s).parked.map fun _ => [] }
    rw [parked]
    rfl
  · rename_i parked
    refine (List.modify_id s w.sessions).symm.trans (modify_congr _ _ .fresh ?_)
    change w.session s = { w.session s with parked := (w.session s).parked.map fun _ => [] }
    rw [parked, Option.map_none, ← parked]

theorem session_reclaim (w : World σ) (s u : SessionId) :
    (w.reclaim s).session u =
      (w.modifySession s fun st => { st with parked := st.parked.map fun _ => [] }).session u :=
  congrArg (fun sessions => sessions.getD u SessionState.fresh) (w.sessions_reclaim s)

theorem session_dropAll (w : World σ) (rs : List Ref) (u : SessionId) :
    (w.dropAll rs).session u = w.session u :=
  congrArg (fun sessions => sessions.getD u SessionState.fresh) (w.dropAll_sessions rs)

theorem count_parkedRefs_modify (w : World σ) {s : SessionId} (f : SessionState → SessionState)
    (r : Ref) (h : s < w.sessions.length) :
    (w.modifySession s f).parkedRefs.count r + (w.session s).parkedRefs.count r =
      w.parkedRefs.count r + (f (w.session s)).parkedRefs.count r :=
  count_flatMap_modify SessionState.parkedRefs w.sessions s f .fresh r h

theorem count_ownRefs_modify (w : World σ) {s : SessionId} (f : SessionState → SessionState)
    (r : Ref) (h : s < w.sessions.length) :
    (w.modifySession s f).ownRefs.count r + (w.session s).ownRefs.count r =
      w.ownRefs.count r + (f (w.session s)).ownRefs.count r :=
  count_flatMap_modify SessionState.ownRefs w.sessions s f .fresh r h

end World

section

variable {α β : Type} [DecidableEq α] {es : List (α × β)} {k : α} {v : β}

/-- An entry that is found is one of the entries, next to those of other keys. -/
theorem perm_of_lookup (nodup : (es.map (·.1)).Nodup) (h : es.lookup k = some v) :
    es.Perm ((k, v) :: es.filter (·.1 != k)) := by
  induction es with
  | nil => cases h
  | cons e es ih =>
      obtain ⟨k', v'⟩ := e
      rw [List.map_cons, List.nodup_cons] at nodup
      by_cases same : k = k'
      · subst same
        rw [List.lookup_cons_self, Option.some.injEq] at h
        subst h
        have others : es.filter (·.1 != k) = es := by
          refine List.filter_eq_self.mpr fun e he => bne_iff_ne.mpr fun same => nodup.1 ?_
          exact List.mem_map.mpr ⟨e, he, same⟩
        rw [List.filter_cons_of_neg (by simp), others]
      · rw [List.lookup_cons, beq_false_of_ne same] at h
        rw [List.filter_cons_of_pos (by simpa using Ne.symm same)]
        exact ((ih nodup.2 h).cons (k', v')).trans (.swap _ _ _)

theorem filter_of_lookup (h : es.lookup k = none) : es.filter (·.1 != k) = es := by
  refine List.filter_eq_self.mpr fun e he => bne_iff_ne.mpr fun same => ?_
  have absent := List.lookup_eq_none_iff.mp h e he
  simp [same] at absent

end

theorem nodup_remembered {ms : List (String × Ref)} (nodup : (ms.map (·.1)).Nodup) (name : String)
    (m : Ref) : (((name, m) :: ms.filter (·.1 != name)).map (·.1)).Nodup := by
  rw [List.map_cons, List.nodup_cons]
  refine ⟨fun there => ?_, nodup.sublist ((List.filter_sublist).map _)⟩
  obtain ⟨e, he, same⟩ := List.mem_map.mp there
  simp [same] at he

/-! ### The accounts -/

/-- The books are in order while the handles `hs` exist and the references `loose` are in hand. -/
structure Accounted (w : World σ) (hs : List Handle) (loose : List Ref) : Prop where
  /-- Handles belong to sessions that exist. -/
  known : ∀ h ∈ hs, h.session < w.sessions.length
  live : ∀ s, (w.session s).live = hs.countP (·.session = s)
  held : ∀ r, w.held.count r =
    (hs.map Handle.object).count r + w.parkedRefs.count r + w.ownRefs.count r + loose.count r
  /-- A session keeps one module for a name. -/
  modules : ∀ s, ∀ rt ∈ (w.session s).runtime, (rt.modules.map (·.1)).Nodup

namespace Accounted

variable {w w' : World σ} {hs hs' : List Handle} {loose loose' : List Ref}

/-- At the start nothing is held. -/
theorem initial (g : σ) : Accounted (⟨g, [], [], []⟩ : World σ) [] [] where
  known h hh := absurd hh List.not_mem_nil
  live s := rfl
  held r := rfl
  modules s rt hrt := absurd hrt (by simp [World.session, SessionState.fresh])

/-- A new session has nothing in the books. -/
theorem newSession (a : Accounted w hs loose) :
    Accounted { w with sessions := w.sessions ++ [.fresh] } hs loose where
  known h hh := by
    rw [List.length_append]
    exact Nat.lt_add_right _ (a.known h hh)
  live s := by
    rw [World.session_concat]
    exact a.live s
  held r := by
    have before := a.held r
    simpa [World.parkedRefs, World.ownRefs, SessionState.parkedRefs, SessionState.ownRefs,
      SessionState.fresh] using before
  modules s := by
    rw [World.session_concat]
    exact a.modules s

/-- The order of handles and of references in hand does not matter. -/
theorem perm (a : Accounted w hs loose) (p : hs.Perm hs') (q : loose.Perm loose') :
    Accounted w hs' loose' where
  known h hh := a.known h (p.mem_iff.mpr hh)
  live s := (a.live s).trans (p.countP_eq _)
  held r := by
    rw [a.held r, (p.map Handle.object).count_eq r, q.count_eq r]
  modules := a.modules

/-- Only what is held, and what sessions count, park and hold for themselves, is in the books. -/
theorem congr (a : Accounted w hs loose) (held : w'.held = w.held)
    (books : w'.sessions.map SessionState.books = w.sessions.map SessionState.books) :
    Accounted w' hs loose := by
  have length : w'.sessions.length = w.sessions.length := by
    simpa using congrArg List.length books
  have parked : w'.parkedRefs = w.parkedRefs := by
    have same := congrArg (List.flatMap fun b => b.2.1.getD []) books
    rwa [List.flatMap_map, List.flatMap_map] at same
  have own : w'.ownRefs = w.ownRefs := by
    have same := congrArg (List.flatMap fun b => (b.2.2.map Runtime.refs).getD []) books
    rwa [List.flatMap_map, List.flatMap_map] at same
  have each := World.books_session books
  refine ⟨fun h hh => length ▸ a.known h hh, fun s => ?_, fun r => ?_, fun s rt hrt => ?_⟩
  · exact (congrArg (·.1) (each s)).trans (a.live s)
  · rw [held, parked, own]
    exact a.held r
  · have same : (w'.session s).runtime = (w.session s).runtime := congrArg (·.2.2) (each s)
    exact a.modules s rt (same ▸ hrt)

/-! ### Single steps -/

/-- A reference is taken into the hand. -/
theorem hold (a : Accounted w hs loose) (r : Ref) : Accounted (w.hold r) hs (r :: loose) where
  known := a.known
  live := a.live
  held x := by
    change (r :: w.held).count x = _ + w.parkedRefs.count x + w.ownRefs.count x + _
    rw [List.count_cons, List.count_cons, a.held x]
    omega
  modules := a.modules

/-- A reference in hand is given back. -/
theorem drop {r : Ref} (a : Accounted w hs (r :: loose)) : Accounted (w.drop r) hs loose where
  known := a.known
  live := a.live
  held x := by
    change (w.held.erase r).count x = _ + w.parkedRefs.count x + w.ownRefs.count x + _
    rw [List.count_erase, a.held x, List.count_cons]
    omega
  modules := a.modules

theorem dropAll {rs : List Ref} (a : Accounted w hs (rs ++ loose)) :
    Accounted (w.dropAll rs) hs loose := by
  induction rs generalizing w with
  | nil => exact a
  | cons r rs ih => exact ih a.drop

theorem holdAll (a : Accounted w hs loose) (rs : List Ref) :
    Accounted (rs.foldl World.hold w) hs (rs ++ loose) := by
  induction rs generalizing w loose with
  | nil => exact a
  | cons r rs ih => exact (ih (a.hold r)).perm (.refl hs) List.perm_middle

/-- One session changes: what it counts, parks and holds for itself is to fit the handles and the
references in hand afterwards. -/
theorem modify (a : Accounted w hs loose) {s : SessionId} (hs' : List Handle) (loose' : List Ref)
    {f : SessionState → SessionState} (lt : s < w.sessions.length)
    (known : ∀ h ∈ hs', h.session < w.sessions.length)
    (own : (f (w.session s)).live = hs'.countP (·.session = s))
    (others : ∀ u, u ≠ s → hs'.countP (·.session = u) = hs.countP (·.session = u))
    (balance : ∀ r, (hs'.map Handle.object).count r + (f (w.session s)).parkedRefs.count r +
        (f (w.session s)).ownRefs.count r + loose'.count r =
      (hs.map Handle.object).count r + (w.session s).parkedRefs.count r +
        (w.session s).ownRefs.count r + loose.count r)
    (modules : ∀ rt ∈ (f (w.session s)).runtime, (rt.modules.map (·.1)).Nodup) :
    Accounted (w.modifySession s f) hs' loose' where
  known h hh := by
    rw [World.length_modifySession]
    exact known h hh
  live u := by
    by_cases hu : u = s
    · subst hu
      rw [World.session_modifySession w u f lt]
      exact own
    · rw [World.session_modifySession_ne w f (Ne.symm hu), others u hu]
      exact a.live u
  held r := by
    have parked := w.count_parkedRefs_modify f r lt
    have kept := w.count_ownRefs_modify f r lt
    have before := a.held r
    have after := balance r
    rw [World.held_modifySession]
    omega
  modules u rt hrt := by
    by_cases hu : u = s
    · subst hu
      rw [World.session_modifySession w u f lt] at hrt
      exact modules rt hrt
    · rw [World.session_modifySession_ne w f (Ne.symm hu)] at hrt
      exact a.modules u rt hrt

/-- A reference in hand is counted in as a handle of a session. -/
theorem countIn (a : Accounted w hs loose) (h : Handle) (lt : h.session < w.sessions.length)
    (hl : loose.Perm (h.object :: loose')) :
    Accounted (w.modifySession h.session fun st => { st with live := st.live + 1 }) (h :: hs)
      loose' := by
  refine a.modify _ _ lt (fun g hg => ?_) ?_ (fun u hu => ?_) (fun r => ?_) (a.modules _)
  · rcases List.mem_cons.mp hg with rfl | hg
    · exact lt
    · exact a.known g hg
  · simp [a.live]
  · simp [Ne.symm hu]
  · have hand := hl.count_eq r
    simp only [List.map_cons, List.count_cons] at hand ⊢
    change _ + (w.session h.session).parkedRefs.count r + (w.session h.session).ownRefs.count r + _
      = _
    omega

/-- A handle is counted out; its reference is in hand. -/
theorem countOut {h : Handle} (a : Accounted w (h :: hs) loose) :
    Accounted (w.countOut h.session) hs (h.object :: loose) := by
  refine a.modify _ _ (a.known h List.mem_cons_self) (fun g hg => ?_) ?_ (fun u hu => ?_)
    (fun r => ?_) (a.modules _)
  · exact a.known g (List.mem_cons_of_mem _ hg)
  · simp [a.live]
  · simp [Ne.symm hu]
  · simp only [List.map_cons, List.count_cons]
    change _ + (w.session h.session).parkedRefs.count r + (w.session h.session).ownRefs.count r + _
      = _
    omega

/-- A handle that exists is in its session's count, so counting it out never goes below zero. -/
theorem live_pos {h : Handle} (a : Accounted w hs loose) (hh : h ∈ hs) :
    0 < (w.session h.session).live := by
  rw [a.live, List.countP_pos_iff]
  exact ⟨h, hh, decide_eq_true rfl⟩

/-- A reference in hand is parked. -/
theorem park {s : SessionId} {r : Ref} (a : Accounted w hs (r :: loose))
    (lt : s < w.sessions.length) (hp : w.park? s r = some w') : Accounted w' hs loose := by
  obtain ⟨rs, parked, rfl⟩ := Option.map_eq_some_iff.mp hp
  refine a.modify _ _ lt a.known (a.live s) (fun _ _ => rfl) (fun x => ?_) (a.modules s)
  simp only [SessionState.parkedRefs, parked, Option.getD_some, List.count_append, List.count_cons,
    List.count_nil]
  change _ + _ + (w.session s).ownRefs.count x + _ = _
  omega

/-- The owner takes what is parked, and what is parked from then on is `rest`. -/
theorem takeParked {s : SessionId} (a : Accounted w hs loose) (lt : s < w.sessions.length)
    (parked : Option (List Ref)) (empty : parked.getD [] = []) :
    Accounted (w.modifySession s fun st => { st with parked }) hs
      ((w.session s).parkedRefs ++ loose) := by
  refine a.modify _ _ lt a.known (a.live s) (fun _ _ => rfl) (fun x => ?_) (a.modules s)
  change _ + (parked.getD []).count x + (w.session s).ownRefs.count x + _ = _
  rw [empty, List.count_append, List.count_nil]
  omega

/-- A session takes something else for its own. -/
theorem setRuntime {s : SessionId} (a : Accounted w hs loose) (lt : s < w.sessions.length)
    (runtime : Option Runtime) (loose' : List Ref)
    (taken : ((runtime.map Runtime.refs).getD [] ++ loose').Perm ((w.session s).ownRefs ++ loose))
    (modules : ∀ rt ∈ runtime, (rt.modules.map (·.1)).Nodup) :
    Accounted (w.modifySession s fun st => { st with runtime }) hs loose' := by
  refine a.modify _ _ lt a.known (a.live s) (fun _ _ => rfl) (fun x => ?_) modules
  have hand := taken.count_eq x
  change _ + (w.session s).parkedRefs.count x + ((runtime.map Runtime.refs).getD []).count x + _ = _
  rw [List.count_append, List.count_append] at hand
  omega

/-! ### What the bridge does -/

theorem acquire (a : Accounted w hs loose) {s : SessionId} (lt : s < w.sessions.length) (r : Ref) :
    Accounted (w.acquire s r).2 ((w.acquire s r).1 :: hs) loose :=
  (a.hold r).countIn ⟨r, s, none⟩ lt (.refl _)

/-- The owner of its session releases a handle. -/
theorem releaseOwn {h : Handle} (a : Accounted w (h :: hs) loose) :
    Accounted (w.release (.owner h.session) h) hs loose := by
  unfold World.release
  rw [if_pos rfl]
  exact a.countOut.drop

/-- The owner gives back what is parked. -/
theorem drain {s : SessionId} (a : Accounted w hs loose) (lt : s < w.sessions.length) :
    Accounted (w.drain s).2 hs loose := by
  unfold World.drain
  split
  · rename_i rs parked
    have taken := a.takeParked lt (some []) rfl
    rw [SessionState.parkedRefs, parked] at taken
    rw [World.modifySession_dropAll]
    exact taken.dropAll
  · exact a

/-- What was parked and given back is noted, which the books do not show. -/
theorem reclaim {s : SessionId} (a : Accounted w hs loose) (lt : s < w.sessions.length) :
    Accounted (w.reclaim s) hs loose := by
  unfold World.reclaim
  dsimp only
  split
  · exact a.drain lt
  · exact (a.drain lt).congr rfl rfl

/-- A loaded module is remembered in place of an earlier one of its name. -/
theorem remember {cx : Context} (a : Accounted w hs loose) (lt : cx.session < w.sessions.length)
    (name : String) (m : Ref) : Accounted (rememberModule cx name m w).2 hs loose := by
  dsimp only [rememberModule]
  have held := a.hold m
  cases hr : ((w.hold m).session cx.session).runtime with
  | none => exact held.drop
  | some rt =>
      have nodup := held.modules cx.session rt hr
      have own : ((w.hold m).session cx.session).ownRefs = rt.refs := by
        rw [SessionState.ownRefs, hr]
        rfl
      have modules : (((name, m) :: rt.modules.filter (·.1 != name)).map (·.1)).Nodup :=
        nodup_remembered nodup name m
      dsimp only
      cases hl : rt.modules.lookup name with
      | none =>
          refine held.setRuntime lt _ loose (List.perm_iff_count.mpr fun x => ?_) fun rt' hrt => ?_
          · rw [own, filter_of_lookup hl]
            simp only [Runtime.refs, Option.map_some, Option.getD_some, List.map_cons,
              List.count_append, List.count_cons]
            omega
          · cases hrt
            exact modules
      | some old =>
          have others := ((perm_of_lookup nodup hl).map (·.2)).count_eq
          have stored := held.setRuntime lt
            (some { rt with modules := (name, m) :: rt.modules.filter (·.1 != name) })
            (old :: loose)
            (List.perm_iff_count.mpr fun x => ?_) fun rt' hrt => ?_
          · exact stored.drop
          · have moved := others x
            rw [own]
            simp only [Runtime.refs, Option.map_some, Option.getD_some, List.map_cons,
              List.count_append, List.count_cons] at moved ⊢
            omega
          · cases hrt
            exact modules

end Accounted

/-! ### What jobs do -/

/-- The counts that owners reported in the log, the last one first. -/
def World.drained (w : World σ) : List String := w.log.filterMap (·.fields.lookup "drained")

theorem World.drained_dropAll (w : World σ) (rs : List Ref) : (w.dropAll rs).drained = w.drained := by
  induction rs generalizing w with
  | nil => rfl
  | cons r rs ih => exact ih (w.drop r)

theorem World.fst_drain (w : World σ) (s : SessionId) :
    (w.drain s).1 = (w.session s).parkedRefs.length := by
  unfold World.drain SessionState.parkedRefs
  split
  · rename_i rs parked
    rw [parked, Option.getD_some]
  · rename_i parked
    rw [parked, Option.getD_none, List.length_nil]

/-- Giving back what is parked is reported if anything was. -/
theorem World.drained_reclaim (w : World σ) (s : SessionId) :
    (w.reclaim s).drained =
      (if (w.drain s).1 = 0 then [] else [toString (w.drain s).1]) ++ w.drained := by
  have silent : (w.drain s).2.drained = w.drained := by
    unfold World.drain
    split
    · exact w.drained_dropAll _
    · rfl
  unfold World.reclaim
  dsimp only
  split
  · exact silent
  · exact congrArg (toString (w.drain s).1 :: ·) silent

/-- What a job of the session of `cx` cannot change: which sessions there are, what is parked, what
other sessions hold for themselves, and what owners reported. -/
structure Steady (cx : Context) (w w' : World σ) : Prop where
  length : w'.sessions.length = w.sessions.length
  parked : ∀ s, (w'.session s).parked = (w.session s).parked
  runtime : ∀ s, s ≠ cx.session → (w'.session s).runtime = (w.session s).runtime
  drained : w'.drained = w.drained

namespace Steady

variable {cx : Context} {w w' w'' : World σ}

theorem refl (w : World σ) : Steady cx w w := ⟨rfl, fun _ => rfl, fun _ _ => rfl, rfl⟩

theorem trans (h : Steady cx w w') (h' : Steady cx w' w'') : Steady cx w w'' where
  length := h'.length.trans h.length
  parked s := (h'.parked s).trans (h.parked s)
  runtime s hs := (h'.runtime s hs).trans (h.runtime s hs)
  drained := h'.drained.trans h.drained

theorem parkedRefs (h : Steady cx w w') : w'.parkedRefs = w.parkedRefs := by
  have same : w'.sessions.map SessionState.parkedRefs = w.sessions.map SessionState.parkedRefs := by
    refine List.ext_getElem (by simp [h.length]) fun s hs' hs => ?_
    have each := h.parked s
    rw [List.length_map] at hs hs'
    simp only [World.session, List.getD_eq_getElem?_getD, List.getElem?_eq_getElem hs,
      List.getElem?_eq_getElem hs', Option.getD_some] at each
    rw [List.getElem_map, List.getElem_map, SessionState.parkedRefs, SessionState.parkedRefs, each]
  rw [World.parkedRefs, List.flatMap_def, same, World.parkedRefs, List.flatMap_def]

theorem hold (w : World σ) (r : Ref) : Steady cx w (w.hold r) :=
  ⟨rfl, fun _ => rfl, fun _ _ => rfl, rfl⟩

theorem drop (w : World σ) (r : Ref) : Steady cx w (w.drop r) :=
  ⟨rfl, fun _ => rfl, fun _ _ => rfl, rfl⟩

theorem modifySession (w : World σ) {f : SessionState → SessionState}
    (parked : ∀ st, (f st).parked = st.parked) : Steady cx w (w.modifySession cx.session f) where
  length := w.length_modifySession cx.session f
  parked s := w.field_modifySession cx.session s _ parked
  runtime s hs := by rw [w.session_modifySession_ne f (Ne.symm hs)]
  drained := rfl

theorem release {h : Handle} (own : h.session = cx.session) (w : World σ) :
    Steady cx w (w.release (.owner cx.session) h) := by
  unfold World.release
  rw [own, if_pos rfl]
  have counted : Steady cx w (w.countOut cx.session) := modifySession w fun _ => rfl
  exact counted.trans (drop _ _)

end Steady

section

variable [GuestState σ] {cx : Context} {w w' : World σ} {hs hs' : List Handle} {loose : List Ref}

theorem steady_ask {α : Type} (w : World σ) (r : Request α) : Steady cx w (w.ask r).2 where
  length := by simpa using congrArg List.length (w.books_ask r)
  parked s := congrArg (·.2.1) (World.books_session (w.books_ask r) s)
  runtime s _ := congrArg (·.2.2) (World.books_session (w.books_ask r) s)
  drained := by rw [World.drained, w.log_ask r, World.drained]

omit [GuestState σ] in
theorem steady_remember (name : String) (m : Ref) (w : World σ) :
    Steady cx w (rememberModule cx name m w).2 := by
  dsimp only [rememberModule]
  cases ((w.hold m).session cx.session).runtime with
  | none => exact (Steady.hold w m).trans (Steady.drop _ m)
  | some rt =>
      dsimp only
      split
      · refine (Steady.hold w m).trans ((Steady.drop _ _).trans (Steady.modifySession _ ?_))
        exact fun _ => rfl
      · exact (Steady.hold w m).trans (Steady.modifySession _ fun _ => rfl)

theorem Moves.steady (m : Moves cx w hs w' hs') : Steady cx w w' := by
  induction m with
  | ask w hs r plain => exact steady_ask w r
  | note w hs level message fields h =>
      exact ⟨rfl, fun _ => rfl, fun _ _ => rfl, List.filterMap_cons_none h⟩
  | take w hs r => exact (Steady.hold w r).trans (Steady.modifySession _ fun _ => rfl)
  | give w h hs own => exact Steady.release own w
  | tag w h hs t => exact Steady.refl w
  | remember w hs name m => exact steady_remember name m w
  | perm w p => exact Steady.refl w
  | trans _ _ ih₁ ih₂ => exact ih₁.trans ih₂

/-- **Moves keep the books in order.** -/
theorem Accounted.moves {w w' : World σ} (a : Accounted w hs loose)
    (lt : cx.session < w.sessions.length) (m : Moves cx w hs w' hs') : Accounted w' hs' loose := by
  induction m with
  | ask w hs r plain => exact a.congr (w.held_ask r) (w.books_ask r)
  | note w hs level message fields h => exact a.congr rfl rfl
  | take w hs r => exact a.acquire lt r
  | give w h hs own => exact own ▸ a.releaseOwn
  | tag w h hs t =>
      refine ⟨fun g hg => ?_, a.live, a.held, a.modules⟩
      rcases List.mem_cons.mp hg with rfl | hg
      · exact a.known h List.mem_cons_self
      · exact a.known g (List.mem_cons_of_mem _ hg)
  | remember w hs name m => exact a.remember lt name m
  | perm w p => exact a.perm p (.refl loose)
  | trans m₁ m₂ ih₁ ih₂ => exact ih₂ (ih₁ a lt) (m₁.steady.length ▸ lt)

end

end GuestBridge.Bridge
