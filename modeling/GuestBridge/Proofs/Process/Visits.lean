import GuestBridge.Proofs.Process.Exclusion
import GuestBridge.Proofs.Process.Output

/-!
# Who Reaches the Guest

Of all steps of a desk three kinds reach the guest: a job does something with the bridge, an owner
enters the guest, an owner leaves it. `Effect.visit` says so; what holds of the guest over a run is
proved along these three. A session that has the claim is the one that was opened last, and what its
owner has said about entering the guest it has said once (`Launch.word`).

## Main results

* `Effect.visit` — every step is a visit, or leaves the guest alone.
* `latest_run` — no session is opened after one that has the claim.
* `vacant_run` — a session outside the guest lives on nothing.
-/

namespace GuestBridge.Bridge

variable {σ : Type} [GuestState σ]

/-- A session that could not enter the guest lives on what it lived on before. -/
theorem World.base_enter_failed {s : SessionId} (config : SessionConfig) (w : World σ)
    (failed : (enterGuest s config w).1 ≠ none) : (enterGuest s config w).2.base s = w.base s := by
  have asked := asks_startRuntime s config w
  rw [enterGuest, bind_apply] at failed ⊢
  cases hr : ((startRuntime s config).run w).1 with
  | ok rt =>
      rw [hr] at failed
      exact absurd rfl failed
  | error e =>
      refine World.base_of_books ?_ s
      cases e with
      | failed e => exact (asks_failedStart (.failed e) _).books.trans asked.books
      | panicked message => exact asked.books

end GuestBridge.Bridge

namespace GuestBridge.Session

open Bridge

variable {σ J R : Type}

/-- What the owner has said about entering the guest, or what is said in its place. -/
def Launch.word : Launch → Option (Option String)
  | heard reason | returned reason => some reason
  | claimed | unspawned _ | spawned => none

/-- A call whose owner can be in the guest has heard that it is. -/
theorem Launch.succeeded_of_inside {l : Launch} (fit : .inside ∈ l.phases) : l.succeeded = true := by
  rcases l with _ | _ | _ | (_ | _) | (_ | _) <;> simp [phases, succeeded] at fit ⊢

/-- What the owner has said stands. -/
theorem Launch.Next.word {phase : Phase} {l l' : Launch} (next : Next phase l l')
    (said : l.word ≠ none) : l'.word = l.word := by
  cases next with
  | spawn | failSpawn => exact absurd rfl said
  | succeed | fail => rfl

namespace Desk

/-- What the owner of a session has said about entering the guest. -/
def word (d : Desk σ J R) (s : SessionId) : Option (Option String) := d.launches[s]?.bind Launch.word

/-- The session that was opened last is the one that has the claim, if one has it. -/
def Latest (d : Desk σ J R) : Prop :=
  ∀ s, d.phase s ≠ .gone → s + 1 = d.process.system.controls.length

variable {d d' : Desk σ J R} {m : Move J R} {s : SessionId}

theorem lt_of_word {w : Option String} (said : d.word s = some w) : s < d.launches.length := by
  obtain ⟨l, there, -⟩ := Option.bind_eq_some_iff.mp said
  exact (List.getElem?_eq_some_iff.mp there).1

/-- An owner is in the guest, or has been there, exactly if it has said that nothing failed. -/
theorem succeeded_iff_word : d.succeeded s ↔ d.word s = some none := by
  rw [succeeded, word, Option.bind_eq_some_iff]
  refine exists_congr fun l => and_congr_right fun _ => ?_
  rcases l with _ | _ | _ | (_ | _) | (_ | _) <;> simp [Launch.succeeded, Launch.word]

/-- An owner that is in the guest has said so. -/
theorem Tended.succeeded (t : d.Tended) (inside : d.phase s = .inside) : d.succeeded s := by
  have alive : d.phase s ≠ .gone := by simp [inside]
  have there := List.getElem?_eq_getElem (t.length ▸ lt_of_phase alive)
  exact ⟨_, there, Launch.succeeded_of_inside (inside ▸ t.fits s _ there)⟩

variable [GuestState σ]

/-! ### Visits -/

/-- What a step has to do with the guest. An owner says that it is in the guest when it enters it. -/
inductive Visit (d : Desk σ J R) (m : Move J R) (d' : Desk σ J R) : Prop
  | away (guest : d'.guest = d.guest) (said : ∀ u, d'.succeeded u → d.succeeded u)
  | works (s : SessionId) (op : Operation) (move : m = .act (.operate s op))
      (inside : d.phase s = .inside)
      (world : d'.process.system.world = (op.run ⟨s⟩ d.process.system.world).2)
      (said : ∀ u, d'.succeeded u → d.succeeded u)
  | enters (s : SessionId) (there : d.launches[s]? = some .spawned)
      (starting : d.process.owner s = .starting)
      (system : d'.process.system = (d.process.system.prepare s).2)
      (launches : d'.launches = d.launches.set s (.heard (d.process.system.prepare s).1))
  | leaves (s : SessionId) (leaves : d.Leaves d' s) (said : ∀ u, d'.succeeded u → d.succeeded u)

omit [GuestState σ] in
/-- No owner says that it is in the guest. -/
theorem succeeded_of_set {l l' : Launch} (there : d.launches[s]? = some l)
    (launches : d'.launches = d.launches.set s l') (same : l'.succeeded = true → l.succeeded = true)
    (u : SessionId) (said : d'.succeeded u) : d.succeeded u := by
  obtain ⟨l₁, there', succeeded⟩ := said
  rw [launches] at there'
  by_cases own : s = u
  · subst own
    rw [List.getElem?_set_self (List.getElem?_eq_some_iff.mp there).1] at there'
    cases there'
    exact ⟨l, there, same succeeded⟩
  · rw [List.getElem?_set_ne own] at there'
    exact ⟨l₁, there', succeeded⟩

/-- **Every step is a visit**, or leaves the guest alone. -/
theorem Effect.visit [HasHandles R] (e : d.Effect m d') : d.Visit m d' := by
  have quiet (launches : d'.launches = d.launches) (u : SessionId) (said : d'.succeeded u) :
      d.succeeded u := by
    rwa [succeeded, launches] at said
  cases e with
  | rests process launches => exact .away (congrArg (·.system.world.guest) process) (quiet launches)
  | proceeds s l l' there next process launches =>
      exact .away (congrArg (·.system.world.guest) process)
        (succeeded_of_set there launches fun said => next.succeeded ▸ said)
  | inner a move inner process launches =>
      cases inner with
      | aside aside => exact .away aside.guest (quiet launches)
      | operates s ticket job op action working system =>
          refine .works s op (action ▸ move) ?_ (congrArg System.world system) (quiet launches)
          rw [phase, Process.phase, working]
          rfl
      | leaves s idle queue closed system =>
          exact .leaves s ⟨idle, queue, closed, congrArg System.world system⟩ (quiet launches)
  | opens config free process launches =>
      refine .away (congrArg (·.system.world.guest) process) fun u said => ?_
      obtain ⟨l, there, succeeded⟩ := said
      rw [launches, List.getElem?_append] at there
      split at there
      · exact ⟨l, there, succeeded⟩
      · cases (List.mem_singleton.mp (List.mem_of_getElem? there))
        cases succeeded
  | enters s there starting process launches =>
      refine .enters s there starting ?_ launches
      rw [process, Process.prepare, starting]
  | withdraws s reason there starting process launches =>
      have gives := process ▸ Process.givesBack_withdraw starting
      exact .away (congrArg World.guest gives.world)
        (succeeded_of_set there launches fun said => by cases said)
  | surrenders s last launches =>
      obtain ⟨before, -, -, gives⟩ := Process.givesBack_last last
      exact .away (congrArg World.guest gives.world) (quiet launches)

/-! ### What stands -/

/-- The configuration of a session stays as it is. -/
theorem Effect.config [HasHandles R] (e : d.Effect m d') (known : s < d.process.system.controls.length) :
    (d'.process.system.control s).config = (d.process.system.control s).config := by
  have kept {u : SessionId} {f : Control J R → Control J R}
      (controls : d'.process.system.controls = d.process.system.controls.modify u f)
      (same : ∀ c, (f c).config = c.config) :
      (d'.process.system.control s).config = (d.process.system.control s).config := by
    rcases System.control_of_modify controls s with ⟨-, same⟩ | ⟨rfl, -, changed⟩
    · rw [same]
    · rw [changed, same]
  cases e with
  | rests process | proceeds s l l' there next process => rw [process]
  | inner a move inner process =>
      cases inner with
      | aside aside => exact aside.config s
      | operates s ticket job op action working system => rw [system]; rfl
      | leaves s idle queue closed system => exact kept (congrArg System.controls system) fun _ => rfl
  | opens config free process =>
      have controls : d'.process.system.controls =
          d.process.system.controls ++ [⟨config, true, .starting, [], 0, [], []⟩] := by
        rw [process]
        rfl
      rcases System.control_of_concat controls s with old | ⟨new, -⟩
      · rw [old]
      · exact absurd new (Nat.ne_of_lt known)
  | enters u there starting process =>
      refine kept (u := u) (f := fun c => c.prepared (d.process.system.prepare u).1) ?_ fun c => ?_
      · rw [process, Process.prepare, starting]
        rfl
      · unfold Control.prepared
        split <;> rfl
  | withdraws u reason there starting process =>
      exact (process ▸ Process.givesBack_withdraw starting).config s
  | surrenders u last =>
      obtain ⟨before, -, -, gives⟩ := Process.givesBack_last last
      exact gives.config s

/-- What the owner of a session has said stands. -/
theorem Shift.word (shift : d.Shift d') {w : Option String} (said : d.word s = some w) :
    d'.word s = some w := by
  obtain ⟨l, there, word⟩ := Option.bind_eq_some_iff.mp said
  have unchanged (launches : d'.launches = d.launches) : d'.word s = some w := by
    rw [Desk.word, launches]
    exact said
  have changed {u : SessionId} {l₀ l₁ : Launch} (known : d.launches[u]? = some l₀)
      (launches : d'.launches = d.launches.set u l₁) (own : l₀.word ≠ none → l₁.word = l₀.word) :
      d'.word s = some w := by
    rw [Desk.word, launches]
    by_cases same : u = s
    · subst same
      cases known.symm.trans there
      rw [List.getElem?_set_self (List.getElem?_eq_some_iff.mp known).1, Option.bind_some,
        own (by simp [word]), word]
    · rw [List.getElem?_set_ne same]
      exact said
  cases shift with
  | stays phase claimed launches => exact unchanged launches
  | proceeds u l₀ l₁ known next phase claimed launches => exact changed known launches next.word
  | enters u reason known passes launches => exact changed known launches (absurd rfl)
  | leaves u leaves passes launches => exact unchanged launches
  | withdraws u reason known passes launches => exact changed known launches (absurd rfl)
  | surrenders u before last own passes launches => exact unchanged launches
  | opens free taken new others launches =>
      rw [Desk.word, launches, List.getElem?_append_left (List.getElem?_eq_some_iff.mp there).1]
      exact said

/-- An owner that has said that it is in the guest has said so in every longer run. -/
theorem succeeded_append [HasHandles R] (g : σ) (ms ms' : List (Move J R)) (said : (run g ms).succeeded s) :
    (run g (ms ++ ms')).succeeded s := by
  induction ms' using List.reverseRecOn with
  | nil => rwa [List.append_nil]
  | append_singleton ms' m ih =>
      rw [← List.append_assoc, run_concat]
      exact succeeded_iff_word.mpr (((run g (ms ++ ms')).effect_step m).shift.word
        (succeeded_iff_word.mp ih))

/-- No call is forgotten. -/
theorem Shift.launches_length (shift : d.Shift d') : d.launches.length ≤ d'.launches.length := by
  cases shift with
  | stays phase claimed launches => rw [launches]
  | proceeds s l l' there next phase claimed launches => rw [launches, List.length_set]
  | enters s reason there passes launches => rw [launches, List.length_set]
  | leaves s leaves passes launches => rw [launches]
  | withdraws s reason there passes launches => rw [launches, List.length_set]
  | surrenders s before last own passes launches => rw [launches]
  | opens free taken new others launches => simp [launches]

/-! ### The session that was opened last -/

omit [GuestState σ] in
theorem latest_initial (g : σ) : (initial g : Desk σ J R).Latest := by
  intro s there
  cases (sole_initial g).claimed.mpr ⟨s, there⟩

/-- **No session is opened after one that has the claim.** -/
theorem Latest.shift (latest : d.Latest) (sole : d.Sole) (tended : d.Tended) (shift : d.Shift d')
    (tended' : d'.Tended) : d'.Latest := by
  have same (launches : d'.launches.length = d.launches.length)
      (alive : ∀ u, d'.phase u ≠ .gone → d.phase u ≠ .gone) : d'.Latest := by
    intro u there
    rw [← tended'.length, launches, tended.length]
    exact latest u (alive u there)
  have passes {u : SessionId} {before after : Phase} (passes : d.Passes d' u before after)
      (there : before ≠ .gone) (v : SessionId) (alive : d'.phase v ≠ .gone) : d.phase v ≠ .gone := by
    by_cases own : v = u
    · rw [own, passes.here]
      exact there
    · rwa [← passes.others v own]
  cases shift with
  | stays phase claimed launches =>
      exact same (congrArg _ launches) fun u alive => phase u ▸ alive
  | proceeds u l l' known next phase claimed launches =>
      exact same (by rw [launches, List.length_set]) fun u alive => phase u ▸ alive
  | enters u reason known pass launches =>
      exact same (by rw [launches, List.length_set]) (passes pass (by simp))
  | leaves u leaves pass launches => exact same (congrArg _ launches) (passes pass (by simp))
  | withdraws u reason known pass launches =>
      exact same (by rw [launches, List.length_set]) (passes pass (by simp))
  | surrenders u before last own pass launches =>
      exact same (congrArg _ launches) (passes pass (by rcases last with rfl | rfl <;> simp))
  | opens free taken new others launches =>
      intro u there
      rw [← tended'.length, launches, List.length_append, List.length_singleton, tended.length]
      by_contra other
      rw [others u fun own => other (own ▸ rfl)] at there
      exact absurd (sole.claimed.mpr ⟨u, there⟩) (by simp [free])

theorem latest_run [HasHandles R] (g : σ) (ms : List (Move J R)) : (run g ms).Latest := by
  induction ms using List.reverseRecOn with
  | nil => exact latest_initial g
  | append_singleton ms m ih =>
      have order := orderly_run g ms
      have order' := orderly_run g (ms ++ [m])
      rw [run_concat] at order' ⊢
      exact ih.shift order.sole order.tended (effect_step _ m).shift order'.tended

/-! ### What sessions outside the guest live on -/

/-- A session whose owner is not in the guest lives on nothing. -/
def Vacant (d : Desk σ J R) : Prop :=
  ∀ s, d.phase s ≠ .inside → d.process.system.world.base s = none

omit [GuestState σ] in
theorem vacant_initial (g : σ) : (initial g : Desk σ J R).Vacant := fun _ _ => rfl

omit [GuestState σ] in
/-- A step that does not change what sessions live on, and in which no owner leaves the guest. -/
theorem Vacant.same (v : d.Vacant) (base : ∀ u, d'.process.system.world.base u =
    d.process.system.world.base u) (phase : ∀ u, d.phase u = .inside → d'.phase u = .inside) :
    d'.Vacant :=
  fun u outside => (base u).trans (v u fun inside => outside (phase u inside))

/-- **Every step leaves sessions outside the guest with nothing.** -/
theorem Vacant.step [HasHandles R] (v : d.Vacant) (e : d.Effect m d') : d'.Vacant := by
  have free {s : SessionId} {before : Phase} (gives : d.process.GivesBack d'.process s before) :
      d'.Vacant := by
    refine v.same (fun u => by rw [gives.world]) fun u inside => ?_
    have other : u ≠ s := fun own => gives.apart.2 (gives.here.symm.trans (own ▸ inside))
    exact ((gives.phase u).trans (if_neg other)).trans inside
  cases e with
  | rests process | proceeds s l l' there next process =>
      exact v.same (fun u => by rw [process]) fun u inside => by rwa [phase, process]
  | inner a move inner process =>
      cases inner with
      | aside aside => exact v.same aside.base fun u inside => (aside.phase u).trans inside
      | operates s ticket job op action working system =>
          have moves := (op.turns_run : Turns (σ := σ) ⟨s⟩ op.used (op.run ⟨s⟩) id)
            d.process.system.world []
          refine v.same (fun u => ?_) fun u inside => ?_
          · rw [system]
            exact moves.base u
          · rwa [phase, Process.phase, Process.owner, system]
      | leaves s idle queue closed system =>
          intro u outside
          have world : d'.process.system.world = (leaveGuest s d.process.system.world).2 :=
            congrArg System.world system
          by_cases own : u = s
          · subst own
            rw [world, World.base]
            cases runtime : (d.process.system.world.session u).runtime with
            | none => rw [leaveGuest, runtime, runtime]; rfl
            | some rt => rw [(departs_leaveGuest runtime).keeps]; rfl
          · rw [world, World.base_leave_ne _ own]
            refine v u fun inside => outside ?_
            rw [phase, Process.phase_of_modify (congrArg System.controls system),
              if_neg fun h => own h.1]
            exact inside
  | opens config free process =>
      have controls : d'.process.system.controls =
          d.process.system.controls ++ [⟨config, true, .starting, [], 0, [], []⟩] := by
        rw [process]
        rfl
      have base (u : SessionId) : d'.process.system.world.base u = d.process.system.world.base u := by
        rw [process]
        exact congrArg (fun st => st.runtime.map Runtime.base)
          (d.process.system.world.session_concat u)
      refine v.same base fun u inside => ?_
      rcases System.control_of_concat controls u with old | ⟨new, -⟩
      · rw [phase, Process.phase, Process.owner, old]
        exact inside
      · have lt : u < d.process.system.controls.length := lt_of_phase (by simp [inside])
        exact absurd new (Nat.ne_of_lt lt)
  | enters s there starting process =>
      have system : d'.process.system = (d.process.system.prepare s).2 := by
        rw [process, Process.prepare, starting]
      have controls : d'.process.system.controls = d.process.system.controls.modify s
          fun c => c.prepared (d.process.system.prepare s).1 := congrArg System.controls system
      have world : d'.process.system.world =
          (enterGuest s (d.process.system.control s).config d.process.system.world).2 :=
        congrArg System.world system
      have out : d.phase s = .starting := by rw [phase, Process.phase, starting]; rfl
      intro u outside
      by_cases own : u = s
      · subst own
        have failed : (d.process.system.prepare u).1 ≠ none := by
          intro entered
          refine outside ?_
          rw [phase, Process.phase_of_modify controls, if_pos ⟨rfl, lt_of_phase (by simp [out])⟩,
            phase_prepared, entered]
          rfl
        rw [world, World.base_enter_failed _ _ failed]
        exact v u (by simp [out])
      · rw [world, World.base_enter_ne _ _ own]
        refine v u fun inside => outside ?_
        rw [phase, Process.phase_of_modify controls, if_neg fun h => own h.1]
        exact inside
  | withdraws s reason there starting process =>
      exact free (process ▸ Process.givesBack_withdraw starting)
  | surrenders s last =>
      obtain ⟨before, -, -, gives⟩ := Process.givesBack_last last
      exact free gives

theorem vacant_run [HasHandles R] (g : σ) (ms : List (Move J R)) : (run g ms).Vacant :=
  run_induction (vacant_initial g) (fun d m v => v.step (d.effect_step m)) ms

/-! ### What holds along a run -/

/-- Something holds of every step. -/
def Along [HasHandles R] (P : Desk σ J R → Move J R → Desk σ J R → Prop) :
    Desk σ J R → List (Move J R) → Prop
  | _, [] => True
  | d, m :: ms => P d m (d.step m) ∧ Along P (d.step m) ms

theorem along_append [HasHandles R] {P : Desk σ J R → Move J R → Desk σ J R → Prop}
    {ms ms' : List (Move J R)} : Along P d (ms ++ ms') ↔ Along P d ms ∧ Along P (d.steps ms) ms' := by
  induction ms generalizing d with
  | nil => exact (iff_of_eq (true_and _)).symm
  | cons m ms ih =>
      change P d m (d.step m) ∧ Along P (d.step m) (ms ++ ms') ↔ _
      rw [ih]
      exact and_assoc.symm

end Desk

end GuestBridge.Session
