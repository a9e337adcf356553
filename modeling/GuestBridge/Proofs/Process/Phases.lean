import GuestBridge.Proofs.Process.Desk

/-!
# Phases of Owners

The claim on the guest is followed by the phases of owners: each step moves one owner from one phase
to another, or opens a session that is starting, or leaves all phases as they are (`Shift`). From
this follow the two invariants of a desk: the claim is taken by one session (`Sole`), and the calls
that start sessions stand where their owners do (`Tended`).

## Main results

* `Effect.shift` — every step is a shift.
* `Sole.shift`, `Tended.step` — what every step keeps.
-/

namespace GuestBridge.Session

open Bridge
open Guest (Ref)

variable {σ J R : Type}

/-- Where an owner can stand while the call that started its session is somewhere. -/
def Launch.phases : Launch → List Phase
  | claimed | unspawned _ | spawned => [.starting]
  | heard none | returned none => [.inside, .outside, .gone]
  | heard (some _) => [.failed, .gone]
  | returned (some _) => [.gone]

/-- An owner that is in the guest can leave it. -/
theorem Launch.left {l : Launch} (fit : .inside ∈ l.phases) : .outside ∈ l.phases := by
  rcases l with _ | _ | _ | (_ | _) | (_ | _) <;> simp [phases] at fit ⊢

/-- An owner that has failed, or that has left the guest, can come to its end. -/
theorem Launch.ended {l : Launch} {before : Phase} (last : before = .failed ∨ before = .outside)
    (fit : before ∈ l.phases) : .gone ∈ l.phases := by
  rcases last with rfl | rfl <;>
    rcases l with _ | _ | _ | (_ | _) | (_ | _) <;> simp [phases] at fit ⊢

/-- An owner can stand where it does when its call goes on. -/
theorem Launch.Next.phases {phase : Phase} {l l' : Launch} (next : Next phase l l')
    (fit : phase ∈ l.phases) : phase ∈ l'.phases := by
  cases next with
  | fail reason => exact List.mem_singleton_self _
  | spawn | failSpawn | succeed => exact fit

/-- Whether the owner has said that it is in the guest. -/
def Launch.succeeded : Launch → Bool
  | heard none | returned none => true
  | claimed | unspawned _ | spawned | heard (some _) | returned (some _) => false

/-- Word of a success is not followed by word of a failure, nor the other way round. -/
theorem Launch.Next.succeeded {phase : Phase} {l l' : Launch} (next : Next phase l l') :
    l'.succeeded = l.succeeded := by
  cases next <;> rfl

/-- An owner that has failed has said so. -/
theorem Launch.not_succeeded {l : Launch} (fit : .failed ∈ l.phases) : l.succeeded = false := by
  rcases l with _ | _ | _ | (_ | _) | (_ | _) <;> simp [phases, succeeded] at fit ⊢

/-- A call has not made the thread of the owner, or the owner is where the call says. -/
theorem Launch.starting_of_isCalling {l : Launch} {phase : Phase} (calling : l.isCalling = true)
    (fit : phase ∈ l.phases) : phase = .starting := by
  rcases l with _ | _ | _ | _ | _ <;> simp [phases, isCalling] at calling fit ⊢ <;> exact fit

namespace Desk

/-- Where the owner of a session stands towards the guest. -/
def phase (d : Desk σ J R) (s : SessionId) : Phase := d.process.phase s

/-- Whether the claim on the guest is taken. -/
def claimed (d : Desk σ J R) : Bool := d.process.system.claimed

/-! ### Phases -/

/-- A session whose owner is not gone exists. -/
theorem lt_of_phase {d : Desk σ J R} {s : SessionId} (there : d.phase s ≠ .gone) :
    s < d.process.system.controls.length :=
  System.lt_of_owner fun gone => there (congrArg Owner.phase gone)

/-- One owner comes from one phase to another. -/
structure Passes (d d' : Desk σ J R) (s : SessionId) (before after : Phase) : Prop where
  here : d.phase s = before
  there : d'.phase s = after
  others : ∀ u, u ≠ s → d'.phase u = d.phase u
  claimed : d'.claimed = if after = .gone then false else d.claimed

/-- The owner of a session has nothing to do any more, and leaves the guest. -/
structure Leaves [GuestState σ] (d d' : Desk σ J R) (s : SessionId) : Prop where
  idle : d.process.owner s = .idle
  queue : (d.process.system.control s).queue = []
  closed : d.process.system.isRunning s = false
  world : d'.process.system.world = (leaveGuest s d.process.system.world).2

/-- What a step does to phases and calls, to the claim and to the list of claims given back. -/
inductive Shift [GuestState σ] (d d' : Desk σ J R) : Prop
  | stays (phase : ∀ u, d'.phase u = d.phase u) (claimed : d'.claimed = d.claimed)
      (launches : d'.launches = d.launches) (surrendered : d'.surrendered = d.surrendered)
  | proceeds (s : SessionId) (l l' : Launch) (there : d.launches[s]? = some l)
      (next : Launch.Next (d.phase s) l l') (phase : ∀ u, d'.phase u = d.phase u)
      (claimed : d'.claimed = d.claimed) (launches : d'.launches = d.launches.set s l')
      (surrendered : d'.surrendered = d.surrendered)
  | enters (s : SessionId) (reason : Option String) (there : d.launches[s]? = some .spawned)
      (passes : d.Passes d' s .starting (reason.elim .inside fun _ => .failed))
      (launches : d'.launches = d.launches.set s (.heard reason))
      (surrendered : d'.surrendered = d.surrendered)
  | leaves (s : SessionId) (leaves : d.Leaves d' s) (passes : d.Passes d' s .inside .outside)
      (launches : d'.launches = d.launches) (surrendered : d'.surrendered = d.surrendered)
  | withdraws (s : SessionId) (reason : String) (there : d.launches[s]? = some (.unspawned reason))
      (passes : d.Passes d' s .starting .gone)
      (launches : d'.launches = d.launches.set s (.returned (some reason)))
      (surrendered : d'.surrendered = d.surrendered ++ [s])
  | surrenders (s : SessionId) (before : Phase) (last : before = .failed ∨ before = .outside)
      (own : before = .outside → d.process.owner s = .left) (passes : d.Passes d' s before .gone)
      (launches : d'.launches = d.launches) (surrendered : d'.surrendered = d.surrendered ++ [s])
  | opens (free : d.claimed = false) (taken : d'.claimed = true)
      (new : d'.phase d.process.system.controls.length = .starting)
      (others : ∀ u, u ≠ d.process.system.controls.length → d'.phase u = d.phase u)
      (launches : d'.launches = d.launches ++ [.claimed])
      (surrendered : d'.surrendered = d.surrendered)

variable {d d' : Desk σ J R} {m : Move J R} {s : SessionId}

/-- An owner that stands elsewhere than where one came has not moved. -/
theorem Passes.unmoved {u : SessionId} {before after : Phase} (passes : d.Passes d' u before after)
    (other : after ≠ d'.phase s) : d.phase s = d'.phase s := by
  by_cases same : s = u
  · exact absurd (same ▸ passes.there.symm) other
  · exact (passes.others s same).symm

/-- An owner that stood elsewhere than where one left has not moved. -/
theorem Passes.stays {u : SessionId} {before after : Phase} (passes : d.Passes d' u before after)
    (other : d.phase s ≠ before) : d'.phase s = d.phase s :=
  passes.others s fun same => other (same ▸ passes.here)

/-- A step of one owner. -/
theorem Passes.at {f : Control J R → Control J R} {before after : Phase}
    (here : d.phase s = before) (there : before ≠ .gone)
    (controls : d'.process.system.controls = d.process.system.controls.modify s f)
    (phase : (f (d.process.system.control s)).owner.phase = after)
    (claimed : d'.claimed = if after = .gone then false else d.claimed) :
    d.Passes d' s before after where
  here := here
  there := by
    have lt : s < d.process.system.controls.length := lt_of_phase (here ▸ there)
    rw [Desk.phase, Process.phase_of_modify controls, if_pos ⟨rfl, lt⟩, phase]
  others u hu := by
    rw [Desk.phase, Process.phase_of_modify controls, if_neg fun h => hu h.1, Desk.phase]
  claimed := claimed

/-- An owner that gives the claim back is gone. -/
theorem Passes.of_givesBack {before : Phase} (gives : d.process.GivesBack d'.process s before) :
    d.Passes d' s before .gone where
  here := gives.here
  there := (gives.phase s).trans (if_pos rfl)
  others u hu := (gives.phase u).trans (if_neg hu)
  claimed := gives.claimed

/-- **Every step is a shift.** -/
theorem Effect.shift [GuestState σ] [HasHandles R] (e : d.Effect m d') : d.Shift d' := by
  cases e with
  | rests process launches surrendered =>
      refine .stays (fun u => ?_) ?_ launches surrendered
      · rw [phase, process, phase]
      · rw [claimed, process, claimed]
  | inner a move inner process launches surrendered =>
      cases inner with
      | aside aside => exact .stays aside.phase aside.claimed launches surrendered
      | operates s ticket job op action working system =>
          refine .stays (fun u => ?_) ?_ launches surrendered
          · rw [phase, Process.phase, Process.owner, system]
            rfl
          · rw [claimed, system, claimed]
      | leaves s idle queue closed system =>
          refine .leaves s ⟨idle, queue, closed, congrArg System.world system⟩
            (.at ?_ (by simp) (congrArg System.controls system) rfl ?_) launches surrendered
          · rw [phase, Process.phase, idle]
            rfl
          · rw [claimed, system]
            rfl
  | opens config free process launches surrendered =>
      have controls : d'.process.system.controls =
          d.process.system.controls ++ [⟨config, true, .starting, [], 0, [], []⟩] := by
        rw [process]
        rfl
      refine .opens free ?_ ?_ (fun u hu => ?_) launches surrendered
      · rw [claimed, process]
        rfl
      · rw [phase, Process.phase, Process.owner, System.control, controls]
        simp [Owner.phase]
      · rcases System.control_of_concat controls u with old | new
        · rw [phase, Process.phase, Process.owner, old]
          rfl
        · exact absurd new.1 hu
  | proceeds s l l' there next process launches surrendered =>
      refine .proceeds s l l' there next (fun u => ?_) ?_ launches surrendered
      · rw [phase, process, phase]
      · rw [claimed, process, claimed]
  | enters s there starting process launches surrendered =>
      have system : d'.process.system = (d.process.system.prepare s).2 := by
        rw [process, Process.prepare, starting]
      have here : d.phase s = .starting := by
        rw [phase, Process.phase, starting]
        rfl
      have claimed : d'.claimed = d.claimed := by
        rw [Desk.claimed, system]
        rfl
      have controls : d'.process.system.controls = d.process.system.controls.modify s
          fun c => c.prepared (d.process.system.prepare s).1 := congrArg System.controls system
      generalize (d.process.system.prepare s).1 = reason at controls launches
      refine .enters s reason there (.at here (by simp) controls (phase_prepared _ reason) ?_)
        launches surrendered
      cases reason <;> exact claimed
  | withdraws s reason there starting process launches surrendered =>
      have gives := process ▸ Process.givesBack_withdraw starting
      exact .withdraws s reason there (.of_givesBack gives) launches surrendered
  | surrenders s last launches surrendered =>
      obtain ⟨before, last, own, gives⟩ := Process.givesBack_last last
      exact .surrenders s before last own (.of_givesBack gives) launches surrendered

/-! ### The claim -/

/-- The claim is taken by at most one session, and by one if it is taken. -/
structure Sole (d : Desk σ J R) : Prop where
  single : ∀ s u, d.phase s ≠ .gone → d.phase u ≠ .gone → s = u
  claimed : d.claimed = true ↔ ∃ s, d.phase s ≠ .gone

theorem sole_initial (g : σ) : (initial g : Desk σ J R).Sole where
  single s u hs _ := by
    have gone : (initial g : Desk σ J R).process.system.control s =
        ⟨.standard, false, .gone, [], 0, [], []⟩ := System.control_outside _ (Nat.not_lt_zero s)
    exact absurd (congrArg (fun c : Control J R => c.owner.phase) gone) hs
  claimed := by
    constructor
    · exact fun h => nomatch h
    · rintro ⟨s, hs⟩
      have gone : (initial g : Desk σ J R).process.system.control s =
          ⟨.standard, false, .gone, [], 0, [], []⟩ := System.control_outside _ (Nat.not_lt_zero s)
      exact absurd (congrArg (fun c : Control J R => c.owner.phase) gone) hs

/-- An owner that goes on keeps the claim. -/
theorem Sole.passes {before after : Phase} (sole : d.Sole) (passes : d.Passes d' s before after)
    (there : before ≠ .gone) (goesOn : after ≠ .gone) : d'.Sole := by
  have same (u : SessionId) : d'.phase u ≠ .gone ↔ d.phase u ≠ .gone := by
    by_cases hu : u = s
    · rw [hu, passes.there, passes.here]
      exact iff_of_true goesOn there
    · rw [passes.others u hu]
  refine ⟨fun u v hu hv => sole.single u v ((same u).mp hu) ((same v).mp hv), ?_⟩
  rw [passes.claimed, if_neg goesOn, sole.claimed]
  exact exists_congr fun u => (same u).symm

/-- An owner that comes to its end gives the claim back. -/
theorem Sole.ends {before : Phase} (sole : d.Sole) (passes : d.Passes d' s before .gone)
    (there : before ≠ .gone) : d'.Sole := by
  have free (u : SessionId) : d'.phase u = .gone := by
    by_cases hu : u = s
    · rw [hu, passes.there]
    · rw [passes.others u hu]
      by_contra also
      exact hu (sole.single u s also (passes.here ▸ there))
  refine ⟨fun u _ hu _ => absurd (free u) hu, ?_⟩
  rw [passes.claimed, if_pos rfl]
  exact iff_of_false Bool.false_ne_true fun ⟨u, hu⟩ => hu (free u)

/-- **Every step keeps the claim with one session.** -/
theorem Sole.shift [GuestState σ] (sole : d.Sole) (shift : d.Shift d') : d'.Sole := by
  have same (phase : ∀ u, d'.phase u = d.phase u) (claimed : d'.claimed = d.claimed) : d'.Sole := by
    refine ⟨fun u v hu hv => sole.single u v (phase u ▸ hu) (phase v ▸ hv), ?_⟩
    rw [claimed, sole.claimed]
    exact exists_congr fun u => by rw [phase u]
  cases shift with
  | stays phase claimed => exact same phase claimed
  | proceeds s l l' there next phase claimed => exact same phase claimed
  | enters s reason there passes =>
      exact sole.passes passes (by simp) (by cases reason <;> simp)
  | leaves s leaves passes => exact sole.passes passes (by simp) (by simp)
  | withdraws s reason there passes => exact sole.ends passes (by simp)
  | surrenders s before last own passes => exact sole.ends passes (by rcases last with rfl | rfl <;> simp)
  | opens free taken new others =>
      have only (u : SessionId) (hu : d'.phase u ≠ .gone) :
          u = d.process.system.controls.length := by
        by_contra other
        rw [others u other] at hu
        exact absurd (sole.claimed.mpr ⟨u, hu⟩) (by simp [free])
      have starts : d'.phase d.process.system.controls.length ≠ .gone := by simp [new]
      exact ⟨fun u v hu hv => (only u hu).trans (only v hv).symm,
        iff_of_true taken ⟨_, starts⟩⟩

theorem sole_run [GuestState σ] [HasHandles R] (g : σ) (ms : List (Move J R)) : (run g ms).Sole :=
  run_induction (sole_initial g) (fun d m sole => sole.shift (d.effect_step m).shift) ms

/-- An owner that is gone stays so. -/
theorem Shift.gone [GuestState σ] (shift : d.Shift d') (known : s < d.process.system.controls.length)
    (gone : d.phase s = .gone) : d'.phase s = .gone := by
  have stays {u : SessionId} {before after : Phase} (passes : d.Passes d' u before after)
      (there : before ≠ .gone) : d'.phase s = .gone := by
    have other : s ≠ u := fun same => there (by rw [← passes.here, ← same, gone])
    rw [passes.others s other, gone]
  cases shift with
  | stays phase => rw [phase, gone]
  | proceeds u l l' there next phase => rw [phase, gone]
  | enters u reason there passes => exact stays passes (by simp)
  | leaves u leaves passes => exact stays passes (by simp)
  | withdraws u reason there passes => exact stays passes (by simp)
  | surrenders u before last own passes => exact stays passes (by rcases last with rfl | rfl <;> simp)
  | opens free taken new others => rw [others s (Nat.ne_of_lt known), gone]

/-! ### Calls and owners -/

/-- The calls that got the claim fit the owners, and the list of claims given back is right. -/
structure Tended (d : Desk σ J R) : Prop where
  length : d.launches.length = d.process.system.controls.length
  fits : ∀ s l, d.launches[s]? = some l → d.phase s ∈ l.phases
  once : d.surrendered.Nodup
  given : ∀ s, s ∈ d.surrendered ↔ s < d.launches.length ∧ d.phase s = .gone

theorem tended_initial (g : σ) : (initial g : Desk σ J R).Tended where
  length := rfl
  fits _ _ h := nomatch h
  once := List.nodup_nil
  given s := ⟨fun h => absurd h List.not_mem_nil, fun h => absurd h.1 (Nat.not_lt_zero s)⟩

theorem Effect.length [GuestState σ] [HasHandles R] (e : d.Effect m d')
    (length : d.launches.length = d.process.system.controls.length) :
    d'.launches.length = d'.process.system.controls.length := by
  cases e with
  | rests process launches surrendered => rw [launches, process, length]
  | inner a move inner process launches surrendered =>
      rw [launches, length]
      cases inner with
      | aside aside => exact aside.length.symm
      | operates s ticket job op action working system => rw [system]
      | leaves s idle queue closed system => simp [system, System.modifyControl]
  | opens config free process launches surrendered =>
      simp [launches, process, System.opened, length]
  | proceeds s l l' there next process launches surrendered =>
      rw [launches, process, List.length_set, length]
  | enters s there starting process launches surrendered =>
      have controls : (d.process.system.prepare s).2.controls = d.process.system.controls.modify s
          fun c => c.prepared (d.process.system.prepare s).1 := rfl
      simp [launches, length, process, Process.prepare, starting, controls]
  | withdraws s reason there starting process launches surrendered =>
      have gives := process ▸ Process.givesBack_withdraw starting
      rw [launches, List.length_set, length, gives.length]
  | surrenders s last launches surrendered =>
      obtain ⟨before, -, -, gives⟩ := Process.givesBack_last last
      rw [launches, length, gives.length]

/-- A call goes on, and its owner with it. -/
theorem Tended.set {l : Launch} (t : d.Tended) (launches : d'.launches = d.launches.set s l)
    (own : d'.phase s ∈ l.phases) (others : ∀ u, u ≠ s → d'.phase u = d.phase u) :
    ∀ u l', d'.launches[u]? = some l' → d'.phase u ∈ l'.phases := by
  intro u l' hu
  rw [launches] at hu
  by_cases same : u = s
  · subst same
    rw [List.getElem?_set_self'] at hu
    obtain ⟨-, -, rfl⟩ := Option.map_eq_some_iff.mp hu
    exact own
  · rw [List.getElem?_set_ne (Ne.symm same)] at hu
    rw [others u same]
    exact t.fits u l' hu

/-- No claim is given back. -/
theorem Tended.keep (t : d.Tended) (length : d'.launches.length = d.launches.length)
    (surrendered : d'.surrendered = d.surrendered)
    (gone : ∀ u, d'.phase u = .gone ↔ d.phase u = .gone) (u : SessionId) :
    u ∈ d'.surrendered ↔ u < d'.launches.length ∧ d'.phase u = .gone := by
  rw [surrendered, t.given, length, gone]

/-- A claim is given back. -/
theorem Tended.give {before : Phase} (t : d.Tended) (passes : d.Passes d' s before .gone)
    (there : before ≠ .gone) (known : s < d.launches.length)
    (length : d'.launches.length = d.launches.length)
    (surrendered : d'.surrendered = d.surrendered ++ [s]) :
    d'.surrendered.Nodup ∧
      ∀ u, u ∈ d'.surrendered ↔ u < d'.launches.length ∧ d'.phase u = .gone := by
  have fresh : s ∉ d.surrendered := fun h => there (passes.here ▸ ((t.given s).mp h).2)
  rw [surrendered, length]
  have one : [s].Nodup := List.nodup_cons.mpr ⟨List.not_mem_nil, List.nodup_nil⟩
  refine ⟨List.nodup_append.mpr ⟨t.once, one, ?_⟩, fun u => ?_⟩
  · rintro u hu v hv rfl
    exact fresh (List.mem_singleton.mp hv ▸ hu)
  · rw [List.mem_append, List.mem_singleton, t.given]
    by_cases same : u = s
    · subst same
      exact iff_of_true (.inr rfl) ⟨known, passes.there⟩
    · rw [passes.others u same]
      exact or_iff_left same

/-- **Every step keeps the calls and the owners together.** -/
theorem Tended.step [GuestState σ] (t : d.Tended) (shift : d.Shift d')
    (length : d'.launches.length = d'.process.system.controls.length) : d'.Tended := by
  -- an owner that neither was gone nor is gone now
  have alive {u : SessionId} {before after : Phase} (passes : d.Passes d' u before after)
      (there : before ≠ .gone) (goesOn : after ≠ .gone) (v : SessionId) :
      d'.phase v = .gone ↔ d.phase v = .gone := by
    by_cases same : v = u
    · rw [same, passes.there, passes.here]
      exact iff_of_false goesOn there
    · rw [passes.others v same]
  have known {u : SessionId} {l : Launch} (there : d.launches[u]? = some l) :
      u < d.launches.length := (List.getElem?_eq_some_iff.mp there).1
  cases shift with
  | stays phase claimed launches surrendered =>
      refine ⟨length, fun u l hu => ?_, surrendered ▸ t.once, t.keep (congrArg _ launches)
        surrendered fun u => by rw [phase]⟩
      rw [phase]
      exact t.fits u l (launches ▸ hu)
  | proceeds s l l' there next phase claimed launches surrendered =>
      refine ⟨length, t.set launches ?_ fun u _ => phase u, surrendered ▸ t.once,
        t.keep (by rw [launches, List.length_set]) surrendered fun u => by rw [phase]⟩
      rw [phase]
      exact next.phases (t.fits s l there)
  | enters s reason there passes launches surrendered =>
      have moved : (reason.elim .inside fun _ => .failed : Phase) ≠ .gone := by
        cases reason <;> simp
      refine ⟨length, t.set launches ?_ passes.others, surrendered ▸ t.once,
        t.keep (by rw [launches, List.length_set]) surrendered (alive passes (by simp) moved)⟩
      rw [passes.there]
      cases reason <;> simp [Launch.phases]
  | leaves s leaves passes launches surrendered =>
      refine ⟨length, fun u l hu => ?_, surrendered ▸ t.once, t.keep (congrArg _ launches)
        surrendered (alive passes (by simp) (by simp))⟩
      have fit := t.fits u l (launches ▸ hu)
      by_cases same : u = s
      · subst same
        rw [passes.here] at fit
        rw [passes.there]
        exact l.left fit
      · rwa [passes.others u same]
  | withdraws s reason there passes launches surrendered =>
      obtain ⟨once, given⟩ := t.give passes (by simp) (known there)
        (by rw [launches, List.length_set]) surrendered
      refine ⟨length, t.set launches ?_ passes.others, once, given⟩
      rw [passes.there]
      exact List.mem_singleton_self _
  | surrenders s before last own passes launches surrendered =>
      have there : before ≠ .gone := by rcases last with rfl | rfl <;> simp
      obtain ⟨once, given⟩ := t.give passes there (t.length ▸ lt_of_phase (passes.here ▸ there))
        (congrArg _ launches) surrendered
      refine ⟨length, fun u l hu => ?_, once, given⟩
      have fit := t.fits u l (launches ▸ hu)
      by_cases same : u = s
      · subst same
        rw [passes.here] at fit
        rw [passes.there]
        exact l.ended last fit
      · rwa [passes.others u same]
  | opens free taken new others launches surrendered =>
      have fresh : d.process.system.controls.length ∉ d.surrendered := fun h =>
        Nat.lt_irrefl _ (t.length ▸ ((t.given _).mp h).1)
      refine ⟨length, fun u l hu => ?_, surrendered ▸ t.once, fun u => ?_⟩
      · rw [launches] at hu
        by_cases same : u = d.process.system.controls.length
        · rw [same, ← t.length, List.getElem?_concat_length] at hu
          cases hu
          rw [same, new]
          exact List.mem_singleton_self _
        · have old : d.launches[u]? = some l := by
            rw [List.getElem?_append] at hu
            split at hu
            · exact hu
            · rename_i outside
              have beyond : d.launches.length < u :=
                Nat.lt_of_le_of_ne (Nat.le_of_not_lt outside) fun h => same (h.symm.trans t.length)
              rw [List.getElem?_singleton, if_neg (Nat.sub_ne_zero_of_lt beyond)] at hu
              cases hu
          rw [others u same]
          exact t.fits u l old
      · rw [surrendered, launches, List.length_append, List.length_singleton]
        by_cases same : u = d.process.system.controls.length
        · subst same
          exact iff_of_false fresh fun h => by simp [new] at h
        · rw [t.given, others u same]
          constructor
          · exact fun h => ⟨Nat.lt_succ_of_lt h.1, h.2⟩
          · exact fun h => ⟨Nat.lt_of_le_of_ne (Nat.le_of_lt_succ h.1) fun e =>
              same (e.trans t.length), h.2⟩

end Desk

end GuestBridge.Session
