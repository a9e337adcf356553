import GuestBridge.Proofs.Process.SearchPath
import GuestBridge.Proofs.Requests.Setback

/-!
# Starts That Fail, Over a Whole Run

A start that fails is over when its call comes back: the owner is gone, the claim is free again, and the
output stream is what it was. The search path is not. What the session had put on it before something
failed stays there, in front of what was there before, and so the path grows with every start that fails
after its first directory (`Tried`).

What was done before the first of these starts does not matter: the sessions of that time are gone, and
the guest is in whatever state they have left it.

## Main results

* `setbacks_run` — what any number of starts that fail leave behind.
* `extended_by_failure` — a start that fails has left its directory on the path.
-/

namespace GuestBridge.Bridge

open Guest (Ref)

theorem Scene.extended_extended (b : Scene) (dirs dirs' : List String) :
    (b.extended 0 dirs).extended 0 dirs' = b.extended 0 (dirs' ++ dirs) := by
  simp [extended]

/-! ### A guest without an output stream

The guest around a search path again, with an output stream that can be missing, as it is when a job has
deleted it. Nothing else ever fails in it that a start asks for.
-/

/-- A guest that keeps a search path and an output stream. -/
structure Porch where
  path : List (Option String)
  /-- The texts that were made, in order. -/
  texts : List String
  out : Option Ref
  deriving DecidableEq, Repr

namespace Porch

/-- The object that stands for everything but texts. -/
def thing : Ref := ⟨0⟩

/-- The text that an object stands for. -/
def text (p : Porch) (r : Ref) : Option String := if r.id = 0 then none else p.texts[r.id - 1]?

/-- Answers a request; nothing if that raises. -/
def answer (p : Porch) : {α : Type} → Request α → Option α × Porch
  | _, .newStr t => (some ⟨p.texts.length + 1⟩, { p with texts := p.texts ++ [t] })
  | _, .insert _ position r => (some (), { p with
      path := p.path.take position ++ p.text r :: p.path.drop position })
  | _, .getAttr _ name => (if name = "stdout" then p.out else some thing, p)
  | _, .setAttr _ _ v => (some (), { p with out := some v })
  | _, .importModule _ | _, .newDict _ | _, .evaluate _ | _, .newSink _ => (some thing, p)
  | _, .expect _ _ | _, .clear _ => (some (), p)
  | _, _ => (none, p)

instance : GuestState Porch where
  perform _ r p := match p.answer r with
    | (some a, p) => (.ok a, [], p)
    | (none, p) => (.error ⟨thing, []⟩, [], p)

/-- How this guest is looked at. -/
def scenery : Scenery Porch where
  Sane _ := True
  scene p := ⟨some thing, some thing, p.path, p.out⟩
  text := text

theorem guest_perform {α : Type} (p : Porch) (held : List Ref) (r : Request α) :
    (GuestState.perform held r p).2.2 = (p.answer r).2 := by
  change (match p.answer r with | (some a, p) => _ | (none, p) => _ : _ × _ × Porch).2.2 = _
  rcases p.answer r with ⟨_ | a, p'⟩ <;> rfl

theorem laws : scenery.Laws where
  quiet {α} {r} {p} held looks _ := by
    refine ⟨trivial, ?_⟩
    rw [guest_perform]
    cases r <;> first | rfl | cases looks
  loads held _ answer := congrArg some (Except.ok.inj answer)
  reads held _ sys answer := congrArg some (Except.ok.inj answer)
  makes {p} {dir} {r} held _ answer := by
    cases answer
    simp [guest_perform, answer, scenery, text]
  inserts held position r _ own := ⟨trivial, rfl⟩
  refuses held v _ sys answer := by cases answer

end Porch

end GuestBridge.Bridge

namespace GuestBridge.Session

open Bridge

variable {σ J R : Type}

namespace Desk

variable {V : Scenery σ} {d₀ d d' : Desk σ J R} {m : Move J R} {s : SessionId}
  {added : List (SessionId × List String)}

/-- The sessions that have tried to start since a state, the latest first, with first ones of their
directories. -/
structure Attempts (d₀ : Desk σ J R) (added : List (SessionId × List String)) (d : Desk σ J R) : Prop where
  grown : d₀.launches.length ≤ d.launches.length
  earlier : ∀ s < d₀.launches.length, d.phase s = .gone
  order : added.Pairwise fun a b => b.1 < a.1
  later : ∀ a ∈ added, d₀.launches.length ≤ a.1
  first : ∀ a ∈ added, a.2 <+: d.searchPaths a.1
  said : ∀ a ∈ added, (d.word a.1).isSome = true

/-- What has come of these attempts: the directories stand on the path in front of what was there. -/
structure Tried (V : Scenery σ) (d₀ : Desk σ J R) (added : List (SessionId × List String))
    (d : Desk σ J R) : Prop extends Attempts d₀ added d where
  stands : V.Stands ((V.scene d₀.guest).extended 0 (added.flatMap (·.2))) d.guest

/-- A session that has tried to start exists. -/
theorem Attempts.known (t : Attempts d₀ added d) {a : SessionId × List String} (ha : a ∈ added) :
    a.1 < d.launches.length :=
  lt_of_word (Option.isSome_iff_exists.mp (t.said a ha)).choose_spec

/-- One attempt more. -/
theorem Attempts.cons {dirs : List String} (t : Attempts d₀ added d) (new : d₀.launches.length ≤ s)
    (last : ∀ a ∈ added, a.1 < s) (first : dirs <+: d.searchPaths s) (said : (d.word s).isSome = true) :
    Attempts d₀ ((s, dirs) :: added) d where
  grown := t.grown
  earlier := t.earlier
  order := List.pairwise_cons.mpr ⟨last, t.order⟩
  later := List.forall_mem_cons.mpr ⟨new, t.later⟩
  first := List.forall_mem_cons.mpr ⟨first, t.first⟩
  said := List.forall_mem_cons.mpr ⟨said, t.said⟩

variable [GuestState σ] [HasHandles R]

theorem Effect.searchPaths (e : d.Effect m d') (tended : d.Tended) (known : s < d.launches.length) :
    d'.searchPaths s = d.searchPaths s :=
  congrArg SessionConfig.searchPaths (e.config (tended.length ▸ known))

/-- No attempt is forgotten. -/
theorem Attempts.step (t : Attempts d₀ added d) (tended : d.Tended) (e : d.Effect m d') :
    Attempts d₀ added d' where
  grown := t.grown.trans e.shift.launches_length
  earlier s known := e.shift.gone (tended.length ▸ known.trans_le t.grown) (t.earlier s known)
  order := t.order
  later := t.later
  first a ha := by
    rw [e.searchPaths tended (t.known ha)]
    exact t.first a ha
  said a ha := by
    obtain ⟨w, word⟩ := Option.isSome_iff_exists.mp (t.said a ha)
    exact Option.isSome_of_eq_some (e.shift.word word)

omit [GuestState σ] in
/-- The sessions of before are gone, and if none has succeeded since, none is in the guest. -/
theorem Attempts.outside (t : Attempts d₀ added d) (o : d.Orderly)
    (fails : ∀ u, d₀.launches.length ≤ u → ¬ d.succeeded u) : d.phase s ≠ .inside := by
  intro inside
  rcases Nat.lt_or_ge s d₀.launches.length with old | new
  · simp [t.earlier s old] at inside
  · exact fails s new (o.tended.succeeded inside)

/-- An owner that cannot enter the guest is one more attempt. -/
theorem Tried.enters (t : Tried V d₀ added d) (laws : V.Laws) (e : d.Effect m d') (o : d.Orderly)
    (latest : d.Latest) (there : d.launches[s]? = some .spawned) (starting : d.process.owner s = .starting)
    (system : d'.process.system = (d.process.system.prepare s).2)
    (launches : d'.launches = d.launches.set s (.heard (d.process.system.prepare s).1))
    (fails : ∀ u, d₀.launches.length ≤ u → ¬ d'.succeeded u) :
    ∃ dirs, Tried V d₀ ((s, dirs) :: added) d' := by
  have lt := (List.getElem?_eq_some_iff.mp there).1
  have alive : d.phase s ≠ .gone := by
    rw [phase, Process.phase, starting]
    simp [Owner.phase]
  have new : d₀.launches.length ≤ s := Nat.le_of_not_lt fun old => alive (t.earlier s old)
  have own : d'.launches[s]? = some (.heard (d.process.system.prepare s).1) := by
    rw [launches, List.getElem?_set_self lt]
  have failed : (enterGuest s (d.process.system.control s).config d.process.system.world).1 ≠ none :=
    fun entered => fails s new ⟨_, own, congrArg (fun r => (Launch.heard r).succeeded) entered⟩
  obtain ⟨dirs, first, stands⟩ := laws.enterGuest t.stands failed
  have last (a : SessionId × List String) (ha : a ∈ added) : a.1 < s := by
    -- whoever has tried before has said a word, and this one has not
    have other : a.1 ≠ s := by
      intro same
      have spoken := t.said a ha
      rw [same, Desk.word, there] at spoken
      cases spoken
    have length : s + 1 = d.launches.length := (latest s alive).trans o.tended.length.symm
    exact Nat.lt_of_le_of_ne (Nat.le_of_lt_succ ((t.known ha).trans_eq length.symm)) other
  have said : (d'.word s).isSome = true := by
    rw [Desk.word, own]
    rfl
  refine ⟨dirs, (t.toAttempts.step o.tended e).cons new last (e.searchPaths o.tended lt ▸ first) said, ?_⟩
  have entered : d'.guest =
      (enterGuest s (d.process.system.control s).config d.process.system.world).2.guest :=
    congrArg (·.world.guest) system
  rw [Scene.extended_extended] at stands
  exact entered ▸ stands

/-- **Every step goes on with it**, as long as no session succeeds. -/
theorem Tried.step (t : Tried V d₀ added d) (laws : V.Laws) (e : d.Effect m d') (o : d.Orderly)
    (latest : d.Latest) (fails : ∀ u, d₀.launches.length ≤ u → ¬ d'.succeeded u) :
    ∃ more, Tried V d₀ (more ++ added) d' := by
  have outside (u : SessionId) : d.phase u ≠ .inside :=
    t.outside o fun u new said =>
      fails u new (succeeded_iff_word.mpr (e.shift.word (succeeded_iff_word.mp said)))
  cases e.visit with
  | away guest said => exact ⟨[], t.toAttempts.step o.tended e, guest ▸ t.stands⟩
  | works s op move inside world said => exact absurd inside (outside s)
  | leaves s leaves said => exact absurd (congrArg Owner.phase leaves.idle) (outside s)
  | enters s there starting system launches =>
      obtain ⟨dirs, t'⟩ := t.enters laws e o latest there starting system launches fails
      exact ⟨[(s, dirs)], t'⟩

/-! ### Runs -/

/-- With the claim free, every session so far is gone. -/
theorem tried_now {g : σ} {ms : List (Move J R)} (free : (run g ms).claimed = false)
    (sane : V.Sane (run g ms).guest) : Tried V (run g ms) [] (run g ms) where
  grown := Nat.le_refl _
  earlier s _ := by
    by_contra there
    exact absurd ((orderly_run g ms).sole.claimed.mpr ⟨s, there⟩) (by simp [free])
  stands := ⟨sane, (Scene.extended_nil _ 0).symm⟩
  order := .nil
  later _ ha := absurd ha List.not_mem_nil
  first _ ha := absurd ha List.not_mem_nil
  said _ ha := absurd ha List.not_mem_nil

theorem tried_run (laws : V.Laws) {g : σ} {before after : List (Move J R)}
    (free : (run g before).claimed = false) (sane : V.Sane (run g before).guest)
    (fails : ∀ s, (run g before).launches.length ≤ s → ¬ (run g (before ++ after)).succeeded s) :
    ∃ added, Tried V (run g before) added (run g (before ++ after)) := by
  induction after using List.reverseRecOn with
  | nil =>
      rw [List.append_nil]
      exact ⟨[], tried_now free sane⟩
  | append_singleton after m ih =>
      rw [← List.append_assoc] at fails ⊢
      obtain ⟨added, t⟩ := ih fun s new said => fails s new (succeeded_append g _ [m] said)
      have e := (run g (before ++ after)).effect_step m
      rw [run_concat] at fails ⊢
      obtain ⟨more, t'⟩ := t.step laws e (orderly_run g _) (latest_run g _) fails
      exact ⟨more ++ added, t'⟩

/-- What starts that have failed since a state leave behind. -/
structure Setbacks (V : Scenery σ) (d₀ d : Desk σ J R) : Prop where
  /-- The output stream, and what is in the place of the search path, are what they were. -/
  stream : (V.scene d.guest).out = (V.scene d₀.guest).out
  place : (V.scene d.guest).list = (V.scene d₀.guest).list
  /-- Directories of the sessions that failed stand in front of the path. -/
  trail : ∃ added, Tried V d₀ added d
  /-- If none of them had any, the path is what it was too. -/
  unchanged : (∀ s, d₀.launches.length ≤ s → d.searchPaths s = []) → V.scene d.guest = V.scene d₀.guest
  /-- When a call has come back with a failure, the owner is gone, its claim was given back, and it does
  nothing any more. -/
  ended : ∀ s reason, d.launches[s]? = some (.returned (some reason)) →
    d.phase s = .gone ∧ s ∈ d.surrendered ∧ ∀ a, d.takes s a → d.act a = d
  /-- When all calls have, the claim is free. -/
  free : (∀ s, d₀.launches.length ≤ s → s < d.launches.length →
    ∃ reason, d.launches[s]? = some (.returned (some reason))) → d.claimed = false

/-- **Starts that fail**, in any number and order and from any state that earlier sessions have left
behind, change nothing but the search path, which grows by directories of these sessions. -/
theorem setbacks_run (laws : V.Laws) {g : σ} {before after : List (Move J R)}
    (free : (run g before).claimed = false) (sane : V.Sane (run g before).guest)
    (fails : ∀ s, (run g before).launches.length ≤ s → ¬ (run g (before ++ after)).succeeded s) :
    Setbacks V (run g before) (run g (before ++ after)) := by
  obtain ⟨added, t⟩ := tried_run laws free sane fails
  have o := orderly_run g (before ++ after)
  have ended : ∀ s reason, (run g (before ++ after)).launches[s]? = some (.returned (some reason)) →
      (run g (before ++ after)).phase s = .gone := fun s reason there =>
    List.mem_singleton.mp (o.tended.fits s _ there)
  refine {
    stream := (congrArg Scene.out t.stands.2).trans rfl
    place := (congrArg Scene.list t.stands.2).trans rfl
    trail := ⟨added, t⟩
    unchanged := fun none => ?unchanged
    ended := fun s reason there => ?ended
    free := fun all => ?free }
  case unchanged =>
    have empty : added.flatMap (·.2) = [] := List.flatMap_eq_nil_iff.mpr fun a ha =>
      List.prefix_nil.mp (none a.1 (t.later a ha) ▸ t.first a ha)
    rw [t.stands.2, empty, Scene.extended_nil]
  case ended =>
    have gone := ended s reason there
    have known := (List.getElem?_eq_some_iff.mp there).1
    exact ⟨gone, (o.tended.given s).mpr ⟨known, gone⟩, fun a takes => act_gone gone takes⟩
  case free =>
    by_contra taken
    obtain ⟨s, alive⟩ := o.sole.claimed.mp (Bool.not_eq_false _ ▸ taken)
    rcases Nat.lt_or_ge s (run g before).launches.length with old | new
    · exact alive (t.earlier s old)
    · obtain ⟨reason, there⟩ := all s new (o.tended.length ▸ lt_of_phase alive)
      exact alive (ended s reason there)

/-! ### One start -/

/-- A start whose owner cannot enter the guest, to the end of the call. -/
def failing : List (Move Unit Unit) :=
  [.call extending, .spawn 0, .act (.prepare 0), .act (.abort 0), .comeBack 0]

/-- A guest whose output stream was deleted. -/
def silenced : Porch := ⟨[some "lib"], [], none⟩

/-- A session that is to capture output fails to start where there is no stream. -/
theorem setbacks_silenced :
    (run silenced ([] : List (Move Unit Unit))).claimed = false ∧
      (run silenced failing).launches = [.returned (some "BaseException: <exception str() failed>")] ∧
      Setbacks Porch.scenery (run silenced ([] : List (Move Unit Unit))) (run silenced failing) := by
  have launches : (run silenced failing).launches =
      [.returned (some "BaseException: <exception str() failed>")] := by decide +kernel
  have fails : ∀ s, (run silenced ([] : List (Move Unit Unit))).launches.length ≤ s →
      ¬ (run silenced ([] ++ failing)).succeeded s := by
    rintro s - ⟨l, there, succeeded⟩
    rw [List.nil_append, launches, List.getElem?_singleton] at there
    obtain ⟨-, same⟩ := Option.ite_none_right_eq_some.mp there
    rw [← Option.some.inj same] at succeeded
    cases succeeded
  exact ⟨rfl, launches, setbacks_run Porch.laws rfl trivial fails⟩

/-- The start has failed, its call has come back and the claim is free, and its directory is in front of
the path that was there before. -/
theorem extended_by_failure :
    let before := run silenced ([] : List (Move Unit Unit))
    let after := run silenced failing
    after.answers = [.error (.startup "BaseException: <exception str() failed>")] ∧
      after.phase 0 = .gone ∧ after.claimed = false ∧
      before.guest.path = [some "lib"] ∧ after.guest.path = [some "plugins", some "lib"] := by
  refine ⟨?_, ?_, ?_, ?_, ?_⟩ <;> decide +kernel

end Desk

end GuestBridge.Session
