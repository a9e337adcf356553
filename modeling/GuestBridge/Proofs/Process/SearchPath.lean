import GuestBridge.Proofs.Process.Visits
import GuestBridge.Proofs.Requests.Arrival

/-!
# The Search Path Over a Whole Run

Every session that enters the guest puts its directories in front of the module search path, and no
step takes any of them out again: not the end of the session, and not the start or the end of a later
one. The path only grows, by the directories of one session after the other (`Trail`), so after a
session has ended it is what it was before only if the session had no directories, and every later
session finds those of all earlier ones behind its own.

Jobs may do what they like, as long as they leave the path alone (`Spares`).

What one start makes of the path is `Route.Ordered`: the directories of the session stand in their order
in front of what was there before, whatever that is, and a search along the path asks a directory before
all that come later in the configuration and before everything that was on the path already. A guest
that does not keep to `Route.Laws` can undo this while the session is still starting, as what jobs leave
behind can run whenever the output stream is set (`disordered_start`).

## Main results

* `ordered_start` — the path after a start that has succeeded.
* `grown_run` — what the path is after a run, and what stays on it.
* `extended_after_end` — a session that has ended has left its directory on the path.
-/

namespace GuestBridge.Bridge

open Guest (Ref Raised)

/-! ### A guest around a search path

The smallest guest in which sessions can extend a search path: it makes texts, keeps the path as one
list, and gives the same object for everything else. Nothing ever fails in it that a start asks for.
-/

/-- A guest that keeps a search path. -/
structure Signpost where
  path : List (Option String)
  /-- The texts that were made, in order. -/
  texts : List String
  deriving DecidableEq, Repr

namespace Signpost

/-- The object that stands for everything but texts. -/
def thing : Ref := ⟨0⟩

/-- The text that an object stands for. -/
def text (p : Signpost) (r : Ref) : Option String := if r.id = 0 then none else p.texts[r.id - 1]?

/-- Answers a request; nothing if that raises. -/
def answer (p : Signpost) : {α : Type} → Request α → Option α × Signpost
  | _, .newStr t => (some ⟨p.texts.length + 1⟩, { p with texts := p.texts ++ [t] })
  | _, .insert _ position r => (some (), { p with
      path := p.path.take position ++ p.text r :: p.path.drop position })
  | _, .importModule _ | _, .newDict _ | _, .evaluate _ | _, .newSink _ | _, .getAttr _ _ =>
    (some thing, p)
  | _, .expect _ _ | _, .setAttr _ _ _ | _, .clear _ => (some (), p)
  | _, _ => (none, p)

instance : GuestState Signpost where
  perform _ r p := match p.answer r with
    | (some a, p) => (.ok a, [], p)
    | (none, p) => (.error ⟨thing, []⟩, [], p)

/-- How the path is looked at. -/
def route : Route Signpost where
  sys := thing
  list := thing
  Sane _ := True
  path := path
  text := text

theorem guest_perform {α : Type} (p : Signpost) (held : List Ref) (r : Request α) :
    (GuestState.perform held r p).2.2 = (p.answer r).2 := by
  change (match p.answer r with | (some a, p) => _ | (none, p) => _ : _ × _ × Signpost).2.2 = _
  rcases p.answer r with ⟨_ | a, p'⟩ <;> rfl

theorem laws : route.Laws where
  spares {α} {r} {p} held spares _ := by
    refine ⟨trivial, ?_⟩
    rw [guest_perform]
    cases r <;> first | rfl | cases spares
  loads held _ answer := (Except.ok.inj answer).symm
  reads held _ answer := (Except.ok.inj answer).symm
  makes {p} {dir} {r} held _ answer := by
    cases answer
    simp [guest_perform, answer, route, text]
  inserts held position r _ := ⟨trivial, rfl⟩

end Signpost

/-! ### The order of the path after a start -/

variable {σ : Type} [GuestState σ]

/-- What is promised of a start that has succeeded; `p` is the path before it, and `tr` what it has
asked. -/
structure Route.Ordered (V : Route σ) (dirs : List String) (p : List (Option String)) (w : World σ)
    (tr : List Asked) (w' : World σ) : Prop where
  path : V.path w'.guest = dirs.map some ++ p
  /-- The path is the same list object before and after. -/
  same : ∀ g, g = w.guest ∨ g = w'.guest → ∀ held l,
    (GuestState.perform held (.getAttr V.sys "path") g).1 = .ok l → l = V.list
  /-- All that the start has asked of the path is these insertions, each once and in their order, -/
  asked : Extends dirs tr
  /-- and each of them has put its directory right behind those that come before it. -/
  lands : ∀ front dir later, dirs = front ++ dir :: later → Lands V w tr w' front dir p
  /-- A directory comes before all later ones and before everything that was on the path. -/
  first : ∀ {β : Type} (offers : String → Option β) (b : β) front dir later,
    dirs = front ++ dir :: later → offers dir = some b → (∀ e ∈ front, offers e = none) →
    searched offers (V.path w'.guest) = some b
  /-- What no directory of the session has is found where it was found before. -/
  last : ∀ {β : Type} (offers : String → Option β), (∀ dir ∈ dirs, offers dir = none) →
    searched offers (V.path w'.guest) = searched offers p

variable {V : Route σ} {w w' : World σ} {p : List (Option String)} {tr : List Asked}
  {dirs : List String}

/-- The path settles what else is promised of it. -/
theorem Route.Laws.ordered (laws : V.Laws) (before : V.Sane w.guest)
    (after : V.Leads (dirs.map some ++ p) w'.guest) (asked : Extends dirs tr)
    (lands : ∀ front dir later, dirs = front ++ dir :: later → Lands V w tr w' front dir p) :
    V.Ordered dirs p w tr w' where
  path := after.2
  same := by
    rintro g (rfl | rfl) held l answer
    · exact laws.reads held before answer
    · exact laws.reads held after.1 answer
  asked := asked
  lands := lands
  first offers b front dir later split found silent := by
    rw [after.2, split, searched_first found silent]
  last offers silent := by
    rw [after.2, searched_last silent]

/-- **What a run that extends the path makes of it.** -/
theorem Extends.ordered (laws : V.Laws) (extension : Extends dirs tr) (run : Runs w tr w')
    (leads : V.Leads p w.guest) : V.Ordered dirs p w tr w' := by
  cases extension with
  | none spares =>
      exact laws.ordered leads.1 (laws.keeps run spares leads) (.none spares) fun front dir later none =>
        absurd none.symm (List.append_ne_nil_of_right_ne_nil front (List.cons_ne_nil dir later))
  | @some _ before during after sys list earlier inserting later =>
      obtain ⟨v₁, starts, run⟩ := run.split
      obtain ⟨v₂, searches, run⟩ := run.split
      obtain ⟨v₃, inserts, finishes⟩ := run.split
      have started := laws.keeps starts earlier leads
      obtain rfl : list = V.list := laws.finds searches started
      have ready := laws.keeps searches (sparesPath_findingPath sys V.list) started
      have inserted := inserting.front laws.puts inserts ready
      -- what comes behind the insertions spares the path: what they have made of it is what is left
      refine laws.ordered leads.1 (laws.keeps finishes later inserted)
        (.some sys V.list earlier inserting later) fun front dir rest split => ?_
      rw [← List.append_assoc]
      subst split
      exact (inserting.lands laws.puts inserts ready).within (starts.append searches) finishes

/-- **The order of the search path.** After a start that succeeds, whatever directories it is given and
whatever was on the path, the path is these directories in their order with what was there before
behind them. -/
theorem ordered_start (laws : V.Laws) {s : SessionId} {config : SessionConfig} {rt : Runtime}
    (sane : V.Sane w.guest) (started : (startRuntime s config).run w = (.ok rt, w')) :
    ∃ tr, Runs w tr w' ∧ V.Ordered config.searchPaths (V.path w.guest) w tr w' := by
  obtain ⟨tr, run, told⟩ := traced_extends s config w
  rw [started] at run told
  exact ⟨tr, run, (told rfl).ordered laws run ⟨sane, rfl⟩⟩

/-- A session with three directories, one of them twice. -/
def gathering : SessionConfig :=
  { SessionConfig.standard with searchPaths := ["plugins", "vendor", "plugins"] }

/-- A guest in which something that is no text is on the path. -/
def crossroads : World Signpost := ⟨⟨[none, some "lib"], []⟩, [], [.fresh], []⟩

/-- The directories come in front, also the one that is there twice. -/
theorem ordered_repeats : ∃ rt w' tr, (startRuntime 0 gathering).run crossroads = (.ok rt, w') ∧
    Signpost.route.Sane crossroads.guest ∧ Runs crossroads tr w' ∧
    Signpost.route.Ordered gathering.searchPaths [none, some "lib"] crossroads tr w' ∧
    w'.guest.path = [some "plugins", some "vendor", some "plugins", none, some "lib"] := by
  have succeeds : ((startRuntime 0 gathering).run crossroads).1.isOk = true := by decide +kernel
  obtain ⟨rt, w', started⟩ : ∃ rt w', (startRuntime 0 gathering).run crossroads = (.ok rt, w') := by
    revert succeeds
    rcases (startRuntime 0 gathering).run crossroads with ⟨_ | rt, w'⟩
    · exact nofun
    · exact fun _ => ⟨rt, w', rfl⟩
  obtain ⟨tr, run, ordered⟩ := ordered_start Signpost.laws trivial started
  exact ⟨rt, w', tr, started, trivial, run, ordered, ordered.path⟩

/-! ### What jobs leave behind

A job can leave an object in the place of the module that holds the path, and that object can do what it
likes when the start of a later session sets the output stream on it.
-/

/-- A guest that takes the first entry off its search path whenever the output stream is set. -/
structure Snare where
  post : Signpost

namespace Snare

instance : GuestState Snare where
  perform held r g :=
    let (answer, writes, post) := GuestState.perform held r g.post
    match r with
    | .setAttr _ "stdout" _ => (answer, writes, ⟨{ post with path := post.path.tail }⟩)
    | _ => (answer, writes, ⟨post⟩)

/-- How the path is looked at. -/
def route : Route Snare where
  sys := Signpost.thing
  list := Signpost.thing
  Sane _ := True
  path g := g.post.path
  text g := g.post.text

end Snare

/-- **A start can lose a directory that it has inserted**: it succeeds, and the path is what it was
before. -/
theorem disordered_start :
    let w : World Snare := ⟨⟨⟨[some "lib"], []⟩⟩, [], [.fresh], []⟩
    let config := { SessionConfig.standard with searchPaths := ["plugins"] }
    let after := (startRuntime 0 config).run w
    after.1.isOk = true ∧ Snare.route.path after.2.guest = Snare.route.path w.guest ∧
      Snare.route.path after.2.guest ≠ config.searchPaths.map some ++ Snare.route.path w.guest := by
  decide +kernel

end GuestBridge.Bridge

namespace GuestBridge.Session

open Bridge

variable {σ J R : Type}

namespace Desk

/-- The directories that a session puts on the search path. -/
def searchPaths (d : Desk σ J R) (s : SessionId) : List String :=
  (d.process.system.control s).config.searchPaths

variable (V : Route σ)

/-- What a job may do in a step: it leaves the path alone, and the guest in order. -/
def Spares (d : Desk σ J R) (m : Move J R) (d' : Desk σ J R) : Prop :=
  ∀ s op, m = .act (.operate s op) → V.Sane d'.guest ∧ V.path d'.guest = V.path d.guest

/-- How the path has come about: from a first path, by directories of sessions that have entered the
guest or have tried to, the latest in front. -/
structure Trail (p : List (Option String)) (added : List (SessionId × List String))
    (d : Desk σ J R) : Prop where
  leads : V.Leads ((added.flatMap fun a => a.2.map some) ++ p) d.guest
  order : added.Pairwise fun a b => b.1 < a.1
  /-- A session that could not enter the guest may have put some first directories on the path. -/
  first : ∀ a ∈ added, a.2 <+: d.searchPaths a.1
  said : ∀ a ∈ added, (d.word a.1).isSome = true
  whole : ∀ s, d.succeeded s → (s, d.searchPaths s) ∈ added

variable {V} {d d' : Desk σ J R} {m : Move J R} {s : SessionId} {p : List (Option String)}
  {added : List (SessionId × List String)}

theorem trail_initial {g : σ} (sane : V.Sane g) :
    Trail V (V.path g) [] (initial g : Desk σ J R) where
  leads := ⟨sane, rfl⟩
  order := .nil
  first _ ha := absurd ha List.not_mem_nil
  said _ ha := absurd ha List.not_mem_nil
  whole _ said := nomatch said.choose_spec.1

variable [GuestState σ] [HasHandles R]

/-- What a step does to the path. -/
inductive Paves (V : Route σ) (d d' : Desk σ J R) : Prop
  | rests (leads : V.Leads (V.path d.guest) d'.guest) (said : ∀ u, d'.succeeded u → d.succeeded u)
  | enters (s : SessionId) (dirs : List String) (there : d.launches[s]? = some .spawned)
      (word : (d'.word s).isSome = true) (first : dirs <+: d.searchPaths s)
      (whole : d'.succeeded s → dirs = d.searchPaths s)
      (others : ∀ u, u ≠ s → d'.succeeded u → d.succeeded u)
      (leads : V.Leads (dirs.map some ++ V.path d.guest) d'.guest)

omit [HasHandles R] in
/-- **What every step does to the path**, if its job may do what it does. -/
theorem Visit.paves (laws : V.Laws) (visit : d.Visit m d') (sane : V.Sane d.guest)
    (spares : d.Spares V m d') : d.Paves V d' := by
  have here : V.Leads (V.path d.guest) d.guest := ⟨sane, rfl⟩
  cases visit with
  | away guest said => exact .rests (guest ▸ here) said
  | works s op move inside world said => exact .rests (spares s op move) said
  | leaves s leaves said =>
      have left : d'.guest = (leaveGuest s d.process.system.world).2.guest :=
        congrArg World.guest leaves.world
      exact .rests (left ▸ laws.leaveGuest here) said
  | enters s there starting system launches =>
      obtain ⟨dirs, first, whole, leads⟩ :=
        laws.enterGuest (s := s) (d.process.system.control s).config d.process.system.world here
      have lt := (List.getElem?_eq_some_iff.mp there).1
      have own : d'.launches[s]? = some (.heard (d.process.system.prepare s).1) := by
        rw [launches, List.getElem?_set_self lt]
      refine .enters s dirs there ?_ first (fun said => whole ?_) (fun u other said => ?_) ?_
      · rw [word, own]
        rfl
      · obtain ⟨l, known, succeeded⟩ := said
        rw [own] at known
        cases known
        change (d.process.system.prepare s).1 = none
        revert succeeded
        cases (d.process.system.prepare s).1 with
        | none => exact fun _ => rfl
        | some reason => exact fun said => by cases said
      · obtain ⟨l, known, succeeded⟩ := said
        rw [launches, List.getElem?_set_ne (Ne.symm other)] at known
        exact ⟨l, known, succeeded⟩
      · have entered : d'.guest =
            (enterGuest s (d.process.system.control s).config d.process.system.world).2.guest :=
          congrArg (·.world.guest) system
        exact entered ▸ leads

/-- **Every step goes on with the trail.** -/
theorem Trail.step (t : Trail V p added d) (paves : d.Paves V d') (e : d.Effect m d')
    (tended : d.Tended) (latest : d.Latest) :
    ∃ more, Trail V p (more ++ added) d' := by
  have paths (u : SessionId) (known : u < d.launches.length) : d'.searchPaths u = d.searchPaths u :=
    congrArg SessionConfig.searchPaths (e.config (tended.length ▸ known))
  have known {a : SessionId × List String} (ha : a ∈ added) : a.1 < d.launches.length := by
    obtain ⟨w, word⟩ := Option.isSome_iff_exists.mp (t.said a ha)
    exact lt_of_word word
  have said {a : SessionId × List String} (ha : a ∈ added) : (d'.word a.1).isSome = true := by
    obtain ⟨w, word⟩ := Option.isSome_iff_exists.mp (t.said a ha)
    exact Option.isSome_of_eq_some (e.shift.word word)
  have first {a : SessionId × List String} (ha : a ∈ added) : a.2 <+: d'.searchPaths a.1 :=
    paths a.1 (known ha) ▸ t.first a ha
  have whole {u : SessionId} (succeeded : d.succeeded u) : (u, d'.searchPaths u) ∈ added := by
    have lt := (List.getElem?_eq_some_iff.mp succeeded.choose_spec.1).1
    exact paths u lt ▸ t.whole u succeeded
  cases paves with
  | rests leads quiet =>
      refine ⟨[], t.leads.2 ▸ leads, t.order, fun a => first, fun a => said, fun u hu => ?_⟩
      exact whole (quiet u hu)
  | enters s dirs there word prefix_ all others leads =>
      have lt := (List.getElem?_eq_some_iff.mp there).1
      refine ⟨[(s, dirs)], ?_, List.pairwise_cons.mpr ⟨fun a ha => ?_, t.order⟩, ?_, ?_, fun u hu => ?_⟩
      · rw [t.leads.2] at leads
        simpa using leads
      · -- the session that enters is the latest, and what has been said was said by others
        have last : s + 1 = d.launches.length := by
          rw [tended.length]
          refine latest s fun gone => ?_
          have fit := tended.fits s _ there
          rw [gone] at fit
          simp [Launch.phases] at fit
        have other : a.1 ≠ s := by
          intro same
          have spoken := t.said a ha
          rw [same, Desk.word, there] at spoken
          cases spoken
        exact Nat.lt_of_le_of_ne (Nat.le_of_lt_succ ((known ha).trans_eq last.symm)) other
      · refine List.forall_mem_cons.mpr ⟨?_, fun a => first⟩
        exact paths s lt ▸ prefix_
      · exact List.forall_mem_cons.mpr ⟨word, fun a => said⟩
      · by_cases own : u = s
        · subst own
          rw [paths u lt, ← all hu]
          exact List.mem_cons_self
        · exact List.mem_cons_of_mem _ (whole (others u own hu))

/-- What a session has made of the path `p`: nothing before it enters the guest, and afterwards its
directories stand in front of `p` for good, with nothing before them until the next session. -/
structure Settled (V : Route σ) (p : List (Option String)) (dirs : List String) (s : SessionId)
    (d : Desk σ J R) : Prop where
  known : s < d.launches.length
  own : d.searchPaths s = dirs
  before : d.word s = none → V.path d.guest = p
  after : d.succeeded s → ∃ later, V.path d.guest = later ++ (dirs.map some ++ p) ∧
    (d.launches.length = s + 1 → later = [])

omit [GuestState σ] [HasHandles R] in
/-- An owner that has said nothing yet has the claim. -/
theorem Tended.silent (tended : d.Tended) (known : s < d.launches.length) (silent : d.word s = none) :
    d.phase s ≠ .gone := by
  have there := List.getElem?_eq_getElem known
  rw [word, there, Option.bind_some] at silent
  have fit := tended.fits s _ there
  generalize d.launches[s] = l at silent fit
  intro gone
  rw [gone] at fit
  cases l <;> simp [Launch.word, Launch.phases] at silent fit

theorem Settled.step {dirs : List String} (t : Settled V p dirs s d) (paves : d.Paves V d')
    (e : d.Effect m d') (sole : d.Sole) (tended : d.Tended) (latest : d.Latest) :
    Settled V p dirs s d' := by
  have config := congrArg SessionConfig.searchPaths (e.config (tended.length ▸ t.known))
  have grows := e.shift.launches_length
  refine ⟨Nat.lt_of_lt_of_le t.known grows, config.trans t.own, ?_, ?_⟩
  · intro silent
    have before : d.word s = none := by
      by_contra said
      obtain ⟨w, word⟩ := Option.ne_none_iff_exists'.mp said
      rw [e.shift.word word] at silent
      cases silent
    cases paves with
    | rests leads => exact leads.2.trans (t.before before)
    | enters u added there word =>
        -- no other session enters while this one has the claim
        have fit := tended.fits u _ there
        have alive : d.phase u ≠ .gone := by
          rw [List.mem_singleton.mp fit]
          simp
        cases sole.single u s alive (tended.silent t.known before)
        rw [silent] at word
        cases word
  · intro said
    have last (length : d'.launches.length = s + 1) : d.launches.length = s + 1 :=
      Nat.le_antisymm (length ▸ grows) t.known
    cases paves with
    | rests leads quiet =>
        obtain ⟨later, path, none⟩ := t.after (quiet s said)
        exact ⟨later, leads.2.trans path, fun length => none (last length)⟩
    | enters u added there word first whole others leads =>
        by_cases own : s = u
        · subst own
          have silent : d.word s = none := by
            rw [Desk.word, there]
            rfl
          refine ⟨[], ?_, fun _ => rfl⟩
          rw [leads.2, whole said, t.own, t.before silent, List.nil_append]
        · obtain ⟨later, path, -⟩ := t.after (others s own said)
          refine ⟨added.map some ++ later, ?_, fun length => absurd ?_ own⟩
          · rw [leads.2, path, List.append_assoc]
          · have fit := tended.fits u _ there
            have alive : d.phase u ≠ .gone := by
              rw [List.mem_singleton.mp fit]
              simp
            have opened := latest u alive
            rw [← tended.length, last length] at opened
            exact (Nat.succ.inj opened).symm

/-! ### Runs -/

/-- Where no job does anything, none does what it may not. -/
theorem along_idle {ms : List (Move J R)} (idle : ∀ m ∈ ms, m.isJob = false) :
    Along (Spares V) d ms := by
  induction ms generalizing d with
  | nil => trivial
  | cons m ms ih =>
      refine ⟨fun s op move => ?_, ih fun m' hm' => idle m' (List.mem_cons_of_mem m hm')⟩
      cases move ▸ idle m List.mem_cons_self

/-- What is needed of the guest at the start, and of the jobs in a run. -/
structure Spared (V : Route σ) (g : σ) (ms : List (Move J R)) : Prop where
  sane : V.Sane g
  jobs : Along (Spares V) (initial g) ms

theorem Spared.before {g : σ} {ms ms' : List (Move J R)} (k : Spared V g (ms ++ ms')) :
    Spared V g ms :=
  ⟨k.sane, (along_append.mp k.jobs).1⟩

theorem Spared.last {g : σ} {ms : List (Move J R)} (k : Spared V g (ms ++ [m])) :
    (run g ms).Spares V m ((run g ms).step m) :=
  (along_append.mp k.jobs).2.1

theorem trail_run (laws : V.Laws) {g : σ} {ms : List (Move J R)} (k : Spared V g ms) :
    ∃ added, Trail V (V.path g) added (run g ms) := by
  induction ms using List.reverseRecOn with
  | nil => exact ⟨[], trail_initial k.sane⟩
  | append_singleton ms m ih =>
      obtain ⟨added, t⟩ := ih k.before
      have e := effect_step (run g ms) m
      have order := orderly_run g ms
      rw [run_concat]
      obtain ⟨more, t'⟩ := t.step (e.visit.paves laws t.leads.1 k.last) e order.tended (latest_run g ms)
      exact ⟨more ++ added, t'⟩

/-- What a session makes of the path that it found, in a run that goes on after the call that started
it. -/
theorem settled_run (laws : V.Laws) {g : σ} {before after : List (Move J R)} {config : SessionConfig}
    (k : Spared V g (before ++ .call config :: after)) (free : (run g before).claimed = false) :
    Settled V (V.path (run g before).guest) config.searchPaths (run g before).launches.length
      (run g (before ++ .call config :: after)) := by
  induction after using List.reverseRecOn with
  | nil =>
      obtain ⟨-, launches, -⟩ := admitted config free
      have tended := (orderly_run g before).tended
      have there : ((run g before).call config).launches[(run g before).launches.length]? =
          some .claimed := by
        rw [launches, List.getElem?_concat_length]
      rw [run_concat]
      change Settled V _ _ _ ((run g before).call config)
      have open_ : (run g before).process.system.claimed = false := free
      refine ⟨by rw [launches]; simp, ?_, fun _ => ?_, fun said => ?_⟩
      · rw [searchPaths, Desk.call, System.claim, open_, tended.length]
        simp [System.opened, System.control]
      · rw [Desk.call, System.claim, open_]
        rfl
      · obtain ⟨l, known, succeeded⟩ := said
        rw [there] at known
        cases known
        cases succeeded
  | append_singleton after m ih =>
      have whole : before ++ .call config :: (after ++ [m]) =
          before ++ .call config :: after ++ [m] := by simp
      rw [whole] at k ⊢
      obtain ⟨added, t⟩ := trail_run laws k.before
      have e := effect_step (run g (before ++ .call config :: after)) m
      have order := orderly_run g (before ++ .call config :: after)
      rw [run_concat]
      exact (ih k.before).step (e.visit.paves laws t.leads.1 k.last) e order.sole order.tended
        (latest_run g _)

/-- What is promised about the path after a run. -/
structure Grown (V : Route σ) (g : σ) (ms : List (Move J R)) : Prop where
  /-- The path is the one from the start, behind the directories of the sessions that have entered
  the guest, one after the other. -/
  trail : ∃ added, Trail V (V.path g) added (run g ms)
  /-- A session that has entered the guest has put its directories in front of the path that was there
  before its start, and there they stay, also when the session has ended: until the next session is
  opened the path is this one. -/
  stays : ∀ before config after, ms = before ++ .call config :: after →
    (run g before).claimed = false → (run g ms).succeeded (run g before).launches.length →
    ∃ later, V.path (run g ms).guest =
        later ++ (config.searchPaths.map some ++ V.path (run g before).guest) ∧
      ((run g ms).launches.length = (run g before).launches.length + 1 → later = [])
  /-- A session in the guest has its directories in front, in their order. -/
  front : ∀ s, (run g ms).phase s = .inside →
    ((run g ms).searchPaths s).map some <+: V.path (run g ms).guest
  /-- The path is the one from the start again only if no session that has entered the guest had any
  directories, -/
  restored : V.path (run g ms).guest = V.path g →
    ∀ s, (run g ms).succeeded s → (run g ms).searchPaths s = []
  /-- and it is so if no session has any. -/
  unchanged : (∀ s, (run g ms).searchPaths s = []) → V.path (run g ms).guest = V.path g

/-- **The search path over a whole run.** Where jobs leave it alone, the search path grows by the
directories of each session that enters the guest, and nothing is taken off it when sessions end. -/
theorem grown_run (laws : V.Laws) {g : σ} {ms : List (Move J R)} (k : Spared V g ms) :
    Grown V g ms := by
  obtain ⟨added, t⟩ := trail_run laws k
  have tended := (orderly_run g ms).tended
  refine {
    trail := ⟨added, t⟩
    stays := fun before config after split free => ?stays
    front := fun s inside => ?front
    restored := fun same s said => ?restored
    unchanged := fun none => ?unchanged }
  case stays =>
    subst split
    exact (settled_run laws k free).after
  case front =>
    have alive : (run g ms).phase s ≠ .gone := by rw [inside]; simp
    have latest := latest_run g ms s alive
    rw [← tended.length] at latest
    obtain ⟨later, earlier, rfl⟩ := List.append_of_mem (t.whole s (tended.succeeded inside))
    -- nothing has entered after the session that was opened last
    have none : later = [] := by
      refine List.eq_nil_iff_forall_not_mem.mpr fun a ha => ?_
      have greater := (List.pairwise_append.mp t.order).2.2 a ha _ List.mem_cons_self
      obtain ⟨w, word⟩ := Option.isSome_iff_exists.mp (t.said a (List.mem_append_left _ ha))
      exact absurd (lt_of_word word) (Nat.not_lt.mpr (latest ▸ greater))
    rw [t.leads.2, none]
    simp
  case restored =>
    have empty := List.append_left_eq_self.mp (t.leads.2.symm.trans same)
    have own := List.flatMap_eq_nil_iff.mp empty _ (t.whole s said)
    exact List.map_eq_nil_iff.mp own
  case unchanged =>
    rw [t.leads.2]
    refine List.append_left_eq_self.mpr (List.flatMap_eq_nil_iff.mpr fun a ha => ?_)
    have first := t.first a ha
    rw [none, List.prefix_nil] at first
    rw [first]
    rfl

/-! ### One session -/

/-- A session with one directory. -/
def extending : SessionConfig := { SessionConfig.standard with searchPaths := ["plugins"] }

/-- A session with one directory starts, its job sets an attribute, and it is stopped. -/
def visiting : List (Move Unit Unit) :=
  (.call extending :: opening.tail) ++ setting "flag" ++ closing

/-- A job does something that leaves the path alone. -/
theorem grown_by_session :
    Spared Signpost.route ⟨[some "lib"], []⟩ visiting ∧
      Grown Signpost.route ⟨[some "lib"], []⟩ visiting := by
  have spared : Spared Signpost.route ⟨[some "lib"], []⟩ visiting := by
    refine ⟨trivial, along_append.mpr ⟨along_append.mpr
      ⟨along_idle (by simp [opening, Move.isJob]), ?_, ?_, trivial⟩,
      along_idle (by simp [closing, Move.isJob])⟩⟩
    all_goals
      rintro s op ⟨⟩
      exact ⟨trivial, by decide +kernel⟩
  exact ⟨spared, grown_run Signpost.laws spared⟩

/-- A session has ended and given the claim back, no job has done anything, and its directory is still
in front of the path that was there before its start. -/
theorem extended_after_end :
    let before := run (⟨[some "lib"], []⟩ : Signpost) ([] : List (Move Unit Unit))
    let after := run (⟨[some "lib"], []⟩ : Signpost) (wholeLife extending)
    after.succeeded 0 ∧ after.surrendered = [0] ∧ after.claimed = false ∧
      before.guest.path = [some "lib"] ∧ after.guest.path = [some "plugins", some "lib"] := by
  refine ⟨⟨.returned none, ?_, rfl⟩, ?_, ?_, ?_, ?_⟩ <;> decide +kernel

end Desk

end GuestBridge.Session
