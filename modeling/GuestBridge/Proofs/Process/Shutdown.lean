import GuestBridge.Proofs.Process.Stopping
import GuestBridge.Proofs.Process.Reclaim

/-!
# The End of a Session

The owner of a session that is closed and has no job left goes through four steps: it leaves the guest,
takes what is parked for the last time, gives that back, and gives the claim back. None of them can fail,
in whatever state the jobs have left the guest, and no step of another thread takes one away
(`gone_of_turns`). What can go wrong is that the output stream is not put back; that is noted, and all else
is done as ever.

The dictionary of globals is emptied when the guest is left. Whether it is empty afterwards is the guest's
affair: what dies with it can write to it, and so can the text of the exception for which the stream was
not put back. `Slate` is how dictionaries are looked at, and `Slate.Laws` what is relied on.

## Main results

* `Slate.Laws.leaveGuest` — leaving the guest leaves the globals empty, whether or not the stream is put
  back.
* `shutdown_run` — what an owner has seen to when it has gone through its last steps.
* `refilled_after_end` — the text of an exception that writes to the globals.
-/

namespace GuestBridge.Bridge

open Guest (Ref Raised)

/-- Whether sessions make the request to put the output stream back. -/
def Request.restores {α : Type} : Request α → Bool
  | importModule name => name = "sys"
  | expect _ _ => true
  | setAttr _ name _ => name = "stdout"
  | _ => false

/-- Whether sessions make the request to say why the stream was not put back. -/
def Request.tells {α : Type} : Request α → Bool
  | typeName _ | str _ => true
  | _ => false

/-- How the dictionaries of a guest are looked at. -/
structure Slate (σ : Type) where
  /-- Whether nothing that the end of a session sets off writes to a dictionary once it was emptied: no
  object that dies with what was in it, and no text of an exception. -/
  Quiet : Ref → σ → Prop
  /-- Whether nothing is in a dictionary. -/
  Blank : Ref → σ → Prop

namespace Slate

variable {σ : Type} (V : Slate σ)

/-- What the bridge relies on where sessions end. Every request may raise. -/
structure Laws [GuestState σ] : Prop where
  restores {α : Type} {r : Request α} {dict : Ref} {g : σ} (held : List Ref) : r.restores = true →
    V.Quiet dict g → V.Quiet dict (GuestState.perform held r g).2.2
  clears {dict : Ref} {g : σ} (held : List Ref) : V.Quiet dict g →
    V.Quiet dict (GuestState.perform held (.clear dict) g).2.2 ∧
      V.Blank dict (GuestState.perform held (.clear dict) g).2.2
  tells {α : Type} {r : Request α} {dict : Ref} {g : σ} (held : List Ref) : r.tells = true →
    V.Quiet dict g → V.Blank dict g → V.Quiet dict (GuestState.perform held r g).2.2 ∧
      V.Blank dict (GuestState.perform held r g).2.2

variable {V} [GuestState σ]

theorem Laws.brings_restoreOutput (laws : V.Laws) (rt : Runtime) (dict : Ref) :
    Brings (V.Quiet dict) (restoreOutput rt).run fun _ => V.Quiet dict := by
  unfold restoreOutput
  split
  · exact .pure fun _ h => h
  · have loaded : Brings (V.Quiet dict) (importNow "sys").run fun _ => V.Quiet dict :=
      .importNow (fun held _ => laws.restores held rfl) fun _ held _ => laws.restores held rfl
    exact loaded.bindExcept (fun sys => .request fun held _ => laws.restores held rfl) fun _ _ h => h

theorem Laws.brings_noteRestored (laws : V.Laws) (restored : Except (Stop Raised) Unit) (dict : Ref) :
    Brings (fun g => V.Quiet dict g ∧ V.Blank dict g) (noteRestored restored)
      fun _ g => V.Quiet dict g ∧ V.Blank dict g := by
  rcases restored with (e | message) | _
  · intro w h
    have told : Brings (fun g => V.Quiet dict g ∧ V.Blank dict g) (raisedText e)
        fun _ g => V.Quiet dict g ∧ V.Blank dict g :=
      .raisedText e (fun held _ h => laws.tells held rfl h.1 h.2)
        fun held _ h => laws.tells held rfl h.1 h.2
    exact told w h
  · exact .pure fun _ h => h
  · exact .pure fun _ h => h

/-- **Leaving the guest** leaves the globals of the session empty, whether or not the stream is put
back. -/
theorem Laws.leaveGuest (laws : V.Laws) {s : SessionId} {rt : Runtime} {w : World σ}
    (runtime : (w.session s).runtime = some rt) (quiet : V.Quiet rt.globals w.guest) :
    V.Blank rt.globals (leaveGuest s w).2.guest := by
  have restored := laws.brings_restoreOutput rt rt.globals w quiet
  rw [leaveGuest_eq runtime]
  generalize (restoreOutput rt).run w = after at restored ⊢
  obtain ⟨result, w₁⟩ := after
  have asked : Brings (V.Quiet rt.globals) (ask? (.clear rt.globals))
      fun _ g => V.Quiet rt.globals g ∧ V.Blank rt.globals g := .ask fun held _ => laws.clears held
  have same : (((w₁.ask (.clear rt.globals)).2.dropAll rt.refs).vacate s).guest =
      (w₁.ask (.clear rt.globals)).2.guest := (dropAll_elsewhere rt.refs _).1
  exact (laws.brings_noteRestored result rt.globals _ (same ▸ asked w₁ restored)).2

end Slate

/-! ### A guest around a dictionary

The smallest guest in which sessions can start and end. It keeps the names in one dictionary, loads
modules as long as it can, and gives exceptions a text; it raises on every other request.
-/

/-- A guest that keeps a dictionary. -/
structure Diary where
  /-- The names in the dictionary. -/
  names : List String
  /-- How many modules can still be loaded. -/
  loads : Nat
  /-- Whether the text of an exception writes to the dictionary. -/
  chatty : Bool
  deriving DecidableEq, Repr

namespace Diary

/-- The object that stands for everything. -/
def thing : Ref := ⟨0⟩

/-- Answers a request; nothing if that raises. -/
def answer (d : Diary) : {α : Type} → Request α → Option α × Diary
  | _, .newDict entries => (some thing, { d with names := entries.map (·.1) })
  | _, .clear _ => (some (), { d with names := [] })
  | _, .importModule _ => match d.loads with
    | 0 => (none, d)
    | n + 1 => (some thing, { d with loads := n })
  | _, .str _ => (some (Text.ofString "no"), if d.chatty then { d with names := ["x"] } else d)
  | _, .typeName _ => (some "E", d)
  | _, .newStr _ | _, .evaluate _ | _, .newSink _ | _, .getAttr _ _ => (some thing, d)
  | _, .expect _ _ | _, .insert _ _ _ | _, .setAttr _ _ _ => (some (), d)
  | _, _ => (none, d)

instance : GuestState Diary where
  perform _ r d := match d.answer r with
    | (some a, d) => (.ok a, [], d)
    | (none, d) => (.error ⟨thing, []⟩, [], d)

/-- How the dictionary is looked at. -/
def slate : Slate Diary where
  Quiet _ d := d.chatty = false
  Blank _ d := d.names = []

theorem guest_perform {α : Type} (d : Diary) (held : List Ref) (r : Request α) :
    (GuestState.perform held r d).2.2 = (d.answer r).2 := by
  change (match d.answer r with | (some a, d) => _ | (none, d) => _ : _ × _ × Diary).2.2 = _
  rcases d.answer r with ⟨_ | a, d'⟩ <;> rfl

theorem laws : slate.Laws where
  restores {α} {r} {dict} {d} held restores quiet := by
    rw [guest_perform]
    cases r with
    | importModule name =>
        obtain ⟨names, _ | n, chatty⟩ := d
        · exact quiet
        · exact quiet
    | expect | setAttr => exact quiet
    | _ => cases restores
  clears held quiet := ⟨quiet, rfl⟩
  tells {α} {r} {dict} {d} held tells quiet blank := by
    obtain ⟨names, loads, chatty⟩ := d
    cases quiet
    rw [guest_perform]
    cases r with
    | typeName | str => exact ⟨rfl, blank⟩
    | _ => cases tells

end Diary

end GuestBridge.Bridge

namespace GuestBridge.Session

open Bridge
open Guest (Ref)

variable {σ J R : Type}

/-- The steps that the owner of a session has yet to take once it has left the guest. -/
def Owner.turns (s : SessionId) : Owner J → List (Move J R)
  | leaving => [.act (.shut s), .act (.giveBack s), .act (.surrender s)]
  | shut _ => [.act (.giveBack s), .act (.surrender s)]
  | left => [.act (.surrender s)]
  | starting | failed | idle | taking _ _ | working _ _ | gone => []

theorem Owner.turns_ne_nil {owner : Owner J} (out : owner.phase = .outside) (s : SessionId) :
    (owner.turns s : List (Move J R)) ≠ [] := by
  cases owner with
  | leaving | shut | left => exact List.cons_ne_nil _ _
  | _ => cases out

/-- Whatever happens to an owner that has left the guest, it has as many steps to take as before, or one
less. -/
theorem Turn.outside {c c' : Control J R} {es : List (Event J R)} (t : Turn c es c')
    (out : c.owner.phase = .outside) (s : SessionId) :
    (c'.owner.phase = .outside ∨ c'.owner.phase = .gone) ∧
      ((c'.owner.turns s : List (Move J R)) = c.owner.turns s ∨
        (c'.owner.turns s : List (Move J R)) = (c.owner.turns s).tail) := by
  cases t with
  | stay | accept | close | forget | answer => exact ⟨.inl out, .inl rfl⟩
  | prepare starting | abort starting | receive starting | begin starting | finish starting
  | leave starting =>
      rw [starting] at out
      cases out
  | shut leaving rest =>
      rw [leaving]
      exact ⟨.inl rfl, .inr rfl⟩
  | giveBack shut =>
      rw [shut]
      exact ⟨.inl rfl, .inr rfl⟩
  | surrender left =>
      rw [left]
      exact ⟨.inr rfl, .inr rfl⟩

namespace Process

/-- What is given back and reported does not depend on who gives the claim back. -/
theorem Ledger.withdraw {p : Process σ J R} (l : p.Ledger) (s : SessionId) :
    (p.act (p.system.withdraw s)).Ledger := by
  unfold System.withdraw
  split <;> exact ⟨l.once, l.given, l.noted, l.reported⟩

end Process

namespace Desk

variable [GuestState σ] {d d' : Desk σ J R} {m : Move J R} {s : SessionId}

/-- The owner of a session leaves its loop: no job is queued, and none will come. -/
structure Spent (d : Desk σ J R) (s : SessionId) : Prop where
  idle : d.process.owner s = .idle
  queue : (d.process.system.control s).queue = []
  closed : d.process.system.isRunning s = false

variable [HasHandles R]

/-! ### The steps of the owner -/

theorem Effect.outside (e : d.Effect m d') (sound : d.Sound) (out : d.phase s = .outside) :
    (d'.phase s = .outside ∨ d'.phase s = .gone) ∧
      (((d'.process.owner s).turns s : List (Move J R)) = (d.process.owner s).turns s ∨
        ((d'.process.owner s).turns s : List (Move J R)) = ((d.process.owner s).turns s).tail) := by
  have alive : d.phase s ≠ .gone := by simp [out]
  rcases e.process with same | ⟨a, step⟩ | ⟨u, withdraw⟩
  · rw [phase, same]
    exact ⟨.inl out, .inl rfl⟩
  · obtain ⟨es, turn⟩ := (Process.turned_step sound.queued a).turn (lt_of_phase alive)
    rw [phase, step]
    exact turn.outside out s
  · have same : d'.process.owner s = d.process.owner s := by
      rw [withdraw]
      unfold System.withdraw
      split
      · rename_i starting
        refine Process.owner_others (s := u) (f := fun c => { c with owner := .gone, accepting := false })
          rfl s ?_
        rintro rfl
        rw [phase, Process.phase, Process.owner, starting] at out
        cases out
      · rfl
    rw [phase, Process.phase, same]
    exact ⟨.inl out, .inl rfl⟩

/-- An owner that has left the guest can always take its next step. -/
theorem step_turn {rest : List (Move J R)} (out : d.phase s = .outside)
    (next : (d.process.owner s).turns s = m :: rest) :
    ((d.step m).process.owner s).turns s = rest := by
  have known : s < d.process.system.controls.length := lt_of_phase (by simp [out])
  cases owner : d.process.owner s with
  | leaving =>
      rw [owner] at next
      obtain ⟨rfl, rfl⟩ := List.cons.inj next
      have shut : (d.step (.act (.shut s))).process.owner s =
          .shut (d.process.system.world.closeParked s).1 := by
        change (d.process.shut s).owner s = _
        have leaving : (d.process.system.control s).owner = .leaving := owner
        rw [Process.shut, System.shut, leaving]
        exact Process.owner_own known (f := fun c =>
          { c with owner := .shut (d.process.system.world.closeParked s).1 }) rfl rfl
      rw [shut]
      rfl
  | shut parked =>
      rw [owner] at next
      obtain ⟨rfl, rfl⟩ := List.cons.inj next
      have left : (d.step (.act (.giveBack s))).process.owner s = .left := by
        change (d.process.giveBack s).owner s = _
        have shut : (d.process.system.control s).owner = .shut parked := owner
        rw [Process.giveBack, System.giveBack, owner, shut]
        exact Process.owner_own known (f := fun c => { c with owner := .left }) rfl rfl
      rw [left]
      rfl
  | left =>
      rw [owner] at next
      obtain ⟨rfl, rfl⟩ := List.cons.inj next
      have gone : (d.step (.act (.surrender s))).process.owner s = .gone := by
        have left : (d.process.system.control s).owner = .left := owner
        have system : d.process.system.surrender s = some ({ d.process.system with
            claimed := false }.modifyControl s fun c => { c with owner := .gone }) := by
          rw [System.surrender, left]
        change (d.surrender s (d.process.system.surrender s)).process.owner s = _
        rw [system]
        exact Process.owner_own known (f := fun c => { c with owner := .gone }) rfl rfl
      rw [gone]
      rfl
  | _ =>
      rw [owner] at next
      cases next

/-- **Nothing takes a step away from an owner**: it comes to its end in every run in which it takes
those that remain. -/
theorem gone_of_turns (o : d.Orderly) (known : s < d.process.system.controls.length)
    (past : d.phase s = .outside ∨ d.phase s = .gone) {ms : List (Move J R)}
    (turns : ((d.process.owner s).turns s).Sublist ms) : (d.steps ms).phase s = .gone := by
  induction ms generalizing d with
  | nil =>
      refine past.resolve_left fun out => ?_
      rw [phase, Process.phase] at out
      exact Owner.turns_ne_nil out s (List.sublist_nil.mp turns)
  | cons m ms ih =>
      have e := d.effect_step m
      have known' := known.trans_le (e.onward o.sound o.tended).length
      rcases past with out | gone
      · obtain ⟨past, same⟩ := e.outside o.sound out
        refine ih (o.step e) known' past ?_
        rcases List.sublist_cons_iff.mp turns with later | ⟨rest, next, later⟩
        · rcases same with same | fewer
          · exact same ▸ later
          · exact fewer ▸ (List.tail_sublist _).trans later
        · exact (step_turn out next) ▸ later
      · have gone' := e.shift.gone known gone
        refine ih (o.step e) known' (.inr gone') ?_
        have owner : (d.step m).process.owner s = .gone := Owner.phase_gone.mp gone'
        rw [owner]
        exact List.nil_sublist ms

/-! ### The guest -/

/-- Nobody reaches the guest as long as an owner that has left it has the claim. -/
theorem Effect.rests_outside (e : d.Effect m d') (sole : d.Sole) (out : d.phase s = .outside) :
    d'.guest = d.guest := by
  have other {u : SessionId} {there : Phase} (phase : d.phase u = there) (alive : there ≠ .gone)
      (apart : there ≠ .outside) : False := by
    obtain rfl := sole.single s u (by simp [out]) (phase ▸ alive)
    exact apart (phase.symm.trans out)
  cases e.visit with
  | away guest => exact guest
  | works u op move inside => exact (other inside (by simp) (by simp)).elim
  | enters u there starting =>
      exact (other (congrArg Owner.phase starting) (by simp [Owner.phase]) (by simp [Owner.phase])).elim
  | leaves u leaves =>
      exact (other (congrArg Owner.phase leaves.idle) (by simp [Owner.phase]) (by simp [Owner.phase])).elim

/-- No session is forgotten. -/
theorem length_append (g : σ) (ms ms' : List (Move J R)) :
    (run g ms).process.system.controls.length ≤ (run g (ms ++ ms')).process.system.controls.length := by
  induction ms' using List.reverseRecOn with
  | nil => rw [List.append_nil]
  | append_singleton ms' m ih =>
      have o := orderly_run g (ms ++ ms')
      rw [← List.append_assoc, run_concat]
      exact ih.trans (((run g (ms ++ ms')).effect_step m).onward o.sound o.tended).length

/-- **From the step in which an owner leaves the guest to the one in which it gives the claim back** the
guest stays as it is. -/
theorem untouched_run (g : σ) {before : List (Move J R)} (out : (run g before).phase s = .outside)
    (part : List (Move J R)) :
    (run g (before ++ part)).phase s = .outside ∧ (run g (before ++ part)).guest = (run g before).guest ∨
      (run g (before ++ part)).phase s = .gone := by
  induction part using List.reverseRecOn with
  | nil =>
      rw [List.append_nil]
      exact .inl ⟨out, rfl⟩
  | append_singleton part m ih =>
      have o := orderly_run g (before ++ part)
      have e := (run g (before ++ part)).effect_step m
      rw [← List.append_assoc, run_concat]
      rcases ih with ⟨out', guest⟩ | gone
      · exact (e.outside o.sound out').1.imp (⟨·, (e.rests_outside o.sole out').trans guest⟩) id
      · have known : s < (run g before).process.system.controls.length := lt_of_phase (by simp [out])
        exact .inr (e.shift.gone (known.trans_le (length_append g before part)) gone)

/-- An owner that leaves its loop leaves the guest. -/
theorem Spent.leaves (spent : d.Spent s) : d.Leaves (d.step (.act (.leave s))) s ∧
    (d.step (.act (.leave s))).process.owner s = .leaving := by
  have known : s < d.process.system.controls.length := System.lt_of_owner fun gone => by
    have idle : (d.process.system.control s).owner = .idle := spent.idle
    rw [gone] at idle
    cases idle
  have system : d.process.system.leave s = some ({ d.process.system with
      world := (leaveGuest s d.process.system.world).2 }.modifyControl s fun c =>
        { c with owner := .leaving }) := by
    have idle : (d.process.system.control s).owner = .idle := spent.idle
    have closed : (d.process.system.control s).accepting = false := spent.closed
    rw [System.leave, idle, spent.queue, closed]
  have process : (d.step (.act (.leave s))).process = d.process.act (d.process.system.leave s) := rfl
  rw [system] at process
  refine ⟨⟨spent.idle, spent.queue, spent.closed, by rw [process]; rfl⟩, ?_⟩
  rw [process]
  exact Process.owner_own known (f := fun c => { c with owner := .leaving }) rfl rfl

/-! ### What is parked -/

theorem Effect.ledger (e : d.Effect m d') (sound : d.Sound) (l : d.process.Ledger) :
    d'.process.Ledger := by
  rcases e.process with same | ⟨a, step⟩ | ⟨u, withdraw⟩
  · exact same ▸ l
  · exact step ▸ l.flow (Process.flow_step sound.booked sound.queued a)
  · exact withdraw ▸ l.withdraw u

theorem ledger_run (g : σ) (ms : List (Move J R)) : (run g ms).process.Ledger := by
  induction ms using List.reverseRecOn with
  | nil => exact .initial g
  | append_singleton ms m ih =>
      rw [run_concat]
      exact ((run g ms).effect_step m).ledger (sound_run g ms) ih

/-- The processes of desks are in order, as all processes are. -/
theorem process_sound (g : σ) (ms : List (Move J R)) : (run g ms).process.Sound :=
  have sound := sound_run g ms
  ⟨sound.booked, sound.queued, sound.phased, ledger_run g ms⟩

/-! ### Releases after the end -/

/-- A thread that has not come to its end goes on with a release. -/
theorem step_advance {i : Nat} {r : Release} (there : d.process.releases[i]? = some r)
    (goesOn : d.goesOn r.thread = true) :
    d.step (.act (.advance i)) = { d with process := d.process.step (.advance i) } := by
  change d.inner (.advance i) = _
  rw [Desk.inner, if_pos]
  rw [Process.threadOf, there]
  exact goesOn

/-- No thread comes to its end by a release. -/
theorem goesOn_advance (i : Nat) (t : Thread) :
    ({ d with process := d.process.step (.advance i) } : Desk σ J R).goesOn t = d.goesOn t := by
  cases t with
  | host => rfl
  | owner u => exact congrArg (· != .gone) ((Process.aside_advance i).phase u)

/-- A thread that goes on can go on twice. -/
theorem steps_advance {i : Nat} {r : Release} (sound : d.process.Sound)
    (there : d.process.releases[i]? = some r) (goesOn : d.goesOn r.thread = true) :
    (d.steps [.act (.advance i), .act (.advance i)]).process =
      (d.process.step (.advance i)).step (.advance i) := by
  obtain ⟨r', there', thread, -⟩ :=
    (Process.flow_step sound.booked sound.queued (.advance i)).leads there
  change ((d.step (.act (.advance i))).step (.act (.advance i))).process = _
  rw [step_advance there goesOn, step_advance there' (by rw [goesOn_advance, thread, goesOn])]

/-- A release in one go. -/
def releasing (d : Desk σ J R) (t : Thread) (h : Handle) : List (Move J R) :=
  [.act (.release t h), .act (.advance d.process.releases.length),
    .act (.advance d.process.releases.length)]

/-- **A handle that is left can be released on every thread**, and its reference is given back at
once. -/
theorem releasing_gone {t : Thread} {h : Handle} (sound : d.process.Sound) (closed : d.process.isShut h.session)
    (there : h ∈ d.process.handles) (goesOn : d.goesOn t = true) (gone : d.phase h.session = .gone) :
    (d.steps (d.releasing t h)).process.system.world =
        (d.process.system.world.countOut h.session).drop h.object ∧
      d.process.releases.length ∈ (d.steps (d.releasing t h)).process.returns := by
  have away : t ≠ .owner h.session := by
    rintro rfl
    have ended : d.process.phase h.session = .gone := gone
    simp [Desk.goesOn, ended] at goesOn
  have began : d.step (.act (.release t h)) = { d with process := d.process.release t h } := by
    change d.inner (.release t h) = _
    rw [Desk.inner, if_pos]
    · rfl
    · exact goesOn
  have counted : (d.process.release t h).releases[d.process.releases.length]? =
      some ⟨t, h, .counted⟩ := by
    rw [Process.release, if_pos there]
    exact List.getElem?_concat_length
  have world : (d.process.release t h).system.world = d.process.system.world.countOut h.session := by
    rw [Process.release, if_pos there]
    rfl
  have still (u : Thread) : ({ d with process := d.process.release t h } : Desk σ J R).goesOn u =
      d.goesOn u := by
    cases u with
    | host => rfl
    | owner u => exact congrArg (· != .gone) ((Process.aside_release t h).phase u)
  have closed' : (d.process.release t h).isShut h.session :=
    (Process.flow_step sound.booked sound.queued (.release t h)).stays closed
  have lt : d.process.releases.length < (d.process.release t h).releases.length :=
    (List.getElem?_eq_some_iff.mp counted).1
  have refused := Process.advance_closed counted rfl away closed'
  have dropped := Process.advance_refused
    (p := (d.process.release t h).moveTo d.process.releases.length ⟨t, h, .counted⟩ .refused
      (d.process.release t h).system.world) (r := ⟨t, h, .refused⟩) (List.getElem?_set_self lt) rfl
  have process : (d.steps (d.releasing t h)).process =
      ((d.process.release t h).step (.advance d.process.releases.length)).step
        (.advance d.process.releases.length) := by
    change ((d.step (.act (.release t h))).steps _).process = _
    rw [began]
    exact steps_advance (Process.sound_step sound (.release t h)) counted ((still t).trans goesOn)
  rw [process, refused, dropped]
  exact ⟨congrArg (·.drop h.object) world, Process.mem_returns_dropped _⟩

/-! ### The whole -/

/-- What is promised about the references of a session that is at its end. -/
structure Cleared (d : Desk σ J R) (s : SessionId) : Prop where
  /-- Everything that was released is given back, except for what threads have in hand. -/
  returned : ∀ i r, d.process.releases[i]? = some r → r.handle.session = s →
    i ∈ d.process.returns ∨ r.stage = .counted ∨ r.stage = .refused
  /-- The owner has reported all that was ever parked. -/
  reported : d.process.reported s = d.process.everParked s
  /-- A thread that has a reference in hand gives it back next. -/
  late : ∀ i r, d.process.releases[i]? = some r → r.handle.session = s →
    r.stage = .counted ∨ r.stage = .refused → d.goesOn r.thread = true →
    i ∈ (d.steps [.act (.advance i), .act (.advance i)]).process.returns
  /-- A handle that is left can be released on every thread, and its reference is given back at once. -/
  outlives : ∀ t h, h ∈ d.process.handles → h.session = s → d.goesOn t = true →
    (d.steps (d.releasing t h)).process.system.world =
        (d.process.system.world.countOut s).drop h.object ∧
      d.process.releases.length ∈ (d.steps (d.releasing t h)).process.returns

theorem cleared_of_gone (sound : d.process.Sound) (closed : d.process.isShut s) (gone : d.phase s = .gone) :
    d.Cleared s where
  returned _ _ := sound.ended (.inr (Owner.phase_gone.mp gone))
  reported := sound.total (.inr (Owner.phase_gone.mp gone))
  late i r there session hand goesOn := by
    subst session
    rw [steps_advance sound there goesOn]
    exact sound.late there hand closed
  outlives t h there session goesOn := by
    subst session
    exact releasing_gone sound closed there goesOn gone

/-- What is promised about a session whose owner leaves its loop after `before` and takes its last steps
in `after`. -/
structure Shutdown (V : Slate σ) (g : σ) (before after : List (Move J R)) (s : SessionId) : Prop where
  /-- The owner leaves the guest: it puts the stream back, or notes why that failed; the globals are
  emptied in any case, and nothing else is asked of the guest. -/
  left : Left (run g before) (run g (before ++ [.act (.leave s)])) s
  /-- From then on until the claim is given back the globals are empty. -/
  blank : ∀ rt, ((run g before).process.system.world.session s).runtime = some rt →
    V.Quiet rt.globals (run g before).guest → ∀ part,
    (run g (before ++ .act (.leave s) :: part)).phase s = .outside →
    V.Blank rt.globals (run g (before ++ .act (.leave s) :: part)).guest
  /-- The owner comes to its end, -/
  gone : (run g (before ++ .act (.leave s) :: after)).phase s = .gone
  /-- with all jobs ended, no modules kept, nothing parked any more and the claim given back, -/
  ended : Over g (before ++ .act (.leave s) :: after) s
  /-- and with all references given back that it was to give back. -/
  cleared : (run g (before ++ .act (.leave s) :: after)).Cleared s

variable {V : Slate σ}

/-- **The end of a session.** In whatever state its jobs have left the guest, whatever handles exist, and
whatever other threads do meanwhile: an owner that leaves its loop and takes its last steps has seen to
everything. -/
theorem shutdown_run (laws : V.Laws) {g : σ} {before after : List (Move J R)}
    (spent : (run g before).Spent s) (turns : ((Owner.leaving : Owner J).turns s).Sublist after) :
    Shutdown V g before after s := by
  have o := orderly_run g before
  have step := run_concat g before (.act (.leave s))
  obtain ⟨leaves, leaving⟩ := spent.leaves
  rw [← step] at leaves leaving
  have left := leaves.left o.sound
  have out : (run g (before ++ [.act (.leave s)])).phase s = .outside := congrArg Owner.phase leaving
  have gone : (run g (before ++ .act (.leave s) :: after)).phase s = .gone := by
    rw [List.append_cons, run_append]
    refine gone_of_turns (orderly_run g _) (lt_of_phase (by simp [out])) (.inl out) ?_
    rw [leaving]
    exact turns
  have inside : (run g before).phase s = .inside := congrArg Owner.phase spent.idle
  have ended := over_of_succeeded (succeeded_append g before _ (o.tended.succeeded inside)) gone
  refine ⟨left, fun rt runtime quiet part still => ?_, gone, ended,
    cleared_of_gone (process_sound g _) ended.shut gone⟩
  have blank := laws.leaveGuest runtime quiet
  rw [← leaves.world] at blank
  rw [List.append_cons] at still ⊢
  rcases untouched_run g out part with ⟨-, guest⟩ | gone
  · exact guest ▸ blank
  · rw [gone] at still
    cases still

/-- A session starts and is closed. -/
def closedEarly : List (Move Unit Unit) :=
  [.call .standard, .spawn 0, .act (.prepare 0), .comeBack 0, .act (.close .host 0)]

/-- The last steps of its owner, with a call in between that finds the claim taken. -/
def disturbed : List (Move Unit Unit) :=
  [.act (.shut 0), .call .standard, .act (.giveBack 0), .act (.surrender 0)]

/-- A guest that can load two modules, and no third when the session ends. -/
def exhausted : Diary := ⟨[], 2, false⟩

/-- Where the stream is not put back, all else is done. -/
theorem shutdown_diary :
    (run exhausted closedEarly).Spent 0 ∧ ((Owner.leaving : Owner Unit).turns 0).Sublist disturbed ∧
      Shutdown Diary.slate exhausted closedEarly disturbed 0 ∧
      (run exhausted closedEarly).guest.names = ["__builtins__", "__name__"] ∧
      (run exhausted (closedEarly ++ .act (.leave 0) :: disturbed)).guest.names = [] := by
  have spent : (run exhausted closedEarly).Spent 0 := ⟨by rfl, by rfl, by rfl⟩
  have turns : ((Owner.leaving : Owner Unit).turns 0).Sublist disturbed :=
    .cons_cons _ (.cons _ (.refl _))
  exact ⟨spent, turns, shutdown_run Diary.laws spent turns, by rfl, by rfl⟩

/-- The text of an exception for which the stream is not put back can write to the globals after they
were emptied. The session is at its end, and its dictionary is not empty. -/
theorem refilled_after_end :
    let d := run (⟨[], 2, true⟩ : Diary) (wholeLife .standard)
    d.succeeded 0 ∧ d.phase 0 = .gone ∧ d.surrendered = [0] ∧ d.guest.names = ["x"] :=
  ⟨⟨_, rfl, rfl⟩, rfl, rfl, rfl⟩

end Desk

end GuestBridge.Session
