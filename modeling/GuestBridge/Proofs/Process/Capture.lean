import Mathlib.Data.List.Induction
import GuestBridge.Proofs.Requests.Posting
import GuestBridge.Proofs.Interpreter.Sink
import GuestBridge.Proofs.Process.Frames
import GuestBridge.Proofs.Process.Visits

/-!
# Nothing of the Output is Lost

The guest writes to the sinks of sessions while the host looks at what was captured, takes it or clears
it. `Listener` is a desk around a `Posting` guest, so texts arrive one at a time, and every call of the
host falls between two of them, wherever the guest is in its work and whether the session still runs. It
keeps account of what was taken and cleared.

`Kept` is the invariant: what was removed of a session, and behind it what is there, is what has arrived
for it, and what has arrived is the first part of what was written. Steps of the desk only add to what is
underway (`Process.Touches.captured`), an arrival moves one text over, and removing moves the text there
to what was removed.

## Main results

* `captured_run` — nothing is lost and nothing comes twice, in every run; a session that does not capture
  output has none; and writing to a sink notes the text, or raises and notes nothing.
-/

namespace GuestBridge.Session

open Bridge

variable {σ J R : Type}

/-- What happens next: a step of the desk, an arrival, or a call of the host. -/
inductive Happening (J R : Type)
  | move (m : Move J R)
  /-- The text that was written first of all that are underway reaches its sink. -/
  | arrive
  /-- The host looks at what was captured. -/
  | output (s : SessionId)
  /-- The host takes what was captured. -/
  | take (s : SessionId)

/-- A desk, and what the host has got and discarded. -/
structure Listener (σ J R : Type) where
  desk : Desk (Posting σ) J R
  /-- What the host was given, in order. -/
  given : List (SessionId × String)
  /-- What was taken or cleared, in order. -/
  removed : List (SessionId × String)

namespace Listener

/-- Nothing has happened yet. -/
def initial (g : σ) : Listener σ J R := ⟨.initial (.silent g), [], []⟩

/-- What is captured of a session. -/
def output (l : Listener σ J R) (s : SessionId) : String := l.desk.process.system.output s

/-- The guest, and the texts that it has written. -/
def guest (l : Listener σ J R) : Posting σ := l.desk.process.system.world.guest

/-- A text arrives. -/
def arrive (l : Listener σ J R) : Listener σ J R :=
  { l with desk.process.system.world := l.desk.process.system.world.arrive }

variable [GuestState σ] [HasHandles R]

/-- The desk goes on. What a step clears is discarded. -/
def move (l : Listener σ J R) (m : Move J R) : Listener σ J R :=
  { l with
    desk := l.desk.step m
    removed := l.removed ++ (m.clears?.map fun s => (s, l.output s)).toList }

def step (l : Listener σ J R) : Happening J R → Listener σ J R
  | .move m => l.move m
  | .arrive => l.arrive
  | .output s => { l with given := l.given ++ [(s, l.output s)] }
  | .take s => { l.move (.act (.clearOutput s)) with given := l.given ++ [(s, l.output s)] }

/-- A run from the start, with the guest in a state. -/
def run (g : σ) (ts : List (Happening J R)) : Listener σ J R := ts.foldl step (initial g)

theorem run_concat (g : σ) (ts : List (Happening J R)) (t : Happening J R) :
    run g (ts ++ [t]) = (run g ts).step t := by
  simp [run]

end Listener

/-! ### One step -/

namespace Process

variable [GuestState σ] {p p' : Process σ J R} {about cleared : Option SessionId}

/-- **Nothing reaches the sinks in a step of the desk**, and nothing is taken from them unless it is
cleared. -/
theorem Touches.captured {p p' : Process (Posting σ) J R} (t : p.Touches about none p')
    (u : SessionId) : p'.system.world.captured u = p.system.world.captured u := by
  cases t with
  | rests system => rw [system]
  | aside s subject here => exact (here.writes (P := NoSink)).quiet u
  | asks s subject stage length others writes =>
      obtain ⟨ws, writes⟩ := writes
      exact (writes.nothing ▸ writes).quiet u
  | opens config subject system =>
      rw [system]
      exact captured_opened p config u
  | clears s subject clears system => cases clears

/-- What every request keeps of the guest is kept in a step of the desk; a sink is asked for only where
the session that the step is about captures output. -/
theorem Touches.keeps {I : σ → Prop} (t : p.Touches about cleared p')
    (kept : ∀ {α : Type} (r : Request α) (held : List Guest.Ref) (g : σ),
      (∀ s, r.sinkOf? = some s → p.phase s ≠ .gone ∧
        (p.system.control s).config.captureOutput = true) →
      I g → I (GuestState.perform held r g).2.2)
    (start : I p.system.world.guest) : I p'.system.world.guest := by
  cases t with
  | rests system => rwa [system]
  | aside s subject here => rwa [here.guest]
  | asks s subject stage length others writes =>
      obtain ⟨ws, writes⟩ := writes
      refine writes.keeps (fun r held g asked => kept r held g fun u made => ?_) start
      obtain ⟨rfl, captures⟩ := asked u made
      exact ⟨by rcases stage with inside | ⟨starting, -⟩ <;> simp [*], captures⟩
  | opens config subject system => rwa [system]
  | clears s subject clears system => rwa [system]

end Process

namespace Desk

/-- Whether a session is there and captures output. -/
def Listens (d : Desk σ J R) (s : SessionId) : Prop :=
  s < d.process.system.controls.length ∧ d.captures s = true

variable [GuestState σ] [HasHandles R]

/-- A session that captures output goes on to do so. -/
theorem Listens.step {d : Desk σ J R} {s : SessionId} (h : d.Listens s) (m : Move J R) :
    (d.step m).Listens s := by
  refine ⟨Nat.lt_of_lt_of_le h.1 (d.touches_step m).grows, ?_⟩
  rw [captures, (d.effect_step m).config h.1]
  exact h.2

end Desk

/-! ### The invariant -/

namespace Listener

variable [GuestState σ] {V : Sinks σ} {l : Listener σ J R}

/-- What holds of the accounts: the texts that have arrived are there or were removed, each once and in
order, and only sessions that capture output are written to. -/
structure Kept (V : Sinks σ) (l : Listener σ J R) : Prop where
  level : l.desk.process.Level
  confined : Confined V l.desk.Listens l.guest
  balance : ∃ arrived, Arrived arrived l.guest ∧
    ∀ s, said s l.removed ++ l.output s = said s arrived

omit [GuestState σ] in
theorem kept_initial {g : σ} (none : ∀ s, ¬ V.has g s) : Kept V (initial g : Listener σ J R) where
  level := rfl
  confined := ⟨fun s has => absurd has (none s), nofun⟩
  balance := ⟨[], rfl, fun _ => rfl⟩

omit [GuestState σ] in
/-- One text more has arrived. -/
theorem Kept.arrive (k : Kept V l) : Kept V l.arrive := by
  obtain ⟨arrived, written, balance⟩ := k.balance
  unfold Listener.arrive World.arrive
  split
  · exact k
  · rename_i s text underway first
    have text_mem : (s, text) ∈ l.guest.written := by
      rw [written, guest, first]
      exact List.mem_append_right arrived List.mem_cons_self
    have known : s < l.desk.process.system.world.sessions.length :=
      k.level.symm ▸ (k.confined.texts _ text_mem).1
    refine ⟨?_, ⟨k.confined.sinks, k.confined.texts⟩, arrived ++ [(s, text)], ?_, fun u => ?_⟩
    · exact (World.length_modifySession _ s _).trans k.level
    · have whole : l.guest.written = arrived ++ (s, text) :: underway := by
        rw [written, guest, first]
      exact whole.trans (List.append_cons arrived (s, text) underway)
    · have added := World.captured_write
        { l.desk.process.system.world with
          guest := { l.desk.process.system.world.guest with underway } } text fun own : s = u =>
          own ▸ known
      rw [said_append, ← balance u, String.append_assoc]
      exact congrArg (said u l.removed ++ ·) added

variable [HasHandles R]

/-- What is cleared is removed. -/
theorem cleared (l : Listener σ J R) (u s : SessionId) :
    said s (l.move (.act (.clearOutput u))).removed ++ (l.move (.act (.clearOutput u))).output s =
      said s l.removed ++ l.output s := by
  change said s (l.removed ++ [(u, l.output u)]) ++ (l.desk.process.system.clearOutput u).output s = _
  rw [said_append, String.append_assoc]
  congr 1
  by_cases own : u = s
  · subst own
    rw [System.output_clearOutput, said_cons_self, said_nil, String.append_empty, String.append_empty]
  · rw [said_cons_ne own, said_nil, String.empty_append]
    exact System.output_clearOutput_ne _ (Ne.symm own)

/-- **A step of the desk keeps the accounts.** -/
theorem Kept.move (laws : V.Laws) (k : Kept V l) (m : Move J R) : Kept V (l.move m) := by
  have touches := l.desk.touches_step m
  obtain ⟨arrived, written, balance⟩ := k.balance
  refine ⟨touches.level k.level, ?_, arrived, ?_, fun s => ?_⟩
  · refine touches.keeps (I := Confined V (l.desk.step m).Listens) (fun r held g sink c =>
      c.perform laws held fun s made => ?_) (k.confined.mono fun s h => h.step m)
    have listens : l.desk.Listens s := ⟨Desk.lt_of_phase (sink s made).1, (sink s made).2⟩
    exact listens.step m
  · exact touches.keeps (I := Arrived arrived) (fun r held g _ h => h.perform r held) written
  · cases clears : m.clears? with
    | none =>
        rw [clears] at touches
        have same : (l.move m).output s = l.output s := touches.captured s
        rw [same, Listener.move, clears]
        simpa using balance s
    | some u =>
        have clear : m = .act (.clearOutput u) := by
          cases m with
          | act a =>
              cases a with
              | clearOutput v => cases clears; rfl
              | _ => cases clears
          | _ => cases clears
        subst clear
        exact (l.cleared u s).trans (balance s)

theorem Kept.step (laws : V.Laws) (k : Kept V l) (h : Happening J R) : Kept V (l.step h) := by
  cases h with
  | move m => exact k.move laws m
  | arrive => exact k.arrive
  | output s => exact ⟨k.level, k.confined, k.balance⟩
  | take s =>
      have removed := k.move laws (.act (.clearOutput s))
      exact ⟨removed.level, removed.confined, removed.balance⟩

theorem kept_run (laws : V.Laws) {g : σ} (none : ∀ s, ¬ V.has g s) (hs : List (Happening J R)) :
    Kept V (run g hs) := by
  induction hs using List.reverseRecOn with
  | nil => exact kept_initial none
  | append_singleton hs h ih =>
      rw [run_concat]
      exact ih.step laws h

/-! ### Runs -/

/-- What holds of the captured output of a session. -/
structure Captured (l : Listener σ J R) (s : SessionId) : Prop where
  /-- What was removed, and behind it what is there, is what has arrived; the rest is underway. -/
  whole : ∃ arrived, l.guest.written = arrived ++ l.guest.underway ∧
    said s l.removed ++ l.output s = said s arrived
  /-- Where nothing is underway, this is all that was written. -/
  settled : l.guest.underway = [] → said s l.removed ++ l.output s = said s l.guest.written
  /-- Where output is not captured there is none, and there never was. -/
  silent : l.desk.captures s = false → l.output s = "" ∧ said s l.removed = ""
  /-- Looking changes nothing. -/
  looks : (l.step (.output s)).desk = l.desk ∧ (l.step (.output s)).removed = l.removed ∧
    (l.step (.output s)).given = l.given ++ [(s, l.output s)]
  /-- What is taken is what is there, and nothing is left of it. -/
  takes : (l.step (.take s)).given = l.given ++ [(s, l.output s)] ∧
    (l.step (.take s)).removed = l.removed ++ [(s, l.output s)] ∧ (l.step (.take s)).output s = ""
  /-- What is cleared is what is there, and nothing is left of it. -/
  clears : (l.step (.move (.act (.clearOutput s)))).removed = l.removed ++ [(s, l.output s)] ∧
    (l.step (.move (.act (.clearOutput s)))).output s = ""

theorem Kept.captured (k : Kept V l) (s : SessionId) : l.Captured s := by
  obtain ⟨arrived, written, balance⟩ := k.balance
  have empty : (l.desk.process.system.clearOutput s).output s = "" := System.output_clearOutput _ s
  refine ⟨⟨arrived, written, balance s⟩, fun none => ?_, fun off => ?_, ⟨rfl, rfl, rfl⟩,
    ⟨rfl, rfl, empty⟩, ⟨rfl, empty⟩⟩
  · rw [balance, written, none, List.append_nil]
  · have nothing : said s arrived = "" := said_of_absent fun t ht own => by
      have listens := k.confined.texts t (written ▸ List.mem_append_left _ ht)
      rw [own, Desk.Listens, off] at listens
      cases listens.2
    rw [← balance s] at nothing
    exact (String.append_eq_empty_iff.mp nothing).symm

/-- **No loss and no duplication of captured output**: in every run, however texts arrive and the host
looks, takes and clears; and writing to a sink of the interpreter notes the whole text, or raises and
notes nothing. -/
theorem captured_run (laws : V.Laws) {g : σ} (none : ∀ s, ¬ V.has g s)
    (hs : List (Happening J R)) (s : SessionId) :
    (run g hs).Captured s ∧
      ∀ (_ : Guest.Ops) (a : Guest.Args) (m : Guest.Machine), Guest.SinkWrites s a m :=
  ⟨(kept_run laws none hs).captured s, fun _ a m => Guest.sinkWrites s a m⟩

/-- A session is greeted while it starts. Its host takes the text before it has arrived, and after. -/
theorem captured_greeting :
    (∀ s, ¬ Herald.view.has ⟨[]⟩ s) ∧ Herald.view.Laws ∧
      (run (⟨[]⟩ : Herald) [.move (.call .standard), .move (.spawn 0), .move (.act (.prepare 0)),
        .take 0, .arrive, .output 0, .take 0] : Listener Herald Unit Unit).given =
          [(0, ""), (0, Herald.greeting), (0, Herald.greeting)] ∧
      (run (⟨[]⟩ : Herald) [.move (.call .standard), .move (.spawn 0), .move (.act (.prepare 0)),
        .take 0, .arrive, .output 0, .take 0] : Listener Herald Unit Unit).Captured 0 :=
  have none : ∀ s, ¬ Herald.view.has ⟨[]⟩ s := fun s => List.not_mem_nil
  ⟨none, Herald.laws, by rfl, (captured_run Herald.laws none _ 0).1⟩

end Listener

end GuestBridge.Session
