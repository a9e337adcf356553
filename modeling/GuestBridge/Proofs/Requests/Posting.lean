import GuestBridge.Proofs.Requests.Writes

/-!
# Texts on Their Way

`World.ask` adds all that a request has written to the captured output at once. The texts arrive one by
one, though, while the host may look at what was captured and take it away. `Posting σ` is a guest `σ`
cut open there: what it writes is underway, and reaches the sinks by single steps, `World.arrive`, in the
order in which it was written. `World.settled_ask` says that a request, and then all arrivals, is the
request as it was.

A guest writes only to sinks that it has, and has only those that it was asked to make: `Sinks.Laws`.
`Confined` is what holds of a guest that has sinks of some sessions alone; requests for such sinks keep it.
-/

namespace GuestBridge.Bridge

open Guest (Ref Raised)

/-- A guest, and the texts that it has written. -/
structure Posting (σ : Type) where
  guest : σ
  /-- All texts, in order, with the sessions to whose sinks they were written. -/
  written : List (SessionId × String)
  /-- Those that have not reached their sinks, in order. -/
  underway : List (SessionId × String)
  deriving Inhabited

variable {σ : Type}

/-- A guest that has written nothing. -/
def Posting.silent (g : σ) : Posting σ := ⟨g, [], []⟩

instance [GuestState σ] : GuestState (Posting σ) where
  perform held r g :=
    let (answer, texts, guest) := GuestState.perform held r g.guest
    (answer, [], ⟨guest, g.written ++ texts, g.underway ++ texts⟩)

namespace World

/-- The text that was written first of all that are underway reaches its sink. -/
def arrive (w : World (Posting σ)) : World (Posting σ) :=
  match w.guest.underway with
  | [] => w
  | (s, text) :: underway => { w with guest := { w.guest with underway } }.write s text

/-- The same world with another guest. -/
def around {τ : Type} (w : World σ) (g : τ) : World τ := ⟨g, w.held, w.sessions, w.log⟩

/-- The world where all texts have arrived. -/
def settled (w : World (Posting σ)) : World σ :=
  w.guest.underway.foldl (fun w (s, text) => w.write s text) (w.around w.guest.guest)

/-- Arrivals do not change where all this ends. -/
theorem settled_arrive (w : World (Posting σ)) : w.arrive.settled = w.settled := by
  unfold arrive
  split
  · rfl
  · rename_i s text underway first
    rw [settled, settled, first]
    rfl

/-- The guest can be exchanged before texts arrive or after. -/
theorem around_writes (w : World σ) (g : σ) (ws : List (SessionId × String)) :
    (ws.foldl (fun w (s, text) => w.write s text) w).around g =
      ws.foldl (fun w (s, text) => w.write s text) (w.around g) := by
  induction ws generalizing w with
  | nil => rfl
  | cons e ws ih => exact ih (w.write e.1 e.2)

/-- **A request, and then all arrivals, is the request** to the guest inside. -/
theorem settled_ask [GuestState σ] {α : Type} (w : World (Posting σ)) (r : Request α) :
    (w.ask r).1 = (w.settled.ask r).1 ∧ (w.ask r).2.settled = (w.settled.ask r).2 := by
  have held : w.settled.held = w.held := (writes_elsewhere _ _).1
  have guest : w.settled.guest = w.guest.guest := guest_writes _ _
  have answer : (w.settled.ask r).1 = (GuestState.perform w.held r w.guest.guest).1 := by
    rw [← held, ← guest]
    rfl
  have after : (w.settled.ask r).2 =
      (GuestState.perform w.held r w.guest.guest).2.1.foldl (fun w (s, text) => w.write s text)
        (w.settled.around (GuestState.perform w.held r w.guest.guest).2.2) := by
    rw [← guest, ← held]
    rfl
  refine ⟨answer.symm, ?_⟩
  rw [after, settled.eq_def w, around_writes]
  exact List.foldl_append

end World

/-! ### Sinks -/

/-- How the sinks of a guest are looked at: whether it has one of a session. -/
structure Sinks (σ : Type) where
  has : σ → SessionId → Prop

/-- What is relied on: sinks are made on request alone, and texts are written to sinks. -/
structure Sinks.Laws [GuestState σ] (V : Sinks σ) : Prop where
  made {α : Type} {r : Request α} {g : σ} {s : SessionId} (held : List Ref) :
    V.has (GuestState.perform held r g).2.2 s → V.has g s ∨ r.sinkOf? = some s
  used {α : Type} {r : Request α} {g : σ} {s : SessionId} {text : String} (held : List Ref) :
    (s, text) ∈ (GuestState.perform held r g).2.1 → V.has g s ∨ r.sinkOf? = some s

/-- The guest has sinks of sessions in `may` alone, and has written to no others. -/
structure Confined (V : Sinks σ) (may : SessionId → Prop) (g : Posting σ) : Prop where
  sinks : ∀ s, V.has g.guest s → may s
  texts : ∀ t ∈ g.written, may t.1

variable [GuestState σ] {V : Sinks σ} {may : SessionId → Prop} {g : Posting σ}

omit [GuestState σ] in
theorem Confined.mono {may' : SessionId → Prop} (c : Confined V may g) (wider : ∀ s, may s → may' s) :
    Confined V may' g :=
  ⟨fun s has => wider s (c.sinks s has), fun t ht => wider t.1 (c.texts t ht)⟩

/-- A request for a sink of a session in `may`, or for something else. -/
theorem Confined.perform (laws : V.Laws) (c : Confined V may g) {α : Type} {r : Request α}
    (held : List Ref) (sink : ∀ s, r.sinkOf? = some s → may s) :
    Confined V may (GuestState.perform held r g).2.2 where
  sinks s has := (laws.made held has).elim (c.sinks s) (sink s)
  texts t ht := by
    rcases List.mem_append.mp ht with old | new
    · exact c.texts t old
    · exact (laws.used held new).elim (c.sinks t.1) (sink t.1)

/-- What has arrived: the texts that were written and are not underway any more. -/
def Arrived (arrived : List (SessionId × String)) (g : Posting σ) : Prop :=
  g.written = arrived ++ g.underway

/-- What a request writes is underway. -/
theorem Arrived.perform {arrived : List (SessionId × String)} (h : Arrived arrived g) {α : Type}
    (r : Request α) (held : List Ref) : Arrived arrived (GuestState.perform held r g).2.2 := by
  change g.written ++ _ = arrived ++ (g.underway ++ _)
  rw [h, List.append_assoc]

/-- Nothing reaches the sinks while the guest is asked. -/
theorem Writes.nothing {P : (α : Type) → Request α → Prop} {w w' : World (Posting σ)}
    {ws : List (SessionId × String)} (h : Writes P w ws w') : ws = [] := by
  induction h with
  | own guest length captured => rfl
  | ask w r meets => rfl
  | trans _ _ ih₁ ih₂ => rw [ih₁, ih₂, List.append_nil]

/-! ### A guest that writes

The smallest guest that writes to sinks: it keeps the sinks that it was asked to make, and greets the
last of them each time an attribute is assigned, as a module of a script can do whose assignments run
code. Nothing ever fails in it that a start asks for.
-/

/-- A guest that has some sinks, the last one first. -/
structure Herald where
  sinks : List SessionId
  deriving DecidableEq, Repr

namespace Herald

/-- The object that stands for everything. -/
def thing : Ref := ⟨0⟩

/-- What is written at each assignment. -/
def greeting : String := "early"

/-- Answers a request; nothing if that raises. -/
def answer (h : Herald) : {α : Type} → Request α → Option α × List (SessionId × String) × Herald
  | _, .newSink s => (some thing, [], ⟨s :: h.sinks⟩)
  | _, .setAttr _ _ _ => (some (), h.sinks.head?.toList.map (·, greeting), h)
  | _, .importModule _ | _, .newStr _ | _, .newDict _ | _, .evaluate _ | _, .getAttr _ _ =>
    (some thing, [], h)
  | _, .expect _ _ | _, .insert _ _ _ | _, .clear _ => (some (), [], h)
  | _, _ => (none, [], h)

instance : GuestState Herald where
  perform _ r h := match h.answer r with
    | (some a, after) => (.ok a, after)
    | (none, after) => (.error ⟨thing, []⟩, after)

/-- How the sinks are looked at. -/
def view : Sinks Herald := ⟨fun h s => s ∈ h.sinks⟩

theorem perform_eq {α : Type} (h : Herald) (held : List Ref) (r : Request α) :
    (GuestState.perform held r h).2 = (h.answer r).2 := by
  change (match h.answer r with | (some a, after) => _ | (none, after) => _ : _ × _).2 = _
  rcases h.answer r with ⟨_ | a, after⟩ <;> rfl

theorem laws : view.Laws where
  made {α} {r} {h} {s} held has := by
    rw [perform_eq] at has
    cases r with
    | newSink u =>
        rcases List.mem_cons.mp has with own | old
        · exact .inr (congrArg some own.symm)
        · exact .inl old
    | _ => exact .inl has
  used {α} {r} {h} {s} {text} held used := by
    rw [perform_eq] at used
    cases r with
    | setAttr o name v =>
        obtain ⟨u, there, same⟩ := List.mem_map.mp used
        cases same
        exact .inl (List.mem_of_mem_head? (Option.mem_toList.mp there))
    | _ => cases used

end Herald

end GuestBridge.Bridge
