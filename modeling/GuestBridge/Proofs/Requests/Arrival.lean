import GuestBridge.Proofs.Requests.SearchPath
import GuestBridge.Proofs.Requests.Writes

/-!
# What a Session Has When It Enters the Guest

A session that starts asks for a dictionary of two names before it does anything else, and that is what
its scripts will run in. `Provides` says what a start that succeeds has asked; `Arrives` says what the
session has then: no modules, no handles that it did not have before, and as output what was written
while it started.

A start inserts the directories of its session into the search path one after the other, each at its own
position. `Inserting` is the list of requests in which it does so, and `Extends` says that the rest of
what a start asks has nothing to do with the path. Where the guest keeps to `Route.Laws`, each of these
insertions finds the directories before it in front of the path and puts its own right behind them: the
position is never past the end of the list, and never behind anything that was on the path before.

## Main statements

* `arrives_enterGuest` — a start that succeeds gives the session all this, whatever the guest answers.
* `traced_extends` — which insertions a start has asked for, whatever the guest answers.
* `Inserting.leads`, `Inserting.lands` — what a run of insertions makes of the path, and where each of
  them puts its directory.
-/

namespace GuestBridge.Bridge

open Guest (Ref Raised)

/-- A start has made the dictionary of globals with two names in it. After that it asks for nothing but
what belongs to a start, and puts nothing into a dictionary. -/
inductive Provides (s : SessionId) (capture : Bool) (rt : Runtime) : List Asked → Prop
  | made (name : Ref) (later : List Asked) (only : ∀ q ∈ later, q.request.ofStart s capture = true) :
      Provides s capture rt (⟨.importModule "builtins", .ok rt.builtins⟩ ::
        ⟨.expect rt.builtins .module, .ok ()⟩ :: ⟨.newStr "__main__", .ok name⟩ ::
        ⟨.newDict [("__builtins__", rt.builtins), ("__name__", name)], .ok rt.globals⟩ :: later)

variable {σ : Type} [GuestState σ] {s : SessionId}

/-- A session has entered the guest, with a new dictionary of globals, no modules, and as output what was
written meanwhile. -/
structure Arrives (s : SessionId) (capture : Bool) (w w' : World σ) : Prop where
  runtime : ∃ rt, (w'.session s).runtime = some rt ∧ rt.modules = [] ∧
    ∃ tr, Runs w tr w' ∧ Provides s capture rt tr
  output : ∃ ws, Writes (OfStart s capture) w ws w' ∧ w'.captured s = w.captured s ++ said s ws

/-- Where `P` is known of what a computation gives, the trace tells what it asked. -/
theorem Lets.traced {α ε : Type} {P : (α : Type) → Request α → Prop} {Q : α → Prop}
    {x : ExceptT (Stop ε) (StateM (World σ)) α} (hx : Lets P x.run)
    (given : ∀ w a, (x.run w).1 = .ok a → Q a) :
    Traced x.run fun tr r => (∀ q ∈ tr, P q.α q.request) ∧ ∀ a, r = .ok a → Q a := by
  intro w
  obtain ⟨ws, writes⟩ := hx w
  obtain ⟨tr, run, meets⟩ := writes.runs
  exact ⟨tr, run, meets, given w⟩

theorem startSys_given (config : SessionConfig) (builtins globals : Ref) :
    ∀ (w : World σ) rt, ((startSys s config builtins globals).run w).1 = .ok rt →
      rt.builtins = builtins ∧ rt.globals = globals := by
  refine given_bind fun sys => given_bind fun _ => given_bind fun keywordCall => ?_
  refine given_bind fun previousOutput w rt given => ?_
  cases given
  exact ⟨rfl, rfl⟩

/-- **What a start that succeeds has asked.** -/
theorem traced_startRuntime (s : SessionId) (config : SessionConfig) :
    Traced (σ := σ) (startRuntime s config).run fun tr r =>
      ∀ rt, r = .ok rt → Provides s config.captureOutput rt tr := by
  refine (traced_importNow "builtins" (Q := fun tr r => ∀ builtins, r = .ok builtins →
    tr = [⟨.importModule "builtins", .ok builtins⟩, ⟨.expect builtins .module, .ok ()⟩])
    (fun m _ same => by cases same; rfl) (fun _ => nofun) fun _ _ => nofun).bindExcept
    (fun tr builtins loaded => ?_) fun _ _ _ => nofun
  cases loaded builtins rfl
  refine traced_requestThen _ (fun name => ?_) fun _ => nofun
  refine traced_requestThen _ (fun globals => ?_) fun _ => nofun
  refine ((lets_startSys s config builtins globals).traced
    (startSys_given config builtins globals)).mono fun tr r told rt started => ?_
  obtain ⟨rfl, rfl⟩ := told.2 rt started
  exact .made name tr told.1

/-- A session that has entered the guest lives on what its start has made. -/
theorem enterGuest_started {config : SessionConfig} {w : World σ} (known : s < w.sessions.length)
    (entered : (enterGuest s config w).1 = none) : ∃ rt, ((startRuntime s config).run w).1 = .ok rt ∧
      ((enterGuest s config w).2.session s).runtime = some rt ∧
      (enterGuest s config w).2.guest = ((startRuntime s config).run w).2.guest := by
  have asked := asks_startRuntime s config w
  rw [enterGuest, bind_apply] at entered ⊢
  cases hr : ((startRuntime s config).run w).1 with
  | ok rt =>
      have length : s < (rt.refs.foldl World.hold ((startRuntime s config).run w).2).sessions.length := by
        rw [World.sessions_holdAll, asked.length]
        exact known
      refine ⟨rt, rfl, ?_, World.guest_holdAll rt.refs _⟩
      exact congrArg SessionState.runtime (World.session_modifySession _ s _ length)
  | error e =>
      rw [hr] at entered
      cases e with
      | failed e => cases entered
      | panicked message => cases entered

/-- **A session that has entered the guest** has what the start has made. -/
theorem arrives_enterGuest {config : SessionConfig} {w : World σ} (known : s < w.sessions.length)
    (entered : (enterGuest s config w).1 = none) :
    Arrives s config.captureOutput w (enterGuest s config w).2 := by
  obtain ⟨ws, writes⟩ := writes_enterGuest s config w
  refine ⟨?_, ws, writes, writes.output known⟩
  obtain ⟨rt, started, runtime, guest⟩ := enterGuest_started known entered
  obtain ⟨tr, run, provides⟩ := traced_startRuntime s config w
  refine ⟨rt, runtime, startRuntime_modules s config w rt started, tr, ?_, provides rt started⟩
  rw [← List.append_nil tr]
  exact run.append (.stay guest)

/-! ### Directories on the search path -/

/-- A list of requests that has nothing to do with the search path. -/
def SparesPath (tr : List Asked) : Prop := ∀ q ∈ tr, q.request.sparesPath = true

/-- Directories are made and inserted into a list, the first one at a position and each later one at the
position behind. -/
inductive Inserting (list : Ref) : (position : Nat) → List String → List Asked → Prop
  | done (position : Nat) : Inserting list position [] []
  | next {position : Nat} {dir : String} {dirs : List String} {tr : List Asked} (d : Ref)
      (rest : Inserting list (position + 1) dirs tr) :
      Inserting list position (dir :: dirs)
        (⟨.newStr dir, .ok d⟩ :: ⟨.insert list position d, .ok ()⟩ :: tr)

/-- A start finds the list that is the search path. -/
def findingPath (sys list : Ref) : List Asked :=
  [⟨.importModule "sys", .ok sys⟩, ⟨.expect sys .module, .ok ()⟩, ⟨.getAttr sys "path", .ok list⟩,
    ⟨.expect list .list, .ok ()⟩]

/-- A start has inserted directories at the front of the search path, and has asked for nothing else that
has to do with it. -/
inductive Extends : List String → List Asked → Prop
  | none {tr : List Asked} (spares : SparesPath tr) : Extends [] tr
  | some {dirs : List String} {before during after : List Asked} (sys list : Ref) (earlier : SparesPath before)
      (inserting : Inserting list 0 dirs during) (later : SparesPath after) :
      Extends dirs (before ++ (findingPath sys list ++ (during ++ after)))

section

variable {list : Ref} {position : Nat} {dirs : List String} {tr tr' : List Asked}

theorem SparesPath.append (h : SparesPath tr) (h' : SparesPath tr') : SparesPath (tr ++ tr') := fun q hq =>
  (List.mem_append.mp hq).elim (h q) (h' q)

theorem sparesPath_findingPath (sys list : Ref) : SparesPath (findingPath sys list) := by
  simp [SparesPath, findingPath, Request.sparesPath, Request.isUpkeep]

/-- Directories are inserted after others. -/
theorem Inserting.split {xs ys : List String} (h : Inserting list position (xs ++ ys) tr) :
    ∃ first rest, tr = first ++ rest ∧ Inserting list position xs first ∧
      Inserting list (position + xs.length) ys rest := by
  induction xs generalizing position tr with
  | nil => exact ⟨[], tr, rfl, .done position, h⟩
  | cons x xs ih =>
      cases h with
      | next d rest =>
          obtain ⟨first, last, rfl, inserted, left⟩ := ih rest
          refine ⟨_ :: _ :: first, last, rfl, .next d inserted, ?_⟩
          rwa [List.length_cons, Nat.add_comm xs.length, ← Nat.add_assoc]

/-- Something else comes before. -/
theorem Extends.behind (spares : SparesPath tr) (h : Extends dirs tr') : Extends dirs (tr ++ tr') := by
  cases h with
  | none spares' => exact .none (spares.append spares')
  | some sys list earlier inserting later =>
      rw [← List.append_assoc]
      exact .some sys list (spares.append earlier) inserting later

end

/-! ### Searching a path -/

/-- What a search along a path comes to: the first answer that one of its directories gives. -/
def searched {β : Type} (offers : String → Option β) (p : List (Option String)) : Option β :=
  p.reduceOption.findSome? offers

section

variable {β : Type} {offers : String → Option β} {front later : List String} {dir : String}
  {p : List (Option String)}

/-- A search asks the directories in front, and then what comes behind them. -/
theorem searched_front (dirs : List String) (p : List (Option String)) :
    searched offers (dirs.map some ++ p) = (dirs.findSome? offers).or (searched offers p) := by
  have directories : (dirs.map some).filterMap id = dirs := by
    rw [List.filterMap_map]
    exact List.filterMap_some
  have append : (dirs.map some ++ p).reduceOption = dirs ++ p.reduceOption := by
    change (dirs.map some ++ p).filterMap id = dirs ++ p.filterMap id
    rw [List.filterMap_append, directories]
  rw [searched, append, List.findSome?_append, searched]

/-- A directory is asked before all that come behind it. -/
theorem searched_first {b : β} (found : offers dir = some b) (silent : ∀ e ∈ front, offers e = none) :
    searched offers ((front ++ dir :: later).map some ++ p) = some b := by
  rw [searched_front, List.findSome?_append, List.findSome?_eq_none_iff.mpr silent, Option.none_or,
    List.findSome?_cons, found, Option.some_or]

/-- Directories that have nothing leave a search to what comes behind them. -/
theorem searched_last {dirs : List String} (silent : ∀ e ∈ dirs, offers e = none) :
    searched offers (dirs.map some ++ p) = searched offers p := by
  rw [searched_front, List.findSome?_eq_none_iff.mpr silent, Option.none_or]

end

/-! ### What a start asks -/

section

/-- What spares the path asks for nothing that has to do with it. -/
theorem Lets.sparing {α ε : Type} {x : ExceptT (Stop ε) (StateM (World σ)) α}
    (hx : Lets (fun _ r => r.sparesPath = true) x.run) : Traced x.run fun tr _ => SparesPath tr :=
  (hx.traced (Q := fun _ => True) fun _ _ _ => trivial).mono fun _ _ told => told.1

/-- Something else comes before what extends the path. -/
theorem Lets.thenExtends {α β ε : Type} {x : ExceptT (Stop ε) (StateM (World σ)) α}
    {f : α → ExceptT (Stop ε) (StateM (World σ)) β} {dirs : List String}
    (hx : Lets (fun _ r => r.sparesPath = true) x.run)
    (hf : ∀ a, Traced (f a).run fun tr r => r.isOk = true → Extends dirs tr) :
    Traced (x >>= f).run fun tr r => r.isOk = true → Extends dirs tr :=
  hx.sparing.bindExcept (fun _ a spares => (hf a).mono fun _ _ told ok => (told ok).behind spares) nofun

theorem traced_insertPaths (list : Ref) (position : Nat) (dirs : List String) :
    Traced (σ := σ) (insertPaths list position dirs).run fun tr r =>
      r.isOk = true → Inserting list position dirs tr := by
  induction dirs generalizing position with
  | nil => exact .pure fun _ => .done position
  | cons dir dirs ih =>
      refine traced_requestThen _ (fun d => ?_) nofun
      refine traced_requestThen _ (fun () => ?_) nofun
      exact (ih (position + 1)).mono fun tr r told ok => .next d (told ok)

/-- The last part of a start, once the directories are on the path. -/
theorem lets_finish (s : SessionId) (config : SessionConfig) (builtins globals sys : Ref) :
    Lets (σ := σ) (fun _ r => r.sparesPath = true) (do
      let keywordCall ← request (.evaluate keywordCallSource)
      let previousOutput ← replaceOutput s sys config.captureOutput
      return (⟨config.scriptName, builtins, globals, [], keywordCall, previousOutput⟩ : Runtime) :
        Crossing σ Runtime).run := by
  refine (Lets.request rfl).bindExcept fun keywordCall => ?_
  refine Lets.bindExcept ?_ fun previousOutput => .pure _
  cases config.captureOutput with
  | false => exact .pure _
  | true =>
      have installs : Lets (σ := σ) (fun _ r => r.sparesPath = true) (installSink s sys).run :=
        (Lets.request rfl).bindExcept fun previous => (Lets.request rfl).bindExcept fun sink =>
          (Lets.request rfl).bindExcept fun _ => .pure _
      exact installs.bindExcept fun previous => .pure _

theorem traced_extendSearch (sys : Ref) (dirs : List String) :
    Traced (σ := σ) (extendSearch sys dirs).run fun tr r => r.isOk = true →
      dirs = [] ∧ tr = [] ∨ ∃ list during, Inserting list 0 dirs during ∧
        tr = ⟨.getAttr sys "path", .ok list⟩ :: ⟨.expect list .list, .ok ()⟩ :: during := by
  unfold extendSearch
  split
  · rename_i none
    exact .pure fun _ => .inl ⟨List.isEmpty_iff.mp none, rfl⟩
  · refine traced_requestThen _ (fun list => traced_requestThen _ (fun () => ?_) nofun) nofun
    exact (traced_insertPaths list 0 dirs).mono fun during r told ok =>
      .inr ⟨list, during, told ok, rfl⟩

/-- **What a start that succeeds has asked about the path**, whatever the guest answers. -/
theorem traced_extends (s : SessionId) (config : SessionConfig) :
    Traced (σ := σ) (startRuntime s config).run fun tr r =>
      r.isOk = true → Extends config.searchPaths tr := by
  refine (lets_importNow rfl fun _ => rfl).thenExtends fun builtins => ?_
  refine (Lets.request rfl).thenExtends fun name => (Lets.request rfl).thenExtends fun globals => ?_
  refine (traced_importNow "sys" (Q := fun tr r => ∀ sys, r = .ok sys →
    tr = [⟨.importModule "sys", .ok sys⟩, ⟨.expect sys .module, .ok ()⟩])
    (fun m _ same => by cases same; rfl) (fun _ => nofun) fun _ _ => nofun).bindExcept
    (fun loading sys loaded => ?_) nofun
  cases loaded sys rfl
  refine (traced_extendSearch sys config.searchPaths).bindExcept (fun searching _ searched => ?_) nofun
  refine (lets_finish s config builtins globals sys).sparing.mono fun after r later _ => ?_
  rcases searched rfl with ⟨none, rfl⟩ | ⟨list, during, inserting, rfl⟩
  · rw [none]
    exact .none (SparesPath.append (by simp [SparesPath, Request.sparesPath, Request.isUpkeep]) later)
  · exact Extends.some sys list (List.forall_mem_nil _) inserting later

/-! ### What becomes of the path -/

variable {V : Route σ} {p : List (Option String)} {w w' : World σ} {position : Nat}
  {dirs : List String} {tr tr' : List Asked}

/-- What the guest has made of a request, if that is all it was asked. -/
theorem Runs.asked {α : Type} {r : Request α} {a : Except Raised α} (run : Runs w [⟨r, a⟩] w') :
    ∃ held, (GuestState.perform held r w.guest).1 = a ∧
      w'.guest = (GuestState.perform held r w.guest).2.2 := by
  cases run with
  | @ask α w w₁ w' tr r same rest =>
      refine ⟨w₁.held, ?_, ?_⟩
      · rw [← same]
        rfl
      · rw [← same]
        exact rest.guest_of_nil.trans (World.guest_writes _ _)

theorem Route.Laws.keeps (laws : V.Laws) (run : Runs w tr w') (spares : SparesPath tr)
    (leads : V.Leads p w.guest) : V.Leads p w'.guest := by
  induction tr generalizing w with
  | nil => exact run.guest_of_nil ▸ leads
  | cons q tr ih =>
      obtain ⟨v, first, rest⟩ := run.uncons
      obtain ⟨held, -, guest⟩ := first.asked
      refine ih rest (fun q hq => spares q (List.mem_cons_of_mem _ hq)) ?_
      exact guest ▸ laws.kept (spares q List.mem_cons_self) held leads

variable (V) in
/-- What is relied on where directories are inserted: one that is made, and then put at a position, comes
to stand there. -/
def Route.Puts : Prop :=
  ∀ {w v w' : World σ} {dir : String} {d : Ref} {position : Nat} {p : List (Option String)},
    Runs w [⟨.newStr dir, .ok d⟩] v → Runs v [⟨.insert V.list position d, .ok ()⟩] w' →
    V.Leads p w.guest →
    V.Leads p v.guest ∧ V.Leads (p.take position ++ some dir :: p.drop position) w'.guest

theorem Route.Laws.puts (laws : V.Laws) : V.Puts := by
  intro w v w' dir d position p made put leads
  obtain ⟨held, answer, guest⟩ := made.asked
  have spelled : V.text v.guest d = some dir := guest ▸ laws.makes held leads.1 answer
  have between : V.Leads p v.guest := guest ▸ laws.kept rfl held leads
  obtain ⟨held, answer, guest⟩ := put.asked
  obtain ⟨sane, path⟩ := laws.inserts held position d between.1
  rw [answer, spelled, between.2] at path
  exact ⟨between, guest ▸ ⟨sane, path⟩⟩

/-- **What a run of insertions makes of the path**: what stood before the first position still does, the
directories follow in their order, and everything else comes behind them. -/
theorem Inserting.leads (puts : V.Puts) (inserting : Inserting V.list position dirs tr)
    (run : Runs w tr w') (within : position ≤ p.length) (leads : V.Leads p w.guest) :
    V.Leads (p.take position ++ (dirs.map some ++ p.drop position)) w'.guest := by
  induction inserting generalizing w p with
  | done position =>
      rw [List.map_nil, List.nil_append, List.take_append_drop, Route.Leads, run.guest_of_nil]
      exact leads
  | @next position dir dirs tr d rest ih =>
      obtain ⟨v, made, run⟩ := run.uncons
      obtain ⟨v', put, run⟩ := run.uncons
      have there := (puts made put leads).2
      -- the next position is within the longer path, so it is never moved to the end of it
      rw [List.map_cons, ← inserted_behind within]
      refine ih run ?_ there
      simp only [List.length_append, List.length_cons, List.length_take, List.length_drop]
      omega

/-- Directories are inserted at the front. -/
theorem Inserting.front (puts : V.Puts) (inserting : Inserting V.list 0 dirs tr) (run : Runs w tr w')
    (leads : V.Leads p w.guest) : V.Leads (dirs.map some ++ p) w'.guest := by
  have there := inserting.leads puts run (Nat.zero_le _) leads
  rwa [List.take_zero, List.nil_append, List.drop_zero] at there

/-- In a run a directory is inserted at the position behind those in `front`: they stand on the path
already, with `p` behind them, and the new one comes to stand between. -/
def Lands (V : Route σ) (w : World σ) (tr : List Asked) (w' : World σ) (front : List String)
    (dir : String) (p : List (Option String)) : Prop :=
  ∃ before d after v v', tr = before ++ ⟨.insert V.list front.length d, .ok ()⟩ :: after ∧
    Runs w before v ∧ Runs v [⟨.insert V.list front.length d, .ok ()⟩] v' ∧ Runs v' after w' ∧
    V.path v.guest = front.map some ++ p ∧ V.path v'.guest = front.map some ++ some dir :: p

/-- Something else is asked before and after. -/
theorem Lands.within {front : List String} {dir : String} {v v' : World σ} {before after : List Asked}
    (h : Lands V v tr v' front dir p) (first : Runs w before v) (last : Runs v' after w') :
    Lands V w (before ++ (tr ++ after)) w' front dir p := by
  obtain ⟨earlier, d, later, u, u', rfl, one, put, two, path, path'⟩ := h
  exact ⟨before ++ earlier, d, later ++ after, u, u', by simp, first.append one, put, two.append last,
    path, path'⟩

/-- **Where each directory lands**: right behind those before it. -/
theorem Inserting.lands (puts : V.Puts) {front later : List String} {dir : String}
    (inserting : Inserting V.list 0 (front ++ dir :: later) tr) (run : Runs w tr w')
    (leads : V.Leads p w.guest) : Lands V w tr w' front dir p := by
  obtain ⟨first, rest, rfl, inserted, left⟩ := inserting.split
  obtain ⟨u, one, run⟩ := run.split
  have ready := inserted.front puts one leads
  rw [Nat.zero_add] at left
  cases left with
  | @next _ _ _ after d left =>
      obtain ⟨v, made, run⟩ := run.uncons
      obtain ⟨v', put, run⟩ := run.uncons
      obtain ⟨before, behind⟩ := puts made put ready
      have length : (front.map some).length = front.length := List.length_map _
      rw [← length, List.take_left, List.drop_left] at behind
      exact ⟨first ++ [⟨.newStr dir, .ok d⟩], d, after, v, v', by simp, one.append made, put, run,
        before.2, behind.2⟩

/-- A start that finds the path finds the one list that it is. -/
theorem Route.Laws.finds (laws : V.Laws) {sys list : Ref} (run : Runs w (findingPath sys list) w')
    (leads : V.Leads p w.guest) : list = V.list := by
  obtain ⟨v₁, loading, run⟩ := run.uncons
  obtain ⟨v₂, checking, run⟩ := run.uncons
  obtain ⟨v₃, reading, -⟩ := run.uncons
  obtain ⟨held, answer, -⟩ := loading.asked
  obtain rfl : sys = V.sys := laws.loads held leads.1 answer
  have loaded := laws.keeps (loading.append checking)
    (by simp [SparesPath, Request.sparesPath, Request.isUpkeep]) leads
  obtain ⟨held, answer, -⟩ := reading.asked
  exact laws.reads held loaded.1 answer

end

end GuestBridge.Bridge
