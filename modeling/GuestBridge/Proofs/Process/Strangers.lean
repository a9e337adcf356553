import GuestBridge.Proofs.Process.Jobs
import GuestBridge.Proofs.Requests.Classification
import GuestBridge.Proofs.Requests.Disguise
import GuestBridge.Proofs.Requests.Verdict

/-!
# Handles of Other Sessions Are Refused

An operation that is to work on a handle of another session gives no result. It panics where it comes
to that handle; what it does before is early, and the failure of an early step can be what it reports
instead. `Refused` says what is left of such an operation.

A job that comes to such a handle panics there. Whoever waits for the job is told so, and the owner of
the session goes on with the next job.

## Main results

* `Operation.result_of_first` — where a foreign handle is the first thing that an operation looks at,
  the operation is nothing but a panic.
* `Operation.refused` — every operation refuses the handles of other sessions.
* `System.stranger_refused` — what becomes of a job whose operation works on a foreign handle.
-/

namespace GuestBridge.Bridge

open Guest (Ref Raised)

/-! ### The handles of errors -/

theorem Translates.owns {cx : Context} {site : Site} {x : Raised} {tr : List Asked} {e : Error}
    (h : Translates cx site x tr e) : cx.Owns e.handles := by
  cases h with
  | compile | module | entry | iteration =>
      simp [Error.handles, Error.payload?, Error.traceback?, Context.handle]
  | foreign diagnosed unspecific tracebacks =>
      cases tracebacks with
      | bare => simp [Error.handles, Error.payload?, Error.traceback?, Context.handle]
      | made passed t =>
          cases t <;> simp [answered, Error.handles, Error.payload?, Error.traceback?, Context.handle]

theorem Refusal.owns {cx : Context} {q : Asked} {tr : List Asked} {e : Error}
    (h : Refusal cx q tr e) : cx.Owns e.handles := by
  cases h <;> simp [Error.handles, Error.payload?, Error.traceback?, Context.handle]

theorem Blames.owns {ρ : Rules} {cx : Context} {steps : List Step} {last : Step}
    {report : List Asked} {e : Error} (h : Blames ρ cx steps last report e) : cx.Owns e.handles := by
  cases h with
  | raised strict translates => exact translates.owns
  | tested no only translates => exact translates.owns
  | replaced earlier forgives translates => exact translates.owns
  | refused refuses refusal => exact refusal.owns

namespace Operation

variable {σ : Type} [GuestState σ] {cx : Context}

/-- The handle that an operation looks at before it does anything else. -/
def first? : Operation → Option Handle
  | clone h | typeName h | isNone h | retention h | isTruthy h | repr h | str h | isInstance h _
  | extract h _ | member h _ | hasMember h _ | call h _ _ | callMethod h _ _ _ | subscript h _
  | setSubscript h _ _ | deleteSubscript h _ | length h | iterate h => some h
  | advance v => v.iterator
  | next c => if c.failed then Option.none else c.view.iterator
  | getEntry m _ | setEntry m _ _ | removeEntry m _ | keys m | mappingLength m
  | mappingIsEmpty m => some m.handle
  | getElement s _ | setElement s _ _ | push s _ | sequenceLength s | sequenceIsEmpty s =>
      some s.handle
  | _ => Option.none

/-- **A foreign handle that an operation looks at first** makes it nothing but a panic. -/
theorem result_of_first {op : Operation} {h : Handle} (untagged : op.Untagged)
    (first : op.first? = some h) (stranger : h.session ≠ cx.session) :
    (op.result cx : Boundary σ (List Handle)) = panicWith strangerMessage := by
  cases op with
  | clone | isNone | retention | isTruthy | repr | str | isInstance | extract | member | hasMember
  | call | callMethod | subscript | setSubscript | deleteSubscript | length | iterate | getEntry
  | setEntry | removeEntry | keys | mappingLength | mappingIsEmpty | getElement | setElement | push
  | sequenceLength | sequenceIsEmpty =>
      cases first
      simp only [result, Handle.clone, Handle.isNone, Handle.retention, Handle.isTruthy, Handle.repr,
        Handle.str, Handle.isInstance, Handle.extract, Handle.member, Handle.hasMember, Handle.call,
        Handle.callMethod, Handle.subscript, Handle.setSubscript, Handle.deleteSubscript,
        Handle.length, Handle.iterate, Mapping.get, Mapping.set, Mapping.remove, Mapping.keys,
        Mapping.length, Mapping.isEmpty, Sequence.checkIndex, Sequence.get, Sequence.set,
        Sequence.push, Sequence.length, Sequence.isEmpty, Handle.bind_stranger stranger]
      rfl
  | typeName h =>
      cases first
      have asked : h.typeTag = Option.none := untagged
      simp only [result, Handle.typeName, asked, Handle.bind_stranger stranger]
      rfl
  | advance v =>
      obtain ⟨it⟩ := v
      cases first
      simp only [result, View.advance, Handle.bind_stranger stranger]
      rfl
  | next c =>
      obtain ⟨⟨it⟩, failed⟩ := c
      cases failed with
      | true => cases first
      | false =>
          cases first
          simp only [result, Cursor.next, View.advance, Handle.bind_stranger stranger]
          rfl
  | _ => cases first

theorem first_of_infallible {op : Operation} (infallible : op.canFail = false)
    (stranger : ¬ cx.Owns op.operands) : ∃ h, op.first? = some h ∧ h.session ≠ cx.session := by
  cases op with
  | clone h | typeName h | isNone h | retention h | extract h =>
      exact ⟨h, rfl, fun own => stranger (owns_one own)⟩
  | liveHandles | globals | builtins | none | adopt => exact absurd Context.owns_nil stranger
  | _ => cases infallible

/-- What is left of an operation that is to work on a handle of another session. -/
structure Refused (cx : Context) (op : Operation) (w : World σ) : Prop where
  /-- It gives no result: it panics, or reports the failure of a step. -/
  ends : ((op.result cx).run w).1 = .error (.panicked strangerMessage) ∨
    ∃ e, ((op.result cx).run w).1 = .error (.failed e) ∧ cx.Owns e.handles
  /-- All that it asks is asked by early steps, and a failure is that of the last of them. -/
  early : ∃ steps report, Runs w (asks steps ++ report) ((op.result cx).run w).2 ∧
    op.Verdict cx steps report ((op.result cx).run w).1 ∧ ∀ s ∈ steps, op.Early s
  /-- Where it looks at the foreign handle first, it does nothing at all. -/
  atOnce : ∀ h, op.first? = some h → h.session ≠ cx.session →
    (op.result cx).run w = (.error (.panicked strangerMessage), w)
  /-- After a panic there are no more handles than the host has had. -/
  left : ((op.result cx).run w).1 = .error (.panicked strangerMessage) → (op.run cx w).1 = op.used
  /-- It would have done and told the same for any other foreign handle. -/
  blind : ∀ f, cx.Disguises f → (op.exchange f).Untagged →
    ((op.exchange f).result cx).run w = (op.result cx).run w

/-- **Every operation refuses the handles of other sessions.** -/
theorem refused {op : Operation} (untagged : op.Untagged) (stranger : ¬ cx.Owns op.operands)
    (w : World σ) : op.Refused cx w := by
  have atOnce (h : Handle) (first : op.first? = some h) (other : h.session ≠ cx.session) :
      (op.result cx).run w = (.error (.panicked strangerMessage), w) := by
    rw [result_of_first untagged first other]
    rfl
  have left (panics : ((op.result cx).run w).1 = .error (.panicked strangerMessage)) :
      (op.run cx w).1 = op.used := by
    rw [run_eq]
    exact congrArg op.leaving panics
  have blind (f : Handle → Handle) (d : cx.Disguises f) (still : (op.exchange f).Untagged) :
      ((op.exchange f).result cx).run w = (op.result cx).run w := by
    rw [result_exchange d untagged still]
  cases fallible : op.canFail with
  | false =>
      obtain ⟨h, first, other⟩ := first_of_infallible fallible stranger
      have nothing := atOnce h first other
      refine ⟨.inl (congrArg Prod.fst nothing), ⟨[], [], ?_, ?_, fun _ hs => nomatch hs⟩, atOnce,
        left, blind⟩
      · rw [nothing]
        exact .refl w
      · rw [nothing]
        exact verdict_of_clean .nil nofun
  | true =>
      obtain ⟨tr, run, steps, report, rfl, ended⟩ := (op.keeps fallible : op.Keeps σ cx) w
      have early : ∀ s ∈ steps, op.Early s := fun s hs =>
        (ended.does s hs).early.resolve_right stranger
      refine ⟨?_, ⟨steps, report, run, verdict_of_ended ended, early⟩, atOnce, left, blind⟩
      generalize ((op.result cx).run w).1 = r at ended
      cases ended with
      | done clean own => exact absurd own stranger
      | panicked clean => exact .inl rfl
      | failed clean does blames => exact .inr ⟨_, rfl, blames.owns⟩

end Operation

end GuestBridge.Bridge

namespace GuestBridge.Session

open Bridge

variable {σ J R : Type}

/-- How a job ends that comes to a result. -/
def Ending.of : Except (Stop Error) R → Ending (Except Error R)
  | .ok r => .returned (.ok r)
  | .error (.failed e) => .returned (.error e)
  | .error (.panicked message) => .panicked message

namespace System

/-- The owner of a session carries out the job that it works on, and is done with it. -/
def carryOut (sys : System σ J (Except Error R)) (s : SessionId) (body : Boundary σ R) :
    Option (Option (Ending (Except Error R)) × System σ J (Except Error R)) :=
  let (r, world) := body.run sys.world
  { sys with world }.finish s (.of r)

/-- The owner of a session is done with a job, and all else is as before it began. -/
structure Continues (sys sys' : System σ J R) (s : SessionId) : Prop where
  idle : (sys'.control s).owner = .idle
  accepting : (sys'.control s).accepting = (sys.control s).accepting
  queue : (sys'.control s).queue = (sys.control s).queue

/-- It begins with the next job. -/
theorem Continues.takes {sys sys' : System σ J R} {s : SessionId} (c : sys.Continues sys' s)
    {ticket : Nat} {job : J} {rest : List (Nat × J)}
    (next : (sys.control s).queue = (ticket, job) :: rest) :
    ∃ sys'', sys'.take s = some (job, sys'') := by
  have lt : s < sys'.controls.length := lt_of_owner (by simp [c.idle])
  have received : sys'.receive s = some (sys'.modifyControl s fun c =>
      { c with owner := .taking ticket job, queue := rest }) := by
    simp only [receive, c.idle, c.queue, next]
  simp only [take, received, Option.bind_some, begin, control_modifyControl _ _ lt]
  exact ⟨_, rfl⟩

theorem carryOut_working {sys : System σ J (Except Error R)} {s : SessionId} {ticket : Nat} {job : J}
    (working : (sys.control s).owner = .working ticket job)
    (wanted : ticket ∈ (sys.control s).wanted) (body : Boundary σ R) :
    ∃ sys', sys.carryOut s body = some (none, sys') ∧ sys.Continues sys' s ∧
      sys'.world.guest = (body.run sys.world).2.guest ∧
      (sys'.wait s ticket).map Prod.fst = some (Ending.of (body.run sys.world).1).answer := by
  have lt : s < sys.controls.length := lt_of_owner (by simp [working])
  unfold carryOut
  generalize body.run sys.world = after
  obtain ⟨r, world⟩ := after
  have owner : (System.control { sys with world } s).owner = .working ticket job := working
  have waits : (System.control { sys with world } s).wanted.contains ticket = true :=
    List.contains_iff_mem.mpr wanted
  have done (f : Control J (Except Error R) → Control J (Except Error R)) :
      System.control ((System.modifyWorld { sys with world } fun w =>
        (Ending.of r).note w).modifyControl s f) s = f (sys.control s) :=
    control_modifyControl _ f lt
  simp only [finish, owner, waits, if_true]
  refine ⟨_, rfl, ?_, ?_, ?_⟩
  · constructor <;> rw [done]
  · rcases r with (_ | _) | _ <;> rfl
  · simp only [wait, collect, Option.map_map]
    rw [done]
    simp [Function.comp_def]

/-- **What becomes of a job that comes to a handle of another session.** The operation refuses the
handle, the job ends as the operation does, with nothing more asked of the guest, and the owner goes
on with the next job. -/
theorem stranger_refused [GuestState σ] {sys : System σ J (Except Error R)} {s : SessionId}
    {ticket : Nat} {job : J} (working : (sys.control s).owner = .working ticket job)
    (wanted : ticket ∈ (sys.control s).wanted) {op : Operation} (untagged : op.Untagged)
    (stranger : ¬ Context.Owns ⟨s⟩ op.operands) (rest : List Handle → Boundary σ R) :
    op.Refused ⟨s⟩ sys.world ∧
      ∃ sys', sys.carryOut s (op.result ⟨s⟩ >>= rest) = some (none, sys') ∧
        sys'.world.guest = ((op.result ⟨s⟩).run sys.world).2.guest ∧
        (((op.result ⟨s⟩).run sys.world).1 = .error (.panicked strangerMessage) →
          (sys'.wait s ticket).map Prod.fst = some (.error .jobPanicked)) ∧
        (∀ e, ((op.result ⟨s⟩).run sys.world).1 = .error (.failed e) →
          (sys'.wait s ticket).map Prod.fst = some (.ok (.error e))) ∧
        sys.Continues sys' s ∧
        ∀ ticket' job' queue, (sys.control s).queue = (ticket', job') :: queue →
          ∃ sys'', sys'.take s = some (job', sys'') := by
  have refused := Operation.refused untagged stranger sys.world
  obtain ⟨sys', carried, continues, guest, answer⟩ :=
    carryOut_working working wanted (op.result ⟨s⟩ >>= rest)
  have stops : ∃ e, ((op.result ⟨s⟩ : Boundary σ _).run sys.world).1 = .error e :=
    refused.ends.elim (fun panics => ⟨_, panics⟩) fun ⟨e, fails, _⟩ => ⟨_, fails⟩
  obtain ⟨e, stops⟩ := stops
  rw [run_bind_of_error (Prod.ext stops rfl)] at guest answer
  refine ⟨refused, sys', carried, guest, fun panics => ?_, fun e' fails => ?_, continues,
    fun _ _ _ next => continues.takes next⟩
  · cases stops.symm.trans panics
    exact answer
  · cases stops.symm.trans fails
    exact answer

/-! ### A handle that was kept -/

/-- The second session of a clerk works on a job; another job waits. -/
def second : System Clerk String (Except Error Unit) where
  world := { Clerk.world with sessions := [.fresh, .fresh] }
  claimed := true
  controls := [⟨.standard, false, .gone, [], 0, [], []⟩,
    ⟨.standard, true, .working 0 "first", [(1, "next")], 2, [1, 0], []⟩]

/-- A handle of the first session, whose type has been asked for. -/
def kept : Handle := ⟨Clerk.codeRef, 0, some "code"⟩

/-- The job of the second session asks for the text of an object of the first one. -/
theorem stranger_refused_kept :
    ∃ sys', second.carryOut 1 ((Operation.repr kept).result ⟨1⟩ >>= fun _ => pure ()) =
        some (none, sys') ∧
      (sys'.wait 1 0).map Prod.fst = some (.error .jobPanicked) ∧
      ∃ sys'', sys'.take 1 = some ("next", sys'') := by
  have foreign : ¬ Context.Owns ⟨1⟩ (Operation.repr kept).operands := by simp [Operation.operands, kept]
  obtain ⟨refused, sys', carried, -, panicked, -, -, takes⟩ :=
    @stranger_refused Clerk String Unit _ second 1 0 "first" rfl (by decide) (.repr kept) trivial
      foreign fun _ => pure ()
  exact ⟨sys', carried, panicked rfl, takes 1 "next" [] rfl⟩

/-- A call of something that cannot be called, with a foreign handle. -/
def callCode : Operation := .call ⟨Clerk.codeRef, 1, none⟩ [⟨.handle, kept⟩] []

/-- A foreign handle that keeps the name of its type tells it, and a call of something that cannot be
called is refused before its arguments are looked at. -/
theorem stranger_answered :
    ((kept.typeName ⟨1⟩ : Boundary Clerk _).run second.world).1 = .ok ("code", kept) ∧
      kept.session ≠ 1 ∧ kept ∈ callCode.operands ∧
      ∃ e, ((callCode.result ⟨1⟩).run second.world).1 = .error (.failed e) ∧
        e.kindName = "invalid_call" :=
  ⟨rfl, nofun, by simp [callCode, Operation.operands, passed, HostValue.handles, HostType.handles],
    _, rfl, rfl⟩

end System

end GuestBridge.Session
