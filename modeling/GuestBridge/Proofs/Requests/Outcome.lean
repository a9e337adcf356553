import GuestBridge.Proofs.Handles.Operation
import GuestBridge.Proofs.Requests.Faults

/-!
# How Operations End

`Operation.result` is an operation as the host sees it: it gives handles, fails with an error, or
panics. Asking a view or a cursor for its next element counts as failing where it gives an error.
Running an operation is running it for its result (`run_eq`).
-/

namespace GuestBridge.Bridge

open Guest (Ref)

variable {σ : Type} [GuestState σ]

/-- The next element of a view, or a failure. -/
def View.Next.orFail {V : Type} (handles : View.Next × V → List Handle) (p : View.Next × V) :
    Boundary σ (List Handle) :=
  match p.1 with
  | .failed e => throw (.failed e)
  | _ => return handles p

/-- An exception leaves a view as it is. -/
theorem View.step_failed {cx : Context} {it : Handle} {r : Ref} {w w' : World σ} {e : Error}
    {v : View} (h : View.step cx it r w = ((.failed e, v), w')) : v = ⟨some it⟩ := by
  rw [View.step, bind_apply] at h
  generalize View.pull cx r w = pulled at h
  obtain ⟨n, w''⟩ := pulled
  cases n <;> cases h
  rfl

omit [GuestState σ] in
theorem always_bind_pure {ε α β : Type} {y : StateM (World σ) α}
    {f : α → ExceptT (Stop ε) (StateM (World σ)) β} {g : α → β} (h : ∀ a, f a = pure (g a)) :
    always y >>= f = always (g <$> y) := by
  rw [funext h]
  rfl

/-- A cursor after its view has been asked for the next element. -/
def Cursor.after : View.Next × View → View.Next × Cursor
  | (.failed e, v) => (.failed e, ⟨v, true⟩)
  | (n, v) => (n, ⟨v, false⟩)

theorem Cursor.next_active {cx : Context} {ε : Type} {it : Handle} (own : it.session = cx.session) :
    (Cursor.next ⟨⟨some it⟩, false⟩ cx : ExceptT (Stop ε) (StateM (World σ)) _) =
      always (Cursor.after <$> View.step cx it it.object) := by
  simp only [Cursor.next, View.advance, Handle.bind_own own]
  refine always_bind_pure fun (n, v) => ?_
  cases n <;> rfl

namespace Operation

/-- How an operation ends for the host: with the handles of its outcome, with an error, or with a
panic. -/
def result (cx : Context) : Operation → Boundary σ (List Handle)
  | liveHandles => (fun _ => []) <$> always (Bridge.liveHandles cx)
  | globals => (fun h => [h]) <$> always (Bridge.globals cx)
  | builtins => (fun h => [h]) <$> always (Bridge.builtins cx)
  | none => (fun h => [h]) <$> always (noneHandle cx)
  | adopt r => (fun h => [h]) <$> always (acquire cx r)
  | toForeign v => (fun h => [h]) <$> Bridge.toForeign cx v
  | execute source result => Option.toList <$> Bridge.execute cx source result
  | evaluate expression => (fun h => [h]) <$> Bridge.evaluate cx expression
  | importModule name => (fun h => [h]) <$> Bridge.importModule cx name
  | importFrom module symbol => (fun h => [h]) <$> Bridge.importFrom cx module symbol
  | clone h => (fun g => [g]) <$> h.clone cx
  | typeName h => (fun (_, g) => [g]) <$> h.typeName cx
  | isNone h => (fun _ => []) <$> h.isNone cx
  | retention h => (fun _ => []) <$> h.retention cx
  | isTruthy h => (fun _ => []) <$> h.isTruthy cx
  | repr h => (fun _ => []) <$> h.repr cx
  | str h => (fun _ => []) <$> h.str cx
  | isInstance h cls => (fun _ => []) <$> h.isInstance cx cls
  | extract h t => (fun v => v.elim [] t.handles) <$> h.extract cx t
  | member h name => (fun g => [g]) <$> h.member cx name
  | hasMember h name => (fun _ => []) <$> h.hasMember cx name
  | setMember h name v => (fun _ => []) <$> h.setMember cx name v
  | call h args keywords => (fun g => [g]) <$> h.call cx args keywords
  | callMethod h name args keywords => (fun g => [g]) <$> h.callMethod cx name args keywords
  | subscript h key => (fun g => [g]) <$> h.subscript cx key
  | setSubscript h key new => (fun _ => []) <$> h.setSubscript cx key new
  | deleteSubscript h key => (fun _ => []) <$> h.deleteSubscript cx key
  | length h => (fun _ => []) <$> h.length cx
  | iterate h => View.handles <$> h.iterate cx
  | advance v => v.advance cx >>= View.Next.orFail View.advanced
  | next c => c.next cx >>= View.Next.orFail Cursor.advanced
  | newMapping => (fun m => [m.handle]) <$> Mapping.empty cx
  | containsKey m key => (fun _ => []) <$> m.containsKey cx key
  | getEntry m key => (fun g => [g]) <$> m.get cx key
  | setEntry m key new => (fun _ => []) <$> m.set cx key new
  | removeEntry m key => (fun _ => []) <$> m.remove cx key
  | keys m => id <$> m.keys cx
  | mappingLength m => (fun _ => []) <$> m.length cx
  | mappingIsEmpty m => (fun _ => []) <$> m.isEmpty cx
  | getElement s i => (fun g => [g]) <$> s.get cx i
  | setElement s i new => (fun _ => []) <$> s.set cx i new
  | push s new => (fun _ => []) <$> s.push cx new
  | sequenceLength s => (fun _ => []) <$> s.length cx
  | sequenceIsEmpty s => (fun _ => []) <$> s.isEmpty cx

/-- The handles that an operation leaves: those of its outcome or of its error, and after an error or
a panic those that it was to use. -/
def leaving (op : Operation) : Except (Stop Error) (List Handle) → List Handle
  | .ok hs => hs
  | .error (.failed e) => e.handles ++ op.used
  | .error (.panicked _) => op.used

variable {cx : Context}

omit [GuestState σ] in
/-- A computation that gives handles. -/
theorem outcome_eq {α : Type} {x : Boundary σ α} {made : α → List Handle} {op : Operation}
    (used : op.used = []) : outcome x made [] = op.leaving <$> (made <$> x).run := by
  funext w
  change (leaves made [] (x.run w).1, (x.run w).2) =
    (op.leaving ((made <$> x).run w).1, ((made <$> x).run w).2)
  have mapped : (made <$> x).run w = ((x.run w).1.map made, (x.run w).2) := by
    rw [ExceptT.run_map]
    rfl
  rw [mapped]
  rcases (x.run w).1 with (e | message) | a
  · simp [leaves, leaving, Except.map, used, HasHandles.handles]
  · simp [leaves, leaving, Except.map, used]
  · rfl

theorem run_typeName (h : Handle) : ((typeName h).run cx : StateM (World σ) _) =
    (typeName h).leaving <$> ((typeName h).result cx).run := by
  simp only [run, result, Handle.typeName]
  cases h.typeTag with
  | some name => rfl
  | none =>
      by_cases own : h.session = cx.session
      · simp only [Handle.bind_own own]
        rfl
      · simp only [Handle.bind_stranger own]
        rfl

omit [GuestState σ] in
/-- A computation that gives the next element of something. -/
theorem outcome_next {V : Type} {y : StateM (World σ) (View.Next × V)} {op : Operation}
    {handles : View.Next × V → List Handle} {kept : List Handle}
    (failed : ∀ w e, (y w).1.1 = .failed e → handles (y w).1 = e.handles ++ op.used) :
    outcome (always y) handles kept =
      op.leaving <$> (always y >>= View.Next.orFail handles : Boundary σ (List Handle)).run := by
  funext w
  have failed := failed w
  change (handles (y w).1, (y w).2) =
    (op.leaving <$> (View.Next.orFail handles (y w).1 : Boundary σ (List Handle)).run) (y w).2
  generalize y w = after at failed ⊢
  obtain ⟨⟨n, v⟩, w'⟩ := after
  cases n with
  | failed e => exact congrArg (·, w') (failed e rfl)
  | element h => rfl
  | ended => rfl

theorem run_advance (v : View) : ((advance v).run cx : StateM (World σ) _) =
    (advance v).leaving <$> ((advance v).result cx).run := by
  obtain ⟨_ | it⟩ := v
  · rfl
  simp only [run, result, View.advance]
  by_cases own : it.session = cx.session
  · rw [Handle.bind_own own]
    refine outcome_next fun w e failed => ?_
    rcases hs : View.step cx it it.object w with ⟨⟨n, v⟩, w'⟩
    rw [hs] at failed
    cases failed
    cases View.step_failed hs
    rfl
  · rw [Handle.bind_stranger own]
    rfl

theorem run_next (c : Cursor) : ((next c).run cx : StateM (World σ) _) =
    (next c).leaving <$> ((next c).result cx).run := by
  obtain ⟨⟨_ | it⟩, _ | _⟩ := c
  case some.false =>
    simp only [run, result]
    by_cases own : it.session = cx.session
    · rw [Cursor.next_active own]
      refine outcome_next fun w e failed => ?_
      change (Cursor.after (View.step cx it it.object w).1).1 = .failed e at failed
      change Cursor.advanced (Cursor.after (View.step cx it it.object w).1) = _
      rcases hs : View.step cx it it.object w with ⟨⟨n, v⟩, w'⟩
      rw [hs] at failed
      cases n <;> cases failed
      cases View.step_failed hs
      rfl
    · simp only [Cursor.next, View.advance, Handle.bind_stranger own]
      rfl
  all_goals rfl

/-- **Running an operation** is running it for its result. -/
theorem run_eq (op : Operation) :
    (op.run cx : StateM (World σ) _) = op.leaving <$> (op.result cx).run := by
  cases op with
  | liveHandles | globals | builtins | none | adopt => rfl
  | typeName h => exact run_typeName h
  | advance v => exact run_advance v
  | next c => exact run_next c
  | _ => exact outcome_eq rfl

end Operation

end GuestBridge.Bridge
