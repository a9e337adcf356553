import GuestBridge.Guest.Method.Stream

/-!
# Writing to the Sink of a Session

What the method `write` of a sink does with its arguments. A text without surrogates is noted for the
session of the sink, and its code points are counted; anything else raises and leaves what was written
as it is. `SinkWrites` lists both; `sinkWrites` proves it of every call.

Everything else that happens on the way writes to no sink: it is `Plain`, or it `Refuses`, as the making
of exceptions does.
-/

namespace GuestBridge

namespace Text

/-- Whether a surrogate stands in a text. -/
def isBroken (t : Text) : Bool := t.points.any isSurrogate

/-! ### Texts that can be encoded -/

theorem encodePoints_of_whole (policy : EncodePolicy) (fuel place : Nat) (ps : List Nat)
    (whole : ps.any isSurrogate = false) :
    ∃ bs, encodePoints .utf8 policy fuel place ps = .ok bs := by
  induction ps generalizing fuel place with
  | nil => cases fuel <;> exact ⟨[], rfl⟩
  | cons p ps ih =>
      rw [List.any_cons, Bool.or_eq_false_iff] at whole
      cases fuel with
      | zero => exact ⟨[], rfl⟩
      | succ fuel =>
          obtain ⟨bs, rest⟩ := ih fuel (place + 1) whole.2
          have bytes : Encoding.utf8.bytes? p = some (Encoding.eightBit p) :=
            if_neg (by simp [whole.1])
          refine ⟨Encoding.eightBit p ++ bs, ?_⟩
          rw [encodePoints, bytes]
          simp only [rest]
          rfl

theorem encodePoints_of_broken (fuel place : Nat) (ps : List Nat) (enough : ps.length < fuel)
    (broken : ps.any isSurrogate = true) :
    ∃ f, encodePoints .utf8 (fun _ => none) fuel place ps = .error f := by
  induction ps generalizing fuel place with
  | nil => cases broken
  | cons p ps ih =>
      obtain ⟨fuel, rfl⟩ := Nat.exists_eq_succ_of_ne_zero (Nat.ne_of_gt (Nat.zero_lt_of_lt enough))
      cases surrogate : isSurrogate p with
      | true =>
          have bytes : Encoding.utf8.bytes? p = none := if_pos surrogate
          rw [encodePoints, bytes]
          exact ⟨_, rfl⟩
      | false =>
          have bytes : Encoding.utf8.bytes? p = some (Encoding.eightBit p) :=
            if_neg (by simp [surrogate])
          rw [List.any_cons, surrogate, Bool.false_or] at broken
          obtain ⟨f, rest⟩ := ih fuel (place + 1) (Nat.lt_of_succ_lt_succ enough) broken
          refine ⟨f, ?_⟩
          rw [encodePoints, bytes]
          simp only [rest]
          rfl

/-- The points of a list of characters show these characters. -/
theorem lossy_of_mapM {ps : List Nat} {cs : List Char} (whole : ps.mapM charOf? = some cs) :
    (⟨ps⟩ : Text).lossy.toList = cs ∧ ps.length = cs.length := by
  induction ps generalizing cs with
  | nil =>
      cases whole
      exact ⟨String.toList_ofList, rfl⟩
  | cons p ps ih =>
      rw [List.mapM_cons] at whole
      obtain ⟨c, first, whole⟩ := Option.bind_eq_some_iff.mp whole
      obtain ⟨cs', rest, whole⟩ := Option.bind_eq_some_iff.mp whole
      cases whole
      obtain ⟨shown, length⟩ := ih rest
      rw [lossy, String.toList_ofList] at shown ⊢
      rw [List.flatMap_cons, shown, first, List.length_cons, List.length_cons, length]
      exact ⟨rfl, rfl⟩

/-- What a text without surrogates shows is the text itself, character for character. -/
theorem lossy_of_toString? {t : Text} {u : String} (whole : t.toString? = some u) :
    t.lossy = u ∧ t.length = u.length := by
  obtain ⟨cs, points, rfl⟩ := Option.map_eq_some_iff.mp whole
  obtain ⟨shown, length⟩ := lossy_of_mapM points
  refine ⟨?_, by rw [Text.length, length, String.length_ofList]⟩
  rw [← shown, String.ofList_toList]

end Text

namespace Guest

/-! ### Computations that write to no sink -/

/-- A computation gives a value, and writes to no sink. -/
def Plain {α : Type} (x : Exec α) : Prop := ∀ m, ∃ a m', x m = .ok a m' ∧ m'.writes = m.writes

/-- A computation raises, and writes to no sink. -/
def Refuses {α : Type} (x : Exec α) : Prop := ∀ m, ∃ e m', x m = .error e m' ∧ m'.writes = m.writes

section

variable {α β : Type} {x : Exec α}

/-- What follows goes on from where a computation has got to. -/
theorem exec_bind {f : α → Exec β} {a : α} {m m' : Machine} (first : x m = .ok a m') :
    (x >>= f) m = f a m' := by
  change EStateM.bind x f m = _
  rw [EStateM.bind, first]

theorem Plain.pure (a : α) : Plain (Pure.pure a : Exec α) := fun m => ⟨a, m, rfl, rfl⟩

theorem Plain.bind {f : α → Exec β} (hx : Plain x) (hf : ∀ a, Plain (f a)) : Plain (x >>= f) := by
  intro m
  obtain ⟨a, m₁, first, same⟩ := hx m
  obtain ⟨b, m₂, second, same'⟩ := hf a m₁
  exact ⟨b, m₂, (exec_bind first).trans second, same'.trans same⟩

/-- What follows a plain computation decides how it ends. -/
theorem Plain.refuses {f : α → Exec β} (hx : Plain x) (hf : ∀ a, Refuses (f a)) :
    Refuses (x >>= f) := by
  intro m
  obtain ⟨a, m₁, first, same⟩ := hx m
  obtain ⟨e, m₂, second, same'⟩ := hf a m₁
  exact ⟨e, m₂, (exec_bind first).trans second, same'.trans same⟩

theorem Refuses.bind {f : α → Exec β} (hx : Refuses x) : Refuses (x >>= f) := by
  intro m
  obtain ⟨e, m', raised, same⟩ := hx m
  refine ⟨e, m', ?_, same⟩
  change EStateM.bind x f m = _
  rw [EStateM.bind, raised]

/-! #### The parts of a call -/

theorem plain_alloc (o : Object) : Plain (alloc o) := fun _ => ⟨_, _, rfl, rfl⟩

theorem plain_dataOf (r : Ref) : Plain (dataOf r) := fun _ => ⟨_, _, rfl, rfl⟩

theorem plain_newInt (n : Int) : Plain (newInt n) := by
  unfold newInt
  split
  · exact .pure _
  · exact plain_alloc _

theorem plain_newText (t : Text) : Plain (newText t) := by
  unfold newText
  split
  · exact .pure _
  · exact plain_alloc _

theorem plain_newTuple (items : List Ref) : Plain (newTuple items) := by
  unfold newTuple
  split
  · exact .pure _
  · exact plain_alloc _

theorem plain_errorFields (k : ErrorKind) (args : List Ref) : Plain (errorFields k args) := by
  unfold errorFields
  dsimp only
  repeat' split
  all_goals first
    | exact .pure _
    | exact (plain_newTuple _).bind fun _ => .pure _
    | exact (plain_dataOf _).bind fun d => by cases d <;> exact .pure _

theorem plain_newError (k : ErrorKind) (args : List Ref) : Plain (newError k args) :=
  have looks : Plain (get : Exec Machine) := fun m => ⟨m, m, rfl, rfl⟩
  looks.bind fun _ => (plain_errorFields k args).bind fun _ => plain_alloc _

theorem plain_typeNameOf (r : Ref) : Plain (typeNameOf r) := by
  have looks : Plain (classOf r) := fun _ => ⟨_, _, rfl, rfl⟩
  refine looks.bind fun c => ?_
  cases c with
  | builtin k => exact .pure _
  | user u => exact (plain_dataOf u).bind fun d => by cases d <;> exact .pure _

theorem refuses_raiseRef (r : Ref) : Refuses (raiseRef r : Exec α) :=
  (plain_dataOf r).refuses fun _ m => ⟨_, m, rfl, rfl⟩

theorem refuses_raiseError (k : ErrorKind) (message : String) :
    Refuses (raiseError k message : Exec α) :=
  (plain_newText _).refuses fun _ => (plain_newError k _).refuses fun r => refuses_raiseRef r

theorem refuses_raiseCoding (k : ErrorKind) (encoding : String) (object : Ref)
    (f : Text.CodingFault) : Refuses (raiseCoding k encoding object f : Exec α) :=
  (plain_newText _).refuses fun _ => (plain_newInt _).refuses fun _ =>
    (plain_newInt _).refuses fun _ => (plain_newText _).refuses fun _ =>
      (plain_newError k _).refuses fun r => refuses_raiseRef r

end

/-- A text without surrogates can be encoded, and nothing changes. -/
theorem encodeWith_of_whole {t : Text} (whole : t.isBroken = false) :
    ∃ bs, encodeWith "utf-8" "strict" t = pure bs := by
  obtain ⟨bs, encoded⟩ :=
    Text.encodePoints_of_whole (fun _ => none) (t.length + 1) 0 t.points whole
  have known : Text.Encoding.ofName? "utf-8" = some .utf8 := by rfl
  refine ⟨Text.Encoding.utf8.mark ++ bs, ?_⟩
  rw [encodeWith, known]
  simp only [Text.encode, encoded]
  rfl

theorem refuses_encodeWith {t : Text} (broken : t.isBroken = true) :
    Refuses (encodeWith "utf-8" "strict" t) := by
  obtain ⟨f, fails⟩ :=
    Text.encodePoints_of_broken (t.length + 1) 0 t.points (Nat.lt_succ_self _) broken
  have known : Text.Encoding.ofName? "utf-8" = some .utf8 := by rfl
  have policy : Text.encodePolicy? .utf8 "strict" = some fun _ => none := by rfl
  have refused : Text.encode .utf8 (fun _ => none) t = .error f := by
    rw [Text.encode, fails]
    rfl
  rw [encodeWith, known]
  simp only [refused, policy]
  exact (plain_newText t).refuses fun r => refuses_raiseCoding _ _ r f

/-! ### The method -/

/-- A call names one object to be written, or it is refused. -/
theorem sinkArgument_cases (a : Args) :
    (∃ r, sinkArgument a = pure r) ∨ Refuses (sinkArgument a) := by
  unfold sinkArgument
  dsimp only
  split
  · exact .inr (refuses_raiseError _ _).bind
  · split
    · exact .inr (refuses_raiseError _ _).bind
    · split
      · exact .inr (refuses_raiseError _ _)
      · exact .inl ⟨_, rfl⟩
      · exact .inl ⟨_, rfl⟩
      · exact .inr (refuses_raiseError _ _)

/-- The text of an object, if it is one. -/
def heldText? (m : Machine) (r : Ref) : Option Text :=
  match (m.heap.getD r.id default).data with
  | .str t => some t
  | _ => none

theorem text?_eq (r : Ref) (m : Machine) : text? r m = .ok (heldText? m r) m := by
  unfold heldText?
  change (match (m.heap.getD r.id default).data with
    | .str t => (Pure.pure (some t) : Exec (Option Text))
    | _ => Pure.pure none) m = _
  cases (m.heap.getD r.id default).data <;> rfl

/-- The text that a call gives to the sink, if it gives one. -/
def givenText? (a : Args) (m : Machine) : Option Text :=
  match sinkArgument a m with
  | .ok r _ => heldText? m r
  | .error _ _ => none

/-- What a call of `write` of the sink of a session does. -/
structure SinkWrites [Ops] (s : Nat) (a : Args) (m : Machine) : Prop where
  /-- A text without surrogates is noted, and what is given back is the number of its code points. -/
  written : ∀ t, givenText? a m = some t → t.isBroken = false → ∃ n m',
    sinkMethod s "write" a m = .ok n m' ∧ m'.writes = (s, t.lossy) :: m.writes ∧
      newInt t.length { m with writes := (s, t.lossy) :: m.writes } = .ok n m'
  /-- What is noted is the text, character for character. -/
  faithful : ∀ t u, givenText? a m = some t → t.toString? = some u →
    t.lossy = u ∧ t.length = u.length
  /-- Any other call raises, and notes nothing. -/
  refused : (∀ t, givenText? a m = some t → t.isBroken = true) → ∃ e m',
    sinkMethod s "write" a m = .error e m' ∧ m'.writes = m.writes

/-- What is done with the object that a call names. -/
theorem sinkMethod_write [Ops] {s : Nat} {a : Args} {r : Ref} (named : sinkArgument a = pure r)
    (m : Machine) :
    sinkMethod s "write" a m = (match heldText? m r with
      | none => (do
          typeError ("argument 'text': '" ++ (← typeNameOf r) ++
            "' object cannot be cast as 'str'") : Exec Ref)
      | some t => (do
          discard <| encodeWith "utf-8" "strict" t
          modify fun m : Machine => { m with writes := (s, t.lossy) :: m.writes }
          newInt t.length : Exec Ref)) m := by
  change (sinkArgument a >>= _) m = _
  rw [named, pure_bind]
  refine (exec_bind (text?_eq r m)).trans ?_
  cases heldText? m r <;> rfl

/-- **Writing to a sink**, whatever the arguments are. -/
theorem sinkWrites [Ops] (s : Nat) (a : Args) (m : Machine) : SinkWrites s a m where
  faithful _ _ _ whole := Text.lossy_of_toString? whole
  written t given whole := by
    obtain ⟨bs, encodes⟩ := encodeWith_of_whole whole
    obtain ⟨n, m', counted, same⟩ :=
      plain_newInt t.length { m with writes := (s, t.lossy) :: m.writes }
    refine ⟨n, m', ?_, same, counted⟩
    rcases sinkArgument_cases a with ⟨r, named⟩ | refuses
    · have held : heldText? m r = some t := by
        rw [givenText?, named] at given
        exact given
      rw [sinkMethod_write named, held]
      simp only [encodes]
      exact counted
    · obtain ⟨e, m₁, raised, -⟩ := refuses m
      rw [givenText?, raised] at given
      cases given
  refused broken := by
    rcases sinkArgument_cases a with ⟨r, named⟩ | refuses
    · rw [sinkMethod_write named]
      cases held : heldText? m r with
      | none => exact (plain_typeNameOf r).refuses (fun _ => refuses_raiseError _ _) m
      | some t =>
          have given : givenText? a m = some t := by
            rw [givenText?, named]
            exact held
          exact (refuses_encodeWith (broken t given)).bind.bind m
    · exact refuses.bind m

end Guest

end GuestBridge
