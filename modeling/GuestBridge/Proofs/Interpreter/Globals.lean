import GuestBridge.Proofs.Interpreter.Sink

/-!
# The Globals of a New Session

The dictionary that the interpreter makes for a session that starts: it was not there before, and it has
two entries, the names that were asked for, with the values that were given. `globals_newNameDict` proves
it of every machine whose interned strings are in order.
-/

namespace GuestBridge.Guest

/-- The data of an object in a machine. -/
def Machine.data (m : Machine) (r : Ref) : Data := (m.heap.getD r.id default).data

/-- Every interned string is an object that is this string. -/
def Machine.Interned (m : Machine) : Prop :=
  ∀ t r, (t, r) ∈ m.interned → r.id < m.heap.size ∧ m.data r = .str t

/-- What is known of strings is still known. -/
structure Machine.KeepsStrings (m m' : Machine) : Prop where
  size : m.heap.size ≤ m'.heap.size
  strings : ∀ r t, r.id < m.heap.size → m.data r = .str t → m'.data r = .str t

/-- An entry gives a name a value. -/
structure Entry.Names (m : Machine) (e : Entry) (id : String) (v : Ref) : Prop where
  value : e.value = v
  hash : e.hash = textHash (Text.ofString id)
  known : e.key.id < m.heap.size
  key : m.data e.key = .str (Text.ofString id)

namespace Machine

variable {m m₁ m₂ : Machine}

theorem KeepsStrings.refl (m : Machine) : m.KeepsStrings m := ⟨Nat.le_refl _, fun _ _ _ h => h⟩

theorem KeepsStrings.trans (h : m.KeepsStrings m₁) (h' : m₁.KeepsStrings m₂) : m.KeepsStrings m₂ :=
  ⟨Nat.le_trans h.size h'.size, fun r t known is =>
    h'.strings r t (Nat.lt_of_lt_of_le known h.size) (h.strings r t known is)⟩

/-- A new object changes no other. -/
theorem data_push (m : Machine) (o : Object) {r : Ref} (known : r.id < m.heap.size) :
    ({ m with heap := m.heap.push o } : Machine).data r = m.data r := by
  simp [data, Array.getD, known, Nat.lt_succ_of_lt known, Array.getElem_push_lt]

theorem data_push_new (m : Machine) (o : Object) :
    ({ m with heap := m.heap.push o } : Machine).data ⟨m.heap.size⟩ = o.data := by
  simp [data, Array.getD]

theorem data_set_ne (m : Machine) {d r : Ref} (o : Object) (other : r ≠ d) :
    ({ m with heap := m.heap.set! d.id o } : Machine).data r = m.data r := by
  have ne : d.id ≠ r.id := fun same => other (by cases r; cases d; cases same; rfl)
  simp [data, Array.getD_eq_getD_getElem?, Array.set!_eq_setIfInBounds,
    Array.getElem?_setIfInBounds_ne ne]

theorem data_set (m : Machine) {d : Ref} (o : Object) (known : d.id < m.heap.size) :
    ({ m with heap := m.heap.set! d.id o } : Machine).data d = o.data := by
  simp [data, Array.getD_eq_getD_getElem?, Array.set!_eq_setIfInBounds, known]

theorem KeepsStrings.push (m : Machine) (o : Object) :
    m.KeepsStrings { m with heap := m.heap.push o } :=
  ⟨by simp, fun r t known is => (m.data_push o known).trans is⟩

/-- What is put in the place of a dictionary is in the place of no string. -/
theorem KeepsStrings.set {d : Ref} {es : List Entry} (o : Object) (data : m.data d = .dict es) :
    m.KeepsStrings { m with heap := m.heap.set! d.id o } := by
  refine ⟨by simp, fun r t known is => ?_⟩
  have other : r ≠ d := fun same => by
    rw [same, data] at is
    cases is
  exact (m.data_set_ne o other).trans is

theorem Interned.mono (i : m.Interned) (h : m.KeepsStrings m₁) (same : m₁.interned = m.interned) :
    m₁.Interned := fun t r there =>
  have ⟨known, is⟩ := i t r (same ▸ there)
  ⟨Nat.lt_of_lt_of_le known h.size, h.strings r t known is⟩

end Machine

theorem Entry.Names.mono {m m' : Machine} {e : Entry} {id : String} {v : Ref} (h : e.Names m id v)
    (kept : m.KeepsStrings m') : e.Names m' id v :=
  ⟨h.value, h.hash, Nat.lt_of_lt_of_le h.known kept.size, kept.strings _ _ h.known h.key⟩

/-! ### Putting a name into a dictionary -/

theorem entriesOf_eq {d : Ref} {es : List Entry} {m : Machine} (data : m.data d = .dict es) :
    entriesOf d m = .ok es m := by
  change (.ok ((m.data d).entries?.getD []) m : EStateM.Result Raised Machine (List Entry)) = _
  rw [data]
  rfl

theorem setEntries_eq {d : Ref} {es es' : List Entry} {m : Machine} (data : m.data d = .dict es) :
    setEntries d es' m = .ok () { m with
      heap := m.heap.set! d.id { (m.heap.getD d.id default) with data := .dict es' } } := by
  have put : setEntries d es' m = .ok () { m with
      heap := m.heap.set! d.id
        { (m.heap.getD d.id default) with data := (m.data d).withEntries es' } } := rfl
  rw [put, data]
  rfl

theorem dataOf_eq (r : Ref) (m : Machine) : dataOf r m = .ok (m.data r) m := rfl

/-- No entry has the hash of a text, so none has it as its key. -/
theorem findText_of_hash {t : Text} {h : Int} {es : List Entry} (other : ∀ e ∈ es, e.hash ≠ h)
    (m : Machine) : findText t h es m = .ok none m := by
  induction es with
  | nil => rfl
  | cons e es ih =>
      have differs : (e.hash == h) = false := beq_false_of_ne (other e List.mem_cons_self)
      rw [findText, differs]
      exact ih fun e' he' => other e' (List.mem_cons_of_mem e he')

theorem intern_eq {t : Text} (wide : narrowChar? t.points = none) (m : Machine) :
    intern t m = match m.interned.find? (·.1 == t) with
      | some (_, r) => .ok r m
      | none => .ok ⟨m.heap.size⟩ { m with
          heap := m.heap.push (.of .str (.str t)), interned := (t, ⟨m.heap.size⟩) :: m.interned } := by
  unfold intern
  rw [wide]
  change (match m.interned.find? fun e : Text × Ref => e.1 == t with
    | some (_, r) => (pure r : Exec Ref)
    | none => do
      let r ← alloc (.of .str (.str t))
      modify fun m : Machine => { m with interned := (t, r) :: m.interned }
      return r) m = _
  cases m.interned.find? fun e : Text × Ref => e.1 == t <;> rfl

/-- The one object of a string, if the string is no narrow character. -/
theorem intern_spec {t : Text} (wide : narrowChar? t.points = none) {m : Machine} (i : m.Interned) :
    ∃ r m', intern t m = .ok r m' ∧ r.id < m'.heap.size ∧ m'.data r = .str t ∧ m'.Interned ∧
      m.KeepsStrings m' ∧ ∀ d, d.id < m.heap.size → m'.data d = m.data d := by
  rw [intern_eq wide]
  cases found : m.interned.find? (·.1 == t) with
  | some entry =>
      obtain ⟨u, r⟩ := entry
      have met := List.find?_some found
      have same : u = t := eq_of_beq met
      have ⟨known, is⟩ := i u r (List.mem_of_find?_eq_some found)
      exact ⟨r, m, rfl, known, same ▸ is, i, .refl m, fun _ _ => rfl⟩
  | none =>
      have kept := Machine.KeepsStrings.push m (.of .str (.str t))
      have new := m.data_push_new (.of .str (.str t))
      refine ⟨_, _, rfl, by simp, new, fun u r there => ?_, ⟨kept.size, kept.strings⟩, fun d known =>
        m.data_push (.of .str (.str t)) known⟩
      rcases List.mem_cons.mp there with own | old
      · cases own
        exact ⟨by simp, new⟩
      · have ⟨known, is⟩ := i u r old
        exact ⟨Nat.lt_of_lt_of_le known kept.size, kept.strings r u known is⟩

/-- An entry that no other has the key of comes behind all entries of a dictionary. -/
theorem appendEntry_eq {d key value : Ref} {hash : Int} {es : List Entry} {m : Machine}
    (data : m.data d = .dict es) :
    appendEntry d hash key value m = .ok () { m with
      nextPlace := m.nextPlace + 1
      heap := m.heap.set! d.id
        { (m.heap.getD d.id default) with data := .dict (es ++ [⟨hash, key, value, m.nextPlace⟩]) } } := by
  let counted : Machine := { m with nextPlace := m.nextPlace + 1 }
  have there : counted.data d = .dict es := data
  refine (exec_bind (dataOf_eq d m)).trans ?_
  rw [data]
  change (modify (fun m' : Machine => { m' with nextPlace := m.nextPlace + 1 }) >>= fun _ =>
    entriesOf d >>= fun es => setEntries d (es ++ [⟨hash, key, value, m.nextPlace⟩])) m = _
  have counts : (modify (fun m' : Machine => { m' with nextPlace := m.nextPlace + 1 }) : Exec Unit) m =
      .ok () counted := rfl
  exact (exec_bind counts).trans ((exec_bind (entriesOf_eq there)).trans (setEntries_eq there))

/-- **A name that no entry has comes behind all entries.** -/
theorem putName_spec {d : Ref} {es : List Entry} {m : Machine} (id : String) (v : Ref)
    (wide : narrowChar? (Text.ofString id).points = none) (i : m.Interned)
    (known : d.id < m.heap.size) (data : m.data d = .dict es)
    (other : ∀ e ∈ es, e.hash ≠ textHash (Text.ofString id)) :
    ∃ e m', putName d id v m = .ok () m' ∧ m'.data d = .dict (es ++ [e]) ∧ e.Names m' id v ∧
      m'.Interned ∧ m.KeepsStrings m' := by
  obtain ⟨r, m₁, interned, known', is, i', kept, same⟩ := intern_spec wide i
  have data₁ : m₁.data d = .dict es := (same d known).trans data
  have put : putName d id v m = appendEntry d (textHash (Text.ofString id)) r v m₁ :=
    (exec_bind (entriesOf_eq data)).trans
      ((exec_bind (findText_of_hash other m)).trans (exec_bind interned))
  have known₁ : d.id < m₁.heap.size := Nat.lt_of_lt_of_le known kept.size
  have last := Machine.KeepsStrings.set { (m₁.heap.getD d.id default) with
    data := .dict (es ++ [⟨textHash (Text.ofString id), r, v, m₁.nextPlace⟩]) } data₁
  refine ⟨_, _, put.trans (appendEntry_eq data₁), m₁.data_set _ known₁, ?_, ?_, ?_⟩
  · exact ⟨rfl, rfl, Nat.lt_of_lt_of_le known' last.size, last.strings r _ known' is⟩
  · exact i'.mono ⟨last.size, last.strings⟩ rfl
  · exact kept.trans ⟨last.size, last.strings⟩

/-- **The dictionary of globals**: it is new, and holds two names with the values that were given. -/
theorem globals_newNameDict {m : Machine} (i : m.Interned) (builtins name : Ref) :
    ∃ e e' m', newNameDict [("__builtins__", builtins), ("__name__", name)] m =
        .ok ⟨m.heap.size⟩ m' ∧ m'.data ⟨m.heap.size⟩ = .dict [e, e'] ∧
      e.Names m' "__builtins__" builtins ∧ e'.Names m' "__name__" name := by
  let d : Ref := ⟨m.heap.size⟩
  let m₁ : Machine := { m with heap := m.heap.push (.of .dict (.dict [])) }
  have made : newDict m = .ok d m₁ := rfl
  have kept := Machine.KeepsStrings.push m (.of .dict (.dict []))
  have known : d.id < m₁.heap.size := by simp [d, m₁]
  obtain ⟨e, m₂, first, data₂, names, i₂, kept₂⟩ := putName_spec "__builtins__"
    builtins rfl (i.mono kept rfl) known (m.data_push_new _) nofun
  have differs : ∀ f ∈ [e], f.hash ≠ textHash (Text.ofString "__name__") := fun f hf => by
    rw [List.mem_singleton.mp hf, names.hash]
    decide +kernel
  obtain ⟨e', m₃, second, data₃, names', -, kept₃⟩ := putName_spec "__name__"
    name rfl i₂ (Nat.lt_of_lt_of_le known kept₂.size) data₂ differs
  refine ⟨e, e', m₃, ?_, data₃, names.mono kept₃, names'⟩
  refine (exec_bind made).trans ?_
  simp only [List.forIn_cons, List.forIn_nil, bind_assoc, pure_bind]
  exact (exec_bind first).trans (exec_bind second)

end GuestBridge.Guest
