import GuestBridge.Proofs.RoundTrip.Reading

/-!
# Reading a Picture

While nothing that is read changes, reading is a function. `Picture.read` is that function, of a picture
of the guest: the shapes of objects, and the numbers that they answer with. It follows the types of the
host and knows no state, no requests and no failures but `none`.

A guest shows a picture as far as reading looks if `Outlook.Legible` holds: dictionaries have their entries
in the order of their places, and code that runs when an object is asked for a number always answers alike
and changes nothing of the picture.

## Main results

* `finds_receive` — where a picture is legible, reading finds what the picture says, or finds that an object
  does not fit, and leaves the picture as it is.
-/

namespace GuestBridge.Bridge

open Guest (Ref Raised noneRef)

/-! ### Pictures -/

/-- A picture of a guest: what is known of its objects, and what they answer when they are asked for a
number; nothing where they raise. -/
structure Picture extends Objects where
  /-- The 64-bit pattern that an integer becomes. -/
  float : Ref → Option Nat
  /-- Whether an integer equals a floating-point number with a pattern. -/
  equals : Ref → Nat → Option Bool
  /-- The integer that an object stands for as a position. -/
  index : Ref → Option Int

namespace Picture

variable (p : Picture)

/-- The pattern that equals an integer. -/
def exact (r : Ref) : Option Nat := do
  let bits ← p.float r
  if p.equals r bits = some true then some bits else none

/-- The 64-bit pattern that an object is read as. -/
def float64 (r : Ref) : Option Nat :=
  match p.shape r with
  | some (.float bits) => some bits
  | some (.int _) => p.exact r
  | _ => none

/-- The 32-bit pattern that an object is read as. -/
def float32 (r : Ref) : Option UInt32 :=
  (p.float64 r).bind fun bits =>
    match p.shape r with
    | some (.int _) => narrow? true bits
    | _ => narrow? false bits

/-- The position that an object is read as. -/
def position (r : Ref) : Option (HostType.int .isize).Value :=
  (p.index r).elim none (fitting .isize)

/-- Whether a step is one. -/
def single (step : Ref) : Bool :=
  if step = noneRef then true else (p.position step).map (·.val) == some 1

/-- The start of a slice. -/
def start (start : Ref) : Option (HostType.int .isize).Value :=
  if start = noneRef then fitting .isize 0 else p.position start

/-- The bounds that an object is read as. -/
def range (r : Ref) : Option HostType.range.Value :=
  match p.shape r with
  | some (.range start stop step) =>
    match step == 1, fitting .isize start, fitting .isize stop with
    | true, some a, some b => some (a, b)
    | _, _, _ => none
  | some (.slice start stop step) =>
    if p.single step then
      (p.start start).bind fun a => (p.position stop).map fun b => (a, b)
    else none
  | _ => none

/-- Reads an object of the picture. -/
def read (cx : Context) : (t : HostType) → Ref → Option t.Value
  | .unit, r => if r = noneRef then some () else none
  | .bool, r => match p.shape r with
    | some (.bool b) => some b
    | _ => none
  | .int k, r => match p.shape r with
    | some (.int n) => fitting k n
    | _ => none
  | .bigInt, r => match p.shape r with
    | some (.int n) => some n
    | _ => none
  | .float32, r => p.float32 r
  | .float64, r => (p.float64 r).map UInt64.ofNat
  | .string, r => match p.shape r with
    | some (.text t) => t.toString?
    | _ => none
  | .char, r => match p.shape r with
    | some (.text t) => match t.toString?.map String.toList with
      | some [c] => some c
      | _ => none
    | _ => none
  | .bytes, r => match p.shape r with
    | some (.bytes bs) => some bs
    | _ => none
  | .option t, r => if r = noneRef then some none else (read cx t r).map some
  | .list t, r => match p.shape r with
    | some (.sequence items) => items.mapM (read cx t)
    | _ => none
  | .pair a b, r => match p.shape r with
    | some (.sequence [x, y]) => (read cx a x).bind fun u => (read cx b y).map fun v => (u, v)
    | _ => none
  | .triple a b c, r => match p.shape r with
    | some (.sequence [x, y, z]) => (read cx a x).bind fun u =>
      ((read cx b y).bind fun v => (read cx c z).map fun w => (v, w)).map fun q => (u, q)
    | _ => none
  | .map kind k t, r => match p.shape r with
    | some (.dict es) =>
      (es.mapM fun e => (read cx k e.2.1).bind fun x => (read cx t e.2.2).map fun y => (x, y)).map
        (HostType.collectEntries kind k)
    | _ => none
  | .range, r => p.range r
  | .handle, r => some ⟨r, cx.session, none⟩

end Picture

/-! ### States that show a picture -/

section

variable {σ : Type} (V : Outlook σ) {α : Type}

/-- The guest is ready, and what is known of its objects is so. -/
structure Outlook.Sees (o : Objects) (s : σ) : Prop where
  ready : V.Ready s
  known : o.Extends (V.objects s)

variable [GuestState σ]

/-- In every state that is seen, a request is answered by `a`, or raises if that is nothing, and what was
seen is seen after. -/
def Outlook.Settled (o : Objects) (r : Request α) (a : Option α) : Prop :=
  ∀ s, V.Sees o s → ∀ held, ∃ answer writes s',
    GuestState.perform held r s = (answer, writes, s') ∧ answer.toOption = a ∧ V.Sees o s'

/-- An integer answers as in the picture when it is asked for its floating-point number, and when it is
compared with one that has just been made. -/
structure Outlook.Numeric (p : Picture) (r : Ref) : Prop where
  float : V.Settled p.toObjects (.toFloat r) (p.float r)
  equals {o : Objects} {f : Ref} {bits : Nat} : p.toObjects.Extends o → o.shape f = some (.float bits) →
    V.Settled o (.equal r f) (p.equals r bits)

/-- An object is in the picture as far as reading it as a value of a type looks. -/
def Outlook.Legible (p : Picture) : HostType → Ref → Prop
  | .unit, _ | .handle, _ => True
  | .bool, r | .int _, r | .bigInt, r | .string, r | .char, r | .bytes, r => ∃ x, p.shape r = some x
  | .float32, r | .float64, r => ∃ x, p.shape r = some x ∧ ∀ n, x = .int n → V.Numeric p r
  | .option t, r => r = noneRef ∨ Outlook.Legible p t r
  | .list t, r => ∃ x, p.shape r = some x ∧ ∀ items, x = .sequence items →
    ∀ q ∈ items, Outlook.Legible p t q
  | .pair a b, r => ∃ x, p.shape r = some x ∧ ∀ q q', x = .sequence [q, q'] →
    Outlook.Legible p a q ∧ Outlook.Legible p b q'
  | .triple a b c, r => ∃ x, p.shape r = some x ∧ ∀ q q' q'', x = .sequence [q, q', q''] →
    Outlook.Legible p a q ∧ Outlook.Legible p b q' ∧ Outlook.Legible p c q''
  | .map _ k t, r => ∃ x, p.shape r = some x ∧ ∀ es, x = .dict es →
    es.Pairwise (fun e e' => e.1 < e'.1) ∧
      ∀ e ∈ es, Outlook.Legible p k e.2.1 ∧ Outlook.Legible p t e.2.2
  | .range, r => ∃ x, p.shape r = some x ∧ ∀ start stop step, x = .slice start stop step →
    ∀ q ∈ [start, stop, step], V.Settled p.toObjects (.toIndex q) (p.index q)

end

/-! ### Computations that find something -/

/-- How reading ends that finds something, or finds that an object does not fit. -/
def found {α : Type} : Option α → Except (Stop Unit) α
  | some a => .ok a
  | none => .error (.failed ())

/-- Wherever `o` is seen, reading finds `a`, and `o` is seen after. -/
def Outlook.Finds {σ : Type} (V : Outlook σ) (o : Objects) {α : Type} (x : Reading σ α) (a : Option α) :
    Prop :=
  ∀ w : World σ, V.Sees o w.guest → ∃ w', x.run.run w = (found a, w') ∧ V.Sees o w'.guest

/-- A request that is settled gets its answer, whatever the bridge holds. -/
theorem World.ask_of_settled {σ : Type} [GuestState σ] {V : Outlook σ} {o : Objects} {α : Type}
    (w : World σ) {r : Request α} {a : Option α} (settled : V.Settled o r a) (seen : V.Sees o w.guest) :
    ∃ answer w', w.ask r = (answer, w') ∧ answer.toOption = a ∧ V.Sees o w'.guest := by
  obtain ⟨answer, writes, s', answered, result, seen'⟩ := settled w.guest seen w.held
  obtain ⟨w', asked, rfl⟩ := World.ask_of_perform answered
  exact ⟨answer, w', asked, result, seen'⟩

namespace Outlook.Finds

variable {σ : Type} {V : Outlook σ} {o : Objects} {α β : Type}

theorem pure (a : α) : V.Finds o (Pure.pure a) (some a) := fun w seen => ⟨w, rfl, seen⟩

theorem unfit : V.Finds o (Bridge.unfit : Reading σ α) none := fun w seen => ⟨w, rfl, seen⟩

theorem bind {x : Reading σ α} {f : α → Reading σ β} {a : Option α} {g : α → Option β}
    (hx : V.Finds o x a) (hf : ∀ v, a = some v → V.Finds o (f v) (g v)) :
    V.Finds o (x >>= f) (a.bind g) := by
  intro w seen
  obtain ⟨w', first, seen'⟩ := hx w seen
  cases a with
  | some v =>
      obtain ⟨w'', second, seen''⟩ := hf v rfl w' seen'
      refine ⟨w'', ?_, seen''⟩
      change (ExceptT.bindCont f (x.run.run w).1).run (x.run.run w).2 = _
      rw [first]
      exact second
  | none =>
      refine ⟨w', ?_, seen'⟩
      change (ExceptT.bindCont f (x.run.run w).1).run (x.run.run w).2 = _
      rw [first]
      rfl

/-- What is known goes into what comes next. -/
theorem andThen {x : Reading σ α} {f : α → Reading σ β} {v : α} {b : Option β}
    (hx : V.Finds o x (some v)) (hf : V.Finds o (f v) b) : V.Finds o (x >>= f) b :=
  hx.bind (g := fun _ => b) fun _ same => Option.some.inj same ▸ hf

/-- What is found is turned into something else. -/
theorem turn {x : Reading σ α} {f : α → Reading σ β} {a : Option α} {g : α → β} (hx : V.Finds o x a)
    (hf : ∀ v, V.Finds o (f v) (some (g v))) : V.Finds o (x >>= f) (a.map g) := by
  rw [Option.map_eq_bind]
  exact hx.bind fun v _ => hf v

theorem map {x : Reading σ α} {a : Option α} (hx : V.Finds o x a) (f : α → β) :
    V.Finds o (x >>= fun v => Pure.pure (f v)) (a.map f) :=
  hx.turn fun v => .pure (f v)

/-- Two steps that cannot stop. -/
theorem steps {x : StateM (World σ) α} {f : α → StateM (World σ) β} {v : α} {b : β}
    (hx : V.Finds o (always x) (some v)) (hf : V.Finds o (always (f v)) (some b)) :
    V.Finds o (always (x >>= f)) (some b) :=
  hx.andThen (f := fun v => always (f v)) hf

theorem fits {x : StateM (World σ) (Option α)} {a : Option α} (hx : V.Finds o (always x) (some a)) :
    V.Finds o (Bridge.fits x) a := by
  refine hx.andThen ?_
  cases a with
  | some v => exact .pure v
  | none => exact .unfit

theorem discarding {x : Reading σ α} {a : Option α} {discard : StateM (World σ) Unit}
    (hd : ∀ w, (discard w).2.guest = w.guest) (hx : V.Finds o x a) :
    V.Finds o (Bridge.discarding discard x) a := by
  intro w seen
  obtain ⟨w', run, seen'⟩ := hx w seen
  have outcome : (Bridge.discarding discard x).run.run w =
      (afterReading discard (found a)).run.run w' := by
    rw [run_discarding]
    change (afterReading discard (x.run.run w).1).run.run (x.run.run w).2 = _
    rw [run]
  cases a with
  | some v => exact ⟨w', outcome, seen'⟩
  | none =>
      refine ⟨(discard w').2, outcome, ?_⟩
      rw [hd]
      exact seen'

theorem ifNone {r : Ref} {x y : Reading σ α} {a b : Option α} (hx : V.Finds o x a)
    (hy : r ≠ noneRef → V.Finds o y b) :
    V.Finds o (if r == noneRef then x else y) (if r = noneRef then a else b) := by
  by_cases h : r = noneRef
  · rw [if_pos (beq_iff_eq.mpr h), if_pos h]
    exact hx
  · rw [if_neg (mt beq_iff_eq.mp h), if_neg h]
    exact hy h

theorem readAll {read : Ref → Reading σ α} {f : Ref → Option α} {discard : α → StateM (World σ) Unit}
    (hd : ∀ a w, (discard a w).2.guest = w.guest) {rs : List Ref}
    (hread : ∀ r ∈ rs, V.Finds o (read r) (f r)) :
    V.Finds o (Bridge.readAll read discard rs) (rs.mapM f) := by
  induction rs with
  | nil => exact .pure []
  | cons r rs ih =>
      rw [List.mapM_cons]
      refine (hread r List.mem_cons_self).bind fun x _ => ?_
      have rest := ih fun q hq => hread q (List.mem_cons_of_mem r hq)
      exact (rest.discarding (hd x)).bind fun xs _ => .pure (x :: xs)

variable [GuestState σ]

/-- What comes after a request that is settled: after its answer, or after any exception. -/
theorem asking {r : Request α} {a : Option α} {f : Except Raised α → StateM (World σ) β} {b : β}
    (settled : V.Settled o r a)
    (hf : ∀ answer : Except Raised α, answer.toOption = a → V.Finds o (always (f answer)) (some b)) :
    V.Finds o (always (ask? r >>= f)) (some b) := by
  intro w seen
  obtain ⟨answer, w', asked, answered, seen'⟩ := w.ask_of_settled settled seen
  obtain ⟨w'', next, seen''⟩ := hf answer answered w' seen'
  refine ⟨w'', ?_, seen''⟩
  change (always (f (w.ask r).1)).run.run (w.ask r).2 = _
  rw [asked]
  exact next

theorem askOr {r : Request α} {a : Option α} (settled : V.Settled o r a) (f : α → β) (otherwise : β) :
    V.Finds o (always (Bridge.askOr r f otherwise)) (some (a.elim otherwise f)) := by
  refine asking settled fun answer answered => ?_
  subst answered
  cases answer with
  | ok v => exact .pure (f v)
  | error e => exact .pure otherwise

/-- What comes after a floating-point number has been made knows its object as well. -/
theorem making (laws : V.Builtins) {bits : Nat} {f : Except Raised Ref → StateM (World σ) β} {b : β}
    (hf : ∀ o' r, o.Extends o' → o'.shape r = some (.float bits) →
      V.Finds o' (always (f (.ok r))) (some b)) :
    V.Finds o (always (ask? (.newFloat bits) >>= f)) (some b) := by
  intro w seen
  obtain ⟨r, w', asked, made⟩ := w.ask_of_answers (laws.newFloat bits seen.ready)
  have known := seen.known.trans made.keeps.known
  obtain ⟨w'', next, seen''⟩ := hf _ r known made.shape w' ⟨made.keeps.ready, .refl _⟩
  refine ⟨w'', ?_, seen''.ready, known.trans seen''.known⟩
  change (always (f (w.ask (.newFloat bits)).1)).run.run (w.ask (.newFloat bits)).2 = _
  rw [asked]
  exact next

theorem shapeOf (laws : V.Builtins) {r : Ref} {x : Shape} (h : o.shape r = some x) :
    V.Finds o (always (Bridge.shapeOf r)) (some x) := by
  refine askOr (a := some x) (fun s seen held => ?_) id .other
  obtain ⟨y, writes, s', answered, rfl, same⟩ := laws.shape seen.ready (seen.known.shape h) held
  exact ⟨.ok y, writes, s', answered, rfl, same.ready, same.objects ▸ seen.known⟩

end Outlook.Finds

/-! ### Finding what is in the picture -/

/-- Keys and values are read in turn. -/
theorem mapM_pairs_cons {α β γ : Type} (f : γ → Option α) (g : γ → Option β) (e : γ) (es : List γ) :
    (e :: es).mapM (fun e => (f e).bind fun x => (g e).map fun y => (x, y)) =
      (f e).bind fun x => (g e).bind fun y =>
        (es.mapM fun e => (f e).bind fun x => (g e).map fun y => (x, y)).map ((x, y) :: ·) := by
  rw [List.mapM_cons]
  cases f e with
  | none => rfl
  | some x => cases g e <;> simp [Option.map_eq_bind]

section

variable {σ : Type} [GuestState σ] {V : Outlook σ} {p : Picture}

/-- An integer is made a floating-point number and compared with it. -/
theorem finds_readExact (laws : V.Builtins) {r : Ref} (numeric : V.Numeric p r) :
    V.Finds p.toObjects (always (readExact r)) (some (p.exact r)) := by
  refine Outlook.Finds.asking numeric.float fun answer float => ?_
  rw [Picture.exact, ← float]
  cases answer with
  | error e => exact .pure none
  | ok bits =>
      refine Outlook.Finds.making laws fun o f known shape => ?_
      refine Outlook.Finds.asking (numeric.equals known shape) fun answer equals => ?_
      change V.Finds o _ (some (if p.equals r bits = some true then some bits else none))
      rw [← equals]
      match answer with
      | .ok true => exact .pure (some bits)
      | .ok false | .error e => exact .pure none

/-- What is read of an object whose shape is in the picture goes by its shape. -/
theorem finds_by_shape {α : Type} (laws : V.Builtins) {r : Ref} {x : Shape} (known : p.shape r = some x)
    {f : Shape → Reading σ α} {a : Option α} (hf : V.Finds p.toObjects (f x) a) :
    V.Finds p.toObjects (always (shapeOf r) >>= f) a :=
  (Outlook.Finds.shapeOf laws known).andThen hf

theorem finds_readFloat64 (laws : V.Builtins) {r : Ref} {x : Shape} (known : p.shape r = some x)
    (numeric : ∀ n, x = .int n → V.Numeric p r) :
    V.Finds p.toObjects (always (readFloat64 r)) (some (p.float64 r)) := by
  refine (Outlook.Finds.shapeOf laws known).steps ?_
  rw [Picture.float64, known]
  match x with
  | .float bits => exact .pure (some bits)
  | .int n => exact finds_readExact laws (numeric n rfl)
  | .none | .bool _ | .text _ | .bytes _ | .sequence _ | .dict _ | .range _ _ _ | .slice _ _ _ | .other =>
      exact .pure none

theorem finds_readFloat32 (laws : V.Builtins) {r : Ref} {x : Shape} (known : p.shape r = some x)
    (numeric : ∀ n, x = .int n → V.Numeric p r) :
    V.Finds p.toObjects (always (readFloat32 r)) (some (p.float32 r)) := by
  refine (finds_readFloat64 laws known numeric).steps ?_
  rw [Picture.float32]
  cases p.float64 r with
  | none => exact .pure none
  | some bits =>
      refine (Outlook.Finds.shapeOf laws known).steps ?_
      rw [Option.bind_some, known]
      cases x <;> exact .pure _

theorem finds_readPosition {q : Ref} (settled : V.Settled p.toObjects (.toIndex q) (p.index q)) :
    V.Finds p.toObjects (always (readPosition q)) (some (p.position q)) :=
  Outlook.Finds.askOr settled _ _

theorem finds_isSingle {q : Ref} (settled : V.Settled p.toObjects (.toIndex q) (p.index q)) :
    V.Finds p.toObjects (always (isSingle q)) (some (p.single q)) := by
  rw [isSingle, Picture.single]
  by_cases h : q = noneRef
  · rw [if_pos (beq_iff_eq.mpr h), if_pos h]
    exact .pure true
  · rw [if_neg (mt beq_iff_eq.mp h), if_neg h]
    exact (finds_readPosition settled).steps (.pure _)

theorem finds_readStart {q : Ref} (settled : V.Settled p.toObjects (.toIndex q) (p.index q)) :
    V.Finds p.toObjects (always (readStart q)) (some (p.start q)) := by
  rw [readStart, Picture.start]
  by_cases h : q = noneRef
  · rw [if_pos (beq_iff_eq.mpr h), if_pos h]
    exact .pure _
  · rw [if_neg (mt beq_iff_eq.mp h), if_neg h]
    exact finds_readPosition settled

theorem finds_readRange (laws : V.Builtins) {r : Ref} (legible : V.Legible p .range r) :
    V.Finds p.toObjects (always (readRange r)) (some (p.range r)) := by
  obtain ⟨x, known, settled⟩ := legible
  refine (Outlook.Finds.shapeOf laws known).steps ?_
  rw [Picture.range, known]
  match x with
  | .range start stop step =>
      dsimp only
      cases step == 1 <;> cases fitting .isize start <;> cases fitting .isize stop <;> exact .pure _
  | .slice start stop step =>
      have answers := settled start stop step rfl
      refine (finds_isSingle (answers step (by simp))).steps ?_
      dsimp only
      cases p.single step with
      | false => exact .pure none
      | true =>
          refine (finds_readStart (answers start (by simp))).steps ?_
          rw [if_pos rfl]
          cases p.start start with
          | none => exact .pure none
          | some a => exact (finds_readPosition (answers stop (by simp))).steps (.pure _)
  | .none | .bool _ | .int _ | .float _ | .text _ | .bytes _ | .sequence _ | .dict _ | .other =>
      exact .pure none

theorem finds_entriesNow (laws : V.Builtins) {dict : Ref} {es : List (Nat × Ref × Ref)}
    (known : p.shape dict = some (.dict es)) :
    V.Finds p.toObjects (always (entriesNow dict)) (some es) :=
  (Outlook.Finds.shapeOf laws known).steps (.pure es)

/-- The entries of a dictionary in the picture are found in the order of their places. -/
theorem finds_readEntries {α β : Type} (before : List (Nat × Ref × Ref)) (laws : V.Builtins)
    {readKey : Ref → Reading σ α} {readValue : Ref → Reading σ β} {f : Ref → Option α} {g : Ref → Option β}
    {discardKey : α → StateM (World σ) Unit} {discardVal : β → StateM (World σ) Unit}
    (hk : ∀ x w, (discardKey x w).2.guest = w.guest) (hv : ∀ y w, (discardVal y w).2.guest = w.guest)
    {dict : Ref} {after : List (Nat × Ref × Ref)}
    (known : p.shape dict = some (.dict (before ++ after)))
    (growing : (before ++ after).Pairwise fun e e' => e.1 < e'.1)
    (hread : ∀ e ∈ after, V.Finds p.toObjects (readKey e.2.1) (f e.2.1) ∧
      V.Finds p.toObjects (readValue e.2.2) (g e.2.2)) :
    V.Finds p.toObjects
      (readEntries readKey readValue discardKey discardVal dict (before ++ after).length
        (after.length + 1) (lastPlace? before))
      (after.mapM fun e => (f e.2.1).bind fun x => (g e.2.2).map fun y => (x, y)) := by
  induction after generalizing before with
  | nil =>
      unfold readEntries
      refine Outlook.Finds.andThen (finds_entriesNow laws known) ?_
      rw [bne_self_eq_false, if_neg Bool.false_ne_true]
      dsimp only
      rw [find?_past growing]
      exact .pure []
  | cons e es ih =>
      obtain ⟨key, value⟩ := hread e List.mem_cons_self
      unfold readEntries
      refine Outlook.Finds.andThen (finds_entriesNow laws known) ?_
      rw [bne_self_eq_false, if_neg Bool.false_ne_true]
      dsimp only
      rw [find?_past growing, mapM_pairs_cons]
      refine Outlook.Finds.bind key fun x _ => Outlook.Finds.bind (value.discarding (hk x)) fun y _ => ?_
      have both (w : World σ) :
          ((do discardKey x; discardVal y : StateM (World σ) Unit) w).2.guest = w.guest :=
        (hv y _).trans (hk x w)
      refine Outlook.Finds.map (Outlook.Finds.discarding both ?_) ((x, y) :: ·)
      have sum : before ++ e :: es = before ++ [e] ++ es := List.append_cons before e es
      rw [sum] at known growing ⊢
      have last : lastPlace? (before ++ [e]) = some e.1 := by
        rw [lastPlace?, List.getLast?_concat, Option.map_some]
      rw [← last]
      exact ih _ known growing fun e he => hread e (List.mem_cons_of_mem _ he)

omit [GuestState σ] in
theorem finds_collectRead {o : Objects} (cx : Context) (kind : MapKind) {k t : HostType}
    (es : List (k.Value × t.Value)) :
    V.Finds o (always (collectRead cx kind k t es)) (some (HostType.collectEntries kind k es)) := by
  refine fun w seen => ⟨_, rfl, ?_⟩
  rw [World.guest_releaseAll]
  exact seen

/-- **Reading finds what the picture says**, or that an object does not fit, and changes nothing of the
picture. -/
theorem finds_receive (laws : V.Builtins) (cx : Context) {t : HostType} {r : Ref}
    (legible : V.Legible p t r) : V.Finds p.toObjects (receive cx t r) (p.read cx t r) := by
  have kept {t : HostType} (v : t.Value) (w : World σ) : (discardValue cx t v w).2.guest = w.guest :=
    w.guest_releaseAll _ _
  induction t generalizing r with
  | unit => exact Outlook.Finds.ifNone (.pure ()) fun _ => .unfit
  | bool | bigInt | bytes =>
      obtain ⟨x, known⟩ := legible
      refine finds_by_shape laws known ?_
      rw [Picture.read, known]
      cases x <;> first | exact .pure _ | exact .unfit
  | int k =>
      obtain ⟨x, known⟩ := legible
      refine finds_by_shape laws known ?_
      rw [Picture.read, known]
      cases x <;> first | exact Outlook.Finds.fits (.pure _) | exact .unfit
  | float32 =>
      obtain ⟨x, known, numeric⟩ := legible
      exact Outlook.Finds.fits (finds_readFloat32 laws known numeric)
  | float64 =>
      obtain ⟨x, known, numeric⟩ := legible
      exact Outlook.Finds.fits ((finds_readFloat64 laws known numeric).steps (.pure _))
  | string =>
      obtain ⟨x, known⟩ := legible
      refine finds_by_shape laws known ?_
      rw [Picture.read, known]
      cases x <;> first | exact Outlook.Finds.fits (.pure _) | exact .unfit
  | char =>
      obtain ⟨x, known⟩ := legible
      refine finds_by_shape laws known ?_
      rw [Picture.read, known]
      cases x with
      | text t =>
          dsimp only
          match t.toString?.map String.toList with
          | some [c] => exact .pure c
          | some [] | some (_ :: _ :: _) | none => exact .unfit
      | _ => exact .unfit
  | option t ih =>
      refine Outlook.Finds.ifNone (.pure none) fun something => ?_
      exact (ih (legible.resolve_left something)).map some
  | list t ih =>
      obtain ⟨x, known, items⟩ := legible
      refine finds_by_shape laws known ?_
      rw [Picture.read, known]
      cases x with
      | sequence rs => exact Outlook.Finds.readAll kept fun q hq => ih (items rs rfl q hq)
      | _ => exact .unfit
  | pair a b iha ihb =>
      obtain ⟨x, known, items⟩ := legible
      refine finds_by_shape laws known ?_
      rw [Picture.read, known]
      match x with
      | .sequence [q, q'] =>
          obtain ⟨first, second⟩ := items q q' rfl
          exact (iha first).bind fun u _ => ((ihb second).discarding (kept u)).map (u, ·)
      | .sequence [] | .sequence [_] | .sequence (_ :: _ :: _ :: _) | .none | .bool _ | .int _ | .float _
      | .text _ | .bytes _ | .dict _ | .range _ _ _ | .slice _ _ _ | .other => exact .unfit
  | triple a b c iha ihb ihc =>
      obtain ⟨x, known, items⟩ := legible
      refine finds_by_shape laws known ?_
      rw [Picture.read, known]
      match x with
      | .sequence [q, q', q''] =>
          obtain ⟨first, second, third⟩ := items q q' q'' rfl
          refine (iha first).bind fun u _ => ?_
          have rest := (ihb second).bind fun v _ => ((ihc third).discarding (kept v)).map (v, ·)
          exact (rest.discarding (kept u)).map (u, ·)
      | .sequence [] | .sequence [_] | .sequence [_, _] | .sequence (_ :: _ :: _ :: _ :: _) | .none
      | .bool _ | .int _ | .float _ | .text _ | .bytes _ | .dict _ | .range _ _ _ | .slice _ _ _
      | .other => exact .unfit
  | map kind k t ihk iht =>
      obtain ⟨x, known, entries⟩ := legible
      refine finds_by_shape laws known ?_
      rw [Picture.read, known]
      cases x with
      | dict es =>
          obtain ⟨growing, each⟩ := entries es rfl
          have read := finds_readEntries [] laws (kept (t := k)) (kept (t := t)) known growing
            fun e he => ⟨ihk (each e he).1, iht (each e he).2⟩
          exact read.turn fun es => finds_collectRead cx kind es
      | _ => exact .unfit
  | range => exact Outlook.Finds.fits (finds_readRange laws legible)
  | handle => exact fun w seen => ⟨_, rfl, seen⟩

end

end GuestBridge.Bridge
