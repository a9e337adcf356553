import GuestBridge.Proofs.Mappings.Exceptions

/-!
# Which Objects Have a Length

Whether an object has a length is asked of its type: there is none if looking up `__len__` on the type
raises the exception for a missing attribute. Otherwise the guest is asked for the length, and every
other exception is reported as it is (`Handle.LengthReport`).

`Classes` says what the guest does with classes: a class inherits from others in an order, itself first,
and an attribute of a class is looked up in that order and then in the order of the class's own class,
its metaclass. So a class whose metaclass defines `__len__` seems to give its objects a length. They
have none, and that is reported as a failure.

## Main statements

* `Handle.length_reported` — what is reported, by the answers of the guest and by the classes of an
  object.
* `Handle.length_under_metaclass` — an object without a length for which that is reported as a failure.
-/

namespace GuestBridge.Bridge

open Guest (Ref Raised)

variable {σ : Type}

/-! ### Classes -/

/-- A way to look at a guest that knows classes: of which class an object is, which classes a class
inherits from, in order and itself first, and which names a class defines by itself. -/
structure Classes (σ : Type) where
  Ready : σ → Prop
  classOf : σ → Ref → Ref
  order : σ → Ref → List Ref
  defines : σ → Ref → String → Bool

namespace Classes

variable (V : Classes σ)

/-- Whether a class, or one that it inherits from, defines a name. -/
def offers (s : σ) (c : Ref) (name : String) : Bool := (V.order s c).any fun b => V.defines s b name

/-- The guest is ready, and its classes are the same. -/
structure Same (s s' : σ) : Prop where
  ready : V.Ready s'
  classOf : V.classOf s' = V.classOf s
  order : V.order s' = V.order s
  defines : V.defines s' = V.defines s

/-- What the bridge relies on where it looks at the class of an object. No class refuses to be looked
at. -/
structure Laws [GuestState σ] : Prop where
  typeOf {s : σ} {r : Ref} : V.Ready s → Answers s (.typeOf r) fun c s' => c = V.classOf s r ∧ V.Same s s'
  /-- What a class offers, or its metaclass, is an attribute of the class. -/
  found {s : σ} {r c : Ref} {name : String} : V.Ready s → V.classOf s r = c →
    V.offers s c name ∨ V.offers s (V.classOf s c) name → Answers s (.getAttr c name) fun _ s' => V.Same s s'
  missing {s : σ} {r c : Ref} {name : String} : V.Ready s → V.classOf s r = c → V.offers s c name = false →
    V.offers s (V.classOf s c) name = false → Raises s (.getAttr c name) fun e s' => V.Same s s' ∧
      Answers s' (.belongs e.value (.error .attributeError)) fun b s'' => b = true ∧ V.Same s' s''
  /-- Only what the class offers gives an object a length. -/
  noLength {s : σ} {r : Ref} : V.Ready s → V.offers s (V.classOf s r) "__len__" = false →
    Raises s (.length r) fun _ s' => V.Same s s'

variable {V} {s s' s'' : σ}

theorem Same.refl (ready : V.Ready s) : V.Same s s := ⟨ready, rfl, rfl, rfl⟩

theorem Same.trans (first : V.Same s s') (second : V.Same s' s'') : V.Same s s'' :=
  ⟨second.ready, second.classOf.trans first.classOf, second.order.trans first.order,
    second.defines.trans first.defines⟩

theorem Same.offers (same : V.Same s s') : V.offers s' = V.offers s := by
  funext c name
  rw [Classes.offers, same.order, same.defines, Classes.offers]

end Classes

/-! ### Asking for an attribute -/

variable [GuestState σ] {cx : Context} {site : Site} {w w₁ w₂ : World σ} {r : Ref} {name : String}
  {e : Raised}

/-- An exception is reported as it is, if it is of no particular meaning where it was raised. -/
theorem failure_length (cx : Context) (e : Raised) (w : World σ) : ∃ traceback d,
    (failure cx .length e w).1 = .foreignException (cx.handle e.value) traceback d :=
  ⟨_, _, rfl⟩

theorem run_perform_of_raised {α : Type} {q : Request α} (asked : w.ask q = (.error e, w₁)) (cx : Context)
    (site : Site) : (perform cx site q).run w =
      (.error (.failed (failure cx site e w₁).1), (failure cx site e w₁).2) := by
  have raised : (request q).run w = (.error (.failed e), w₁) := by
    rw [run_request, asked]
    rfl
  exact run_orError_of_failed raised cx site

namespace Handle

theorem run_hasAttr_of_ok {a : Ref} (asked : w.ask (.getAttr r name) = (.ok a, w₁)) :
    (hasAttr cx site r name).run w = (.ok true, w₁) := by
  rw [hasAttr, run_always_bind, ask?, asked]
  rfl

theorem run_hasAttr_of_raised (asked : w.ask (.getAttr r name) = (.error e, w₁)) :
    (hasAttr cx site r name).run w =
      if (isRaised e .attributeError w₁).1 then (.ok false, (isRaised e .attributeError w₁).2)
      else (failWith cx site e).run (isRaised e .attributeError w₁).2 := by
  rw [hasAttr, run_always_bind, ask?, asked]
  dsimp only
  rw [run_always_bind]
  split <;> rfl

/-! ### What is reported -/

variable {h : Handle}

/-- What is reported of the length of an object, by what comes out of looking up `__len__` on its type
and by the world after that. -/
structure LengthReport (cx : Context) (h : Handle) (found : Except Raised Ref) (w₂ : World σ)
    (result : Except (Stop Error) (Option Nat)) (w' : World σ) : Prop where
  /-- There is none exactly if that raised the exception for a missing attribute. -/
  none_iff : result = .ok none ↔ ∃ e, found = .error e ∧ (isRaised e .attributeError w₂).1 = true
  /-- It is what the guest answers for the length. -/
  some_iff {n : Nat} : result = .ok (some n) ↔ (∃ a, found = .ok a) ∧ (w₂.ask (.length h.object)).1 = .ok n
  /-- Every other exception is reported, whichever of the two raised it, and nothing else is. -/
  failed_iff : (∃ stop, result = .error stop) ↔ ∃ e,
    (found = .error e ∧ (isRaised e .attributeError w₂).1 = false) ∨
      (∃ a, found = .ok a) ∧ (w₂.ask (.length h.object)).1 = .error e
  failed {stop : Stop Error} : result = .error stop → ∃ e traceback d,
    stop = .failed (.foreignException (cx.handle e.value) traceback d) ∧
      (found = .error e ∨ (w₂.ask (.length h.object)).1 = .error e)
  /-- A length is the same for the object as a sequence, and as a mapping. -/
  agrees {a : Ref} : found = .ok a → (result, w') = (some <$> Sequence.length ⟨h⟩ cx).run w₂ ∧
    (result, w') = (some <$> Mapping.length ⟨h⟩ cx).run w₂

section

variable {c : Ref} {found : Except Raised Ref} (own : h.session = cx.session)
  (typed : w.ask (.typeOf h.object) = (.ok c, w₁)) (looked : w₁.ask (.getAttr c "__len__") = (found, w₂))
include own typed looked

/-- Where `__len__` is found, the guest is asked for the length. -/
theorem run_length_of_found {a : Ref} (there : found = .ok a) :
    (h.length cx).run w = (some <$> (perform cx .length (.length h.object) : Boundary σ Nat)).run w₂ := by
  subst there
  rw [length, bind_own own, run_bind_of_ok (run_perform_of_ok typed _),
    run_bind_of_ok (run_hasAttr_of_ok looked)]
  rfl

/-- Where it is not, it depends on why. -/
theorem run_length_of_raised (raised : found = .error e) : (h.length cx).run w =
    if (isRaised e .attributeError w₂).1 then (.ok none, (isRaised e .attributeError w₂).2)
    else (.error (.failed (failure cx .length e (isRaised e .attributeError w₂).2).1),
      (failure cx .length e (isRaised e .attributeError w₂).2).2) := by
  subst raised
  rw [length, bind_own own, run_bind_of_ok (run_perform_of_ok typed _), ExceptT.run_bind, bind_apply,
    run_hasAttr_of_raised looked]
  split <;> rfl

/-- Where `__len__` is found, the length is what the guest answers. -/
theorem reports_of_found {a : Ref} (there : found = .ok a) :
    LengthReport cx h found w₂ ((h.length cx).run w).1 ((h.length cx).run w).2 := by
  have run := run_length_of_found own typed looked there
  subst there
  have agrees : (h.length cx).run w = (some <$> Sequence.length ⟨h⟩ cx).run w₂ ∧
      (h.length cx).run w = (some <$> Mapping.length ⟨h⟩ cx).run w₂ := by
    rw [run, Sequence.length, Mapping.length, bind_own own]
    exact ⟨rfl, rfl⟩
  rcases counted : w₂.ask (.length h.object) with ⟨e | n, w₃⟩
  · rw [run_map_error_iff.mpr (run_perform_of_raised counted cx .length)] at run
    refine ⟨?_, ?_, ?_, ?_, fun _ => agrees⟩
    all_goals rw [run]
    · exact ⟨nofun, nofun⟩
    · rw [counted]
      exact ⟨nofun, nofun⟩
    · rw [counted]
      exact ⟨fun _ => ⟨e, .inr ⟨⟨a, rfl⟩, rfl⟩⟩, fun _ => ⟨_, rfl⟩⟩
    · rintro stop ⟨⟩
      obtain ⟨traceback, d, same⟩ := failure_length cx e w₃
      exact ⟨e, traceback, d, congrArg Stop.failed same, .inr (by rw [counted])⟩
  · rw [run_map_ok_iff.mpr ⟨n, run_perform_of_ok counted _, rfl⟩] at run
    refine ⟨?_, ?_, ?_, ?_, fun _ => agrees⟩
    all_goals rw [run]
    · exact ⟨nofun, nofun⟩
    · rw [counted]
      simp
    · rw [counted]
      simp
    · exact nofun

/-- Where looking for `__len__` raises, the exception decides. -/
theorem reports_of_raised {e : Raised} (raised : found = .error e) :
    LengthReport cx h found w₂ ((h.length cx).run w).1 ((h.length cx).run w).2 := by
  have run := run_length_of_raised own typed looked raised
  subst raised
  cases missing : (isRaised e .attributeError w₂).1 with
  | true =>
      rw [missing, if_pos rfl] at run
      refine ⟨?_, ?_, ?_, ?_, nofun⟩
      all_goals rw [run]
      · exact ⟨fun _ => ⟨e, rfl, missing⟩, fun _ => rfl⟩
      · exact ⟨nofun, nofun⟩
      · simp [missing]
      · exact nofun
  | false =>
      rw [missing, if_neg Bool.false_ne_true] at run
      refine ⟨?_, ?_, ?_, ?_, nofun⟩
      all_goals rw [run]
      · simp [missing]
      · exact ⟨nofun, nofun⟩
      · exact ⟨fun _ => ⟨e, .inl ⟨rfl, missing⟩⟩, fun _ => ⟨_, rfl⟩⟩
      · rintro stop ⟨⟩
        obtain ⟨traceback, d, same⟩ := failure_length cx e (isRaised e .attributeError w₂).2
        exact ⟨e, traceback, d, congrArg Stop.failed same, .inl rfl⟩

/-- **What is reported of the length of an object**, by the answers of the guest. -/
theorem reports : LengthReport cx h found w₂ ((h.length cx).run w).1 ((h.length cx).run w).2 := by
  cases found with
  | ok a => exact reports_of_found own typed looked rfl
  | error e => exact reports_of_raised own typed looked rfl

end

/-! ### Over classes -/

section

variable {V : Classes σ} (laws : V.Laws) (own : h.session = cx.session) (ready : V.Ready w.guest)
include laws own ready

/-- What a class offers, or its metaclass, is found, -/
theorem length_of_found
    (offered : V.offers w.guest (V.classOf w.guest h.object) "__len__" ∨
      V.offers w.guest (V.classOf w.guest (V.classOf w.guest h.object)) "__len__") :
    ∃ w₂, V.Same w.guest w₂.guest ∧
      (h.length cx).run w = (some <$> (perform cx .length (.length h.object) : Boundary σ Nat)).run w₂ := by
  obtain ⟨c, w₁, typed, class_, same⟩ := w.ask_of_answers (laws.typeOf (r := h.object) ready)
  rw [← class_, ← same.offers, ← same.classOf] at offered
  have class₁ : V.classOf w₁.guest h.object = c := by rw [same.classOf, class_]
  obtain ⟨a, w₂, looked, same₂⟩ := w₁.ask_of_answers (laws.found same.ready class₁ offered)
  exact ⟨w₂, same.trans same₂, run_length_of_found own typed looked rfl⟩

/-- and nothing else is. -/
theorem length_of_missing (absent : V.offers w.guest (V.classOf w.guest h.object) "__len__" = false)
    (absent' : V.offers w.guest (V.classOf w.guest (V.classOf w.guest h.object)) "__len__" = false) :
    ∃ w', (h.length cx).run w = (.ok none, w') := by
  obtain ⟨c, w₁, typed, class_, same⟩ := w.ask_of_answers (laws.typeOf (r := h.object) ready)
  rw [← class_, ← same.offers, ← same.classOf] at absent'
  rw [← class_, ← same.offers] at absent
  have class₁ : V.classOf w₁.guest h.object = c := by rw [same.classOf, class_]
  obtain ⟨e, writes, s', raised, same₂, belongs⟩ := laws.missing same.ready class₁ absent absent' w₁.held
  obtain ⟨w₂, looked, rfl⟩ := World.ask_of_perform raised
  obtain ⟨_, w₃, asked, rfl, -⟩ := w₂.ask_of_answers belongs
  refine ⟨(isRaised e .attributeError w₂).2, ?_⟩
  rw [run_length_of_raised own typed looked rfl, isRaised, askOr_of_ok asked]
  rfl

/-- **No length is reported exactly if neither the class offers one nor its metaclass.** -/
theorem length_none_iff : (∃ w', (h.length cx).run w = (.ok none, w')) ↔
    V.offers w.guest (V.classOf w.guest h.object) "__len__" = false ∧
      V.offers w.guest (V.classOf w.guest (V.classOf w.guest h.object)) "__len__" = false := by
  constructor
  · rintro ⟨w', run⟩
    by_contra offered
    rw [not_and_or, Bool.not_eq_false, Bool.not_eq_false] at offered
    obtain ⟨w₂, -, ran⟩ := length_of_found laws own ready offered
    obtain ⟨n, -, same⟩ := run_map_ok_iff.mp (ran.symm.trans run)
    cases same
  · rintro ⟨absent, absent'⟩
    exact length_of_missing laws own ready absent absent'

/-- An object without a length is reported as a failure, if its metaclass offers one. -/
theorem length_of_metaclass (absent : V.offers w.guest (V.classOf w.guest h.object) "__len__" = false)
    (offered : V.offers w.guest (V.classOf w.guest (V.classOf w.guest h.object)) "__len__") :
    ∃ e traceback d w', (h.length cx).run w =
      (.error (.failed (.foreignException (cx.handle e) traceback d)), w') := by
  obtain ⟨w₂, same, run⟩ := length_of_found laws own ready (.inr offered)
  rw [← same.offers, ← same.classOf] at absent
  obtain ⟨e, writes, s', raised, -⟩ := laws.noLength same.ready absent w₂.held
  obtain ⟨w₃, asked, rfl⟩ := World.ask_of_perform raised
  obtain ⟨traceback, d, failed⟩ := failure_length cx e w₃
  refine ⟨e.value, traceback, d, (failure cx .length e w₃).2, ?_⟩
  rw [run, run_map_error_iff.mpr (run_perform_of_raised asked cx .length), failed]

end

/-- **What is reported of the length of an object**: by the answers of the guest, whatever guest it is,
and by the classes of the object. -/
theorem length_reported (cx : Context) (h : Handle) (own : h.session = cx.session) :
    (∀ (w w₁ w₂ : World σ) (c : Ref) (found : Except Raised Ref), w.ask (.typeOf h.object) = (.ok c, w₁) →
      w₁.ask (.getAttr c "__len__") = (found, w₂) →
      LengthReport cx h found w₂ ((h.length cx).run w).1 ((h.length cx).run w).2) ∧
    ∀ (V : Classes σ) (w : World σ), V.Laws → V.Ready w.guest →
      let c := V.classOf w.guest h.object
      ((∃ w', (h.length cx).run w = (.ok none, w')) ↔
        V.offers w.guest c "__len__" = false ∧ V.offers w.guest (V.classOf w.guest c) "__len__" = false) ∧
      (V.offers w.guest c "__len__" = false → V.offers w.guest (V.classOf w.guest c) "__len__" →
        ∃ e traceback d w', (h.length cx).run w =
          (.error (.failed (.foreignException (cx.handle e) traceback d)), w')) :=
  ⟨fun _ _ _ _ _ typed looked => reports own typed looked, fun _ _ laws ready =>
    ⟨length_none_iff laws own ready, length_of_metaclass laws own ready⟩⟩

end Handle

/-! ### A guest with classes -/

/-- A guest with a few classes, in which nothing changes. -/
structure Specimens where

namespace Specimens

/-- The class of classes, and the class of all objects. -/
def metaType : Ref := ⟨10⟩
def base : Ref := ⟨11⟩

/-- A class whose objects have a length and items, and one for whose objects asking for the length
fails. -/
def sized : Ref := ⟨12⟩
def faulty : Ref := ⟨13⟩

/-- A metaclass whose classes have a length, and one of these. -/
def counted : Ref := ⟨14⟩
def odd : Ref := ⟨15⟩

/-- An object of each of these classes. -/
def box : Ref := ⟨16⟩
def stub : Ref := ⟨17⟩
def oddity : Ref := ⟨18⟩

/-- The exceptions. -/
def noAttribute : Ref := ⟨19⟩
def noLength : Ref := ⟨20⟩
def failed : Ref := ⟨21⟩

/-- The integers. -/
def numeral : Int → Ref
  | .ofNat n => ⟨2 * n + 30⟩
  | .negSucc n => ⟨2 * n + 31⟩

def classOf (r : Ref) : Ref :=
  if r = odd then counted
  else if r = box then sized
  else if r = stub then faulty
  else if r = oddity then odd
  else if r = metaType ∨ r = base ∨ r = sized ∨ r = faulty ∨ r = counted then metaType
  else base

/-- Metaclasses inherit from the class of classes. -/
def order (c : Ref) : List Ref :=
  if c = base then [base] else if c = counted then [counted, metaType, base] else [c, base]

def defines (c : Ref) (name : String) : Bool :=
  name == "__len__" && (c = sized || c = faulty || c = counted) || name == "__getitem__" && c = sized

/-- How the guest is looked at. -/
def classes : Classes Specimens := ⟨fun _ => True, fun _ => classOf, fun _ => order, fun _ => defines⟩

variable (s : Specimens)

def raise {α : Type} (e : Ref) : Except Raised α := .error ⟨e, []⟩

def length (r : Ref) : Except Raised Nat :=
  if classes.offers ⟨⟩ (classOf r) "__len__" then if r = stub then raise failed else .ok 2 else raise noLength

def lookUp (r : Ref) (name : String) : Except Raised Ref :=
  if classes.offers ⟨⟩ r name || classes.offers ⟨⟩ (classOf r) name then .ok base else raise noAttribute

/-- Answers a request. The item of a box at an index is that index. -/
def answer : {α : Type} → Request α → Except Raised α
  | _, .typeOf r => .ok (classOf r)
  | _, .getAttr r name => lookUp r name
  | _, .length r => length r
  | _, .newInt n => .ok (numeral n)
  | _, .getItem r k => if r = box then .ok k else raise failed
  | _, .belongs e kind => .ok (e == noAttribute && kind == .error .attributeError)
  | _, .typeName e => .ok (if e = noAttribute then "AttributeError"
      else if e = noLength then "TypeError" else "OSError")
  | _, _ => raise failed

instance : GuestState Specimens where
  perform _ r s := (answer r, [], s)

theorem answers {s : Specimens} {α : Type} {r : Request α} {a : α} (h : answer r = .ok a)
    {Q : α → Specimens → Prop} (hQ : Q a s) : Answers s r Q := fun _ => by
  refine ⟨a, [], s, ?_, hQ⟩
  rw [← h]
  rfl

theorem raises {s : Specimens} {α : Type} {r : Request α} {e : Raised} (h : answer r = .error e)
    {Q : Raised → Specimens → Prop} (hQ : Q e s) : Raises s r Q := fun _ => by
  refine ⟨e, [], s, ?_, hQ⟩
  rw [← h]
  rfl

/-- **The guest keeps the laws.** -/
theorem laws : classes.Laws where
  typeOf h := answers rfl ⟨rfl, .refl h⟩
  found {_ _ c name} h _ offered := answers (a := base) (r := .getAttr c name)
    (if_pos (Bool.or_eq_true_iff.mpr offered)) (.refl h)
  missing {_ _ c name} h _ absent absent' := raises (e := ⟨noAttribute, []⟩) (r := .getAttr c name)
    (if_neg (Bool.eq_false_iff.mp (Bool.or_eq_false_iff.mpr ⟨absent, absent'⟩)))
    ⟨.refl h, answers rfl ⟨rfl, .refl h⟩⟩
  noLength {_ r} h absent := raises (e := ⟨Specimens.noLength, []⟩) (r := .length r)
    (if_neg (Bool.eq_false_iff.mp absent)) (.refl h)

def world : World Specimens := ⟨⟨⟩, [], [.fresh], []⟩

def handle (r : Ref) : Handle := ⟨r, 0, none⟩

/-- The error for an exception of the guest. -/
def error (e : Ref) (type : String) : Stop Error :=
  .failed (.foreignException (handle e) none ⟨type, "", none⟩)

end Specimens

open Specimens in
theorem Handle.length_reported_specimens : classes.Laws ∧
    [box, base, stub, odd, numeral 3].map (fun r => (((handle r).length ⟨0⟩).run world).1) =
      [.ok (some 2), .ok none, .error (error failed "OSError"), .ok (some 2), .ok none] ∧
    LengthReport ⟨0⟩ (handle stub) (.ok base) world (((handle stub).length ⟨0⟩).run world).1
      (((handle stub).length ⟨0⟩).run world).2 ∧
    ((∃ w', ((handle base).length ⟨0⟩).run world = (.ok none, w')) ↔
      classes.offers ⟨⟩ metaType "__len__" = false ∧ classes.offers ⟨⟩ metaType "__len__" = false) := by
  refine ⟨laws, by decide +kernel, ?_, ?_⟩
  · exact (length_reported ⟨0⟩ (handle stub) rfl).1 world world world faulty (.ok base) rfl rfl
  · exact ((length_reported ⟨0⟩ (handle base) rfl).2 classes world laws trivial).1

open Specimens in
/-- Of an object without a length, it is not said that there is none. -/
theorem Handle.length_under_metaclass : classes.Laws ∧
    (∀ c ∈ order (classOf oddity), defines c "__len__" = false) ∧ answer (.length oddity) = raise noLength ∧
    (((handle oddity).length ⟨0⟩).run world).1 = .error (error noLength "TypeError") := by
  exact ⟨laws, by decide, rfl, by decide +kernel⟩

end GuestBridge.Bridge
