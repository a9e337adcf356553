import GuestBridge.Proofs.Sending.Cabinet
import GuestBridge.Proofs.Sequences.Rows

/-!
# A Guest with Sequences

A cabinet in which there are a list, a tuple and a string from the start. Their elements can be looked
up by an integer, the list can be written to, and the other two complain about that. A key without a
hash is refused as in any cabinet.
-/

namespace GuestBridge.Bridge

open Guest (Ref Raised noneRef boolRef trueRef falseRef)
open Sequence (Element Complaint Kind place at?)

/-- A cabinet, and what was complained about last, if it was no key. -/
structure Drawers where
  cabinet : Cabinet
  last : Option Complaint

namespace Drawers

/-- The string. -/
def word : Ref := ⟨falseRef.id + 1⟩

/-- The tuple. -/
def pair : Ref := ⟨word.id + 1⟩

/-- The list. -/
def row : Ref := ⟨pair.id + 1⟩

/-- The method `append` of the list. -/
def append : Ref := ⟨row.id + 1⟩

/-- What is said of the sequences that are there from the start. -/
def kind? (r : Ref) : Option Kind :=
  if r = row then some .list
  else if r = pair then some (.fixed "tuple")
  else if r = word then some (.fixed "str")
  else none

def withWord : Cabinet :=
  (Cabinet.initial.make (.text (Text.ofString "ab")) (some (.text "ab")) (some .sound)).2

def withPair : Cabinet :=
  (withWord.make (.sequence [trueRef, noneRef]) (some (.tuple [.number 1, .none])) (some .sound)).2

def withRow : Cabinet :=
  (withPair.make (.sequence [noneRef, trueRef, falseRef]) none (some (.refused "list"))).2

/-- The string `ab`, a tuple of two elements and a list of three. -/
def initial : Drawers := ⟨(withRow.make .other none none).2, none⟩

/-- What the cabinet answers. -/
def leave {α : Type} (p : Except Raised α × Cabinet) : Except Raised α × Drawers := (p.1, ⟨p.2, none⟩)

variable (s : Drawers)

def objects : Objects := s.cabinet.shelf.objects

def elements? (r : Ref) : Option (List Element) := (s.objects.shape r).bind Shape.elements?

def int? (r : Ref) : Option Int :=
  match s.objects.shape r with
  | some (.int n) => some n
  | _ => none

/-- Raises something of which nothing is known. -/
def fail {α : Type} : Except Raised α × Drawers := (.error Cabinet.refusal, s)

def complain {α : Type} (c : Complaint) : Except Raised α × Drawers :=
  (.error Cabinet.refusal, ⟨s.cabinet, some c⟩)

/-- The list with other items. -/
def write (r : Ref) (items : List Ref) : Drawers :=
  ⟨⟨s.cabinet.shelf.set r ⟨.sequence items, s.objects.key r⟩, s.cabinet.hashes, s.cabinet.last⟩, s.last⟩

def length (r : Ref) : Except Raised Nat × Drawers :=
  match s.elements? r with
  | some xs => (.ok xs.length, s)
  | none => s.fail

/-- An object for an element: a character becomes a string. -/
def element : Element → Except Raised Ref × Drawers
  | .object r => (.ok r, s)
  | .character point => leave (s.cabinet.make (.text ⟨[point]⟩) none (some .sound))

def getItem (r k : Ref) : Except Raised Ref × Drawers :=
  match s.elements? r, s.int? k with
  | some xs, some i => (at? xs i).elim s.fail s.element
  | _, _ => s.fail

def setItem (r k v : Ref) : Except Raised Unit × Drawers :=
  match s.objects.shape r, kind? r, s.int? k with
  | some (.dict _), _, _ => leave (s.cabinet.answer (.setItem r k v))
  | some (.sequence items), some .list, some i =>
    (place i items.length).elim s.fail fun p => (.ok (), s.write r (items.set p v))
  | _, some kind, _ => kind.onSet.elim s.fail s.complain
  | _, none, _ => s.fail

def member (r : Ref) (name : String) : Except Raised Ref × Drawers :=
  match name, kind? r with
  | "append", some kind => kind.onPush.elim (.ok append, s) s.complain
  | _, _ => s.fail

def call (args : List Ref) : Except Raised Ref × Drawers :=
  match s.objects.shape row, args with
  | some (.sequence items), [v] => (.ok noneRef, s.write row (items ++ [v]))
  | _, _ => s.fail

/-- Answers a request. -/
def answer : {α : Type} → Request α → Except Raised α × Drawers
  | _, .length r => s.length r
  | _, .getItem r k => s.getItem r k
  | _, .setItem r k v => s.setItem r k v
  | _, .getAttr r name => s.member r name
  | _, .isCallable _ => (.ok true, s)
  | _, .call _ args _ => s.call args
  | _, .belongs _ _ => (.ok false, s)
  | _, .typeName e => s.last.elim (leave (s.cabinet.answer (.typeName e))) fun c => (.ok c.typeName, s)
  | _, .str e => s.last.elim (leave (s.cabinet.answer (.str e))) fun c => (.ok (Text.ofString c.text), s)
  | _, r => leave (s.cabinet.answer r)

instance : GuestState Drawers where
  perform _ r s := ((s.answer r).1, [], (s.answer r).2)

/-- The cabinet is in order, and the list is one. -/
structure Ready : Prop where
  cabinet : s.cabinet.Ready
  list : ∃ items, s.objects.shape row = some (.sequence items)

/-- How the drawers are looked at. -/
abbrev catalogue : Catalogue Drawers := ⟨⟨Ready, objects⟩, fun s => s.cabinet.hashes⟩

variable {s}

theorem answers {α : Type} {r : Request α} {a : α} {s' : Drawers} (h : s.answer r = (.ok a, s'))
    {Q : α → Drawers → Prop} (hQ : Q a s') : Answers s r Q := fun held => by
  refine ⟨a, [], s', ?_, hQ⟩
  change ((s.answer r).1, [], (s.answer r).2) = _
  rw [h]

/-! ### What is left to the cabinet -/

theorem Ready.keeps (ready : s.Ready) {c : Cabinet} (keeps : Cabinet.catalogue.Keeps s.cabinet c)
    (last : Option Complaint) : catalogue.Keeps s ⟨c, last⟩ := by
  obtain ⟨items, list⟩ := ready.list
  exact ⟨⟨keeps.ready, items, keeps.known.shape list⟩, keeps.known⟩

theorem Ready.grows (ready : s.Ready) {c : Cabinet} (grows : Cabinet.catalogue.Grows s.cabinet c)
    (last : Option Complaint) : catalogue.Grows s ⟨c, last⟩ :=
  ⟨ready.keeps grows.toKeeps last, grows.hash⟩

/-- The cabinet answers. -/
theorem answers_leave {α : Type} {r : Request α} (left : s.answer r = leave (s.cabinet.answer r))
    {P : α → Cabinet → Prop} {Q : α → Drawers → Prop} (h : Answers s.cabinet r P)
    (hQ : ∀ a c, P a c → Q a ⟨c, none⟩) : Answers s r Q := by
  obtain ⟨a, writes, c, answered, result⟩ := h []
  have both : ((s.cabinet.answer r).1, [], (s.cabinet.answer r).2) = (Except.ok a, writes, c) := answered
  rw [Prod.mk.injEq, Prod.mk.injEq] at both
  obtain ⟨first, -, second⟩ := both
  have answered : s.answer r = (.ok a, ⟨c, none⟩) := by rw [left, leave, first, second]
  exact answers answered (hQ a c result)

theorem Ready.new (ready : s.Ready) {r : Request Ref} {hash : Hash}
    (left : s.answer r = leave (s.cabinet.answer r))
    (h : Answers s.cabinet r (Cabinet.catalogue.New hash s.cabinet)) : Answers s r (catalogue.New hash s) :=
  answers_leave left h fun _ _ made => ⟨ready.grows made.grows none, made.hash⟩

theorem Ready.setItem (ready : s.Ready) {d k v : Ref} {es : List (Nat × Ref × Ref)}
    (dict : s.objects.shape d = some (.dict es)) (key : s.cabinet.hashes k = some .sound) :
    Answers s (.setItem d k v) fun _ s' =>
      s'.Ready ∧ (s.objects.without [d]).Extends s'.objects ∧
        (∀ {r h}, s.cabinet.hashes r = some h → s'.cabinet.hashes r = some h) ∧
        ∃ es', s'.objects.shape d = some (.dict es') ∧
          ∀ e' ∈ es', e'.2.1 = k ∨ ∃ e ∈ es, e.2.1 = e'.2.1 := by
  have left : s.answer (.setItem d k v) = leave (s.cabinet.answer (.setItem d k v)) := by
    change s.setItem d k v = _
    rw [Drawers.setItem, dict]
  refine answers_leave left (ready.cabinet.setItem dict key) fun _ c ⟨cabinet, others, hashes, filled⟩ => ?_
  obtain ⟨items, list⟩ := ready.list
  have other : row ∉ [d] := fun same => by
    rw [List.mem_singleton.mp same, dict] at list
    cases list
  exact ⟨⟨cabinet, items, others.shape ((Objects.shape_without other).trans list)⟩, others, hashes, filled⟩

theorem Ready.refuse (ready : s.Ready) {d k v : Ref} {es : List (Nat × Ref × Ref)} {type : String}
    (dict : s.objects.shape d = some (.dict es)) (key : s.cabinet.hashes k = some (.refused type))
    (held : List Ref) :
    ∃ e writes s', GuestState.perform held (.setItem d k v) s = (.error e, writes, s') ∧
      catalogue.Keeps s s' ∧ catalogue.Refusal s' e type := by
  obtain ⟨e, writes, c, refused, keeps, trace, told⟩ := ready.cabinet.refuse (v := v) dict key held
  have both : ((s.cabinet.answer (.setItem d k v)).1, [], (s.cabinet.answer (.setItem d k v)).2) =
    (Except.error e, writes, c) := refused
  rw [Prod.mk.injEq, Prod.mk.injEq] at both
  obtain ⟨first, -, second⟩ := both
  have keeps := ready.keeps keeps none
  refine ⟨e, [], ⟨c, none⟩, ?_, keeps, trace, ?_⟩
  · change ((s.setItem d k v).1, [], (s.setItem d k v).2) = _
    rw [Drawers.setItem, dict]
    dsimp only
    rw [leave, first, second]
  · refine answers_leave rfl told fun name c₁ ⟨same, keeps₁, said⟩ => ?_
    have keeps₁ := keeps.ready.keeps keeps₁ none
    refine ⟨same, keeps₁, answers_leave rfl said fun text c₂ ⟨same, keeps₂⟩ => ?_⟩
    exact ⟨same, keeps₁.ready.keeps keeps₂ none⟩

/-- **The drawers keep the laws.** -/
theorem laws : catalogue.Laws where
  noneHash h := h.cabinet.none
  boolHash b h := h.cabinet.bool b
  newInt n h := h.new rfl (Cabinet.laws.newInt n h.cabinet)
  newFloat bits h := h.new rfl (Cabinet.laws.newFloat bits h.cabinet)
  newStr t h := h.new rfl (Cabinet.laws.newStr t h.cabinet)
  newBytes bs h := h.new rfl (Cabinet.laws.newBytes bs h.cabinet)
  newList items h := h.new rfl (Cabinet.laws.newList items h.cabinet)
  newSlice start stop step h := h.new rfl (Cabinet.laws.newSlice start stop step h.cabinet)
  newTuple items h := answers_leave rfl (h.cabinet.newTuple items) fun _ _ ⟨grows, hash⟩ =>
    ⟨h.grows grows none, hash⟩
  newDict h := answers_leave rfl h.cabinet.newDict fun _ _ ⟨made, before, after⟩ =>
    ⟨⟨h.grows made.grows none, made.hash⟩, before, after⟩
  setItem h dict _ key := h.setItem dict key
  refuse h dict key held := h.refuse dict key held

/-! ### Rows -/

variable {r k v : Ref} {kind : Kind} {xs : List Element} {i : Int} {c : Complaint}

theorem elements?_of_holds (holds : s.objects.Holds r xs) : s.elements? r = some xs :=
  Option.bind_eq_some_iff.mpr holds

theorem int?_of_shape (shape : s.objects.shape k = some (.int i)) : s.int? k = some i := by
  rw [int?, shape]

/-- The items of the list. -/
theorem Ready.items (ready : s.Ready) (holds : s.objects.Holds row xs) :
    ∃ items, s.objects.shape row = some (.sequence items) ∧ xs = items.map .object := by
  obtain ⟨items, list⟩ := ready.list
  obtain ⟨x, shape, elements⟩ := holds
  cases list.symm.trans shape
  exact ⟨items, list, (Option.some.inj elements).symm⟩

/-- Writing to the list changes nothing else. -/
theorem Ready.write (ready : s.Ready) {items : List Ref} (list : s.objects.shape row = some (.sequence items))
    (items' : List Ref) : catalogue.Replaces row (items'.map .object) s (s.write row items') := by
  obtain ⟨stocked, others, shape⟩ :=
    ready.cabinet.stocked.reshape list nofun (fun _ => nofun) (.sequence items')
  have filed {r : Ref} {hash : Hash} (hashed : s.cabinet.hashes r = some hash) :
      r.id < max s.cabinet.shelf.next (row.id + 1) :=
    Nat.lt_of_lt_of_le (ready.cabinet.filed hashed) (Nat.le_max_left _ _)
  have cabinet : (s.write row items').cabinet.Ready :=
    ⟨stocked, filed, ready.cabinet.none, ready.cabinet.bool⟩
  exact ⟨⟨cabinet, items', shape⟩, others, _, shape, rfl⟩

/-- To complain changes nothing. -/
theorem Ready.complains (ready : s.Ready) {α : Type} {r : Request α} (answered : s.answer r = s.complain c) :
    catalogue.Complains s r c := fun held => by
  have keeps : catalogue.Keeps s ⟨s.cabinet, some c⟩ := ready.keeps (.refl ready.cabinet) _
  have same : catalogue.Keeps (⟨s.cabinet, some c⟩ : Drawers) ⟨s.cabinet, some c⟩ := .refl keeps.ready
  refine ⟨Cabinet.refusal, [], ⟨s.cabinet, some c⟩, ?_, keeps, rfl, ?_⟩
  · change ((s.answer r).1, [], (s.answer r).2) = _
    rw [answered, complain]
  · exact answers rfl ⟨rfl, same, answers rfl ⟨rfl, same, answers rfl ⟨rfl, same⟩⟩⟩

theorem eq_row (list : kind? r = some .list) : r = row := by
  unfold kind? at list
  split at list
  · assumption
  · split at list
    · cases list
    · split at list <;> cases list

theorem Ready.getItem (ready : s.Ready) (holds : s.objects.Holds r xs)
    (shape : s.objects.shape k = some (.int i)) {x : Element} (there : at? xs i = some x) :
    Answers s (.getItem r k) fun e s' => s'.objects.Shows e x ∧ catalogue.Keeps s s' := by
  have answered : s.answer (.getItem r k) = s.element x := by
    change s.getItem r k = _
    rw [Drawers.getItem, elements?_of_holds holds, int?_of_shape shape]
    dsimp only
    rw [there]
    rfl
  cases x with
  | object r' => exact answers answered ⟨rfl, .refl ready⟩
  | character point =>
      have made := ready.cabinet.make (.text ⟨[point]⟩) none (some .sound)
      have shape := (ready.cabinet.stocked.make (.text ⟨[point]⟩) none).shape
      exact answers answered ⟨shape, ready.keeps made.toKeeps none⟩

theorem setItem_of_fixed (holds : s.objects.Holds r xs) (known : kind? r = some kind)
    (complaint : kind.onSet = some c) : s.setItem r k v = s.complain c := by
  obtain ⟨x, shape, elements⟩ := holds
  cases kind with
  | list => cases complaint
  | fixed type =>
      cases x <;> cases elements
      all_goals
        rw [setItem, shape, known]
        dsimp only
        rw [complaint]
        rfl

theorem Ready.append (ready : s.Ready) (known : kind? r = some kind) (writable : kind.onPush = none)
    (holds : s.objects.Holds r xs) : Answers s (.getAttr r "append") fun method s₁ => catalogue.Keeps s s₁ ∧
      Answers s₁ (.isCallable method) fun callable s₂ => callable = true ∧ catalogue.Keeps s₁ s₂ ∧
        ∀ s₃ v, catalogue.Keeps s₂ s₃ → Answers s₃ (.call method [v] []) fun _ s₄ =>
          catalogue.Replaces r (xs ++ [.object v]) s₃ s₄ := by
  have looked : s.answer (.getAttr r "append") = (.ok Drawers.append, s) := by
    change s.member r "append" = _
    simp only [member, known, writable, Option.elim_none]
  refine answers looked ⟨.refl ready, answers rfl ⟨rfl, .refl ready, fun s' v keeps => ?_⟩⟩
  cases kind with
  | fixed type => cases writable
  | list =>
      cases eq_row known
      obtain ⟨items, list, rfl⟩ := keeps.ready.items (holds.later keeps)
      have answered : s'.answer (.call Drawers.append [v] []) =
          (.ok noneRef, s'.write row (items ++ [v])) := by
        change s'.call [v] = _
        simp only [call, list]
      have replaces := keeps.ready.write list (items ++ [v])
      rw [List.map_append] at replaces
      exact answers answered replaces

/-- **The list, the tuple and the string are rows.** -/
theorem rows (known : kind? r = some kind) : catalogue.Row kind r where
  newInt {s} n h := answers_leave rfl (P := fun k c => Cabinet.catalogue.Keeps s.cabinet c ∧
      c.shelf.objects.shape k = some (.int n))
    (Cabinet.answers_make rfl ⟨(h.cabinet.make _ _ _).toKeeps, (h.cabinet.stocked.make _ _).shape⟩)
    fun _ _ ⟨keeps, shape⟩ => ⟨h.keeps keeps none, shape⟩
  length {s xs} h holds := answers (a := xs.length) (by
    change s.length r = _
    rw [length, elements?_of_holds holds]) ⟨rfl, .refl h⟩
  getItem h holds shape there := h.getItem holds shape there
  setItem {s xs k v i p} writable h holds shape placed := by
    cases kind with
    | fixed type => cases writable
    | list =>
        cases eq_row known
        obtain ⟨items, list, rfl⟩ := h.items holds
        rw [List.length_map] at placed
        have answered : s.answer (.setItem row k v) = (.ok (), s.write row (items.set p v)) := by
          change s.setItem row k v = _
          rw [Drawers.setItem, list, known, int?_of_shape shape]
          dsimp only
          rw [placed]
          rfl
        have replaces := h.write list (items.set p v)
        rw [List.map_set] at replaces
        exact answers answered replaces
  noSet complaint h holds shape := h.complains (setItem_of_fixed holds known complaint)
  append writable h holds _ := h.append known writable holds
  noAppend {s xs c} complaint h _ := h.complains (by
    change s.member r "append" = _
    simp only [member, known, complaint, Option.elim_some])

/-! ### From the start -/

theorem ready_withPair : withPair.Ready := ((Cabinet.ready_initial.make _ _ _).ready.make _ _ _).ready

theorem ready_initial : initial.Ready := by
  have made := ready_withPair.make (.sequence [noneRef, trueRef, falseRef]) none (some (.refused "list"))
  have last := made.ready.make .other none none
  have here : row = ⟨withPair.shelf.next⟩ := by decide +kernel
  have list := (ready_withPair.stocked.make (.sequence [noneRef, trueRef, falseRef]) none).shape
  rw [← here] at list
  exact ⟨last.ready, _, last.known.shape list⟩

end Drawers

end GuestBridge.Bridge
