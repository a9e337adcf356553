import GuestBridge.Number.Shortest
import GuestBridge.Proofs.Mappings.Lexicon
import GuestBridge.Text.Quoted

/-!
# A Guest with Dictionaries

A guest that keeps objects of built-in types and dictionaries of them, with the methods and iterators by
which keys are listed and the exceptions that it raises. A dictionary may have a value for absent keys,
which it then adds when such a key is looked up by its subscript.

Numbers are compared by value, whatever their type, and tuples by their items. What has no code is told
apart by identity: lists and other objects that are no keys, and the floating-point number that is none.

## Main statements

* `Bookcase.laws` — it keeps the laws.
-/

namespace GuestBridge.Bridge

open Guest (Ref Raised ErrorKind noneRef boolRef trueRef falseRef)

/-- What `==` compares. -/
inductive Code
  | void
  | number (n : Int)
  /-- A floating-point number that is no integer. -/
  | fraction (bits : Nat)
  | text (t : Text)
  | bytes (bs : List UInt8)
  /-- A tuple, by its first item and the tuple of the others. -/
  | empty
  | item (first rest : Code)
  deriving DecidableEq

/-- The code of a floating-point number. -/
def Code.ofBits (bits : Nat) : Option Code :=
  match Number.toInt? Number.binary64 bits with
  | some n => some (number n)
  | none => if Number.binary64.isNaN bits then none else some (fraction bits)

/-- An object of the guest. -/
inductive Thing
  | none
  | bool (b : Bool)
  | int (n : Int)
  | float (bits : Nat)
  | str (t : Text)
  | bytes (bs : List UInt8)
  | list (items : List Ref)
  /-- A tuple, with what its items make of it. -/
  | tuple (items : List Ref) (code : Option Code) (hash : Option Hash) (shown : Option Text)
  | slice (start stop step : Ref)
  /-- A dictionary, with the value for absent keys if it has one. -/
  | dict (es : Entries) (absent : Option Ref)
  /-- The method `keys` of a dictionary, and what it gives. -/
  | keysOf (d : Ref)
  | viewOf (d : Ref)
  | iterator (left : List Ref)
  /-- The method `__next__` of an iterator. -/
  | nextOf (it : Ref)
  | error (f : Report)

namespace Thing

/-- Entries with their places. -/
def placed (es : Entries) : List (Nat × Ref × Ref) := es.zipIdx.map Prod.swap

def shape : Thing → Option Shape
  | none => some .none
  | bool b => some (.bool b)
  | int n => some (.int n)
  | float bits => some (.float bits)
  | str t => some (.text t)
  | bytes bs => some (.bytes bs)
  | list items | tuple items _ _ _ => some (.sequence items)
  | slice start stop step => some (.slice start stop step)
  | dict es _ => some (.dict (placed es))
  | keysOf _ | viewOf _ | iterator _ | nextOf _ | error _ => Option.none

def hash : Thing → Option Hash
  | none | bool _ | int _ | float _ | str _ | bytes _ => some .sound
  | tuple _ _ hash _ => hash
  | list _ => some (.refused "list")
  | slice _ _ _ => some (.refused "slice")
  | dict _ _ => some (.refused "dict")
  | keysOf _ | viewOf _ | iterator _ | nextOf _ | error _ => Option.none

def code : Thing → Option Code
  | none => some .void
  | bool b => some (.number (cond b 1 0))
  | int n => some (.number n)
  | float bits => Code.ofBits bits
  | str t => some (.text t)
  | bytes bs => some (.bytes bs)
  | tuple _ code _ _ => code
  | _ => Option.none

def shown : Thing → Option Text
  | none => some (Text.ofString "None")
  | bool b => some (Text.ofString (cond b "True" "False"))
  | int n => some (Text.ofString (toString n))
  | float bits => some (Text.ofString (Number.guestForm.render Number.binary64 bits))
  | str t => some t.quoted
  | bytes bs => some (Text.quotedBytes bs)
  | tuple _ _ _ shown => shown
  | _ => Option.none

def report : Thing → Option Report
  | error f => some f
  | _ => Option.none

def left : Thing → Option (List Ref)
  | iterator left => some left
  | _ => Option.none

/-- Whether it is a dictionary without a value for absent keys. -/
def isPlain : Thing → Bool
  | dict _ Option.none => true
  | _ => false

/-- Two things that differ in what they hold only. -/
structure Like (t t' : Thing) : Prop where
  hash : t'.hash = t.hash
  code : t'.code = t.code
  shown : t'.shown = t.shown
  report : t'.report = t.report
  isPlain : t'.isPlain = t.isPlain

theorem Like.refl (t : Thing) : t.Like t := ⟨rfl, rfl, rfl, rfl, rfl⟩

theorem map_snd_placed (es : Entries) : (placed es).map Prod.snd = es := by
  rw [placed, List.map_map]
  exact List.zipIdx_map_fst 0 es

end Thing

/-- A guest that keeps dictionaries. References from `next` on are free. -/
structure Bookcase where
  things : Ref → Option Thing
  next : Nat

namespace Bookcase

/-- The objects that are there from the start. -/
def first (r : Ref) : Option Thing :=
  if r = noneRef then some .none
  else if r = trueRef then some (.bool true)
  else if r = falseRef then some (.bool false)
  else none

/-- The bookcase before anything is made. -/
def initial : Bookcase := ⟨first, falseRef.id + 1⟩

variable (s : Bookcase)

def hash (r : Ref) : Option Hash := (s.things r).bind Thing.hash

def code (r : Ref) : Option Code := (s.things r).bind Thing.code

def shown (r : Ref) : Option Text := (s.things r).bind Thing.shown

def report (r : Ref) : Option Report := (s.things r).bind Thing.report

/-- Whether two objects are one key. -/
def same (a b : Ref) : Bool := a == b || ((s.code a).isSome && s.code a == s.code b)

/-- The bookcase with a thing at a reference. -/
def set (r : Ref) (t : Thing) : Bookcase := ⟨fun o => if o = r then some t else s.things o, max s.next (r.id + 1)⟩

/-- Puts a new thing into the bookcase. -/
def make (t : Thing) : Except Raised Ref × Bookcase := (.ok ⟨s.next⟩, s.set ⟨s.next⟩ t)

/-- Raises an exception. -/
def raise {α : Type} (f : Report) : Except Raised α × Bookcase := (.error ⟨⟨s.next⟩, []⟩, s.set ⟨s.next⟩ (.error f))

/-- Raises something of which nothing is known. -/
def fail {α : Type} : Except Raised α × Bookcase := (.error ⟨noneRef, []⟩, s)

/-- The tuple of some items. -/
def tuple (items : List Ref) : Thing :=
  .tuple items ((items.mapM s.code).map fun codes => codes.foldr .item .empty) ((items.mapM s.hash).map Hash.tuple)
    ((items.mapM s.shown).map fun parts =>
      Text.ofString "(" ++ Text.intercalate ", " parts ++ Text.ofString (if parts.length = 1 then ",)" else ")"))

/-- The exception for a key without a hash. -/
def unhashable (type : String) : Report :=
  ⟨"TypeError", Text.ofString ("unhashable type: '" ++ type ++ "'"), fun kind => kind == .typeError⟩

/-- The exception for a key that is not there. -/
def keyError (k : Ref) : Report :=
  ⟨"KeyError", (s.shown k).getD (Text.ofString ""), fun kind => kind == .keyError || kind == .lookupError⟩

/-- The end of an iteration. -/
def stop : Report := ⟨"StopIteration", Text.ofString "", fun kind => kind == .stopIteration⟩

/-- Goes on with the entries of a dictionary, if the key is one that has a hash. -/
def withKey {α : Type} (d k : Ref) (goOn : Entries → Option Ref → Except Raised α × Bookcase) :
    Except Raised α × Bookcase :=
  match s.things d, s.hash k with
  | some (.dict es absent), some .sound => goOn es absent
  | some (.dict _ _), some (.refused type) => s.raise (unhashable type)
  | _, _ => s.fail

/-- The number of entries of a dictionary. -/
def length (d : Ref) : Except Raised Nat × Bookcase :=
  match s.things d with
  | some (.dict es _) => (.ok es.length, s)
  | _ => s.fail

/-- The text that shows an object. -/
def repr (r : Ref) : Except Raised Text × Bookcase :=
  match s.shown r with
  | some t => (.ok t, s)
  | none => s.fail

/-- Looks a key up: the value for absent keys is added with it. -/
def getItem (d k : Ref) : Except Raised Ref × Bookcase :=
  s.withKey d k fun es absent =>
    match es.find? s.same k, absent with
    | some v, _ => (.ok v, s)
    | none, some v => (.ok v, s.set d (.dict (es.put s.same k v) absent))
    | none, none => s.raise (s.keyError k)

/-- The methods by which keys are listed. -/
def member (o : Ref) (name : String) : Except Raised Ref × Bookcase :=
  if name = "keys" then s.make (.keysOf o) else if name = "__next__" then s.make (.nextOf o) else s.fail

/-- Calls an object. -/
def call (o : Ref) : Except Raised Ref × Bookcase :=
  match s.things o with
  | some (.keysOf d) => s.make (.viewOf d)
  | some (.nextOf it) =>
    match s.things it with
    | some (.iterator (k :: ks)) => (.ok k, s.set it (.iterator ks))
    | some (.iterator []) => s.raise stop
    | _ => s.fail
  | _ => s.fail

/-- Starts to iterate over an object. -/
def iterate (o : Ref) : Except Raised Ref × Bookcase :=
  match s.things o with
  | some (.viewOf d) =>
    match s.things d with
    | some (.dict es _) => s.make (.iterator (es.map Prod.fst))
    | _ => s.fail
  | _ => s.fail

/-- Answers a request. -/
def answer : {α : Type} → Request α → Except Raised α × Bookcase
  | _, .newInt n => s.make (.int n)
  | _, .newFloat bits => s.make (.float bits)
  | _, .newStr t => s.make (.str (Text.ofString t))
  | _, .newBytes bs => s.make (.bytes bs)
  | _, .newList items => s.make (.list items)
  | _, .newTuple items => s.make (s.tuple items)
  | _, .newSlice start stop step => s.make (.slice start stop step)
  | _, .newDict _ => s.make (.dict [] none)
  | _, .equal a b => (.ok (s.same a b), s)
  | _, .contains d k => s.withKey d k fun es _ => (.ok (es.has s.same k), s)
  | _, .getItem d k => s.getItem d k
  | _, .setItem d k v => s.withKey d k fun es absent => (.ok (), s.set d (.dict (es.put s.same k v) absent))
  | _, .deleteItem d k => s.withKey d k fun es absent =>
    if es.has s.same k then (.ok (), s.set d (.dict (es.erase s.same k) absent)) else s.raise (s.keyError k)
  | _, .length d => s.length d
  | _, .getAttr o name => s.member o name
  | _, .isCallable _ => (.ok true, s)
  | _, .call o _ _ => s.call o
  | _, .iterate o => s.iterate o
  | _, .typeName e => (.ok ((s.report e).elim "object" Report.typeName), s)
  | _, .str e => (.ok ((s.report e).elim (Text.ofString "") Report.text), s)
  | _, .belongs e (.error kind) => (.ok ((s.report e).elim false fun f => f.belongs kind), s)
  | _, .repr r => s.repr r
  | _, _ => s.fail

instance : GuestState Bookcase where
  perform _ r s := ((s.answer r).1, [], (s.answer r).2)

/-- Dictionaries hold keys, no two of which are one. -/
structure Ready : Prop where
  none : s.hash noneRef = some .sound
  bool (b : Bool) : s.hash (boolRef b) = some .sound
  free {r : Ref} : s.next ≤ r.id → s.things r = Option.none
  keyed {d : Ref} {es : Entries} {absent : Option Ref} : s.things d = some (.dict es absent) →
    (∀ e ∈ es, s.hash e.1 = some .sound) ∧ es.Distinct s.same

/-- How the bookcase is looked at. -/
abbrev lexicon : Lexicon Bookcase where
  Ready := Ready
  objects s := ⟨fun r => (s.things r).bind Thing.shape, fun _ => none⟩
  hash := hash
  same := same
  plain s r := (s.things r).any Thing.isPlain
  shown := shown
  report := report
  left s r := (s.things r).bind Thing.left

variable {s} {s' : Bookcase}

/-! ### What stays -/

/-- Every thing is still there, and differs in what it holds at most. -/
structure Holds (s s' : Bookcase) : Prop where
  like {r : Ref} {t : Thing} : s.things r = some t → ∃ t', s'.things r = some t' ∧ t.Like t'

theorem thing_of_hash {r : Ref} {h : Hash} (known : s.hash r = some h) : ∃ t, s.things r = some t ∧ t.hash = some h :=
  Option.bind_eq_some_iff.mp known

namespace Holds

theorem hash (holds : Holds s s') {r : Ref} {h : Hash} (known : s.hash r = some h) : s'.hash r = some h := by
  obtain ⟨t, there, hashed⟩ := thing_of_hash known
  obtain ⟨t', still, like⟩ := holds.like there
  rw [Bookcase.hash, still, Option.bind_some, like.hash, hashed]

theorem code (holds : Holds s s') {r : Ref} {h : Hash} (known : s.hash r = some h) : s'.code r = s.code r := by
  obtain ⟨t, there, -⟩ := thing_of_hash known
  obtain ⟨t', still, like⟩ := holds.like there
  rw [Bookcase.code, Bookcase.code, still, there, Option.bind_some, Option.bind_some, like.code]

theorem same (holds : Holds s s') {a b : Ref} (ha : s.hash a = some .sound) (hb : s.hash b = some .sound) :
    s'.same a b = s.same a b := by
  rw [Bookcase.same, Bookcase.same, holds.code ha, holds.code hb]

theorem recalls (holds : Holds s s') : lexicon.Recalls s s' where
  hash known := holds.hash known
  same ha hb := holds.same ha hb
  shown {r} known := by
    obtain ⟨t, there, -⟩ := thing_of_hash known
    obtain ⟨t', still, like⟩ := holds.like there
    change (s'.things r).bind Thing.shown = (s.things r).bind Thing.shown
    rw [still, there, Option.bind_some, Option.bind_some, like.shown]
  plain {r} plain := by
    obtain ⟨t, there, isPlain⟩ := (Option.any_eq_true _ _).mp plain
    obtain ⟨t', still, like⟩ := holds.like there
    exact (Option.any_eq_true _ _).mpr ⟨t', still, like.isPlain.trans isPlain⟩
  report {r f} known := by
    obtain ⟨t, there, known⟩ := Option.bind_eq_some_iff.mp known
    obtain ⟨t', still, like⟩ := holds.like there
    exact Option.bind_eq_some_iff.mpr ⟨t', still, like.report.trans known⟩

end Holds

variable {r d k v : Ref} {t : Thing} {es : Entries} {absent : Option Ref}

theorem things_set_self : (s.set r t).things r = some t := if_pos rfl

theorem things_set_ne {o : Ref} (other : o ≠ r) : (s.set r t).things o = s.things o := if_neg other

theorem Holds.set (like : ∀ t₀, s.things r = some t₀ → t₀.Like t) : Holds s (s.set r t) := by
  refine ⟨fun {o t₀} there => ?_⟩
  by_cases here : o = r
  · subst here
    exact ⟨t, things_set_self, like t₀ there⟩
  · exact ⟨t₀, (things_set_ne here).trans there, .refl t₀⟩

/-- What a dictionary may hold. -/
def Keyed (s : Bookcase) (t : Thing) : Prop :=
  ∀ es absent, t = .dict es absent → (∀ e ∈ es, s.hash e.1 = some .sound) ∧ es.Distinct s.same

namespace Ready

theorem set (ready : s.Ready) (like : ∀ t₀, s.things r = some t₀ → t₀.Like t) (keyed : s.Keyed t) :
    (s.set r t).Ready where
  none := (Holds.set like).hash ready.none
  bool b := (Holds.set like).hash (ready.bool b)
  free {o} free := by
    have other : o ≠ r := fun same => by
      subst same
      exact absurd (Nat.le_trans (Nat.le_max_right _ _) free) (Nat.lt_irrefl _)
    exact (things_set_ne other).trans (ready.free (Nat.le_trans (Nat.le_max_left _ _) free))
  keyed {d es absent} dict := by
    have holds := Holds.set (s := s) like
    have before : (∀ e ∈ es, s.hash e.1 = some .sound) ∧ es.Distinct s.same := by
      by_cases here : d = r
      · subst here
        exact keyed es absent (Option.some.inj (things_set_self.symm.trans dict))
      · exact ready.keyed ((things_set_ne here).symm.trans dict)
    refine ⟨fun e he => holds.hash (before.1 e he), List.Pairwise.imp_of_mem ?_ before.2⟩
    exact fun {e e'} he he' other => (holds.same (before.1 e he) (before.1 e' he')).trans other

/-- To change a thing that has no shape, or keeps it, forgets nothing. -/
theorem learns (ready : s.Ready) (like : ∀ t₀, s.things r = some t₀ → t₀.Like t)
    (shape : ∀ t₀, s.things r = some t₀ → t₀.shape = Option.none) (keyed : s.Keyed t) :
    lexicon.Learns s (s.set r t) := by
  refine ⟨⟨ready.set like keyed, fun {o x} known => ?_, id⟩, (Holds.set like).recalls⟩
  obtain ⟨t₀, there, known⟩ := Option.bind_eq_some_iff.mp known
  have other : o ≠ r := fun same => by
    subst same
    cases (shape t₀ there).symm.trans known
  exact Option.bind_eq_some_iff.mpr ⟨t₀, (things_set_ne other).trans there, known⟩

theorem new (ready : s.Ready) : s.things ⟨s.next⟩ = Option.none := ready.free (Nat.le_refl _)

theorem thing_later (ready : s.Ready) {o : Ref} {t₀ : Thing} (there : s.things o = some t₀) :
    (s.set ⟨s.next⟩ t).things o = some t₀ := by
  refine (things_set_ne fun same => ?_).trans there
  cases (same ▸ ready.new).symm.trans there

theorem learns_make (ready : s.Ready) (keyed : s.Keyed t) : lexicon.Learns s (s.set ⟨s.next⟩ t) :=
  ready.learns (fun _ there => by cases ready.new.symm.trans there)
    (fun _ there => by cases ready.new.symm.trans there) keyed

end Ready

/-! ### Laws -/

theorem answers {α : Type} {r : Request α} {a : α} (answered : s.answer r = (.ok a, s')) {Q : α → Bookcase → Prop}
    (hQ : Q a s') : Answers s r Q := fun held => by
  refine ⟨a, [], s', ?_, hQ⟩
  change ((s.answer r).1, [], (s.answer r).2) = _
  rw [answered]

/-- What is only looked at stays as it is. -/
theorem Ready.looks (ready : s.Ready) {α : Type} {r : Request α} {a : α} (answered : s.answer r = (.ok a, s)) :
    Answers s r fun b s' => b = a ∧ lexicon.Learns s s' :=
  answers answered ⟨rfl, .refl ready⟩

theorem hash_make {r : Ref} : (s.set r t).hash r = t.hash := by
  rw [hash, things_set_self, Option.bind_some]

theorem Ready.brings (ready : s.Ready) {r : Request Ref} {h : Hash} (answered : s.answer r = s.make t)
    (keyed : s.Keyed t) (hashed : t.hash = some h) : Answers s r (lexicon.Brings h s) :=
  answers answered ⟨ready.learns_make keyed, hash_make.trans hashed⟩

theorem Ready.throws (ready : s.Ready) {α : Type} {r : Request α} {f : Report} {P : Report → Prop}
    (answered : s.answer r = s.raise f) (told : P f) : lexicon.Throws s r P := fun held => by
  refine ⟨⟨⟨s.next⟩, []⟩, [], s.set ⟨s.next⟩ (.error f), ?_, ready.learns_make nofun, rfl, f, ?_, told⟩
  · change ((s.answer r).1, [], (s.answer r).2) = _
    rw [answered]
    rfl
  · change ((s.set ⟨s.next⟩ (.error f)).things ⟨s.next⟩).bind Thing.report = some f
    rw [things_set_self]
    rfl

/-- A dictionary that is known is there, with its entries. -/
theorem dict_of_shape {ps : List (Nat × Ref × Ref)} (shape : (lexicon.objects s).shape d = some (.dict ps)) :
    ∃ absent, s.things d = some (.dict (ps.map Prod.snd) absent) := by
  obtain ⟨t, there, shape⟩ := Option.bind_eq_some_iff.mp shape
  cases t with
  | dict es absent =>
      obtain rfl : Thing.placed es = ps := Shape.dict.inj (Option.some.inj shape)
      exact ⟨absent, by rw [Thing.map_snd_placed]; exact there⟩
  | _ => cases shape

theorem thing_of_dict (dict : lexicon.Dict s d es) : ∃ absent, s.things d = some (.dict es absent) := by
  obtain ⟨ps, shape, rfl⟩ := dict.shape
  exact dict_of_shape shape

/-- A dictionary that is there is known. -/
theorem Ready.dict (ready : s.Ready) (there : s.things d = some (.dict es absent)) : lexicon.Dict s d es := by
  refine ⟨⟨Thing.placed es, ?_, Thing.map_snd_placed es⟩, (ready.keyed there).1⟩
  exact Option.bind_eq_some_iff.mpr ⟨_, there, rfl⟩

section

variable {α : Type} {goOn : Entries → Option Ref → Except Raised α × Bookcase}

theorem withKey_of_sound (there : s.things d = some (.dict es absent)) (sound : s.hash k = some .sound) :
    s.withKey d k goOn = goOn es absent := by
  rw [withKey, there, sound]

theorem withKey_of_refused (there : s.things d = some (.dict es absent)) {type : String}
    (refused : s.hash k = some (.refused type)) : s.withKey d k goOn = s.raise (unhashable type) := by
  rw [withKey, there, refused]

end

/-- Writing to a dictionary changes nothing else. -/
theorem Ready.rewrites (ready : s.Ready) (there : s.things d = some (.dict es absent)) {es' : Entries}
    (keyed : ∀ e ∈ es', s.hash e.1 = some .sound) (distinct : es'.Distinct s.same) :
    lexicon.Rewrites d s (s.set d (.dict es' absent)) ∧ lexicon.Dict (s.set d (.dict es' absent)) d es' := by
  have like (t₀ : Thing) (here : s.things d = some t₀) : t₀.Like (.dict es' absent) := by
    cases there.symm.trans here
    cases absent <;> exact ⟨rfl, rfl, rfl, rfl, rfl⟩
  have ready' : (s.set d (.dict es' absent)).Ready := ready.set like fun es absent same => by
    cases same
    exact ⟨keyed, distinct⟩
  refine ⟨⟨(Holds.set like).recalls, ready', fun {r x} known => ?_, id⟩, ready'.dict things_set_self⟩
  by_cases here : r ∈ [d]
  · rw [Objects.shape_without_of_mem here] at known
    cases known
  · rw [Objects.shape_without here] at known
    obtain ⟨t₀, old, known⟩ := Option.bind_eq_some_iff.mp known
    have other : r ≠ d := fun same => here (List.mem_singleton.mpr same)
    exact Option.bind_eq_some_iff.mpr ⟨t₀, (things_set_ne other).trans old, known⟩

theorem Ready.setItem (ready : s.Ready) (dict : lexicon.Dict s d es) (sound : s.hash k = some .sound) :
    Answers s (.setItem d k v) fun _ s' =>
      lexicon.Rewrites d s s' ∧ lexicon.Dict s' d (es.put s.same k v) := by
  obtain ⟨absent, there⟩ := thing_of_dict dict
  have keyed (e : Ref × Ref) (he : e ∈ es.put s.same k v) : s.hash e.1 = some .sound := by
    rcases Entries.mem_keys_put he with same | old
    · rw [same, sound]
    · obtain ⟨e', he', same⟩ := List.mem_map.mp old
      exact same ▸ dict.sound e' he'
  have answered : s.answer (.setItem d k v) = (.ok (), s.set d (.dict (es.put s.same k v) absent)) :=
    withKey_of_sound there sound
  exact answers answered (ready.rewrites there keyed (ready.keyed there).2.put)

theorem Ready.deleteItem (ready : s.Ready) (dict : lexicon.Dict s d es) (sound : s.hash k = some .sound)
    (has : es.has s.same k) : Answers s (.deleteItem d k) fun _ s' =>
      lexicon.Rewrites d s s' ∧ lexicon.Dict s' d (es.erase s.same k) := by
  obtain ⟨absent, there⟩ := thing_of_dict dict
  have answered : s.answer (.deleteItem d k) = (.ok (), s.set d (.dict (es.erase s.same k) absent)) :=
    (withKey_of_sound there sound).trans (if_pos has)
  have keyed (e : Ref × Ref) (he : e ∈ es.erase s.same k) := dict.sound e (List.mem_of_mem_eraseP he)
  exact answers answered (ready.rewrites there keyed (ready.keyed there).2.erase)

theorem Ready.refuse (ready : s.Ready) {α : Type} {r : Request α} {ps : List (Nat × Ref × Ref)} {type : String}
    (item : r.item? = some (d, k)) (shape : (lexicon.objects s).shape d = some (.dict ps))
    (refused : s.hash k = some (.refused type)) : lexicon.Throws s r (Report.IsUnhashable type) := by
  obtain ⟨absent, there⟩ := dict_of_shape shape
  have told : (unhashable type).IsUnhashable type := ⟨rfl, rfl, rfl⟩
  cases r with
  | contains | getItem | setItem | deleteItem =>
      cases item
      exact ready.throws (withKey_of_refused there refused) told
  | _ => cases item

theorem isKeyError_keyError : (s.keyError k).IsKeyError (s.shown k) := by
  refine ⟨rfl, fun {t} shown => ?_, rfl⟩
  rw [keyError, shown, Option.getD_some]

theorem same_iff {a b : Ref} : s.same a b = true ↔ a = b ∨ ∃ c, s.code a = some c ∧ s.code b = some c := by
  rw [same, Bool.or_eq_true, Bool.and_eq_true, beq_iff_eq, beq_iff_eq]
  refine or_congr_right ⟨fun ⟨coded, equal⟩ => ?_, fun ⟨c, ha, hb⟩ => ⟨by rw [ha]; rfl, ha.trans hb.symm⟩⟩
  obtain ⟨c, ha⟩ := Option.isSome_iff_exists.mp coded
  exact ⟨c, ha, equal ▸ ha⟩

theorem alike {a b : Ref} (first : s.same a k) (second : s.same b k) : s.same a b := by
  rw [same_iff] at *
  rcases first with rfl | ⟨c, ha, hk⟩ <;> rcases second with rfl | ⟨c', hb, hk'⟩
  · exact .inl rfl
  · exact .inr ⟨c', hk', hb⟩
  · exact .inr ⟨c, ha, hk⟩
  · cases hk.symm.trans hk'
    exact .inr ⟨c, ha, hb⟩

/-! ### Listing keys -/

/-- A new thing that is no dictionary. -/
theorem Ready.makes (ready : s.Ready) {r : Request Ref} (answered : s.answer r = s.make t) (keyed : s.Keyed t)
    {Q : Ref → Bookcase → Prop}
    (hQ : lexicon.Learns s (s.set ⟨s.next⟩ t) → (s.set ⟨s.next⟩ t).things ⟨s.next⟩ = some t →
      Q ⟨s.next⟩ (s.set ⟨s.next⟩ t)) : Answers s r Q :=
  answers answered (hQ (ready.learns_make keyed) things_set_self)

theorem answer_keys (o : Ref) : s.answer (.getAttr o "keys") = s.make (.keysOf o) :=
  show s.member o "keys" = _ from if_pos rfl

theorem answer_next (o : Ref) : s.answer (.getAttr o "__next__") = s.make (.nextOf o) :=
  show s.member o "__next__" = _ from (if_neg (by decide)).trans (if_pos rfl)

theorem Ready.keys (ready : s.Ready) (dict : lexicon.Dict s d es) :
    Answers s (.getAttr d "keys") fun method s₁ => lexicon.Learns s s₁ ∧
      Answers s₁ (.isCallable method) fun callable s₂ => callable = true ∧ lexicon.Learns s₁ s₂ ∧
        Answers s₂ (.call method [] []) fun keys s₃ => lexicon.Learns s₂ s₃ ∧
          Answers s₃ (.iterate keys) fun it s₄ => lexicon.Learns s₃ s₄ ∧
            lexicon.left s₄ it = some (es.map Prod.fst) := by
  obtain ⟨absent, there⟩ := thing_of_dict dict
  refine ready.makes (answer_keys d) nofun fun learned method => ?_
  have there₁ := ready.thing_later (t := .keysOf d) there
  have ready₁ := learned.ready
  generalize s.set ⟨s.next⟩ (.keysOf d) = s₁ at *
  refine ⟨learned, answers rfl ⟨rfl, .refl ready₁, ?_⟩⟩
  have called : s₁.answer (.call ⟨s.next⟩ [] []) = s₁.make (.viewOf d) := by
    change s₁.call ⟨s.next⟩ = _
    rw [call, method]
  refine ready₁.makes called nofun fun learned keys => ⟨learned, ?_⟩
  have there₂ := ready₁.thing_later (t := .viewOf d) there₁
  have ready₂ := learned.ready
  generalize s₁.set ⟨s₁.next⟩ (.viewOf d) = s₂ at *
  have iterated : s₂.answer (.iterate ⟨s₁.next⟩) = s₂.make (.iterator (es.map Prod.fst)) := by
    change s₂.iterate ⟨s₁.next⟩ = _
    simp only [iterate, keys, there₂]
  refine ready₂.makes iterated nofun fun learned it => ⟨learned, ?_⟩
  exact Option.bind_eq_some_iff.mpr ⟨_, it, rfl⟩

theorem iterator_of_left {it : Ref} {ks : List Ref} (left : lexicon.left s it = some ks) :
    s.things it = some (.iterator ks) := by
  obtain ⟨t, there, left⟩ := Option.bind_eq_some_iff.mp left
  cases t with
  | iterator ks' =>
      cases left
      exact there
  | _ => cases left

theorem Ready.next (ready : s.Ready) {it : Ref} {ks : List Ref} (left : lexicon.left s it = some (k :: ks)) :
    Answers s (.getAttr it "__next__") fun method s₁ => lexicon.Learns s s₁ ∧
      Answers s₁ (.call method [] []) fun o s₂ => o = k ∧ lexicon.Learns s₁ s₂ ∧ lexicon.left s₂ it = some ks := by
  have there := iterator_of_left left
  refine ready.makes (answer_next it) nofun fun learned method => ⟨learned, ?_⟩
  have there₁ := ready.thing_later (t := .nextOf it) there
  have ready₁ := learned.ready
  generalize s.set ⟨s.next⟩ (.nextOf it) = s₁ at *
  have called : s₁.call ⟨s.next⟩ = (.ok k, s₁.set it (.iterator ks)) := by simp only [call, method, there₁]
  refine answers (r := .call ⟨s.next⟩ [] []) called ⟨rfl, ready₁.learns ?_ ?_ nofun, ?_⟩
  · intro t₀ here
    cases there₁.symm.trans here
    exact ⟨rfl, rfl, rfl, rfl, rfl⟩
  · intro t₀ here
    cases there₁.symm.trans here
    rfl
  · exact Option.bind_eq_some_iff.mpr ⟨_, things_set_self, rfl⟩

theorem Ready.stop (ready : s.Ready) {it : Ref} (left : lexicon.left s it = some []) :
    Answers s (.getAttr it "__next__") fun method s₁ => lexicon.Learns s s₁ ∧
      lexicon.Throws s₁ (.call method [] []) fun f => f.belongs .stopIteration = true := by
  have there := iterator_of_left left
  refine ready.makes (answer_next it) nofun fun learned method => ⟨learned, ?_⟩
  have there₁ := ready.thing_later (t := .nextOf it) there
  have ready₁ := learned.ready
  generalize s.set ⟨s.next⟩ (.nextOf it) = s₁ at *
  have called : s₁.call ⟨s.next⟩ = s₁.raise Bookcase.stop := by simp only [call, method, there₁]
  exact ready₁.throws (r := .call ⟨s.next⟩ [] []) called rfl

/-- **The bookcase keeps the laws.** -/
theorem laws : lexicon.Laws where
  noneHash h := h.none
  boolHash b h := h.bool b
  newInt _ h := h.brings rfl nofun rfl
  newFloat _ h := h.brings rfl nofun rfl
  newStr _ h := h.brings rfl nofun rfl
  newBytes _ h := h.brings rfl nofun rfl
  newList _ h := h.brings rfl nofun rfl
  newSlice _ _ _ h := h.brings rfl nofun rfl
  newTuple {s} items h := by
    refine answers rfl ⟨h.learns_make nofun, fun hs known => hash_make.trans ?_⟩
    change (items.mapM s.hash).map Hash.tuple = _
    rw [show items.mapM s.hash = some hs from known]
    rfl
  newDict {s} h := by
    have keyed : s.Keyed (.dict [] none) := fun es absent same => by
      cases same
      exact ⟨nofun, .nil⟩
    refine answers rfl ⟨⟨h.learns_make keyed, hash_make⟩, ?_, ?_⟩
    · exact congrArg (Option.bind · Thing.shape) h.new
    · exact Option.bind_eq_some_iff.mpr ⟨_, things_set_self, rfl⟩
  equal {s a b} h ha hb := answers rfl (by
    change s.same a b = (a == b || s.same a b)
    rw [same, ← Bool.or_assoc, Bool.or_self])
  alike _ _ _ _ := alike
  distinct {s d es} h dict := by
    obtain ⟨absent, there⟩ := thing_of_dict dict
    exact (h.keyed there).2
  contains h dict sound := by
    obtain ⟨absent, there⟩ := thing_of_dict dict
    exact h.looks (withKey_of_sound there sound)
  getItem {s d k v es} h dict sound found := by
    obtain ⟨absent, there⟩ := thing_of_dict dict
    have answered : s.getItem d k = (.ok v, s) := by
      rw [Bookcase.getItem, withKey_of_sound there sound, show es.find? s.same k = some v from found]
    exact h.looks answered
  setItem h dict sound := h.setItem dict sound
  deleteItem h dict sound has := h.deleteItem dict sound has
  length {s d es} h dict := by
    obtain ⟨absent, there⟩ := thing_of_dict dict
    have answered : s.length d = (.ok es.length, s) := by rw [Bookcase.length, there]
    exact h.looks answered
  refuse item h shape refused := h.refuse item shape refused
  deleteAbsent {s d k es} h dict sound other := by
    obtain ⟨absent, there⟩ := thing_of_dict dict
    have answered : s.answer (.deleteItem d k) = s.raise (s.keyError k) :=
      (withKey_of_sound there sound).trans (if_neg (Bool.eq_false_iff.mp other))
    exact h.throws answered isKeyError_keyError
  getAbsent {s d k es} h dict plain sound other := by
    obtain ⟨absent, there⟩ := thing_of_dict dict
    obtain ⟨t, here, isPlain⟩ := (Option.any_eq_true _ _).mp plain
    cases there.symm.trans here
    cases absent with
    | some v => cases isPlain
    | none =>
        have missing : es.find? s.same k = none := by
          rw [← Option.not_isSome_iff_eq_none, Entries.find?_isSome]
          exact Bool.eq_false_iff.mp other
        have answered : s.getItem d k = s.raise (s.keyError k) := by
          rw [Bookcase.getItem, withKey_of_sound there sound, missing]
        exact h.throws answered isKeyError_keyError
  keys {s d es} h dict := h.keys dict
  next {s it k ks} h left := h.next left
  stop {s it} h left := h.stop left
  typeName {s e f} h known :=
    h.looks (congrArg (fun o : Option Report => (Except.ok (o.elim "object" Report.typeName), s)) known)
  str {s e f} h known :=
    h.looks (congrArg (fun o : Option Report => (Except.ok (o.elim (Text.ofString "") Report.text), s)) known)
  belongs {s e f} kind h known :=
    h.looks (congrArg (fun o : Option Report => (Except.ok (o.elim false fun f => f.belongs kind), s)) known)
  repr {s k t} h sound shown := by
    have answered : s.repr k = (.ok t, s) := by rw [Bookcase.repr, show s.shown k = some t from shown]
    exact h.looks answered
  noRepr {s k} h sound hidden held := by
    refine ⟨⟨noneRef, []⟩, [], s, ?_, .refl h⟩
    change ((s.repr k).1, [], (s.repr k).2) = _
    rw [Bookcase.repr, show s.shown k = none from hidden]
    rfl

/-! ### From the start -/

theorem first_free {id : Nat} (past : initial.next ≤ id) : first ⟨id⟩ = none := by
  simp only [initial, falseRef] at past
  have afterNone : (⟨id⟩ : Ref) ≠ noneRef := by
    simp only [noneRef, ne_eq, Ref.mk.injEq]
    omega
  have afterTrue : (⟨id⟩ : Ref) ≠ trueRef := by
    simp only [trueRef, ne_eq, Ref.mk.injEq]
    omega
  have afterFalse : (⟨id⟩ : Ref) ≠ falseRef := by
    simp only [falseRef, ne_eq, Ref.mk.injEq]
    omega
  rw [first, if_neg afterNone, if_neg afterTrue, if_neg afterFalse]

theorem first_no_dict (es : Entries) (absent : Option Ref) (r : Ref) : first r ≠ some (.dict es absent) := by
  unfold first
  repeat' split
  all_goals exact nofun

theorem first_none : first noneRef = some .none := if_pos rfl

theorem first_bool (b : Bool) : first (boolRef b) = some (.bool b) := by
  cases b <;> simp [first, noneRef, boolRef, trueRef, falseRef]

theorem things_initial : initial.things = first := rfl

theorem ready_initial : initial.Ready where
  none := by rw [hash, things_initial, first_none]; rfl
  bool b := by rw [hash, things_initial, first_bool]; rfl
  free past := by rw [things_initial, first_free past]
  keyed {d es absent} dict := absurd dict (first_no_dict es absent d)

end Bookcase

end GuestBridge.Bridge
