import GuestBridge.Proofs.Requests.Arrival
import GuestBridge.Proofs.RoundTrip.Guest

/-!
# Calls With Two Dictionaries

Repeated keywords reach the guest through a function of its own, what `keywordCallSource` is evaluated
to: it takes a callee, a tuple and two dictionaries, and calls the callee with all that is in them. A
`Switchboard` is a way to look at a guest that knows these functions and what is in such dictionaries.
Its laws say what the guest does where a name is in both: it looks up what the callee is called, and
then raises a `TypeError` for the first name in the second dictionary that is in the first one too. To
look up what the callee is called can run code of the callee, and what that raises is raised instead.
The callee is not called.

What the bridge makes of the exception is said by `failure_call`, and `Describes` tells what is kept of
it.
-/

namespace GuestBridge

/-- The diagnostic reading of two texts, one behind the other. -/
theorem Text.lossy_append (a b : Text) : (a ++ b).lossy = a.lossy ++ b.lossy := by
  change String.ofList (List.flatMap _ (a.points ++ b.points)) = _
  rw [List.flatMap_append, String.ofList_append]
  rfl

end GuestBridge

namespace GuestBridge.Bridge

open Guest (Ref Raised)

variable {σ : Type}

/-! ### Exceptions -/

section

variable [GuestState σ]

/-- An exception tells the name of its type, and then its text, whatever the bridge holds. -/
def Describes (s : σ) (e : Raised) (type : String) (text : Text) : Prop :=
  Answers s (.typeName e.value) fun name s' => name = type ∧
    Answers s' (.str e.value) fun t _ => t = text

/-- What an exception tells is kept. -/
theorem diagnose_of_describes {w : World σ} {e : Raised} {type : String} {text : Text}
    (describes : Describes w.guest e type text) :
    ∃ traceback, (diagnose e w).1 = ⟨type, text.lossy, traceback⟩ := by
  obtain ⟨_, w₁, named, rfl, told⟩ := w.ask_of_answers describes
  obtain ⟨_, w₂, said, rfl⟩ := w₁.ask_of_answers told
  refine ⟨(tracebackOf e w₂).1, ?_⟩
  rw [diagnose, bind_apply, askOr_apply, named]
  change ((askOr (.str e.value) Text.lossy "" >>= _ : StateM (World σ) Diagnostic) w₁).1 = _
  rw [bind_apply, askOr_apply, said]
  rfl

/-- An exception that a call raised becomes an error of its own kind, with what was kept of it. -/
theorem failure_call (cx : Context) (e : Raised) (w : World σ) : ∃ traceback,
    (failure cx .call e w).1 = .foreignException (cx.handle e.value) traceback (diagnose e w).1 :=
  ⟨_, rfl⟩

end

/-! ### The laws -/

/-- What the guest says where an argument is given twice. -/
def repeatMessage (name : Text) (x : String) : Text :=
  name ++ Text.ofString (" got multiple values for keyword argument '" ++ x ++ "'")

/-- A way to look at the states of a guest that knows calls with two dictionaries. -/
structure Switchboard (σ : Type) extends Outlook σ where
  /-- What is in a dictionary of names. -/
  entries : σ → Ref → Option (List (String × Ref))
  /-- Whether an object is a function that `keywordCallSource` was evaluated to. -/
  passesOn : σ → Ref → Prop
  /-- What an object is called in errors about its arguments, or what is raised while that is looked up,
  and the state after. -/
  naming : List Ref → Ref → σ → Except Raised Text × σ

namespace Switchboard

variable (V : Switchboard σ)

/-- The guest is ready, and everything is known that was known before. -/
structure Grows (s s' : σ) : Prop extends V.toOutlook.Keeps s s' where
  entries {d : Ref} {es : List (String × Ref)} : V.entries s d = some es → V.entries s' d = some es
  passesOn {f : Ref} : V.passesOn s f → V.passesOn s' f

/-- A call is refused for a keyword: the callee is named, and nothing else is done. What is raised then
reports the keyword, if the callee has a name. -/
structure Refuses [GuestState σ] (held : List Ref) (callee : Ref) (x : String) (s : σ) (e : Raised) (s' : σ) :
    Prop where
  only : V.Grows (V.naming held callee s).2 s'
  named {name : Text} : (V.naming held callee s).1 = .ok name →
    Describes s' e "TypeError" (repeatMessage name x)
  unnamed {raised : Raised} : (V.naming held callee s).1 = .error raised → e.value = raised.value

/-- What the bridge relies on where it gives keywords in two dictionaries. -/
structure Laws [GuestState σ] : Prop where
  newTuple {s : σ} (items : List Ref) : V.Ready s → Answers s (.newTuple items) fun t s' =>
    V.Grows s s' ∧ (V.objects s').shape t = some (.sequence items)
  /-- A dictionary that is made of distinct names has these. -/
  newDict {s : σ} {es : List (String × Ref)} : V.Ready s → (es.map Prod.fst).Nodup →
    Answers s (.newDict es) fun d s' => V.Grows s s' ∧ V.entries s' d = some es
  /-- A call is refused for the first name in the second dictionary that is in the first one too. -/
  refuse {s : σ} (callee : Ref) {passOn t d extra : Ref} {items : List Ref}
    {first second : List (String × Ref)} {x : String} : V.Ready s → V.passesOn s passOn →
    (V.objects s).shape t = some (.sequence items) →
    V.entries s d = some first → V.entries s extra = some second →
    (second.map Prod.fst).find? (· ∈ first.map Prod.fst) = some x →
    ∀ held, ∃ e writes s', GuestState.perform held (.call passOn [callee, t, d, extra] []) s =
      (.error e, writes, s') ∧ V.Refuses held callee x s e s'

variable {V}

theorem Grows.trans {s s' s'' : σ} (h : V.Grows s s') (h' : V.Grows s' s'') : V.Grows s s'' :=
  ⟨h.toKeeps.trans h'.toKeeps, fun known => h'.entries (h.entries known),
    fun known => h'.passesOn (h.passesOn known)⟩

end Switchboard

/-! ### Where the function comes from -/

section

variable [GuestState σ]

/-- A start evaluates `keywordCallSource`, and what comes back is what the session passes calls on with. -/
theorem traced_keywordCall (s : SessionId) (config : SessionConfig) :
    Traced (σ := σ) (startRuntime s config).run fun tr r => ∀ rt, r = .ok rt →
      (⟨.evaluate keywordCallSource, .ok rt.keywordCall⟩ : Asked) ∈ tr := by
  have told {α : Type} {x : Crossing σ α} (lets : Lets (OfStart s config.captureOutput) x.run) :
      Traced x.run fun _ _ => True :=
    (lets.traced (Q := fun _ => True) fun _ _ _ => trivial).mono fun _ _ _ => trivial
  have builtins := told (x := importNow "builtins") (lets_importNow rfl fun _ => rfl)
  have name := told (x := request (.newStr "__main__")) (.request rfl)
  have globals (es : List (String × Ref)) := told (x := request (.newDict es)) (.request rfl)
  have sys := told (x := importNow "sys") (lets_importNow rfl fun _ => rfl)
  refine builtins.bindExcept (fun _ builtins _ => ?_) fun _ _ _ => nofun
  refine name.bindExcept (fun _ name _ => ?_) fun _ _ _ => nofun
  refine (globals _).bindExcept (fun _ globals _ => ?_) fun _ _ _ => nofun
  refine sys.bindExcept (fun _ sys _ => ?_) fun _ _ _ => nofun
  refine (told (lets_extendSearch sys config.searchPaths)).bindExcept (fun _ _ _ => ?_) fun _ _ _ => nofun
  refine traced_requestThen _ (fun keywordCall => ?_) fun _ => nofun
  refine (told (lets_replaceOutput s sys config.captureOutput)).bindExcept (fun _ previous _ => ?_)
    fun _ _ _ => nofun
  refine .pure fun rt started => ?_
  cases started
  simp

/-- **A session passes calls on with what `keywordCallSource` was evaluated to** when it entered the
guest. No job changes that (`Moves.base`). -/
theorem keywordCall_evaluated {s : SessionId} {config : SessionConfig} {w : World σ}
    (known : s < w.sessions.length) (entered : (enterGuest s config w).1 = none) :
    ∃ rt tr, ((enterGuest s config w).2.session s).runtime = some rt ∧ Runs w tr (enterGuest s config w).2 ∧
      (⟨.evaluate keywordCallSource, .ok rt.keywordCall⟩ : Asked) ∈ tr := by
  obtain ⟨rt, started, runtime, guest⟩ := enterGuest_started known entered
  obtain ⟨tr, run, evaluated⟩ := traced_keywordCall s config w
  refine ⟨rt, tr, runtime, ?_, evaluated rt started⟩
  rw [← List.append_nil tr]
  exact run.append (.stay guest)

end

/-! ### A guest that names its callees

The smallest guest in which calls with two dictionaries are refused: it makes integers, tuples and
dictionaries of names, and has objects that can be called. Some of these have no name, and to ask for it
raises an exception.
-/

open Guest (noneRef)

/-- What the porter keeps. -/
inductive Parcel
  | plain (shape : Shape)
  | names (es : List (String × Ref))
  | passOn
  /-- Can be called; has a name, or an exception that is raised in its place. -/
  | callee (name : Except Raised Text)
  | fault (type : String) (text : Text)

/-- A guest that names its callees. References from `next` on are free. -/
structure Porter where
  parcels : Ref → Option Parcel
  next : Nat

namespace Porter

/-- Makes a new object. -/
def make (s : Porter) (p : Parcel) : Ref × Porter :=
  (⟨s.next⟩, ⟨fun r => if r = ⟨s.next⟩ then some p else s.parcels r, s.next + 1⟩)

/-- What an object is called. -/
def name (s : Porter) (callee : Ref) : Except Raised Text :=
  match s.parcels callee with
  | some (.callee name) => name
  | _ => .error ⟨noneRef, []⟩

/-- Calls an object with two dictionaries. -/
def passOn (s : Porter) (callee t d extra : Ref) : Except Raised Ref × Porter :=
  match s.parcels t, s.parcels d, s.parcels extra with
  | some (.plain (.sequence items)), some (.names first), some (.names second) =>
    match (second.map Prod.fst).find? (· ∈ first.map Prod.fst), s.name callee with
    | some x, .ok name =>
      let (e, s) := s.make (.fault "TypeError" (repeatMessage name x))
      (.error ⟨e, []⟩, s)
    | some _, .error raised => (.error raised, s)
    | none, _ =>
      let (r, s) := s.make (.plain (.sequence (items ++ (first ++ second).map Prod.snd)))
      (.ok r, s)
  | _, _, _ => (.error ⟨noneRef, []⟩, s)

/-- Answers a request. An object that is called gives a tuple of what it was called with. -/
def answer (s : Porter) : {α : Type} → Request α → Except Raised α × Porter
  | _, .newInt n => let (r, s) := s.make (.plain (.int n)); (.ok r, s)
  | _, .newTuple items => let (r, s) := s.make (.plain (.sequence items)); (.ok r, s)
  | _, .newDict es => let (r, s) := s.make (.names es); (.ok r, s)
  | _, .getAttr r _ => (.ok r, s)
  | _, .isCallable r => match s.parcels r with
    | some (.callee _) | some .passOn => (.ok true, s)
    | _ => (.ok false, s)
  | _, .call f args keywords => match s.parcels f, args, keywords with
    | some .passOn, [callee, t, d, extra], [] => s.passOn callee t d extra
    | some (.callee _), _, _ =>
      let (r, s) := s.make (.plain (.sequence (args ++ keywords.map Prod.snd)))
      (.ok r, s)
    | _, _, _ => (.error ⟨noneRef, []⟩, s)
  | _, .typeName r => match s.parcels r with
    | some (.fault type _) => (.ok type, s)
    | _ => (.error ⟨noneRef, []⟩, s)
  | _, .str r => match s.parcels r with
    | some (.fault _ text) => (.ok text, s)
    | _ => (.error ⟨noneRef, []⟩, s)
  | _, _ => (.error ⟨noneRef, []⟩, s)

instance : GuestState Porter where
  perform _ r s := ((s.answer r).1, [], (s.answer r).2)

/-- Nothing lies at a free reference. -/
def Tidy (s : Porter) : Prop := ∀ r p, s.parcels r = some p → r.id < s.next

/-- The shape of what the porter keeps. -/
def Parcel.shape? : Parcel → Option Shape
  | .plain x => some x
  | _ => none

/-- The entries of what the porter keeps. -/
def Parcel.entries? : Parcel → Option (List (String × Ref))
  | .names es => some es
  | _ => none

/-- How the porter is looked at. -/
abbrev switchboard : Switchboard Porter where
  Ready := Tidy
  objects s := ⟨fun r => (s.parcels r).bind Parcel.shape?, fun _ => none⟩
  entries s d := (s.parcels d).bind Parcel.entries?
  passesOn s f := s.parcels f = some .passOn
  naming _ callee s := (s.name callee, s)

variable {s s' : Porter}

/-- What keeps all that was there keeps what is known. -/
theorem grows (tidy : s'.Tidy) (kept : ∀ r p, s.parcels r = some p → s'.parcels r = some p) :
    switchboard.Grows s s' := by
  have looked {α : Type} {f : Parcel → Option α} {r : Ref} {a : α} (known : (s.parcels r).bind f = some a) :
      (s'.parcels r).bind f = some a := by
    obtain ⟨p, there, what⟩ := Option.bind_eq_some_iff.mp known
    exact Option.bind_eq_some_iff.mpr ⟨p, kept r p there, what⟩
  exact ⟨⟨tidy, looked, nofun⟩, looked, kept _ _⟩

theorem Tidy.make (h : s.Tidy) (p : Parcel) : switchboard.Grows s (s.make p).2 := by
  refine grows (fun r q there => ?_) fun r q there => ?_
  · by_cases new : r = ⟨s.next⟩
    · rw [new]
      exact Nat.lt_succ_self _
    · exact Nat.lt_succ_of_lt (h r q ((if_neg new).symm.trans there))
  · have old : r ≠ ⟨s.next⟩ := fun new => Nat.ne_of_lt (h r q there) (congrArg Ref.id new)
    exact (if_neg old).trans there

theorem parcels_make (p : Parcel) : (s.make p).2.parcels (s.make p).1 = some p := if_pos rfl

theorem describes {e : Ref} {type : String} {text : Text} (there : s.parcels e = some (.fault type text)) :
    Describes s ⟨e, []⟩ type text := by
  have named : s.answer (.typeName e) = (.ok type, s) := by rw [answer, there]
  have said : s.answer (.str e) = (.ok text, s) := by rw [answer, there]
  refine fun held => ⟨type, [], s, ?_, rfl, fun held => ⟨text, [], s, ?_, rfl⟩⟩
  · change ((s.answer (.typeName e)).1, [], (s.answer (.typeName e)).2) = _
    rw [named]
  · change ((s.answer (.str e)).1, [], (s.answer (.str e)).2) = _
    rw [said]

theorem parcels_of_shape {r : Ref} {x : Shape} (h : (s.parcels r).bind Parcel.shape? = some x) :
    s.parcels r = some (.plain x) := by
  obtain ⟨p, there, what⟩ := Option.bind_eq_some_iff.mp h
  cases p <;> cases what
  exact there

theorem parcels_of_entries {d : Ref} {es : List (String × Ref)}
    (h : (s.parcels d).bind Parcel.entries? = some es) : s.parcels d = some (.names es) := by
  obtain ⟨p, there, what⟩ := Option.bind_eq_some_iff.mp h
  cases p <;> cases what
  exact there

/-- **The porter keeps the laws.** -/
theorem laws : switchboard.Laws where
  newTuple {s} items h held :=
    ⟨_, [], _, rfl, h.make (.plain (.sequence items)), congrArg (·.bind Parcel.shape?) (parcels_make _)⟩
  newDict {s es} h _ held :=
    ⟨_, [], _, rfl, h.make (.names es), congrArg (·.bind Parcel.entries?) (parcels_make _)⟩
  refuse {s} callee {passOn t d extra items first second x} h passes tuple firsts seconds found held := by
    have answered : s.answer (.call passOn [callee, t, d, extra] []) = s.passOn callee t d extra := by
      change s.parcels passOn = _ at passes
      simp only [answer, passes]
    have looked : s.passOn callee t d extra = match s.name callee with
        | .ok name => (.error ⟨(s.make (.fault "TypeError" (repeatMessage name x))).1, []⟩,
            (s.make (.fault "TypeError" (repeatMessage name x))).2)
        | .error raised => (.error raised, s) := by
      rw [Porter.passOn, parcels_of_shape tuple, parcels_of_entries firsts, parcels_of_entries seconds]
      simp only [found]
      cases s.name callee <;> rfl
    change ∃ e writes s', ((s.answer (.call passOn [callee, t, d, extra] [])).1, [],
      (s.answer (.call passOn [callee, t, d, extra] [])).2) = (.error e, writes, s') ∧ _
    rw [answered, looked]
    cases named : s.name callee with
    | ok name =>
        refine ⟨_, [], _, rfl, h.make _, fun called => ?_, fun raised => ?_⟩
        · cases named.symm.trans called
          exact describes (parcels_make _)
        · cases named.symm.trans raised
    | error raised =>
        refine ⟨_, [], _, rfl, grows h fun _ _ => id, fun called => ?_, fun raised => ?_⟩
        · cases named.symm.trans called
        · cases named.symm.trans raised
          rfl

/-! ### What there is at the porter's -/

/-- A function of the name `f`, an object whose name raises, and the exception that it raises. -/
def kept (r : Ref) : Option Parcel :=
  if r = ⟨3⟩ then some .passOn
  else if r = ⟨4⟩ then some (.callee (.ok (Text.ofString "f()")))
  else if r = ⟨5⟩ then some (.callee (.error ⟨⟨6⟩, []⟩))
  else if r = ⟨6⟩ then some (.fault "ValueError" (Text.ofString "no name"))
  else none

theorem tidy_kept : Tidy ⟨kept, 7⟩ := by
  intro r p there
  change kept r = some p at there
  rw [kept] at there
  split_ifs at there <;> subst r <;> decide

/-- The session's world with what is kept, after some integers were made. -/
def world (made : List Int) : World Porter where
  guest := made.foldl (fun s n => (s.make (.plain (.int n))).2) ⟨kept, 7⟩
  held := []
  sessions := [⟨0, some [], "", some ⟨"", noneRef, noneRef, [], ⟨3⟩, none⟩⟩]
  log := []

theorem ready_world (made : List Int) : switchboard.Ready (world made).guest :=
  List.foldlRecOn made _ (motive := Tidy) tidy_kept fun _ tidy n _ => (tidy.make (.plain (.int n))).ready

/-- Names with integers in order. -/
def numbered (names : List String) : List (String × HostValue) :=
  names.mapIdx fun n name => (name, ⟨.bigInt, (n : Int)⟩)

/-- A handle on an object. -/
def handle (r : Ref) : Handle := ⟨r, 0, none⟩

end Porter

end GuestBridge.Bridge
