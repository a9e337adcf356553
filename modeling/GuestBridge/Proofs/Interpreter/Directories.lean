import GuestBridge.Bridge.Interpreter
import GuestBridge.Proofs.Interpreter.Globals
import GuestBridge.Proofs.Requests.Arrival

/-!
# A Search Path in the Interpreter

How the interpreter keeps a search path, and how it follows one. `pathOf` looks at a list as imports do:
each entry is the directory that its text names, and an entry that is no text is passed over. Where the
list is in order (`Machine.Paved`) a directory can always be inserted, and it comes to stand where it is
put, so that the insertions of a start succeed one after the other (`extended_insertPaths`).

An import takes what the first directory has that has anything (`findIn?_eq`), so a session loads modules
from its own directories, in their order, before it loads them from where they were found before.

## Main results

* `extended_insertPaths` — the insertions of a start succeed, and what they make of the path.
* `loads_first` — a module is loaded from the first directory that has it.
-/

namespace GuestBridge.Guest

open Bridge (Request GuestState World Route Brings insertPaths traced_insertPaths searched
  searched_first)

/-! ### Entries -/

/-- The directory that an object names on a search path. -/
def Machine.entry (m : Machine) (r : Ref) : Option String := (heldText? m r).map Text.lossy

/-- The strings of which there is one object each are on the heap. -/
def Machine.Stocked (m : Machine) : Prop :=
  ∀ (t : Text) r, narrowChar? t.points = some r → r.id < m.heap.size ∧ m.data r = .str t

/-- A search path in order: it is a list with these elements, strings can be made, and no object is
watched. -/
structure Machine.Paved (m : Machine) (list : Ref) (items : List Ref) : Prop where
  unwatched : m.watched = []
  stocked : m.Stocked
  known : list.id < m.heap.size
  cls : (m.heap.getD list.id default).cls = .builtin .list
  data : m.data list = .list items.toArray
  elements : ∀ r ∈ items, r.id < m.heap.size

/-- A list as a search path. -/
def pathOf (sys list : Ref) : Route Machine where
  sys := sys
  list := list
  Sane m := ∃ items, m.Paved list items
  path m := match m.data list with
    | .list items => items.toList.map m.entry
    | _ => []
  text := Machine.entry

/-- Objects may have been made, and all that were there are as they were. -/
structure Machine.Grows (m m' : Machine) : Prop where
  size : m.heap.size ≤ m'.heap.size
  objects : ∀ r : Ref, r.id < m.heap.size → m'.heap.getD r.id default = m.heap.getD r.id default
  watched : m'.watched = m.watched

section

variable {m m' : Machine} {list r : Ref} {items : List Ref}

theorem heldText?_eq {t : Text} (data : m.data r = .str t) : heldText? m r = some t := by
  have held : (m.heap.getD r.id default).data = .str t := data
  rw [heldText?, held]

theorem Machine.entry_congr (same : m'.data r = m.data r) : m'.entry r = m.entry r := by
  have held : (m'.heap.getD r.id default).data = (m.heap.getD r.id default).data := same
  rw [Machine.entry, Machine.entry, heldText?, held, heldText?]

theorem Machine.entry_of_list {items : Array Ref} (data : m.data r = .list items) : m.entry r = none := by
  have held : (m.heap.getD r.id default).data = .list items := data
  rw [Machine.entry, heldText?, held]
  rfl

theorem Machine.Paved.path (paved : m.Paved list items) (sys : Ref) :
    (pathOf sys list).path m = items.map m.entry := by
  change (match m.data list with | .list items => items.toList.map m.entry | _ => []) = _
  rw [paved.data]

theorem Machine.Grows.data (grows : m.Grows m') (known : r.id < m.heap.size) : m'.data r = m.data r :=
  congrArg Object.data (grows.objects r known)

theorem Machine.Grows.push (m : Machine) (o : Object) : m.Grows { m with heap := m.heap.push o } where
  size := by simp
  objects r known := by simp [Array.getD, known, Nat.lt_succ_of_lt known, Array.getElem_push_lt]
  watched := rfl

theorem Machine.Stocked.grows (stocked : m.Stocked) (grows : m.Grows m') : m'.Stocked := fun t r narrow =>
  have ⟨known, data⟩ := stocked t r narrow
  ⟨Nat.lt_of_lt_of_le known grows.size, (grows.data known).trans data⟩

theorem Machine.Paved.grows (paved : m.Paved list items) (grows : m.Grows m') : m'.Paved list items where
  unwatched := grows.watched.trans paved.unwatched
  stocked := paved.stocked.grows grows
  known := Nat.lt_of_lt_of_le paved.known grows.size
  cls := (congrArg Object.cls (grows.objects list paved.known)).trans paved.cls
  data := (grows.data paved.known).trans paved.data
  elements r there := Nat.lt_of_lt_of_le (paved.elements r there) grows.size

theorem Machine.Paved.entries_grows (paved : m.Paved list items) (grows : m.Grows m') :
    items.map m'.entry = items.map m.entry :=
  List.map_congr_left fun r there => Machine.entry_congr (grows.data (paved.elements r there))

end

/-! ### Strings made first -/

/-- The objects made first, behind the built-in types. -/
theorem firstObjects_behind (i : Nat) :
    firstObjects[kindCount + i]? = (singletons ++ smallObjects)[i]? := by
  have kinds : (Kind.all.map fun k => Object.of .type (.kind k)).length = kindCount :=
    List.length_map _
  rw [firstObjects, List.append_assoc, List.getElem?_append_right (kinds ▸ Nat.le_add_right _ _), kinds,
    Nat.add_sub_cancel_left]

theorem firstObjects_narrow {t : Text} {r : Ref} (narrow : narrowChar? t.points = some r) :
    firstObjects[r.id]? = some (.of .str (.str t)) := by
  obtain ⟨points⟩ := t
  match points, narrow with
  | [], narrow =>
      obtain rfl : emptyStrRef = r := Option.some.inj narrow
      exact firstObjects_behind 6
  | [p], narrow =>
      change (if p < 256 then some (⟨kindCount + 8 + 262 + p⟩ : Ref) else none) = some r at narrow
      split at narrow
      · rename_i small
        obtain rfl := Option.some.inj narrow
        change firstObjects[kindCount + 8 + 262 + p]? = _
        have eight : singletons.length = 8 := rfl
        rw [Nat.add_assoc, Nat.add_assoc, firstObjects_behind, ← eight,
          List.getElem?_append_right (Nat.le_add_right _ _), Nat.add_sub_cancel_left, smallObjects]
        simp [List.getElem?_append_right, small]
      · cases narrow
  | _ :: _ :: _, narrow => cases narrow

/-- A heap that begins with the objects made first has all strings of which there is one object each. -/
theorem stocked_of_firstObjects {m : Machine} (first : firstObjects <+: m.heap.toList) : m.Stocked := by
  intro t r narrow
  obtain ⟨there, -⟩ := List.getElem?_eq_some_iff.mp (firstObjects_narrow narrow)
  have same : m.heap[r.id]? = some (.of .str (.str t)) := by
    obtain ⟨later, whole⟩ := first
    rw [← Array.getElem?_toList, ← whole, List.getElem?_append_left there, firstObjects_narrow narrow]
  obtain ⟨known, -⟩ := Array.getElem?_eq_some_iff.mp same
  refine ⟨known, ?_⟩
  rw [Machine.data, Array.getD_eq_getD_getElem?, same]
  rfl

/-- A list that is made of known objects is a search path in order. -/
theorem paved_newList {m : Machine} (first : firstObjects <+: m.heap.toList) (unwatched : m.watched = [])
    {items : List Ref} (elements : ∀ r ∈ items, r.id < m.heap.size) :
    ∃ m', newList items m = .ok ⟨m.heap.size⟩ m' ∧ m'.Paved ⟨m.heap.size⟩ items := by
  have grows := Machine.Grows.push m (.of .list (.list items.toArray))
  refine ⟨_, rfl, unwatched, (stocked_of_firstObjects first).grows grows, by simp, ?_, m.data_push_new _,
    fun r there => Nat.lt_of_lt_of_le (elements r there) grows.size⟩
  simp [Array.getD, Object.of]

/-! ### Requests -/

/-- Where no object is watched, a request is answered at once. -/
theorem perform_of_answer {α : Type} {m m' : Machine} (unwatched : m.watched = []) (held : List Ref)
    {r : Request α} {a : α}
    (answered : @answer interpreter α r { m with held, settling := true } = .ok a m') :
    GuestState.perform held r m = (.ok a, m'.writes.reverse, { m' with writes := [] }) := by
  have unsettled : (if m.watched.isEmpty then none else some m) = none := by
    rw [unwatched]
    rfl
  have settled : (@answerSettled interpreter α (if m.watched.isEmpty then none else some m) r).run
      { m with held, settling := true } = .ok a m' := by
    rw [unsettled]
    exact answered
  simp only [GuestState.perform, settled]

/-- A string is made. -/
theorem newStr_spec {m : Machine} (stocked : m.Stocked) (s : String) : ∃ r m', newStr s m = .ok r m' ∧
    m.Grows m' ∧ r.id < m'.heap.size ∧ m'.data r = .str (Text.ofString s) := by
  unfold newStr newText
  cases narrow : narrowChar? (Text.ofString s).points with
  | some r =>
      have ⟨known, data⟩ := stocked _ r narrow
      exact ⟨r, m, rfl, ⟨Nat.le_refl _, fun _ _ => rfl, rfl⟩, known, data⟩
  | none => exact ⟨_, _, rfl, .push m _, by simp, m.data_push_new _⟩

section

variable {m : Machine} {list d : Ref} {items : List Ref}

/-- **A directory can be made**, and everything is as before. -/
theorem perform_newStr (paved : m.Paved list items) (held : List Ref) (dir : String) : ∃ d ws m',
    GuestState.perform held (.newStr dir) m = (.ok d, ws, m') ∧ m.Grows m' ∧ d.id < m'.heap.size ∧
      m'.entry d = some dir := by
  let ready : Machine := { m with held, settling := true }
  have stocked : ready.Stocked := paved.stocked
  obtain ⟨d, m', made, grows, known, data⟩ := newStr_spec stocked dir
  have named : m'.entry d = some dir := by
    rw [Machine.entry, heldText?_eq data, Option.map_some, Text.lossy_ofString]
  exact ⟨d, _, _, perform_of_answer paved.unwatched held made,
    ⟨grows.size, grows.objects, grows.watched⟩, known, named⟩

/-- Another element changes the data of the list, and nothing else. -/
theorem answer_insert (paved : m.Paved list items) (position : Nat) :
    @answer interpreter Unit (.insert list position d) m = .ok () { m with
      heap := m.heap.set! list.id { (m.heap.getD list.id default) with
        data := .list (items.take position ++ d :: items.drop position).toArray } } := by
  refine (exec_bind (dataOf_eq list m)).trans ?_
  rw [paved.data]
  rfl

/-- What is put in the place of a list is in the place of no string. -/
theorem Machine.Stocked.set (stocked : m.Stocked) {items : Array Ref} (data : m.data list = .list items)
    (o : Object) : ({ m with heap := m.heap.set! list.id o } : Machine).Stocked := by
  intro t r narrow
  obtain ⟨known, string⟩ := stocked t r narrow
  have other : r ≠ list := fun same => by
    rw [same, data] at string
    cases string
  exact ⟨by simpa using known, (m.data_set_ne o other).trans string⟩

/-- **An object can be inserted**, and comes to stand at its position. -/
theorem perform_insert (paved : m.Paved list items) (held : List Ref) (position : Nat)
    (there : d.id < m.heap.size) : ∃ ws m',
    GuestState.perform held (.insert list position d) m = (.ok (), ws, m') ∧
      m'.Paved list (items.take position ++ d :: items.drop position) ∧
      ∀ r, m'.entry r = m.entry r := by
  let ready : Machine := { m with held, settling := true }
  have paved' : ready.Paved list items := ⟨paved.1, paved.2, paved.3, paved.4, paved.5, paved.6⟩
  let o : Object := { (m.heap.getD list.id default) with
    data := .list (items.take position ++ d :: items.drop position).toArray }
  have object : (m.heap.set! list.id o).getD list.id default = o := by
    simp [Array.getD_eq_getD_getElem?, Array.set!_eq_setIfInBounds, paved.known]
  have own := m.data_set o paved.known
  refine ⟨_, _, perform_of_answer paved.unwatched held (answer_insert paved' position), ?_, fun r => ?_⟩
  · refine ⟨paved.unwatched, paved.stocked.set paved.data o, ?_, ?_, own, fun r among => ?_⟩
    · simpa using paved.known
    · exact (congrArg Object.cls object).trans paved.cls
    · have known : r.id < m.heap.size := by
        rcases List.mem_append.mp among with before | new
        · exact paved.elements r (List.mem_of_mem_take before)
        · rcases List.mem_cons.mp new with rfl | behind
          · exact there
          · exact paved.elements r (List.mem_of_mem_drop behind)
      simpa using known
  · -- the list is no text before or after, so a list that is on itself names nothing either way
    by_cases same : r = list
    · subst same
      exact (Machine.entry_of_list own).trans (Machine.entry_of_list paved.data).symm
    · exact Machine.entry_congr (m.data_set_ne o same)

end

/-! ### The insertions of a start -/

section

variable {w : World Machine} {sys list : Ref} {items : List Ref}

/-- **A directory comes to stand where it is put.** -/
theorem puts_pathOf (sys list : Ref) : (pathOf sys list).Puts := by
  rintro w v w' dir d position p made put ⟨⟨items, paved⟩, path⟩
  obtain ⟨held, answer, guest⟩ := made.asked
  obtain ⟨d', ws, m', performed, grows, known, named⟩ := perform_newStr paved held dir
  rw [performed] at answer guest
  cases answer
  have ready : m'.Paved list items := paved.grows grows
  have same : (pathOf sys list).path m' = p := by
    rw [ready.path, paved.entries_grows grows, ← paved.path sys, path]
  obtain ⟨held, -, guest'⟩ := put.asked
  change v.guest = m' at guest
  rw [guest] at guest'
  obtain ⟨ws, m'', performed, paved', entries⟩ := perform_insert ready held position known
  change w'.guest = (GuestState.perform held (.insert list position d) m').2.2 at guest'
  rw [performed] at guest'
  refine ⟨guest ▸ ⟨⟨items, ready⟩, same⟩, guest' ▸ ⟨⟨_, paved'⟩, ?_⟩⟩
  change (pathOf sys list).path m'' = _
  rw [ready.path] at same
  rw [paved'.path, funext entries, List.map_append, List.map_take, List.map_cons, List.map_drop, same, named]

/-- A search path is in order, and an object is there that can be put on it. -/
def Machine.Offers (m : Machine) (list d : Ref) : Prop :=
  ∃ items, m.Paved list items ∧ d.id < m.heap.size

theorem brings_newStr (list : Ref) (dir : String) :
    Brings (fun m : Machine => ∃ items, m.Paved list items) (Bridge.request (.newStr dir)).run
      fun r m => ∃ d, r = .ok d ∧ m.Offers list d := by
  refine .request fun held m ⟨items, paved⟩ => ?_
  obtain ⟨d, ws, m', performed, grows, known, -⟩ := perform_newStr paved held dir
  rw [performed]
  exact ⟨d, rfl, items, paved.grows grows, known⟩

theorem brings_insert (list d : Ref) (position : Nat) :
    Brings (fun m : Machine => m.Offers list d) (Bridge.request (.insert list position d)).run
      fun r m => r = .ok () ∧ ∃ items, m.Paved list items := by
  refine .request fun held m ⟨items, paved, known⟩ => ?_
  obtain ⟨ws, m', performed, paved', -⟩ := perform_insert paved held position known
  rw [performed]
  exact ⟨rfl, _, paved'⟩

/-- Directories can always be inserted. -/
theorem succeeds_insertPaths (list : Ref) (dirs : List String) (position : Nat) :
    Brings (fun m : Machine => ∃ items, m.Paved list items) (insertPaths list position dirs).run
      fun r _ => r = .ok () := by
  induction dirs generalizing position with
  | nil => exact .pure fun _ _ => rfl
  | cons dir dirs ih =>
      refine (brings_newStr list dir).bindExcept (fun d => ?_) fun _ _ ⟨_, failed, _⟩ => nomatch failed
      have rest : Brings (fun m : Machine => m.Offers list d)
          (Bridge.request (.insert list position d) >>= fun _ => insertPaths list (position + 1) dirs).run
          fun r _ => r = .ok () :=
        (brings_insert list d position).bindExcept (fun _ w ready => ih (position + 1) w ready.2)
          fun _ _ failed => nomatch failed.1
      rintro w ⟨_, same, offers⟩
      cases same
      exact rest w offers

/-- **The insertions of a start, in the interpreter**: they succeed, and the path is the directories in
their order with what was there before behind them. -/
theorem extended_insertPaths (sys : Ref) (paved : w.guest.Paved list items) (dirs : List String) :
    ∃ w', (insertPaths list 0 dirs).run w = (.ok (), w') ∧
      (pathOf sys list).Leads (dirs.map some ++ items.map w.guest.entry) w'.guest := by
  have ok := succeeds_insertPaths list dirs 0 w ⟨items, paved⟩
  -- what has been asked is a run of insertions, and the interpreter puts each where it is asked to
  obtain ⟨tr, run, told⟩ := traced_insertPaths list 0 dirs w
  rw [ok] at told
  exact ⟨_, Prod.ext ok rfl,
    (told rfl).front (puts_pathOf sys list) run ⟨⟨items, paved⟩, paved.path sys⟩⟩

end

/-! ### Following a path -/

/-- The module that a directory has, by the path that it would have there. -/
def Machine.module? (m : Machine) (name path : String) : Option Located :=
  match m.files.lookup (path ++ "/__init__.py"), m.files.lookup (path ++ ".py") with
  | some t, _ => some (.file (path ++ "/__init__.py") t true)
  | none, some t => some (.file (path ++ ".py") t false)
  | none, none => ((library? name).filter fun l => !l.isInternal &&
      (l.origin == path ++ ".py" || l.origin == path ++ "/__init__.py")).map .library

/-- What a directory has for an import. -/
def Machine.offer? (m : Machine) (name tail dir : String) : Option Located :=
  m.module? name (dir ++ "/" ++ tail)

/-- The directories of a module's name that have no file which makes them a package. -/
def Machine.bareAmong (m : Machine) (tail : String) (dirs : List String) : List String :=
  (dirs.map fun dir => dir ++ "/" ++ tail).filter fun path =>
    m.files.any fun (file, _) => file.startsWith (path ++ "/")

/-- One directory. -/
theorem findIn?_cons (name tail : String) (bare : List String) (dir : String) (dirs : List String)
    (m : Machine) : findIn? name tail bare (dir :: dirs) m = match m.offer? name tail dir with
      | some l => .ok (some l) m
      | none => findIn? name tail (bare ++ m.bareAmong tail [dir]) dirs m := by
  let path := dir ++ "/" ++ tail
  have package : fileText? (path ++ "/__init__.py") m =
      .ok (m.files.lookup (path ++ "/__init__.py")) m := rfl
  have file : fileText? (path ++ ".py") m = .ok (m.files.lookup (path ++ ".py")) m := rfl
  refine (exec_bind package).trans ?_
  rw [Machine.offer?, Machine.module?]
  cases m.files.lookup (path ++ "/__init__.py") with
  | some t => rfl
  | none =>
    refine (exec_bind file).trans ?_
    cases m.files.lookup (path ++ ".py") with
    | some t => rfl
    | none =>
      dsimp only
      cases (library? name).filter fun l => !l.isInternal &&
          (l.origin == path ++ ".py" || l.origin == path ++ "/__init__.py") with
      | some l => rfl
      | none =>
        have directory : isDirectory path m =
          .ok (m.files.any fun (file, _) => file.startsWith (path ++ "/")) m := rfl
        refine (exec_bind directory).trans ?_
        have among : m.bareAmong tail [dir] =
            if m.files.any fun (file, _) => file.startsWith (path ++ "/") then [path] else [] :=
          List.filter_singleton.trans (Bool.cond_eq_ite ..)
        change findIn? name tail _ dirs m = findIn? name tail _ dirs m
        rw [among]
        split
        · rfl
        · rw [List.append_nil]

/-- **An import takes what the first directory has that has anything.** Only if none has, the directories
of the module's name do for a package. -/
theorem findIn?_eq (name tail : String) (bare dirs : List String) (m : Machine) :
    findIn? name tail bare dirs m = .ok ((dirs.findSome? (m.offer? name tail)).or
      (if (bare ++ m.bareAmong tail dirs).isEmpty then none
        else some (.directories (bare ++ m.bareAmong tail dirs)))) m := by
  induction dirs generalizing bare with
  | nil =>
      rw [Machine.bareAmong, List.map_nil, List.filter_nil, List.append_nil, List.findSome?_nil,
        Option.none_or]
      rfl
  | cons dir dirs ih =>
      have bareAmong : m.bareAmong tail (dir :: dirs) = m.bareAmong tail [dir] ++ m.bareAmong tail dirs := by
        rw [Machine.bareAmong, ← List.singleton_append, List.map_append, List.filter_append]
        rfl
      rw [findIn?_cons, List.findSome?_cons, bareAmong, ← List.append_assoc]
      cases m.offer? name tail dir with
      | some l => rfl
      | none => exact ih (bare ++ m.bareAmong tail [dir])

/-- Where each step only looks at the machine, a filter does. -/
theorem filterMapM_eq {α β : Type} {f : α → Exec (Option β)} {g : α → Option β} {m : Machine}
    (looks : ∀ a, f a m = .ok (g a) m) (as : List α) : as.filterMapM f m = .ok (as.filterMap g) m := by
  have loop (bs : List β) : List.filterMapM.loop f as bs m = .ok (bs.reverse ++ as.filterMap g) m := by
    induction as generalizing bs with
    | nil => rw [List.filterMap_nil, List.append_nil]; rfl
    | cons a as ih =>
        refine (exec_bind (looks a)).trans ?_
        cases given : g a with
        | none => rw [List.filterMap_cons_none given]; exact ih bs
        | some b =>
            refine (ih (b :: bs)).trans ?_
            rw [List.filterMap_cons_some given, List.reverse_cons, List.append_assoc, List.singleton_append]
  exact loop []

section

variable [Ops] {m : Machine} {sys list : Ref} {items : List Ref} {p : List (Option String)}

/-- The directories of a path, as imports take them. -/
theorem directories_eq (paved : m.Paved list items) :
    directories list m = .ok (items.filterMap m.entry) m := by
  have listed : elements list m = .ok items m := by
    have cls : classOf list m = .ok (.builtin .list) m := congrArg (EStateM.Result.ok · m) paved.cls
    have data : dataOf list m = .ok (.list items.toArray) m := congrArg (EStateM.Result.ok · m) paved.data
    refine (exec_bind cls).trans ?_
    dsimp only
    rw [pure_bind]
    exact exec_bind data
  refine (exec_bind listed).trans (filterMapM_eq (fun r => ?_) items)
  exact (exec_bind (text?_eq r m)).trans rfl

/-- **An import searches the path.** -/
theorem imports_search (name tail : String) (leads : (pathOf sys list).Leads p m) :
    (directories list >>= findIn? name tail []) m =
      .ok ((searched (m.offer? name tail) p).or (if (m.bareAmong tail p.reduceOption).isEmpty then none
        else some (.directories (m.bareAmong tail p.reduceOption)))) m := by
  obtain ⟨⟨items, paved⟩, path⟩ := leads
  have named : items.filterMap m.entry = p.reduceOption := by
    rw [← path, paved.path sys]
    change items.filterMap m.entry = (items.map m.entry).filterMap id
    rw [List.filterMap_map]
    rfl
  refine (exec_bind (directories_eq paved)).trans ?_
  rw [findIn?_eq, named, searched, List.nil_append]

/-- **A module is loaded from the first directory of the path that has it**, unless the interpreter has it
without looking. -/
theorem loads_first {name tail dir : String} {front later : List String} {found : Located}
    (leads : (pathOf sys list).Leads ((front ++ dir :: later).map some ++ p) m)
    (path : getAttr m.system "path" m = .ok list m) (other : name ≠ "sys")
    (outside : (library? name).filter (·.isInternal) = none)
    (offers : m.offer? name tail dir = some found) (silent : ∀ e ∈ front, m.offer? name tail e = none) :
    loadTopLevel name tail m = loadLocated name found m := by
  have searches : (directories list >>= findIn? name tail []) m = .ok (some found) m := by
    rw [imports_search name tail leads, searched_first offers silent, Option.some_or]
  have here : (get : Exec Machine) m = .ok m m := rfl
  unfold loadTopLevel
  refine (exec_bind here).trans ?_
  rw [if_neg (beq_iff_eq.not.mpr other), outside]
  refine (exec_bind path).trans ?_
  rw [← bind_assoc]
  exact exec_bind searches

end

end GuestBridge.Guest
