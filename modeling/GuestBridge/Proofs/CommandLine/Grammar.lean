import GuestBridge.CommandLine.Arguments

/-!
# The Grammar of Command Lines

A command line is a list of items, each an option with the argument that follows it or the name of a
script. `spell` writes items out as arguments. What an argument means depends on where it stands, since
an option takes whatever comes next as its value: `--help` after `--result` is the name of a result.
`Asks` says what items ask for, and `Offends` what is wrong with the arguments that follow some items.

Reading goes from left to right and keeps, of the items that it has passed, the script and the latest
value of each option (`Partial.of`). So it stops at the first place at which no item begins or a second
script is named, and not before.

## Main results

* `spell_prefix` — of two ways to begin a command line with items one goes on from the other, so there is
  one way to split it and one place at which it is wrong.
* `read_spell` — reading passes items.
* `Arguments.read_grammar` — command lines that are accepted are those that items spell, and any other
  one is refused for what offends first.
-/

namespace GuestBridge.CommandLine

/-- What an option sets. -/
inductive Setting
  | result | config

/-- The argument that stands for an option. -/
def Setting.flag : Setting → String
  | result => "--result"
  | config => "--config"

/-- What is wrong with an option that nothing follows. -/
def Setting.missing : Setting → Misuse
  | result => .missingResultName
  | config => .missingConfigFile

/-- Whether an argument names a script, unless it is the value of an option. -/
structure NamesScript (arg : String) : Prop where
  noHelp : ¬ (arg = "-h" ∨ arg = "--help")
  noOption : ¬ "--".toList <+: arg.toList

/-- A part of a command line. -/
inductive Item
  | setting (s : Setting) (value : String)
  | script (path : String) (names : NamesScript path)

/-- The arguments that an item is written as. -/
def Item.words : Item → List String
  | setting s value => [s.flag, value]
  | script path _ => [path]

/-- The value that an item gives to an option. -/
def Item.value? : Setting → Item → Option String
  | .result, setting .result value | .config, setting .config value => some value
  | _, _ => none

/-- The script that an item names. -/
def Item.script? : Item → Option String
  | script path _ => some path
  | _ => none

/-- Items written out. -/
def spell (items : List Item) : List String := items.flatMap Item.words

/-- The values that items give to an option, in order. -/
def values (s : Setting) (items : List Item) : List String := items.filterMap (Item.value? s)

/-- The scripts that items name, in order. -/
def scripts (items : List Item) : List String := items.filterMap Item.script?

/-- What items ask for: they name one script, and of the values of an option the last one counts. -/
structure Asks (items : List Item) (a : Arguments) : Prop where
  script : scripts items = [a.script]
  result : a.result = (values .result items).getLast?
  config : a.config = (values .config items).getLast?

/-- What is wrong with the arguments that come after items. -/
inductive Offends (items : List Item) : List String → Misuse → Prop
  | value (s : Setting) : Offends items [s.flag] s.missing
  | help {arg : String} (rest : List String) (asks : arg = "-h" ∨ arg = "--help") :
    Offends items (arg :: rest) .help
  | option {arg : String} (rest : List String) (looks : "--".toList <+: arg.toList)
    (noHelp : arg ≠ "--help") (unknown : ∀ s : Setting, arg ≠ s.flag) :
    Offends items (arg :: rest) (.unknownOption arg)
  | second {arg : String} (rest : List String) (names : NamesScript arg) (first : scripts items ≠ []) :
    Offends items (arg :: rest) (.unexpectedArgument arg)
  | script (none : scripts items = []) : Offends items [] .missingScript

/-- A command line begins with items, of which at most one names a script, and then something is
wrong. -/
structure Breaks (args : List String) (items : List Item) (rest : List String) (e : Misuse) : Prop where
  split : args = spell items ++ rest
  single : (scripts items).length ≤ 1
  offends : Offends items rest e

variable {items items' : List Item} {item item' : Item} {rest rest' : List String} {e e' : Misuse}
  {args : List String} {a : Arguments}

theorem spell_cons : spell (item :: items) = item.words ++ spell items := List.flatMap_cons

theorem scripts_append : scripts (items ++ items') = scripts items ++ scripts items' :=
  List.filterMap_append

/-- An option looks like one, and asks for no help. -/
theorem Setting.flag_looks (s : Setting) :
    "--".toList <+: s.flag.toList ∧ ¬ (s.flag = "-h" ∨ s.flag = "--help") := by
  cases s <;> decide

theorem Setting.flag_injective {s s' : Setting} (same : s.flag = s'.flag) : s = s' := by
  cases s <;> cases s' <;> first | rfl | exact absurd same (by decide)

theorem NamesScript.ne_flag {arg : String} (names : NamesScript arg) (s : Setting) : arg ≠ s.flag :=
  fun same => names.noOption (same ▸ s.flag_looks.1)

/-! ### One way to split a command line -/

/-- No item is the beginning of another. -/
theorem words_append_inj (same : item.words ++ rest = item'.words ++ rest') :
    item = item' ∧ rest = rest' := by
  cases item with
  | setting s value =>
      cases item' with
      | setting s' value' =>
          obtain ⟨flag, tail⟩ := List.cons.inj same
          obtain ⟨rfl, rfl⟩ := List.cons.inj tail
          exact ⟨by rw [s.flag_injective flag], rfl⟩
      | script path names => exact absurd (List.cons.inj same).1.symm (names.ne_flag s)
  | script path names =>
      cases item' with
      | setting s value => exact absurd (List.cons.inj same).1 (names.ne_flag s)
      | script path' names' =>
          obtain ⟨rfl, rfl⟩ := List.cons.inj same
          exact ⟨rfl, rfl⟩

/-- **Of two ways to begin a command line with items** one goes on from the other. -/
theorem spell_prefix (same : spell items ++ rest = spell items' ++ rest') :
    (∃ more, items' = items ++ more ∧ rest = spell more ++ rest') ∨
      ∃ more, items = items' ++ more ∧ rest' = spell more ++ rest := by
  induction items generalizing items' with
  | nil => exact .inl ⟨items', rfl, same⟩
  | cons item items ih =>
      cases items' with
      | nil => exact .inr ⟨item :: items, rfl, same.symm⟩
      | cons item' items' =>
          rw [spell_cons, spell_cons, List.append_assoc, List.append_assoc] at same
          obtain ⟨rfl, others⟩ := words_append_inj same
          rcases ih others with ⟨more, rfl, split⟩ | ⟨more, rfl, split⟩
          · exact .inl ⟨more, rfl, split⟩
          · exact .inr ⟨more, rfl, split⟩

/-- Items that are spelled as nothing are none. -/
theorem eq_nil_of_spell (nothing : spell items = []) : items = [] := by
  cases items with
  | nil => rfl
  | cons item items => cases item <;> cases nothing

/-- **A command line has one reading as items.** -/
theorem spell_injective (same : spell items = spell items') : items = items' := by
  have split : spell items ++ [] = spell items' ++ [] := by rw [same]
  rcases spell_prefix split with ⟨more, rfl, nothing⟩ | ⟨more, rfl, nothing⟩ <;>
    rw [List.append_nil] at nothing <;> rw [eq_nil_of_spell nothing.symm, List.append_nil]

/-- What offends begins no item, or names a script once more. -/
theorem Offends.scripts_of_item (offends : Offends items (item.words ++ rest) e) :
    2 ≤ (scripts (items ++ [item])).length := by
  generalize written : item.words ++ rest = args at offends
  cases item with
  | setting s value =>
      change s.flag :: value :: rest = args at written
      cases offends with
      | value => cases (List.cons.inj written).2
      | help _ asks =>
          obtain ⟨rfl, -⟩ := List.cons.inj written
          exact absurd asks s.flag_looks.2
      | option _ _ _ unknown => exact absurd (List.cons.inj written).1.symm (unknown s)
      | second _ names _ => exact absurd (List.cons.inj written).1.symm (names.ne_flag s)
      | script => cases written
  | script path names =>
      change path :: rest = args at written
      cases offends with
      | value s => exact absurd (List.cons.inj written).1 (names.ne_flag s)
      | help _ asks =>
          obtain ⟨rfl, -⟩ := List.cons.inj written
          exact absurd asks names.noHelp
      | option _ looks _ _ =>
          obtain ⟨rfl, -⟩ := List.cons.inj written
          exact absurd looks names.noOption
      | second _ _ first =>
          have one := List.length_pos_iff.mpr first
          rw [scripts_append, List.length_append]
          exact Nat.add_le_add_right one 1
      | script => cases written

/-- **A command line is wrong at one place.** -/
theorem Breaks.unique (h : Breaks args items rest e) (h' : Breaks args items' rest' e') :
    items = items' ∧ rest = rest' := by
  -- items that are passed at one place are passed at the other, or the first place is wrong already
  have last {items more : List Item} {rest rest' : List String} {e : Misuse}
      (offends : Offends items rest e) (single : (scripts (items ++ more)).length ≤ 1)
      (split : rest = spell more ++ rest') : more = [] := by
    cases more with
    | nil => rfl
    | cons item more =>
        rw [split, spell_cons, List.append_assoc] at offends
        have twice := offends.scripts_of_item
        rw [← List.singleton_append, ← List.append_assoc, scripts_append, List.length_append] at single
        omega
  rcases spell_prefix (h.split.symm.trans h'.split) with ⟨more, rfl, split⟩ | ⟨more, rfl, split⟩
  · obtain rfl := last h.offends h'.single split
    exact ⟨(List.append_nil _).symm, split⟩
  · obtain rfl := last h'.offends h.single split
    exact ⟨List.append_nil _, split.symm⟩

/-! ### Reading items -/

/-- What is kept of the items that have been read. -/
def Partial.of (items : List Item) : Partial :=
  ⟨(scripts items).head?, (values .result items).getLast?, (values .config items).getLast?⟩

theorem Partial.of_result (value : String) :
    Partial.of (items ++ [.setting .result value]) = { Partial.of items with result := some value } := by
  simp [Partial.of, values, scripts, Item.value?, Item.script?]

theorem Partial.of_config (value : String) :
    Partial.of (items ++ [.setting .config value]) = { Partial.of items with config := some value } := by
  simp [Partial.of, values, scripts, Item.value?, Item.script?]

theorem Partial.of_script {path : String} (names : NamesScript path) (none : scripts items = []) :
    Partial.of (items ++ [.script path names]) = { Partial.of items with script := some path } := by
  have named : scripts (items ++ [.script path names]) = [path] := by
    rw [scripts_append, none]
    rfl
  rw [Partial.of, named]
  simp [Partial.of, values, Item.value?]

/-- How an argument is read that stands for no option. -/
theorem read_plain {p : Partial} {arg : String} (plain : ∀ s : Setting, arg ≠ s.flag) :
    p.read (arg :: rest) =
      if arg = "-h" ∨ arg = "--help" then .error .help
      else if arg.startsWith "--" then .error (.unknownOption arg)
      else match p.script with
        | none => Partial.read { p with script := some arg } rest
        | some _ => .error (.unexpectedArgument arg) :=
  Partial.read.eq_6 p arg rest (plain .result) (plain .config)

/-- An argument that names a script is taken for the script if none is known. -/
theorem read_names {p : Partial} {arg : String} (names : NamesScript arg) :
    p.read (arg :: rest) = match p.script with
      | none => Partial.read { p with script := some arg } rest
      | some _ => .error (.unexpectedArgument arg) := by
  rw [read_plain names.ne_flag, if_neg names.noHelp,
    if_neg fun looks => names.noOption (String.startsWith_string_iff.mp looks)]

/-- **An item is read** and kept with those before it. -/
theorem read_words (single : (scripts (items ++ [item])).length ≤ 1) :
    (Partial.of items).read (item.words ++ rest) = (Partial.of (items ++ [item])).read rest := by
  cases item with
  | setting s value =>
      cases s with
      | result =>
          rw [Partial.of_result]
          rfl
      | config =>
          rw [Partial.of_config]
          rfl
  | script path names =>
      have none : scripts items = [] := by
        rw [scripts_append, List.length_append] at single
        exact List.eq_nil_of_length_eq_zero (Nat.le_zero.mp (Nat.le_of_add_le_add_right single))
      change (Partial.of items).read (path :: rest) = _
      rw [Partial.of_script names none, read_names names, Partial.of, none]
      rfl

/-- **Items are read** one after the other. -/
theorem read_spell (single : (scripts (items ++ items')).length ≤ 1) :
    (Partial.of items).read (spell items' ++ rest) = (Partial.of (items ++ items')).read rest := by
  induction items' generalizing items with
  | nil => rw [List.append_nil]; rfl
  | cons item items' ih =>
      rw [← List.singleton_append, ← List.append_assoc] at single ⊢
      have first : (scripts (items ++ [item])).length ≤ 1 := by
        rw [scripts_append, List.length_append] at single
        exact Nat.le_trans (Nat.le_add_right _ _) single
      rw [List.singleton_append, spell_cons, List.append_assoc, read_words first, ih single]

/-- What offends is what is reported. -/
theorem Offends.read (offends : Offends items rest e) : (Partial.of items).read rest = .error e := by
  cases offends with
  | value s => cases s <;> rfl
  | help rest asks => rcases asks with rfl | rfl <;> rfl
  | @option arg rest looks noHelp unknown =>
      have asksNot : ¬ (arg = "-h" ∨ arg = "--help") := by
        rintro (rfl | rfl)
        · exact absurd looks (by decide)
        · exact noHelp rfl
      rw [read_plain unknown, if_neg asksNot, if_pos (String.startsWith_string_iff.mpr looks)]
  | second rest names first =>
      obtain ⟨path, others, known⟩ := List.exists_cons_of_ne_nil first
      rw [read_names names, Partial.of, known]
      rfl
  | script none =>
      rw [Partial.of, none]
      rfl

/-- **At each place** of a command line an item begins, or something offends, or all is well. -/
theorem begins_or_offends (single : (scripts items).length ≤ 1) (args : List String) :
    (∃ item rest, args = item.words ++ rest ∧ (scripts (items ++ [item])).length ≤ 1) ∨
      (∃ e, Offends items args e) ∨ args = [] ∧ scripts items ≠ [] := by
  cases args with
  | nil =>
      by_cases none : scripts items = []
      · exact .inr (.inl ⟨_, .script none⟩)
      · exact .inr (.inr ⟨rfl, none⟩)
  | cons arg rest =>
      by_cases known : ∃ s : Setting, arg = s.flag
      · obtain ⟨s, rfl⟩ := known
        cases rest with
        | nil => exact .inr (.inl ⟨_, .value s⟩)
        | cons value rest =>
            refine .inl ⟨.setting s value, rest, rfl, ?_⟩
            rwa [scripts_append, show scripts [.setting s value] = [] from rfl, List.append_nil]
      · have unknown := not_exists.mp known
        by_cases asks : arg = "-h" ∨ arg = "--help"
        · exact .inr (.inl ⟨_, .help rest asks⟩)
        · by_cases looks : "--".toList <+: arg.toList
          · exact .inr (.inl ⟨_, .option rest looks (not_or.mp asks).2 unknown⟩)
          · have names : NamesScript arg := ⟨asks, looks⟩
            by_cases none : scripts items = []
            · refine .inl ⟨.script arg names, rest, rfl, ?_⟩
              rw [scripts_append, none]
              exact Nat.le_refl 1
            · exact .inr (.inl ⟨_, .second rest names none⟩)

/-- A command line that begins with items is spelled by items that ask for something, or it is wrong
somewhere. -/
theorem asks_or_breaks (items : List Item) (rest : List String) (split : args = spell items ++ rest)
    (single : (scripts items).length ≤ 1) :
    (∃ items a, args = spell items ∧ Asks items a) ∨ ∃ items rest e, Breaks args items rest e := by
  -- each item takes one argument or two off the rest
  induction length : rest.length using Nat.strongRecOn generalizing items rest with
  | ind n ih =>
      subst length
      rcases begins_or_offends single rest with
        ⟨item, rest, rfl, single⟩ | ⟨e, offends⟩ | ⟨rfl, named⟩
      · have shorter : rest.length < (item.words ++ rest).length := by
          cases item <;> simp only [Item.words, List.length_append, List.length_cons] <;> omega
        refine ih rest.length shorter (items ++ [item]) rest ?_ single rfl
        rw [split, spell, spell, List.flatMap_append, List.flatMap_singleton, List.append_assoc]
      · exact .inr ⟨items, rest, e, split, single, offends⟩
      · obtain ⟨path, one⟩ : ∃ path, scripts items = [path] :=
          List.length_eq_one_iff.mp (Nat.le_antisymm single (List.length_pos_iff.mpr named))
        exact .inl ⟨items, ⟨path, _, _⟩, split.trans (List.append_nil _), one, rfl, rfl⟩

theorem Asks.read (asks : Asks items a) : Arguments.read (spell items) = .ok a := by
  have single : (scripts ([] ++ items)).length ≤ 1 := by
    rw [List.nil_append, asks.script]
    exact Nat.le_refl 1
  have passed : (Partial.of []).read (spell items ++ []) = (Partial.of ([] ++ items)).read [] :=
    read_spell single
  rw [List.append_nil, List.nil_append] at passed
  change (Partial.of []).read (spell items) = _
  rw [passed, Partial.of, asks.script, ← asks.result, ← asks.config]
  rfl

theorem Breaks.read (h : Breaks args items rest e) : Arguments.read args = .error e := by
  have single : (scripts ([] ++ items)).length ≤ 1 := h.single
  have passed : (Partial.of []).read (spell items ++ rest) = (Partial.of items).read rest :=
    read_spell single
  rw [h.split]
  exact passed.trans h.offends.read

theorem read_eq_ok_iff : Arguments.read args = .ok a ↔ ∃ items, args = spell items ∧ Asks items a := by
  constructor
  · intro read
    rcases asks_or_breaks [] args rfl (Nat.zero_le 1) with
      ⟨items, a', rfl, asks⟩ | ⟨items, rest, e, breaks⟩
    · obtain rfl := Except.ok.inj (asks.read.symm.trans read)
      exact ⟨items, rfl, asks⟩
    · cases breaks.read.symm.trans read
  · rintro ⟨items, rfl, asks⟩
    exact asks.read

theorem read_eq_error_iff : Arguments.read args = .error e ↔ ∃ items rest, Breaks args items rest e := by
  constructor
  · intro read
    rcases asks_or_breaks [] args rfl (Nat.zero_le 1) with
      ⟨items, a', rfl, asks⟩ | ⟨items, rest, e', breaks⟩
    · cases asks.read.symm.trans read
    · obtain rfl := Except.error.inj (breaks.read.symm.trans read)
      exact ⟨items, rest, breaks⟩
  · rintro ⟨items, rest, breaks⟩
    exact breaks.read

/-- Items in another order ask for the same, if the values of each option come in the order in which they
came. -/
theorem Asks.reordered (asks : Asks items a) (same : items'.Perm items)
    (kept : ∀ s, values s items' = values s items) : Asks items' a where
  script := by
    have named : (scripts items').Perm [a.script] := asks.script ▸ same.filterMap Item.script?
    exact List.perm_singleton.mp named
  result := kept .result ▸ asks.result
  config := kept .config ▸ asks.config

/-- What is promised about reading a command line. -/
structure Grammar (args : List String) : Prop where
  /-- It is accepted exactly where items spell it that name one script, as what they ask for. -/
  accepted : ∀ a, Arguments.read args = .ok a ↔ ∃ items, args = spell items ∧ Asks items a
  /-- It is refused exactly where something is wrong behind some items, for that. -/
  refused : ∀ e, Arguments.read args = .error e ↔ ∃ items rest, Breaks args items rest e
  /-- There is one way to split it into items, -/
  split : ∀ items items', args = spell items → args = spell items' → items = items'
  /-- and one place at which it is wrong. -/
  place : ∀ items rest e items' rest' e', Breaks args items rest e → Breaks args items' rest' e' →
    items = items' ∧ rest = rest' ∧ e = e'
  /-- Where it is accepted, so are its items in another order, as long as the values of each option come
  in the order in which they came. -/
  reordered : ∀ a items items', Arguments.read args = .ok a → args = spell items → items'.Perm items →
    (∀ s, values s items' = values s items) → Arguments.read (spell items') = .ok a

/-- **The grammar of command lines.** A command line is accepted exactly where it splits into items of
which one names a script; otherwise it is refused for the first thing that is wrong. -/
theorem Arguments.read_grammar (args : List String) : Grammar args where
  accepted _ := read_eq_ok_iff
  refused _ := read_eq_error_iff
  split _ _ written written' := spell_injective (written.symm.trans written')
  place _ _ _ _ _ _ breaks breaks' :=
    have ⟨items, rest⟩ := breaks.unique breaks'
    ⟨items, rest, Except.error.inj (breaks.read.symm.trans breaks'.read)⟩
  reordered a items items' read written same kept := by
    obtain ⟨own, spelled, asks⟩ := read_eq_ok_iff.mp read
    obtain rfl : own = items := spell_injective (spelled.symm.trans written)
    exact (asks.reordered same kept).read

/-- What stands behind an option is its value, and the last value counts. -/
example : Arguments.read ["--result", "--help", "a.py", "--result", "x"] =
    .ok ⟨"a.py", some "x", none⟩ := by
  cbv

end GuestBridge.CommandLine
