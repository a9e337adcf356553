import GuestBridge.Proofs.RoundTrip.Guest
import GuestBridge.Proofs.RoundTrip.Normal

/-!
# Reading What Stands for a Value

`Objects.Stands` says which objects stand for a value, by recursion on its type. Reading such an
object gives the value and changes nothing that is known of the guest (`reads_receive`).
-/

namespace GuestBridge.Bridge

open Guest (Ref noneRef)

/-! ### Objects that stand for values -/

/-- An object stands for a value in a session. The entries of a dictionary are in the order of their
places; the map is what its kind collects from them. A new handle of the session stands for its object. -/
def Objects.Stands (o : Objects) (cx : Context) : (t : HostType) → t.Value → Ref → Prop
  | .unit, _, r => r = noneRef
  | .bool, b, r => o.shape r = some (.bool b)
  | .int _, n, r => o.shape r = some (.int n.val)
  | .bigInt, n, r => o.shape r = some (.int n)
  | .float32, b, r => ∃ bits, o.shape r = some (.float bits) ∧ narrow? false bits = some b
  | .float64, b, r => ∃ bits, o.shape r = some (.float bits) ∧ UInt64.ofNat bits = b
  | .string, s, r => o.shape r = some (.text (Text.ofString s))
  | .char, c, r => o.shape r = some (.text (Text.ofString (String.ofList [c])))
  | .bytes, bs, r => o.shape r = some (.bytes bs)
  | .option t, v, r => match v with
    | some x => r ≠ noneRef ∧ o.Stands cx t x r
    | none => r = noneRef
  | .list t, xs, r => ∃ items, o.shape r = some (.sequence items) ∧
    List.Forall₂ (o.Stands cx t) xs items
  | .pair a b, (x, y), r => ∃ p q, o.shape r = some (.sequence [p, q]) ∧
    o.Stands cx a x p ∧ o.Stands cx b y q
  | .triple a b c, (x, y, z), r => ∃ p q u, o.shape r = some (.sequence [p, q, u]) ∧
    o.Stands cx a x p ∧ o.Stands cx b y q ∧ o.Stands cx c z u
  | .map kind k v, es, r => ∃ entries read, o.shape r = some (.dict entries) ∧
    entries.Pairwise (fun e e' => e.1 < e'.1) ∧
    List.Forall₂ (fun p e => o.Stands cx k p.1 e.2.1 ∧ o.Stands cx v p.2 e.2.2) read entries ∧
    es = HostType.collectEntries kind k read
  | .range, (a, b), r => ∃ start stop step, o.shape r = some (.slice start stop step) ∧
    o.shape start = some (.int a.val) ∧ o.shape stop = some (.int b.val) ∧
    o.shape step = some (.int 1)
  | .handle, h, r => h = (⟨r, cx.session, none⟩ : Handle)

namespace Objects

variable {o o' : Objects} {cx : Context}

/-- Objects go on to stand for what they stand for while nothing that was known is lost. -/
theorem Stands.extend (h : o.Extends o') {t : HostType} {v : t.Value} {r : Ref}
    (stands : o.Stands cx t v r) : o'.Stands cx t v r := by
  induction t generalizing r with
  | unit => exact stands
  | bool | int | bigInt | string | char | bytes => exact h.shape stands
  | float32 | float64 =>
      obtain ⟨bits, shape, value⟩ := stands
      exact ⟨bits, h.shape shape, value⟩
  | option t ih =>
      cases v with
      | none => exact stands
      | some x => exact ⟨stands.1, ih stands.2⟩
  | list t ih =>
      obtain ⟨items, shape, each⟩ := stands
      exact ⟨items, h.shape shape, each.imp fun _ _ => ih⟩
  | pair a b iha ihb =>
      obtain ⟨p, q, shape, first, second⟩ := stands
      exact ⟨p, q, h.shape shape, iha first, ihb second⟩
  | triple a b c iha ihb ihc =>
      obtain ⟨p, q, u, shape, first, second, third⟩ := stands
      exact ⟨p, q, u, h.shape shape, iha first, ihb second, ihc third⟩
  | map kind k t ihk iht =>
      obtain ⟨entries, read, shape, growing, each, collected⟩ := stands
      refine ⟨entries, read, h.shape shape, growing, each.imp fun _ _ part => ?_, collected⟩
      exact ⟨ihk part.1, iht part.2⟩
  | range =>
      obtain ⟨start, stop, step, shape, first, second, third⟩ := stands
      exact ⟨start, stop, step, h.shape shape, h.shape first, h.shape second, h.shape third⟩
  | handle => exact stands

/-- What is known to have another shape is not `None`. -/
theorem ne_noneRef (known : o.shape noneRef = some .none) {r : Ref} {x : Shape}
    (shape : o.shape r = some x) (h : x ≠ .none) : r ≠ noneRef := by
  rintro rfl
  rw [known] at shape
  exact h (Option.some.inj shape).symm

/-- `None` stands for the values that become `None`, and for no others. -/
theorem Stands.isNone_iff (known : o.shape noneRef = some .none) {t : HostType} {v : t.Value}
    {r : Ref} (stands : o.Stands cx t v r) : t.isNone v = true ↔ r = noneRef := by
  induction t with
  | unit => exact iff_of_true rfl stands
  | option t ih =>
      cases v with
      | none => exact iff_of_true rfl stands
      | some x => exact ih stands.2
  | bool | int | bigInt | string | char | bytes =>
      exact iff_of_false Bool.false_ne_true (ne_noneRef known stands Shape.noConfusion)
  | float32 | float64 | list =>
      obtain ⟨_, shape, _⟩ := stands
      exact iff_of_false Bool.false_ne_true (ne_noneRef known shape Shape.noConfusion)
  | pair =>
      obtain ⟨_, _, shape, _⟩ := stands
      exact iff_of_false Bool.false_ne_true (ne_noneRef known shape Shape.noConfusion)
  | triple | range =>
      obtain ⟨_, _, _, shape, _⟩ := stands
      exact iff_of_false Bool.false_ne_true (ne_noneRef known shape Shape.noConfusion)
  | map =>
      obtain ⟨_, _, shape, _⟩ := stands
      exact iff_of_false Bool.false_ne_true (ne_noneRef known shape Shape.noConfusion)
  | handle =>
      subst stands
      exact beq_iff_eq

end Objects

/-! ### Reading -/

section

variable {σ : Type} [GuestState σ] {V : Outlook σ} {o : Objects} {α β : Type}

omit [GuestState σ] in
theorem reads_readAll {P : α → Ref → Prop} {read : Ref → Reading σ α}
    (discard : α → StateM (World σ) Unit) (hread : ∀ x r, P x r → V.Reads o (read r) x)
    {xs : List α} {rs : List Ref} (each : List.Forall₂ P xs rs) :
    V.Reads o (readAll read discard rs) xs := by
  induction each with
  | nil => exact .pure []
  | cons first _ ih =>
      refine (hread _ _ first).bind ?_
      exact (Outlook.Reads.discarding _ ih).bind (.pure _)

theorem reads_entriesNow {ε : Type} (laws : V.Builtins) {dict : Ref}
    {es : List (Nat × Ref × Ref)} (shape : o.shape dict = some (.dict es)) :
    V.Reads (ε := ε) o (always (entriesNow dict)) es :=
  (Outlook.Reads.shapeOf laws shape).steps (.pure es)

/-- The place of the last entry that was read, if one was. -/
def lastPlace? (entries : List (Nat × Ref × Ref)) : Option Nat := entries.getLast?.map (·.1)

/-- The entry read next is the first past those that were read. -/
theorem find?_past {before after : List (Nat × Ref × Ref)}
    (growing : (before ++ after).Pairwise fun e e' => e.1 < e'.1) :
    (before ++ after).find? (fun (place, _) => (lastPlace? before).all (· < place)) =
      after.head? := by
  obtain ⟨-, -, past⟩ := List.pairwise_append.mp growing
  have skipped : before.find? (fun (place, _) => (lastPlace? before).all (· < place)) = none := by
    refine List.find?_eq_none.mpr fun e he => ?_
    obtain ⟨init, l, rfl⟩ := (List.eq_nil_or_concat' before).resolve_left (List.ne_nil_of_mem he)
    dsimp only
    rw [lastPlace?, List.getLast?_concat, Option.map_some, Option.all_some, decide_eq_true_eq]
    rcases List.mem_append.mp he with earlier | same
    · have less := (List.pairwise_append.mp (List.pairwise_append.mp growing).1).2.2
      exact Nat.lt_asymm (less e earlier l (List.mem_singleton_self l))
    · rw [List.mem_singleton.mp same]
      exact Nat.lt_irrefl _
  rw [List.find?_append, skipped, Option.none_or]
  cases after with
  | nil => rfl
  | cons e es =>
      refine List.find?_cons_of_pos ?_
      cases h : before.getLast? with
      | none => simp [lastPlace?, h]
      | some l =>
          have there := List.mem_of_getLast? h
          simpa [lastPlace?, h] using past l there e List.mem_cons_self

/-- Reading the entries of a dictionary gives them in the order of their places. -/
theorem reads_readEntries (laws : V.Builtins) {P : α → Ref → Prop} {Q : β → Ref → Prop}
    {readKey : Ref → Reading σ α} {readValue : Ref → Reading σ β}
    (discardKey : α → StateM (World σ) Unit) (discardVal : β → StateM (World σ) Unit)
    (hkey : ∀ x r, P x r → V.Reads o (readKey r) x)
    (hvalue : ∀ y r, Q y r → V.Reads o (readValue r) y) {dict : Ref}
    {before after : List (Nat × Ref × Ref)} (shape : o.shape dict = some (.dict (before ++ after)))
    (growing : (before ++ after).Pairwise fun e e' => e.1 < e'.1) {xs : List (α × β)}
    (each : List.Forall₂ (fun p e => P p.1 e.2.1 ∧ Q p.2 e.2.2) xs after) :
    V.Reads o (readEntries readKey readValue discardKey discardVal dict (before ++ after).length
      (after.length + 1) (lastPlace? before)) xs := by
  induction each generalizing before with
  | nil =>
      unfold readEntries
      refine Outlook.Reads.bind (reads_entriesNow laws shape) ?_
      rw [bne_self_eq_false, if_neg Bool.false_ne_true]
      dsimp only
      rw [find?_past growing]
      exact .pure []
  | @cons p e ps es part _ ih =>
      unfold readEntries
      refine Outlook.Reads.bind (reads_entriesNow laws shape) ?_
      rw [bne_self_eq_false, if_neg Bool.false_ne_true]
      dsimp only
      rw [find?_past growing]
      refine Outlook.Reads.bind (hkey _ _ part.1) ?_
      refine Outlook.Reads.bind (.discarding _ (hvalue _ _ part.2)) ?_
      refine Outlook.Reads.bind (.discarding _ ?_) (.pure _)
      have sum : before ++ e :: es = before ++ [e] ++ es := List.append_cons before e es
      rw [sum] at shape growing ⊢
      have last : lastPlace? (before ++ [e]) = some e.1 := by
        rw [lastPlace?, List.getLast?_concat, Option.map_some]
      rw [← last]
      exact ih shape growing

omit [GuestState σ] in
/-- Entries are collected without a question to the guest; handles that are released on the way do not
change it. -/
theorem reads_collectRead {ε : Type} (cx : Context) (kind : MapKind) {k v : HostType}
    (es : List (k.Value × v.Value)) :
    V.Reads (ε := ε) o (always (collectRead cx kind k v es)) (HostType.collectEntries kind k es) := by
  intro w ready known
  refine ⟨_, _, rfl, rfl, ?_, ?_⟩ <;> rw [World.guest_releaseAll]
  · exact ready
  · exact known

theorem reads_readFloat64 {ε : Type} (laws : V.Builtins) {r : Ref} {bits : Nat}
    (shape : o.shape r = some (.float bits)) :
    V.Reads (ε := ε) o (always (readFloat64 r)) (some bits) :=
  (Outlook.Reads.shapeOf laws shape).steps (.pure (some bits))

theorem reads_readPosition {ε : Type} (laws : V.Builtins) {r : Ref} {n : Int}
    (shape : o.shape r = some (.int n)) (h : IntType.isize.Contains n) :
    V.Reads (ε := ε) o (always (readPosition r)) (some ⟨n, h⟩) := by
  have fit : fitting .isize n = some ⟨n, h⟩ := dif_pos h
  rw [← fit]
  exact Outlook.Reads.askOr _ _ fun s ready known => laws.index ready (known ▸ shape) h

theorem reads_readRange {ε : Type} (laws : V.Builtins) (known : o.shape noneRef = some .none)
    {r : Ref} {v : HostType.range.Value} (stands : o.Stands cx .range v r) :
    V.Reads (ε := ε) o (always (readRange r)) (some v) := by
  obtain ⟨start, stop, step, shape, first, second, third⟩ := stands
  have stepped : step ≠ noneRef := Objects.ne_noneRef known third Shape.noConfusion
  have started : start ≠ noneRef := Objects.ne_noneRef known first Shape.noConfusion
  refine (Outlook.Reads.shapeOf laws shape).steps ?_
  have single : V.Reads (ε := ε) o (always (isSingle step)) true := by
    unfold isSingle
    rw [if_neg fun same => stepped (beq_iff_eq.mp same)]
    exact (reads_readPosition laws third (by decide)).steps (.pure true)
  have begun : V.Reads (ε := ε) o (always (readStart start)) (some v.1) := by
    unfold readStart
    rw [if_neg fun same => started (beq_iff_eq.mp same)]
    exact reads_readPosition laws first v.1.property
  refine single.steps (begun.steps ?_)
  exact (reads_readPosition laws second v.2.property).steps (.pure _)

omit [GuestState σ] in
theorem reads_none {x : Reading σ α} {a : α} (hx : V.Reads o x a) {y : Reading σ α} :
    V.Reads o (if noneRef == noneRef then x else y) a := by
  rw [if_pos (beq_self_eq_true noneRef)]
  exact hx

omit [GuestState σ] in
theorem reads_some {r : Ref} (h : r ≠ noneRef) {x y : Reading σ α} {a : α} (hy : V.Reads o y a) :
    V.Reads o (if r == noneRef then x else y) a := by
  rw [if_neg fun same => h (beq_iff_eq.mp same)]
  exact hy

/-- **Reading an object that stands for a value gives the value**, and changes nothing that is known
of the guest. -/
theorem reads_receive (laws : V.Builtins) (known : o.shape noneRef = some .none) (cx : Context)
    {t : HostType} (ht : t.isTwoWay) {v : t.Value} {r : Ref} (stands : o.Stands cx t v r) :
    V.Reads o (receive cx t r) v := by
  induction t generalizing r with
  | unit =>
      subst stands
      exact reads_none (.pure ())
  | bool | bigInt | bytes => exact (Outlook.Reads.shapeOf laws stands).bind (.pure v)
  | int k =>
      have fit : fitting k v.val = some v := dif_pos v.property
      refine (Outlook.Reads.shapeOf laws stands).bind (Outlook.Reads.fits ?_)
      rw [fit]
      exact .pure (some v)
  | float32 =>
      obtain ⟨bits, shape, narrowed⟩ := stands
      refine Outlook.Reads.fits ((reads_readFloat64 laws shape).steps ?_)
      refine (Outlook.Reads.shapeOf laws shape).steps ?_
      dsimp only
      rw [narrowed]
      exact .pure (some v)
  | float64 =>
      obtain ⟨bits, shape, rfl⟩ := stands
      exact Outlook.Reads.fits ((reads_readFloat64 laws shape).steps (.pure _))
  | string =>
      refine (Outlook.Reads.shapeOf laws stands).bind (Outlook.Reads.fits ?_)
      have text : (Text.ofString v).toString? = some v := Text.toString?_ofString v
      rw [text]
      exact .pure (some v)
  | char =>
      refine (Outlook.Reads.shapeOf laws stands).bind ?_
      dsimp only
      rw [Text.toString?_ofString, Option.map_some, String.toList_ofList]
      exact .pure v
  | option t ih =>
      cases v with
      | none =>
          subst stands
          exact reads_none (.pure none)
      | some x => exact reads_some stands.1 ((ih ht stands.2).bind (.pure (some x)))
  | list t ih =>
      obtain ⟨items, shape, each⟩ := stands
      refine (Outlook.Reads.shapeOf laws shape).bind ?_
      exact reads_readAll _ (fun _ _ part => ih ht part) each
  | pair a b iha ihb =>
      obtain ⟨p, q, shape, first, second⟩ := stands
      simp only [HostType.isTwoWay, Bool.and_eq_true] at ht
      refine (Outlook.Reads.shapeOf laws shape).bind ?_
      refine (iha ht.1 first).bind ?_
      exact (Outlook.Reads.discarding _ (ihb ht.2 second)).bind (.pure _)
  | triple a b c iha ihb ihc =>
      obtain ⟨p, q, u, shape, first, second, third⟩ := stands
      simp only [HostType.isTwoWay, Bool.and_eq_true] at ht
      refine (Outlook.Reads.shapeOf laws shape).bind ?_
      refine (iha ht.1.1 first).bind ?_
      refine (Outlook.Reads.discarding _ (a := (v.2.1, v.2.2)) ?_).bind (.pure _)
      refine (ihb ht.1.2 second).bind ?_
      exact (Outlook.Reads.discarding _ (ihc ht.2 third)).bind (.pure _)
  | map kind k t ihk iht =>
      obtain ⟨entries, read, shape, growing, each, rfl⟩ := stands
      simp only [HostType.isTwoWay, Bool.and_eq_true] at ht
      refine (Outlook.Reads.shapeOf laws shape).bind ?_
      have keys (x : k.Value) (r : Ref) : o.Stands cx k x r → V.Reads o (receive cx k r) x :=
        ihk (HostType.isTwoWay_of_isKey ht.1)
      have values (y : t.Value) (r : Ref) : o.Stands cx t y r → V.Reads o (receive cx t r) y :=
        iht ht.2
      have whole : o.shape r = some (.dict ([] ++ entries)) := shape
      refine (reads_readEntries laws _ _ keys values whole growing each).bind ?_
      exact reads_collectRead cx kind read
  | range => exact (reads_readRange laws known stands).fits
  | handle =>
      subst stands
      exact fun w ready known => ⟨_, (w.acquire cx.session r).2, rfl, rfl, ready, known⟩

end

end GuestBridge.Bridge
