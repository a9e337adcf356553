import GuestBridge.Proofs.RoundTrip.Order

/-!
# Values as They Are Read

What reading gives is in normal form: no `some` stands around what becomes the guest's `None`, no key
occurs twice in a map, sorted maps are in order, and handles are new ones of the session. A handle on
`None` becomes `None` as well, which the type of a value does not show, so `HostType.isNone` looks at the
object where `HostType.isNothing` does not.

A value in normal form collapses to itself (`HostType.collapse_of_normal`), also when its hashed maps are
gone through in another order (`HostType.Normal.relist`).
-/

namespace GuestBridge.Bridge.HostType

open Guest (noneRef)

/-! ### The types -/

/-- The types that can be sent and read back: those whose maps have keys that the guest can hash. -/
def isTwoWay : HostType → Bool
  | unit | bool | int _ | bigInt | float32 | float64 | string | char | bytes | range | handle => true
  | option t | list t => t.isTwoWay
  | pair a b => a.isTwoWay && b.isTwoWay
  | triple a b c => a.isTwoWay && b.isTwoWay && c.isTwoWay
  | map _ k v => k.isKey && v.isTwoWay

theorem isTwoWay_of_isPlain {t : HostType} (h : t.isPlain) : t.isTwoWay := by
  induction t with
  | option t ih | list t ih => exact ih h
  | pair a b iha ihb =>
      simp only [isPlain, Bool.and_eq_true] at h
      simp [isTwoWay, iha h.1, ihb h.2]
  | triple a b c iha ihb ihc =>
      simp only [isPlain, Bool.and_eq_true] at h
      simp [isTwoWay, iha h.1.1, ihb h.1.2, ihc h.2]
  | map kind k v ihk ihv =>
      simp only [isPlain, Bool.and_eq_true] at h
      simp [isTwoWay, h.1, ihv h.2]
  | handle => cases h
  | _ => rfl

theorem isTwoWay_of_isKey {t : HostType} (h : t.isKey) : t.isTwoWay :=
  isTwoWay_of_isPlain (isPlain_of_isKey h)

/-! ### What becomes `None` -/

/-- Whether the guest's `None` is what a value becomes. -/
def isNone : (t : HostType) → t.Value → Bool
  | unit, _ => true
  | option t, v => match v with
    | some x => t.isNone x
    | none => true
  | handle, h => h.object == noneRef
  | bool, _ | int _, _ | bigInt, _ | float32, _ | float64, _ | string, _ | char, _ | bytes, _
  | list _, _ | pair _ _, _ | triple _ _ _, _ | map _ _ _, _ | range, _ => false

/-- Whether a `some` around what becomes `None` occurs in a value. -/
def hidesNone : (t : HostType) → t.Value → Bool
  | option t, v => match v with
    | some x => t.isNone x || t.hidesNone x
    | none => false
  | list t, xs => List.any xs t.hidesNone
  | pair a b, (x, y) => a.hidesNone x || b.hidesNone y
  | triple a b c, (x, y, z) => a.hidesNone x || b.hidesNone y || c.hidesNone z
  | map _ k v, es => List.any es fun e => k.hidesNone e.1 || v.hidesNone e.2
  | unit, _ | bool, _ | int _, _ | bigInt, _ | float32, _ | float64, _ | string, _ | char, _
  | bytes, _ | range, _ | handle, _ => false

theorem isNone_of_isNothing {t : HostType} {v : t.Value} (h : t.isNothing v) : t.isNone v := by
  induction t with
  | unit => rfl
  | option t ih =>
      cases v with
      | none => rfl
      | some x => exact ih h
  | _ => cases h

/-- Without handles the type shows what becomes `None`. -/
theorem isNone_of_isPlain {t : HostType} (ht : t.isPlain) (v : t.Value) : t.isNone v = t.isNothing v := by
  induction t with
  | option t ih =>
      cases v with
      | none => rfl
      | some x => exact ih ht x
  | handle => cases ht
  | _ => rfl

theorem isNone_mapFloats (f : UInt32 → UInt32) (g : UInt64 → UInt64) (t : HostType) (v : t.Value) :
    t.isNone (t.mapFloats f g v) = t.isNone v := by
  induction t with
  | option t ih =>
      cases v with
      | none => rfl
      | some x => exact ih x
  | _ => rfl

theorem isNone_collapse (t : HostType) (v : t.Value) : t.isNone (t.collapse v) = t.isNone v := by
  induction t with
  | option t ih =>
      cases v with
      | none => rfl
      | some x =>
          by_cases nothing : t.isNothing (t.collapse x)
          · rw [collapse_some_of_isNothing nothing]
            rw [isNothing_collapse] at nothing
            exact (isNone_of_isNothing nothing).symm
          · rw [collapse_some nothing]
            exact ih x
  | _ => rfl

/-! ### Values that can be sent -/

/-- A value whose handles are new ones of a session, and where the type shows what becomes `None` under a
`some`. -/
def Sendable (cx : Context) : (t : HostType) → t.Value → Prop
  | option t, v => match v with
    | some x => t.isNone x = t.isNothing x ∧ Sendable cx t x
    | none => True
  | list t, xs => ∀ x, List.Mem x xs → Sendable cx t x
  | pair a b, (x, y) => Sendable cx a x ∧ Sendable cx b y
  | triple a b c, (x, y, z) => Sendable cx a x ∧ Sendable cx b y ∧ Sendable cx c z
  | map _ k v, es => ∀ e, List.Mem e es → Sendable cx k e.1 ∧ Sendable cx v e.2
  | handle, h => h = (⟨Handle.object h, cx.session, none⟩ : Handle)
  | unit, _ | bool, _ | int _, _ | bigInt, _ | float32, _ | float64, _ | string, _ | char, _
  | bytes, _ | range, _ => True

variable {cx : Context}

theorem sendable_of_isPlain {t : HostType} (ht : t.isPlain) (v : t.Value) : t.Sendable cx v := by
  induction t with
  | option t ih =>
      cases v with
      | none => trivial
      | some x => exact ⟨isNone_of_isPlain (t := t) ht x, ih ht x⟩
  | list t ih => exact fun x _ => ih ht x
  | pair a b iha ihb =>
      simp only [isPlain, Bool.and_eq_true] at ht
      exact ⟨iha ht.1 _, ihb ht.2 _⟩
  | triple a b c iha ihb ihc =>
      simp only [isPlain, Bool.and_eq_true] at ht
      exact ⟨iha ht.1.1 _, ihb ht.1.2 _, ihc ht.2 _⟩
  | map kind k v ihk ihv =>
      simp only [isPlain, Bool.and_eq_true] at ht
      exact fun e _ => ⟨ihk (isPlain_of_isKey ht.1) _, ihv ht.2 _⟩
  | handle => cases ht
  | _ => trivial

/-! ### Normal form -/

/-- A value in the form in which reading gives it in a session. -/
def Normal (cx : Context) : (t : HostType) → t.Value → Prop
  | option t, v => match v with
    | some x => t.isNone x = false ∧ Normal cx t x
    | none => True
  | list t, xs => ∀ x, List.Mem x xs → Normal cx t x
  | pair a b, (x, y) => Normal cx a x ∧ Normal cx b y
  | triple a b c, (x, y, z) => Normal cx a x ∧ Normal cx b y ∧ Normal cx c z
  | map kind k v, es => (List.map Prod.fst es).Nodup ∧ InOrder kind k es ∧
    ∀ e, List.Mem e es → Normal cx k e.1 ∧ Normal cx v e.2
  | handle, h => h = (⟨Handle.object h, cx.session, none⟩ : Handle)
  | unit, _ | bool, _ | int _, _ | bigInt, _ | float32, _ | float64, _ | string, _ | char, _
  | bytes, _ | range, _ => True

theorem Normal.sendable {t : HostType} {v : t.Value} (h : t.Normal cx v) : t.Sendable cx v := by
  induction t with
  | option t ih =>
      cases v with
      | none => trivial
      | some x =>
          have something : t.isNothing x = false := Bool.eq_false_iff.mpr fun nothing =>
            absurd (isNone_of_isNothing nothing) (Bool.eq_false_iff.mp h.1)
          exact ⟨h.1.trans something.symm, ih h.2⟩
  | list t ih => exact fun x hx => ih (h x hx)
  | pair a b iha ihb => exact ⟨iha h.1, ihb h.2⟩
  | triple a b c iha ihb ihc => exact ⟨iha h.1, ihb h.2.1, ihc h.2.2⟩
  | map kind k v ihk ihv => exact fun e he => ⟨ihk (h.2.2 e he).1, ihv (h.2.2 e he).2⟩
  | handle => exact h
  | _ => trivial

/-- In normal form no `some` stands around what becomes `None`. -/
theorem Normal.hidesNone {t : HostType} {v : t.Value} (h : t.Normal cx v) : t.hidesNone v = false := by
  induction t with
  | option t ih =>
      cases v with
      | none => rfl
      | some x => exact Bool.or_eq_false_iff.mpr ⟨h.1, ih h.2⟩
  | list t ih =>
      exact List.any_eq_false.mpr fun x hx => Bool.eq_false_iff.mp (ih (h x hx))
  | pair a b iha ihb => exact Bool.or_eq_false_iff.mpr ⟨iha h.1, ihb h.2⟩
  | triple a b c iha ihb ihc =>
      exact Bool.or_eq_false_iff.mpr ⟨Bool.or_eq_false_iff.mpr ⟨iha h.1, ihb h.2.1⟩, ihc h.2.2⟩
  | map kind k v ihk ihv =>
      refine List.any_eq_false.mpr fun e he => Bool.eq_false_iff.mp (Bool.or_eq_false_iff.mpr ⟨?_, ?_⟩)
      · exact ihk (h.2.2 e he).1
      · exact ihv (h.2.2 e he).2
  | _ => rfl

/-- Where no key occurs twice and the entries are in order, a map is what is collected from them. -/
theorem collectEntries_of_nodup {β : Type} {kind : MapKind} {k : HostType} (hk : k.isOrdered)
    {es : List (k.Value × β)} (nodup : (es.map Prod.fst).Nodup) (order : InOrder kind k es) :
    collectEntries kind k es = es := by
  have kept : addEntries k.sameKey [] es = es :=
    addEntries_of_nodup (sameKey_iff_of_isOrdered hk) nodup
  rw [collectEntries_eq, kept, arrange_of_inOrder order]

/-- **A value in normal form collapses to itself.** -/
theorem Normal.collapse {t : HostType} (ht : t.isTwoWay) {v : t.Value} (h : t.Normal cx v) :
    t.collapse v = v := by
  induction t with
  | option t ih =>
      cases v with
      | none => rfl
      | some x =>
          have same := ih ht h.2
          have something : ¬ t.isNothing (t.collapse x) := fun nothing => by
            rw [same] at nothing
            exact absurd (isNone_of_isNothing nothing) (Bool.eq_false_iff.mp h.1)
          rw [collapse_some something, same]
  | list t ih => exact (List.map_congr_left fun x hx => ih ht (h x hx)).trans (List.map_id v)
  | pair a b iha ihb =>
      simp only [isTwoWay, Bool.and_eq_true] at ht
      exact Prod.ext (iha ht.1 h.1) (ihb ht.2 h.2)
  | triple a b c iha ihb ihc =>
      simp only [isTwoWay, Bool.and_eq_true] at ht
      exact Prod.ext (iha ht.1.1 h.1) (Prod.ext (ihb ht.1.2 h.2.1) (ihc ht.2 h.2.2))
  | map kind k v ihk ihv =>
      simp only [isTwoWay, Bool.and_eq_true] at ht
      obtain ⟨nodup, order, each⟩ := h
      refine (congrArg (collectEntries kind k) ((List.map_congr_left fun e he => ?_).trans
        (List.map_id _))).trans (collectEntries_of_nodup (isOrdered_of_isKey ht.1) nodup order)
      exact Prod.ext (ihk (isTwoWay_of_isKey ht.1) (each e he).1) (ihv ht.2 (each e he).2)
  | _ => rfl

/-- Floating-point numbers have no part in it. -/
theorem Normal.mapFloats (f : UInt32 → UInt32) (g : UInt64 → UInt64) {t : HostType} (ht : t.isTwoWay)
    {v : t.Value} (h : t.Normal cx v) : t.Normal cx (t.mapFloats f g v) := by
  induction t with
  | option t ih =>
      cases v with
      | none => trivial
      | some x => exact ⟨(isNone_mapFloats f g t x).trans h.1, ih ht h.2⟩
  | list t ih =>
      intro y hy
      obtain ⟨x, hx, rfl⟩ := List.mem_map.mp hy
      exact ih ht (h x hx)
  | pair a b iha ihb =>
      simp only [isTwoWay, Bool.and_eq_true] at ht
      exact ⟨iha ht.1 h.1, ihb ht.2 h.2⟩
  | triple a b c iha ihb ihc =>
      simp only [isTwoWay, Bool.and_eq_true] at ht
      exact ⟨iha ht.1.1 h.1, ihb ht.1.2 h.2.1, ihc ht.2 h.2.2⟩
  | map kind k t ihk iht =>
      simp only [isTwoWay, Bool.and_eq_true] at ht
      obtain ⟨nodup, order, each⟩ := h
      have entries : (map kind k t).mapFloats f g = List.map (Prod.map id (t.mapFloats f g)) :=
        congrArg (fun p => List.map (Prod.map p _)) (funext (mapFloats_of_isKey f g ht.1))
      rw [entries]
      have keys : List.map Prod.fst (List.map (Prod.map id (t.mapFloats f g)) v) = List.map Prod.fst v :=
        List.map_map
      refine ⟨(congrArg List.Nodup keys).mpr nodup, fun sorted => ?_, fun e' he => ?_⟩
      · exact (congrArg (List.Pairwise _) keys).mpr (order sorted)
      · obtain ⟨e, there, rfl⟩ := List.mem_map.mp he
        exact ⟨(each e there).1, iht ht.2 (each e there).2⟩
  | handle => exact h
  | _ => trivial

/-! ### Going through hashed maps -/

/-- The same value, whose hashed maps are gone through in another order. -/
def Relists : (t : HostType) → t.Value → t.Value → Prop
  | option t, v, v' => match v, v' with
    | some x, some x' => Relists t x x'
    | none, none => True
    | _, _ => False
  | list t, xs, xs' => List.Forall₂ (Relists t) xs xs'
  | pair a b, (x, y), (x', y') => Relists a x x' ∧ Relists b y y'
  | triple a b c, (x, y, z), (x', y', z') => Relists a x x' ∧ Relists b y y' ∧ Relists c z z'
  | map kind k v, es, es' => ∃ same : List (k.Value × v.Value),
    List.Forall₂ (fun e e' => e'.1 = e.1 ∧ Relists v e.2 e'.2) es same ∧
      (same = es' ∨ kind = .hashed ∧ same.Perm es')
  | unit, v, v' | bool, v, v' | int _, v, v' | bigInt, v, v' | float32, v, v' | float64, v, v'
  | string, v, v' | char, v, v' | bytes, v, v' | range, v, v' | handle, v, v' => v' = v

theorem Relists.isNone {t : HostType} {v v' : t.Value} (h : t.Relists v v') :
    t.isNone v' = t.isNone v := by
  induction t with
  | option t ih =>
      cases v with
      | none =>
          cases v' with
          | none => rfl
          | some x' => exact h.elim
      | some x =>
          cases v' with
          | none => exact h.elim
          | some x' => exact ih h
  | handle => exact congrArg handle.isNone h
  | _ => rfl

/-- A value stays in normal form however its hashed maps are gone through. -/
theorem Normal.relist {t : HostType} {v v' : t.Value} (h : t.Normal cx v) (relists : t.Relists v v') :
    t.Normal cx v' := by
  induction t with
  | option t ih =>
      cases v with
      | none =>
          cases v' with
          | none => trivial
          | some x' => exact relists.elim
      | some x =>
          cases v' with
          | none => exact relists.elim
          | some x' => exact ⟨(Relists.isNone (t := t) relists).trans h.1, ih h.2 relists⟩
  | list t ih =>
      have both := (List.forall₂_and_left _ _).mpr ⟨h, relists⟩
      have each : List.Forall₂ (fun x' _ => t.Normal cx x' ∧ True) v' v :=
        .flip (both.imp fun x x' part => ⟨ih part.1 part.2, trivial⟩)
      exact ((List.forall₂_and_left _ _).mp each).1
  | pair a b iha ihb => exact ⟨iha h.1 relists.1, ihb h.2 relists.2⟩
  | triple a b c iha ihb ihc =>
      exact ⟨iha h.1 relists.1, ihb h.2.1 relists.2.1, ihc h.2.2 relists.2.2⟩
  | map kind k t ihk iht =>
      obtain ⟨nodup, order, each⟩ := h
      obtain ⟨same, parts, listed⟩ := relists
      have keys : List.map Prod.fst same = List.map Prod.fst v :=
        (List.forall₂_eq_eq_eq ▸ List.forall₂_map_left_iff.mpr (List.forall₂_map_right_iff.mpr
          (parts.flip.imp fun e' e part => part.1)))
      have both := (List.forall₂_and_left _ _).mpr ⟨each, parts⟩
      have parts' : List.Forall₂ (fun e' _ => (k.Normal cx e'.1 ∧ t.Normal cx e'.2) ∧ True) same v :=
        .flip (both.imp fun e e' part => ⟨⟨part.2.1 ▸ part.1.1, iht part.1.2 part.2.2⟩, trivial⟩)
      have normal : ∀ e ∈ same, k.Normal cx e.1 ∧ t.Normal cx e.2 :=
        ((List.forall₂_and_left _ _).mp parts').1
      rw [← keys] at nodup
      have order (sorted : kind = .sorted) := keys ▸ order sorted
      rcases listed with rfl | ⟨rfl, perm⟩
      · exact ⟨nodup, order, normal⟩
      · exact ⟨(perm.map Prod.fst).nodup_iff.mp nodup, nofun, fun e he => normal e (perm.mem_iff.mpr he)⟩
  | handle => exact relists ▸ h
  | _ => trivial

end GuestBridge.Bridge.HostType
