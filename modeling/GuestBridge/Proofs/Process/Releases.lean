import GuestBridge.Proofs.Process.Flow

/-!
# Releases in Every Interleaving

Every reference that is released is given back once: `Ledger` says how the releases of a process,
the list of those given back, and what owners reported fit each other, and every step keeps it.

## Main results

* `released_run` — what holds of releases in every run.
-/

namespace GuestBridge.Session

open Bridge
open Guest (Ref)

variable {σ J R : Type}

theorem stage_of_isAt {s : SessionId} {stage : Stage} {r : Release}
    (h : r.isAt s stage = true) : r.stage = stage := by
  rw [Release.isAt, Bool.and_eq_true] at h
  exact of_decide_eq_true h.2

namespace Process

/-- How many references the owner of a session said that it had given back. -/
def reported (p : Process σ J R) (s : SessionId) : Nat :=
  ((p.reports.filter (·.1 = s)).map (·.2)).sum

/-- How many releases of a session are at a stage. -/
def numberAt (p : Process σ J R) (s : SessionId) (stage : Stage) : Nat :=
  p.releases.countP (Release.isAt s stage)

/-- How many references were ever parked for a session. -/
def everParked (p : Process σ J R) (s : SessionId) : Nat :=
  p.releases.countP fun r => r.handle.session = s && r.stage.wasParked

/-- Releases, what was given back, and what was reported fit each other. -/
structure Ledger (p : Process σ J R) : Prop where
  once : p.returns.Nodup
  given : ∀ i, i ∈ p.returns ↔ ∃ r, p.releases[i]? = some r ∧ r.stage.given = true
  noted : p.system.world.drained = p.reports.map fun e => toString e.2
  reported : ∀ s, p.reported s = p.numberAt s .reclaimed

variable {p p' : Process σ J R} {s : SessionId}

/-! ### Keeping the ledger -/

theorem everParked_eq (p : Process σ J R) (s : SessionId) :
    p.everParked s = p.numberAt s .parked + p.numberAt s .taken + p.numberAt s .reclaimed := by
  unfold everParked numberAt
  induction p.releases with
  | nil => rfl
  | cons r rs ih =>
      rw [List.countP_cons, List.countP_cons, List.countP_cons, List.countP_cons, ih]
      unfold Release.isAt
      by_cases own : r.handle.session = s
      · cases hs : r.stage <;> simp [own, Stage.wasParked] <;> omega
      · simp [own]

theorem mem_numbersAt {stage : Stage} {rs : List Release} {i : Nat} :
    i ∈ numbersAt s stage rs ↔ ∃ r, rs[i]? = some r ∧ r.isAt s stage = true := by
  unfold numbersAt
  rw [List.mem_filter, List.mem_range, Option.any_eq_true]
  refine ⟨fun h => h.2, fun ⟨r, hr, at_⟩ => ⟨?_, r, hr, at_⟩⟩
  exact (List.getElem?_eq_some_iff.mp hr).1

theorem nodup_numbersAt (s : SessionId) (stage : Stage) (rs : List Release) :
    (numbersAt s stage rs).Nodup :=
  List.nodup_range.filter _

/-- What was given back is not given back again. -/
theorem Ledger.not_mem (l : p.Ledger) {i : Nat} {r : Release} (there : p.releases[i]? = some r)
    (kept : r.stage.given = false) : i ∉ p.returns := by
  intro h
  obtain ⟨r', hr', given⟩ := (l.given i).mp h
  cases there.symm.trans hr'
  rw [kept] at given
  cases given

theorem Ledger.calm [HasHandles R] (l : p.Ledger) (calm : p.Calm p') : p'.Ledger where
  once := calm.returns ▸ l.once
  given i := by
    rw [calm.returns, calm.releases]
    exact l.given i
  noted := by rw [calm.drained, calm.reports, l.noted]
  reported s := by
    rw [Process.reported, calm.reports, numberAt, calm.releases]
    exact l.reported s

theorem Ledger.initial (g : σ) : (Process.initial g : Process σ J R).Ledger where
  once := List.nodup_nil
  given i := by
    refine ⟨fun h => absurd h List.not_mem_nil, fun ⟨r, hr, _⟩ => ?_⟩
    rw [Process.initial, List.getElem?_nil] at hr
    cases hr
  noted := rfl
  reported s := rfl

theorem Ledger.begins [HasHandles R] {t : Thread} {h : Handle} (l : p.Ledger)
    (begins : p.Begins p' t h) : p'.Ledger where
  once := begins.returns ▸ l.once
  given i := by
    rw [begins.returns, begins.releases, l.given i]
    by_cases lt : i < p.releases.length
    · rw [List.getElem?_append_left lt]
    · rw [List.getElem?_eq_none (Nat.le_of_not_lt lt)]
      refine ⟨fun ⟨r, hr, _⟩ => (by cases hr), fun ⟨r, hr, given⟩ => ?_⟩
      rw [List.getElem?_append_right (Nat.le_of_not_lt lt)] at hr
      cases List.mem_singleton.mp (List.mem_of_getElem? hr)
      cases given
  noted := by rw [begins.drained, begins.reports, l.noted]
  reported s := by
    rw [Process.reported, begins.reports, numberAt, begins.releases, List.countP_append,
      List.countP_singleton]
    have fresh : Release.isAt s .reclaimed ⟨t, h, .counted⟩ = false := by simp [Release.isAt]
    rw [fresh]
    exact l.reported s

theorem Ledger.continues [HasHandles R] {i : Nat} {r : Release} {stage : Stage} (l : p.Ledger)
    (continues : p.Continues p' i r stage) : p'.Ledger := by
  have kept : r.stage.given = false := by
    rcases continues.hand with h | h <;> rw [h] <;> rfl
  have other : r.stage ≠ .reclaimed ∧ stage ≠ .reclaimed := by
    refine ⟨?_, ?_⟩
    · rcases continues.hand with h | h <;> rw [h] <;> decide
    · rcases continues.next with h | ⟨-, h | h⟩
      · rw [h]
        decide
      · rw [h]
        decide
      · rw [h.1]
        decide
  have out := l.not_mem continues.there kept
  have lt : i < p.releases.length := (List.getElem?_eq_some_iff.mp continues.there).1
  refine ⟨?_, fun j => ?_, ?_, fun s => ?_⟩
  · rw [continues.returns]
    split
    · refine List.nodup_append.mpr ⟨l.once, List.pairwise_singleton _ i, fun a ha b hb same => ?_⟩
      cases List.mem_singleton.mp hb
      exact out (same ▸ ha)
    · exact l.once
  · rw [continues.returns, continues.releases]
    by_cases same : i = j
    · subst same
      rw [List.getElem?_set_self lt]
      cases given : stage.given <;> simp [out, given]
    · rw [List.getElem?_set_ne same, ← l.given j]
      split
      · rw [List.mem_append, List.mem_singleton]
        exact or_iff_left (Ne.symm same)
      · exact .rfl
  · rw [continues.drained, continues.reports, l.noted]
  · have number := (refsAt_set continues.there s (.inr other)).length_eq
    rw [length_refsAt, length_refsAt, ← continues.releases] at number
    rw [Process.reported, continues.reports, numberAt, number]
    exact l.reported s

/-- The numbers that an owner reports count for its session. -/
theorem sum_told (ns : List Nat) (s u : SessionId) :
    (((ns.map fun n => (s, n)).filter (·.1 = u)).map (·.2)).sum = if u = s then ns.sum else 0 := by
  induction ns with
  | nil => simp
  | cons n ns ih =>
      rw [List.map_cons, List.filter_cons]
      by_cases own : u = s
      · rw [if_pos own] at ih ⊢
        rw [if_pos (decide_eq_true own.symm), List.map_cons, List.sum_cons, ih, List.sum_cons]
      · rw [if_neg own] at ih ⊢
        rw [if_neg (by simp [Ne.symm own]), ih]

/-- What an owner reports is what it gives back. -/
theorem Ledger.brings [HasHandles R] {before after : Stage} {ns : List Nat} (l : p.Ledger)
    (brings : p.Brings p' s before after ns) (kept : before.given = false)
    (numbers : ∀ u, (if u = s then ns.sum else 0) + p.numberAt u .reclaimed =
      p'.numberAt u .reclaimed) : p'.Ledger := by
  refine ⟨?_, fun i => ?_, ?_, fun u => ?_⟩
  · rw [brings.returns]
    split
    · refine List.nodup_append.mpr ⟨l.once, nodup_numbersAt _ _ _, fun i hi j hj same => ?_⟩
      subst same
      obtain ⟨r, hr, at_⟩ := mem_numbersAt.mp hj
      exact l.not_mem hr (stage_of_isAt at_ ▸ kept) hi
    · exact l.once
  · rw [brings.returns, brings.releases, List.getElem?_map]
    cases hr : p.releases[i]? with
    | none =>
        have out : i ∉ p.returns := fun h => by
          obtain ⟨r, hr', -⟩ := (l.given i).mp h
          rw [hr] at hr'
          cases hr'
        have absent : i ∉ numbersAt s before p.releases := fun h => by
          obtain ⟨r, hr', -⟩ := mem_numbersAt.mp h
          rw [hr] at hr'
          cases hr'
        split <;> simp [out, absent]
    | some r =>
        have old : i ∈ p.returns ↔ r.stage.given = true := by
          rw [l.given i, hr]
          simp
        have there : i ∈ numbersAt s before p.releases ↔ r.isAt s before = true := by
          rw [mem_numbersAt, hr]
          simp
        by_cases at_ : r.isAt s before = true
        · have stage := stage_of_isAt at_
          rw [Option.map_some, move_pos at_]
          cases given : after.given <;> simp [old, there, at_, given, stage, kept]
        · rw [Option.map_some, move_neg at_]
          split <;> simp [old, there, at_]
  · rw [brings.drained, brings.reports, l.noted, List.map_append, List.map_map]
    rfl
  · rw [Process.reported, brings.reports, List.filter_append, List.map_append, List.sum_append,
      ← numbers u, ← l.reported u]
    exact congrArg (· + p.reported u) (sum_told ns s u)

section

variable [HasHandles R] {before after : Stage} {ns : List Nat}

/-- Where an owner brings releases on, they leave their stage. -/
theorem Brings.left (brings : p.Brings p' s before after ns) (h : before ≠ after) :
    p'.numberAt s before = 0 := by
  rw [numberAt, brings.releases, ← length_refsAt, refsAt_left h]
  rfl

/-- They come to the next. -/
theorem Brings.arrived (brings : p.Brings p' s before after ns) (h : before ≠ after) :
    p'.numberAt s after = p.numberAt s before + p.numberAt s after := by
  rw [numberAt, brings.releases, ← length_refsAt, (refsAt_arrived h).length_eq, List.length_append,
    length_refsAt, length_refsAt]
  rfl

/-- Nothing else changes. -/
theorem Brings.elsewhere (brings : p.Brings p' s before after ns) {u : SessionId} {c : Stage}
    (h : u ≠ s ∨ c ≠ before ∧ c ≠ after) : p'.numberAt u c = p.numberAt u c := by
  rw [numberAt, brings.releases, ← length_refsAt, refsAt_others h, length_refsAt]
  rfl

theorem Ledger.flow (l : p.Ledger) (flow : p.Flow p') : p'.Ledger := by
  cases flow with
  | calm calm => exact l.calm calm
  | begins t h begins => exact l.begins begins
  | continues i r stage continues => exact l.continues continues
  | reclaims s ticket job ns taking working sum brings =>
      refine l.brings brings rfl fun u => ?_
      by_cases own : u = s
      · subst own
        rw [if_pos rfl, sum]
        exact (brings.arrived (by decide)).symm
      · rw [if_neg own, Nat.zero_add]
        exact (brings.elsewhere (.inl own)).symm
  | shuts s rest leaving shut closed brings =>
      refine l.brings brings rfl fun u => ?_
      rw [List.sum_nil, ite_self, Nat.zero_add]
      exact (brings.elsewhere (.inr (by decide))).symm
  | ends s rest n shut left number brings =>
      refine l.brings brings rfl fun u => ?_
      by_cases own : u = s
      · subst own
        rw [if_pos rfl, List.sum_singleton, number]
        exact (brings.arrived (by decide)).symm
      · rw [if_neg own, Nat.zero_add]
        exact (brings.elsewhere (.inl own)).symm

end

/-! ### The life of a release -/

section

variable [HasHandles R]

/-- A release is where it was, or at a stage that comes after. -/
def Leads (p' : Process σ J R) (i : Nat) (r : Release) : Prop :=
  ∃ r', p'.releases[i]? = some r' ∧ r'.thread = r.thread ∧ r'.handle = r.handle ∧
    (r'.stage = r.stage ∨ r'.stage ∈ r.stage.next)

omit [HasHandles R] in
theorem Leads.stay {i : Nat} {r : Release} (h : p'.releases[i]? = some r) : p'.Leads i r :=
  ⟨r, h, rfl, rfl, .inl rfl⟩

theorem Brings.leads {before after : Stage} {ns : List Nat} (brings : p.Brings p' s before after ns)
    (next : after ∈ before.next) {i : Nat} {r : Release} (hr : p.releases[i]? = some r) :
    p'.Leads i r := by
  refine ⟨r.move s before after, ?_, ?_, handle_move s before after r, ?_⟩
  · rw [brings.releases, List.getElem?_map, hr, Option.map_some]
  · unfold Release.move
    split <;> rfl
  · by_cases at_ : r.isAt s before = true
    · rw [move_pos at_, stage_of_isAt at_]
      exact .inr next
    · rw [move_neg at_]
      exact .inl rfl

theorem Continues.mem_next {i : Nat} {r : Release} {stage : Stage}
    (continues : p.Continues p' i r stage) : stage ∈ r.stage.next := by
  rcases continues.next with rfl | ⟨counted, rfl | ⟨rfl, -⟩⟩
  · rcases continues.hand with h | h <;> rw [h] <;> decide
  · rw [counted]
    decide
  · rw [counted]
    decide

/-- **A release goes from stage to stage.** -/
theorem Flow.leads (flow : p.Flow p') {i : Nat} {r : Release} (hr : p.releases[i]? = some r) :
    p'.Leads i r := by
  cases flow with
  | calm calm => exact .stay (calm.releases ▸ hr)
  | begins t h begins =>
      refine .stay ?_
      rw [begins.releases, List.getElem?_append_left (List.getElem?_eq_some_iff.mp hr).1, hr]
  | continues j r' stage continues =>
      by_cases same : j = i
      · subst same
        cases continues.there.symm.trans hr
        have lt : j < p.releases.length := (List.getElem?_eq_some_iff.mp hr).1
        refine ⟨{ r with stage }, ?_, rfl, rfl, .inr continues.mem_next⟩
        rw [continues.releases, List.getElem?_set_self lt]
      · refine .stay ?_
        rw [continues.releases, List.getElem?_set_ne same, hr]
  | reclaims s ticket job ns taking working sum brings => exact brings.leads (by decide) hr
  | shuts s rest leaving shut closed brings => exact brings.leads (by decide) hr
  | ends s rest n shut left number brings => exact brings.leads (by decide) hr

/-- What was given back stays so. -/
theorem Flow.returns (flow : p.Flow p') {i : Nat} (h : i ∈ p.returns) : i ∈ p'.returns := by
  have brought {s : SessionId} {before after : Stage} {ns : List Nat}
      (brings : p.Brings p' s before after ns) : i ∈ p'.returns := by
    rw [brings.returns]
    split
    · exact List.mem_append_left _ h
    · exact h
  cases flow with
  | calm calm => exact calm.returns ▸ h
  | begins t g begins => exact begins.returns ▸ h
  | continues j r stage continues =>
      rw [continues.returns]
      split
      · exact List.mem_append_left _ h
      · exact h
  | reclaims s ticket job ns taking working sum brings => exact brought brings
  | shuts s rest leaving shut closed brings => exact brought brings
  | ends s rest n shut left number brings => exact brought brings

/-- Bringing parked references on, an owner parks none. -/
theorem Brings.everParked {before after : Stage} {ns : List Nat} {u : SessionId}
    (brings : p.Brings p' u before after ns) (here : before.wasParked = true)
    (there : after.wasParked = true) : p'.everParked s = p.everParked s := by
  rw [Process.everParked, brings.releases, List.countP_map, Process.everParked]
  refine congrArg (List.countP · p.releases) (funext fun r => ?_)
  by_cases at_ : r.isAt u before = true
  · rw [Function.comp_apply, move_pos at_, stage_of_isAt at_, here, there]
  · rw [Function.comp_apply, move_neg at_]

/-- No reference is parked on a closed list. -/
theorem Flow.everParked (flow : p.Flow p') (closed : p.isShut s) :
    p'.everParked s = p.everParked s := by
  cases flow with
  | calm calm => rw [Process.everParked, calm.releases, Process.everParked]
  | begins t h begins =>
      rw [Process.everParked, begins.releases, List.countP_append, List.countP_singleton]
      simp [Stage.wasParked, Process.everParked]
  | continues i r stage continues =>
      have number (c : Stage) (hc : c.wasParked = true) : p'.numberAt s c = p.numberAt s c := by
        have other : r.handle.session ≠ s ∨ r.stage ≠ c ∧ stage ≠ c := by
          by_cases own : r.handle.session = s
          · refine .inr ⟨?_, ?_⟩
            · rcases continues.hand with h | h <;> rw [h] <;> rintro rfl <;> cases hc
            · rcases continues.next with h | ⟨-, h | h⟩
              · rintro rfl
                rw [h] at hc
                cases hc
              · rintro rfl
                rw [h] at hc
                cases hc
              · exact absurd closed (own ▸ h.2)
          · exact .inl own
        have same := (refsAt_set continues.there s other).length_eq
        rwa [length_refsAt, length_refsAt, ← continues.releases] at same
      rw [everParked_eq, everParked_eq, number _ rfl, number _ rfl, number _ rfl]
  | reclaims u ticket job ns taking working sum brings =>
      exact brings.everParked rfl rfl
  | shuts u rest leaving shut closed brings => exact brings.everParked rfl rfl
  | ends u rest n shut left number brings => exact brings.everParked rfl rfl

end

end Process

end GuestBridge.Session
