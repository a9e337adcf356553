import GuestBridge.Proofs.Process.Effect
import GuestBridge.Proofs.Process.Flow

/-!
# Calls That Start Sessions

`Process` lets a session have its owner from the moment of the claim. Here the call that starts a
session is followed step by step: it takes the claim or is refused, makes the thread of the owner or
fails to and gives the claim back, hears from the owner how entering the guest went, and comes back;
after a failure it comes back only when the owner is gone. `Desk.run` interleaves any number of such
calls with all steps of the process.

A thread that has come to its end releases no handles, and gives no jobs to other sessions.
-/

namespace GuestBridge.Session

open Bridge

/-- Where a call that starts a session is, once it has the claim. -/
inductive Launch
  /-- The thread of the owner has yet to be made. -/
  | claimed
  /-- The thread could not be made, and the claim has yet to be given back. -/
  | unspawned (reason : String)
  /-- The owner has its thread, and the call waits for word from it. -/
  | spawned
  /-- The owner has said that it is in the guest, or why it could not enter it. -/
  | heard (reason : Option String)
  /-- The call has given the session, or why it could not be started. -/
  | returned (reason : Option String)
  deriving DecidableEq, Repr

/-- Whether the call is between taking the claim and making the thread of the owner. -/
def Launch.isCalling : Launch → Bool
  | claimed | unspawned _ => true
  | spawned | heard _ | returned _ => false

/-- How a call goes on, given where the owner of its session stands, apart from what it hears from
the owner. -/
inductive Launch.Next : Phase → Launch → Launch → Prop
  | spawn (phase : Phase) : Next phase claimed spawned
  | failSpawn (phase : Phase) (reason : String) : Next phase claimed (unspawned reason)
  | succeed (phase : Phase) : Next phase (heard none) (returned none)
  | fail (reason : String) : Next .gone (heard (some reason)) (returned (some reason))

/-- A process, and the calls that start sessions in it. -/
structure Desk (σ J R : Type) where
  process : Process σ J R
  /-- The calls that got the claim, one for each session, in order. -/
  launches : List Launch
  /-- What the calls that have come back gave, in order. -/
  answers : List (Except SessionError SessionId)
  /-- The sessions whose claim was given back, in order. -/
  surrendered : List SessionId

/-- What happens next: a step of a call, or of any thread. -/
inductive Move (J R : Type)
  /-- A call comes in. -/
  | call (config : SessionConfig)
  | spawn (s : SessionId)
  | failSpawn (s : SessionId) (reason : String)
  /-- A call that could not make the thread gives the claim back, and comes back itself. -/
  | withdraw (s : SessionId)
  | act (a : Action J R)
  | comeBack (s : SessionId)

/-- The thread that releases a handle, gives a job to a session or closes one. -/
def Process.threadOf {σ J R : Type} (p : Process σ J R) : Action J R → Option Thread
  | .submit t _ _ | .close t _ | .release t _ => some t
  | .advance i => p.releases[i]?.map (·.thread)
  | _ => none

namespace Desk

variable {σ J R : Type}

/-- Nothing has happened yet. -/
def initial (g : σ) : Desk σ J R := ⟨.initial g, [], [], []⟩

/-- A call goes on. -/
def launch (d : Desk σ J R) (s : SessionId) (l : Launch) : Desk σ J R :=
  { d with launches := d.launches.set s l }

/-- A call comes back. -/
def answer (d : Desk σ J R) (a : Except SessionError SessionId) : Desk σ J R :=
  { d with answers := d.answers ++ [a] }

def call (d : Desk σ J R) (config : SessionConfig) : Desk σ J R :=
  match d.process.system.claim config with
  | .ok (_, system) =>
    { d with process := { d.process with system }, launches := d.launches ++ [.claimed] }
  | .error e => d.answer (.error e)

def spawn (d : Desk σ J R) (s : SessionId) : Desk σ J R :=
  match d.launches[s]? with
  | some .claimed => d.launch s .spawned
  | _ => d

def failSpawn (d : Desk σ J R) (s : SessionId) (reason : String) : Desk σ J R :=
  match d.launches[s]? with
  | some .claimed => d.launch s (.unspawned reason)
  | _ => d

def withdraw (d : Desk σ J R) (s : SessionId) : Desk σ J R :=
  match d.launches[s]?, d.process.system.withdraw s with
  | some (.unspawned reason), some system =>
    let d' := (d.launch s (.returned (some reason))).answer (.error (.startup reason))
    { d' with process := { d.process with system }, surrendered := d.surrendered ++ [s] }
  | _, _ => d

/-- The owner of a session enters the guest, and says how that went. -/
def prepare [GuestState σ] (d : Desk σ J R) (s : SessionId) : Desk σ J R :=
  match d.launches[s]?, d.process.owner s with
  | some .spawned, .starting =>
    let (reason, system) := d.process.system.prepare s
    { d.launch s (.heard reason) with process := { d.process with system } }
  | _, _ => d

/-- The owner of a session gives the claim back. -/
def surrender (d : Desk σ J R) (s : SessionId) (system : Option (System σ J R)) : Desk σ J R :=
  match system with
  | some system =>
    { d with process := { d.process with system }, surrendered := d.surrendered ++ [s] }
  | none => d

/-- A call comes back with what the owner said; after a failure it waits until the owner is gone. -/
def comeBack (d : Desk σ J R) (s : SessionId) : Desk σ J R :=
  match d.launches[s]?, d.process.owner s with
  | some (.heard none), _ => (d.launch s (.returned none)).answer (.ok s)
  | some (.heard (some reason)), .gone =>
    (d.launch s (.returned (some reason))).answer (.error (.startup reason))
  | _, _ => d

/-- Whether a thread has not come to its end, as that of an owner does when it gives the claim
back. -/
def goesOn (d : Desk σ J R) : Thread → Bool
  | .host => true
  | .owner s => d.process.phase s != .gone

/-! ### Runs -/

variable [GuestState σ] [HasHandles R]

/-- A step of a thread in between. -/
def inner (d : Desk σ J R) (a : Action J R) : Desk σ J R :=
  if (d.process.threadOf a).all d.goesOn then { d with process := d.process.step a } else d

/-- A step of a thread. Claims are taken by calls alone. -/
def act (d : Desk σ J R) : Action J R → Desk σ J R
  | .claim _ => d
  | .prepare s => d.prepare s
  | .abort s => d.surrender s (d.process.system.abort s)
  | .surrender s => d.surrender s (d.process.system.surrender s)
  | a => d.inner a

/-- One step of a call or of a thread. -/
def step (d : Desk σ J R) : Move J R → Desk σ J R
  | .call config => d.call config
  | .spawn s => d.spawn s
  | .failSpawn s reason => d.failSpawn s reason
  | .withdraw s => d.withdraw s
  | .act a => d.act a
  | .comeBack s => d.comeBack s

/-- Steps one after the other. -/
def steps (d : Desk σ J R) (ms : List (Move J R)) : Desk σ J R := ms.foldl step d

/-- A run from the start, with the guest in a state. -/
def run (g : σ) (ms : List (Move J R)) : Desk σ J R := (initial g).steps ms

/-- What holds at the start and is kept by every step holds in every run. -/
theorem run_induction {P : Desk σ J R → Prop} {g : σ} (start : P (initial g))
    (kept : ∀ d m, P d → P (step d m)) (ms : List (Move J R)) : P (run g ms) :=
  List.foldlRecOn ms step start fun d h m _ => kept d m h

theorem run_append (g : σ) (ms ms' : List (Move J R)) : run g (ms ++ ms') = (run g ms).steps ms' :=
  List.foldl_append

theorem run_concat (g : σ) (ms : List (Move J R)) (m : Move J R) :
    run g (ms ++ [m]) = (run g ms).step m :=
  run_append g ms [m]

/-! ### What every step does -/

/-- What a step does to the process, to the calls, and to the list of claims given back. -/
inductive Effect (d : Desk σ J R) (m : Move J R) (d' : Desk σ J R) : Prop
  | rests (process : d'.process = d.process) (launches : d'.launches = d.launches)
      (surrendered : d'.surrendered = d.surrendered)
  | inner (a : Action J R) (move : m = .act a) (inner : d.process.Inner a d'.process)
      (process : d'.process = d.process.step a) (launches : d'.launches = d.launches)
      (surrendered : d'.surrendered = d.surrendered)
  | opens (config : SessionConfig) (free : d.process.system.claimed = false)
      (process : d'.process = { d.process with system := d.process.system.opened config })
      (launches : d'.launches = d.launches ++ [.claimed])
      (surrendered : d'.surrendered = d.surrendered)
  | proceeds (s : SessionId) (l l' : Launch) (there : d.launches[s]? = some l)
      (next : Launch.Next (d.process.phase s) l l')
      (process : d'.process = d.process) (launches : d'.launches = d.launches.set s l')
      (surrendered : d'.surrendered = d.surrendered)
  | enters (s : SessionId) (there : d.launches[s]? = some .spawned)
      (starting : d.process.owner s = .starting) (process : d'.process = d.process.prepare s)
      (launches : d'.launches = d.launches.set s (.heard (d.process.system.prepare s).1))
      (surrendered : d'.surrendered = d.surrendered)
  | withdraws (s : SessionId) (reason : String) (there : d.launches[s]? = some (.unspawned reason))
      (starting : d.process.owner s = .starting)
      (process : d'.process = d.process.act (d.process.system.withdraw s))
      (launches : d'.launches = d.launches.set s (.returned (some reason)))
      (surrendered : d'.surrendered = d.surrendered ++ [s])
  /-- The claim is given back: after a start that failed, or when all is done. -/
  | surrenders (s : SessionId)
      (last : d.process.owner s = .failed ∧ d'.process = d.process.act (d.process.system.abort s) ∨
        d.process.owner s = .left ∧ d'.process = d.process.act (d.process.system.surrender s))
      (launches : d'.launches = d.launches) (surrendered : d'.surrendered = d.surrendered ++ [s])

variable {d : Desk σ J R} {m : Move J R}

/-- Nothing has happened. -/
theorem Effect.stay : d.Effect m d := .rests rfl rfl rfl

/-- A call is answered, and nothing else happens. -/
theorem Effect.answered (a : Except SessionError SessionId) : d.Effect m (d.answer a) :=
  .rests rfl rfl rfl

theorem effect_call (config : SessionConfig) : d.Effect (.call config) (d.call config) := by
  unfold Desk.call System.claim
  cases free : d.process.system.claimed with
  | true => exact .answered _
  | false => exact .opens config free rfl rfl rfl

theorem effect_spawn (s : SessionId) : d.Effect (.spawn s) (d.spawn s) := by
  unfold Desk.spawn
  split
  · rename_i there
    exact .proceeds s .claimed .spawned there (.spawn _) rfl rfl rfl
  · exact .stay

theorem effect_failSpawn (s : SessionId) (reason : String) :
    d.Effect (.failSpawn s reason) (d.failSpawn s reason) := by
  unfold Desk.failSpawn
  split
  · rename_i there
    exact .proceeds s .claimed (.unspawned reason) there (.failSpawn _ reason) rfl rfl rfl
  · exact .stay

theorem effect_withdraw (s : SessionId) : d.Effect (.withdraw s) (d.withdraw s) := by
  unfold Desk.withdraw
  split
  · rename_i reason system there h
    refine .withdraws s reason there ?_ ?_ rfl rfl
    · unfold System.withdraw at h
      split at h
      · rename_i starting
        exact starting
      · cases h
    · rw [h]
      rfl
  · exact .stay

theorem effect_comeBack (s : SessionId) : d.Effect (.comeBack s) (d.comeBack s) := by
  unfold Desk.comeBack
  split
  · rename_i there
    exact .proceeds s _ (.returned none) there (.succeed _) rfl rfl rfl
  · rename_i reason there gone
    have next : Launch.Next (d.process.phase s) (.heard (some reason)) (.returned (some reason)) := by
      rw [Process.phase, gone]
      exact .fail reason
    exact .proceeds s _ _ there next rfl rfl rfl
  · exact .stay

theorem effect_prepare (s : SessionId) : d.Effect m (d.prepare s) := by
  unfold Desk.prepare
  split
  · rename_i there starting
    refine .enters s there starting ?_ rfl rfl
    rw [Process.prepare, starting]
  · exact .stay

theorem effect_abort (s : SessionId) :
    d.Effect m (d.surrender s (d.process.system.abort s)) := by
  unfold Desk.surrender
  split
  · rename_i system h
    refine .surrenders s (.inl ⟨?_, ?_⟩) rfl rfl
    · unfold System.abort at h
      split at h
      · rename_i failed
        exact failed
      · cases h
    · rw [h]
      rfl
  · exact .stay

theorem effect_surrender (s : SessionId) :
    d.Effect m (d.surrender s (d.process.system.surrender s)) := by
  unfold Desk.surrender
  split
  · rename_i system h
    refine .surrenders s (.inr ⟨?_, ?_⟩) rfl rfl
    · unfold System.surrender at h
      split at h
      · rename_i left
        exact left
      · cases h
    · rw [h]
      rfl
  · exact .stay

theorem effect_inner {a : Action J R} (inner : a.isInner = true) : d.Effect (.act a) (d.inner a) := by
  unfold Desk.inner
  split
  · exact .inner a rfl (d.process.inner_step inner) rfl rfl rfl
  · exact .stay

theorem effect_act (a : Action J R) : d.Effect (.act a) (d.act a) := by
  cases a with
  | claim config => exact .stay
  | prepare s => exact effect_prepare s
  | abort s => exact effect_abort s
  | surrender s => exact effect_surrender s
  | _ => exact effect_inner rfl

/-- **What every step does.** -/
theorem effect_step (d : Desk σ J R) (m : Move J R) : d.Effect m (d.step m) := by
  cases m with
  | call config => exact effect_call config
  | spawn s => exact effect_spawn s
  | failSpawn s reason => exact effect_failSpawn s reason
  | withdraw s => exact effect_withdraw s
  | act a => exact effect_act a
  | comeBack s => exact effect_comeBack s

end Desk

end GuestBridge.Session
