import GuestBridge.Guest.Object

/-!
# Leaving guarded regions

A frame keeps the regions of code that guard the place where it runs, innermost first. An exception,
a `return`, a `break` and a `continue` leave regions one after another until one of them stops the
way out: a loop stops `break` and `continue`, an `except` stops exceptions, and a `finally` stops
everything, to go on with it once its own code has run.
-/

namespace GuestBridge.Guest

open Script

/-- What a step of a frame leads to. -/
inductive Flow
  | next (f : Frame)
  | leave (o : Outcome)
  /-- The exception leaves the frame. -/
  | failed (e : Raised)
  deriving Inhabited

namespace Frame

/-- Pushes a value. -/
def push (f : Frame) (v : Ref) : Frame := { f with stack := v :: f.stack }

/-- Drops the values above a depth. -/
def cut (f : Frame) (depth : Nat) : Frame :=
  { f with stack := f.stack.drop (f.stack.length - depth) }

/-- Goes to a label. -/
def jump (f : Frame) (c : Code) (label : Nat) : Frame :=
  { f with position := c.labels.getD label 0 }

/-- Ends the handling of the innermost exception. -/
def endHandling (f : Frame) : Frame := { f with handled := f.handled.drop 1 }

/-- Forgets what was to be done after the innermost `finally` part. -/
def dropPending (f : Frame) : Frame :=
  match f.pending with
  | .raising _ _ :: ps => { f with pending := ps, handled := f.handled.drop 1 }
  | _ :: ps => { f with pending := ps }
  | [] => f

/-- Opens a region that is guarded at a label. -/
def openRegion (f : Frame) (kind : RegionKind) (label : Nat) : Frame :=
  { f with regions := ⟨kind, label, f.stack.length, f.handled.length⟩ :: f.regions }

/-- Closes the innermost region. -/
def closeRegion (f : Frame) : Frame := { f with regions := f.regions.drop 1 }

/-- Enters the code of an `except` clause with the exception on the stack. -/
def enterHandler (f : Frame) (r : Region) (outer : List Region) (e : Ref) : Frame :=
  let f := f.cut r.depth
  { f with
    regions := { r with kind := .handling } :: outer
    handled := e :: f.handled
    stack := e :: f.stack }

/-- Enters the code of a `finally` part with something pending. -/
def enterFinal (f : Frame) (r : Region) (outer : List Region) (p : Pending) : Frame :=
  let f := f.cut r.depth
  { f with
    regions := { r with kind := .finishing } :: outer
    pending := p :: f.pending
    handled := match p with
      | .raising e _ => e :: f.handled
      | _ => f.handled }

end Frame

/-- Leaves regions, innermost first, until one of them stops what is pending. -/
def unwind (c : Code) (p : Pending) : List Region → Frame → Flow
  | [], f =>
    match p with
    | .raising e t => .failed ⟨e, t⟩
    | .returning v => .leave (.returned v)
    | _ => .next { f with regions := [] }
  | r :: rs, f =>
    match r.kind, p with
    | .handling, _ => unwind c p rs f.endHandling
    | .finishing, _ => unwind c p rs f.dropPending
    | .final, _ => .next ((f.enterFinal r rs p).jump c r.label)
    | .except, .raising e _ => .next ((f.enterHandler r rs e).jump c r.label)
    | .except, _ => unwind c p rs f
    | .loop, .breaking => .next ({ f.cut r.depth with regions := rs }.jump c r.label)
    | .loop, .continuing label keep =>
      .next ({ f.cut (r.depth + keep) with regions := r :: rs }.jump c label)
    | .loop, _ => unwind c p rs f

end GuestBridge.Guest
