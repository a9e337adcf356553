import GuestBridge.Bridge.Boundary
import GuestBridge.Guest.Heap

/-!
# The guest's own output

Outside sessions that capture output, what scripts print goes to the stream that the guest has for
it. A host that wants to see that text finds the stream before it starts a session and asks it
later.
-/

namespace GuestBridge.Bridge

variable {σ : Type} [GuestState σ]

/-- The stream that the guest prints to. -/
def outputStream : Crossing σ Guest.Ref := do
  request (.getAttr (← request (.importModule "sys")) "stdout")

/-- The text that a stream has collected. -/
def collectedText (stream : Guest.Ref) : Crossing σ String := do
  let f ← request (.getAttr stream "getvalue")
  return (← request (.str (← request (.call f [] [])))).lossy

/-- The stream that the guest prints to; `None` if it has none. -/
def World.outputStream (w : World σ) : Guest.Ref × World σ :=
  match Bridge.outputStream.run w with
  | (.ok r, w) => (r, w)
  | (.error _, w) => (Guest.noneRef, w)

/-- The text that a stream has collected, as far as it can be found out. -/
def World.collectedText (w : World σ) (stream : Guest.Ref) : String × World σ :=
  match (Bridge.collectedText stream).run w with
  | (.ok text, w) => (text, w)
  | (.error _, w) => ("", w)

/-- A world in which no session has started. -/
def World.new (guest : σ) : World σ := ⟨guest, [], [], []⟩

end GuestBridge.Bridge
