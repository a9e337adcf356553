import GuestBridge.Proofs.Requests.Operations

/-!
# Operations Cannot Tell Foreign Handles Apart

A handle that belongs to another session is refused for that alone. If such handles are exchanged for
any others that do not belong to the session either, on whatever objects, an operation stays the same
computation: it asks the guest the same, makes the same handles and ends in the same way. So nothing
that an operation does or tells depends on the object behind a foreign handle.

The one exception is the name of the type that a handle keeps once it has been asked for it.

## Main statements

* `Operation.result_exchange` — an operation stays the same if foreign handles are exchanged.
-/

namespace GuestBridge.Bridge

open Guest (Ref)

/-- Handles of the session stay, and others are exchanged for handles that do not belong to it
either. -/
structure Context.Disguises (cx : Context) (f : Handle → Handle) : Prop where
  own {h : Handle} : h.session = cx.session → f h = h
  stranger {h : Handle} : h.session ≠ cx.session → (f h).session ≠ cx.session

/-! ### Exchanging handles -/

/-- Exchanges the handles in a value. -/
def HostType.exchange (f : Handle → Handle) (t : HostType) (v : t.Value) : t.Value :=
  Id.run (t.traverse (fun h => pure (f h)) v)

def HostValue.exchange (f : Handle → Handle) (v : HostValue) : HostValue :=
  ⟨v.type, v.type.exchange f v.value⟩

def View.exchange (f : Handle → Handle) (v : View) : View := ⟨v.iterator.map f⟩

/-- A cursor that has failed looks at its view no more. -/
def Cursor.exchange (f : Handle → Handle) (c : Cursor) : Cursor :=
  if c.failed then c else ⟨c.view.exchange f, false⟩

def Mapping.exchange (f : Handle → Handle) (m : Mapping) : Mapping := ⟨f m.handle⟩

def Sequence.exchange (f : Handle → Handle) (s : Sequence) : Sequence := ⟨f s.handle⟩

variable {σ : Type} [GuestState σ] {cx : Context} {f : Handle → Handle}

omit [GuestState σ] in
theorem Context.Disguises.bind_eq (d : cx.Disguises f) {ε : Type} (h : Handle) :
    ((f h).bind cx : ExceptT (Stop ε) (StateM (World σ)) Ref) = h.bind cx := by
  by_cases own : h.session = cx.session
  · rw [d.own own]
  · rw [Handle.bind, Handle.bind, if_neg own, if_neg (d.stranger own)]

namespace HostType

theorem mapM_pure {α β : Type} (g : α → β) (xs : List α) :
    List.mapM (m := Id) (fun x => pure (g x)) xs = pure (xs.map g) := by
  induction xs with
  | nil => rfl
  | cons x xs ih => rw [List.mapM_cons, ih]; rfl

theorem exchange_list (t : HostType) (xs : List t.Value) :
    (list t).exchange f xs = xs.map (t.exchange f) :=
  mapM_pure (t.exchange f) xs

theorem exchange_map (kind : MapKind) (k v : HostType) (es : List (k.Value × v.Value)) :
    (map kind k v).exchange f es = es.map fun e => (k.exchange f e.1, v.exchange f e.2) :=
  mapM_pure (fun e : k.Value × v.Value => (k.exchange f e.1, v.exchange f e.2)) es

end HostType

omit [GuestState σ] in
theorem sendAll_map {α : Type} {send : α → Crossing σ Ref} {g : α → α}
    (same : ∀ x, send (g x) = send x) (xs : List α) : sendAll send (xs.map g) = sendAll send xs := by
  induction xs with
  | nil => rfl
  | cons x xs ih => rw [List.map_cons, sendAll, sendAll, same, ih]

theorem sendEntries_map {α β : Type} {sendKey : α → Crossing σ Ref} {sendValue : β → Crossing σ Ref}
    {g : α → α} {g' : β → β} (keys : ∀ x, sendKey (g x) = sendKey x)
    (values : ∀ y, sendValue (g' y) = sendValue y) (dict : Ref) (es : List (α × β)) :
    sendEntries sendKey sendValue dict (es.map fun e => (g e.1, g' e.2)) =
      sendEntries sendKey sendValue dict es := by
  induction es with
  | nil => rfl
  | cons e es ih => rw [List.map_cons, sendEntries, sendEntries, keys, values, ih]

theorem send_exchange (d : cx.Disguises f) (t : HostType) :
    ∀ v : t.Value, send (σ := σ) cx t (t.exchange f v) = send cx t v := by
  induction t with
  | unit | bool | int k | bigInt | float32 | float64 | string | char | bytes | range =>
      exact fun _ => rfl
  | option t ih =>
      intro v
      cases v with
      | none => rfl
      | some x => exact ih x
  | list t ih =>
      intro xs
      change (do request (.newList (← sendAll (send cx t) ((HostType.list t).exchange f xs)))) = _
      have same : (HostType.list t).exchange f xs = List.map (t.exchange f) xs := t.exchange_list xs
      rw [same, sendAll_map ih xs]
      rfl
  | pair a b iha ihb =>
      intro ⟨x, y⟩
      change (do
        let r ← send cx a (a.exchange f x)
        let s ← send cx b (b.exchange f y)
        request (.newTuple [r, s])) = _
      rw [iha, ihb]
      rfl
  | triple a b c iha ihb ihc =>
      intro ⟨x, y, z⟩
      change (do
        let r ← send cx a (a.exchange f x)
        let s ← send cx b (b.exchange f y)
        let u ← send cx c (c.exchange f z)
        request (.newTuple [r, s, u])) = _
      rw [iha, ihb, ihc]
      rfl
  | map kind k v ihk ihv =>
      intro es
      have same : (HostType.map kind k v).exchange f es =
          List.map (fun e => (k.exchange f e.1, v.exchange f e.2)) es :=
        HostType.exchange_map kind k v es
      have entries (dict : Ref) :
          sendEntries (send cx k) (send cx v) dict ((HostType.map kind k v).exchange f es) =
            sendEntries (σ := σ) (send cx k) (send cx v) dict es := by
        rw [same]
        exact sendEntries_map ihk ihv dict es
      change (request (.newDict []) >>= fun dict => sendEntries (send cx k) (send cx v) dict
        ((HostType.map kind k v).exchange f es) >>= fun _ => pure dict) = _
      exact bind_congr fun dict => congrArg (· >>= fun _ => pure dict) (entries dict)
  | handle => exact fun h => d.bind_eq h

theorem HostValue.send_exchange (d : cx.Disguises f) (v : HostValue) :
    (v.exchange f).send (σ := σ) cx = v.send cx :=
  Bridge.send_exchange d v.type v.value

theorem sendKeywords_exchange (d : cx.Disguises f) (keywords : List (String × HostValue)) :
    ∀ ks, Handle.sendKeywords (σ := σ) cx (keywords.map fun e => (e.1, e.2.exchange f)) ks =
      Handle.sendKeywords cx keywords ks := by
  induction keywords with
  | nil => exact fun _ => rfl
  | cons e rest ih =>
      obtain ⟨name, v⟩ := e
      intro ks
      simp only [List.map_cons, Handle.sendKeywords, v.send_exchange d, ih]

theorem Handle.invoke_exchange (d : cx.Disguises f) (callee : Ref) (args : List HostValue)
    (keywords : List (String × HostValue)) :
    Handle.invoke (σ := σ) cx callee (args.map (·.exchange f))
      (keywords.map fun e => (e.1, e.2.exchange f)) = Handle.invoke cx callee args keywords := by
  simp only [Handle.invoke, sendKeywords_exchange d,
    sendAll_map (fun v : HostValue => v.send_exchange d)]

namespace Context.Disguises

variable (d : cx.Disguises f) (h : Handle) (key new : HostValue) (args : List HostValue)
  (keywords : List (String × HostValue))
include d

theorem call_eq : (f h).call (σ := σ) cx (args.map (·.exchange f))
    (keywords.map fun e => (e.1, e.2.exchange f)) = h.call cx args keywords := by
  simp only [Handle.call, Handle.callObject, d.bind_eq, Handle.invoke_exchange d]

theorem callMethod_eq (name : String) : (f h).callMethod (σ := σ) cx name (args.map (·.exchange f))
    (keywords.map fun e => (e.1, e.2.exchange f)) = h.callMethod cx name args keywords := by
  simp only [Handle.callMethod, Handle.callObject, d.bind_eq, Handle.invoke_exchange d]

theorem subscript_eq : (f h).subscript (σ := σ) cx (key.exchange f) = h.subscript cx key := by
  simp only [Handle.subscript, d.bind_eq, key.send_exchange d]

theorem setSubscript_eq : (f h).setSubscript (σ := σ) cx (key.exchange f) (new.exchange f) =
    h.setSubscript cx key new := by
  simp only [Handle.setSubscript, d.bind_eq, key.send_exchange d, new.send_exchange d]

theorem deleteSubscript_eq :
    (f h).deleteSubscript (σ := σ) cx (key.exchange f) = h.deleteSubscript cx key := by
  simp only [Handle.deleteSubscript, d.bind_eq, key.send_exchange d]

theorem checkIndex_eq (s : Sequence) (i : Sequence.Index) :
    (s.exchange f).checkIndex (σ := σ) cx i = s.checkIndex cx i := by
  simp only [Sequence.checkIndex, Sequence.length, Sequence.exchange, d.bind_eq]

end Context.Disguises

theorem View.advance_exchange (d : cx.Disguises f) (v : View) {β : Type}
    {g : View.Next × View → Boundary σ β} : (v.exchange f).advance cx >>= g = v.advance cx >>= g := by
  obtain ⟨_ | it⟩ := v
  · rfl
  · simp only [View.advance, View.exchange, Option.map]
    by_cases own : it.session = cx.session
    · rw [d.own own]
    · rw [Handle.bind_stranger own, Handle.bind_stranger (d.stranger own)]

/-! ### Operations -/

namespace Operation

/-- Exchanges the handles that an operation works on. -/
def exchange (f : Handle → Handle) : Operation → Operation
  | toForeign v => toForeign (v.exchange f)
  | clone h => clone (f h)
  | typeName h => typeName (f h)
  | isNone h => isNone (f h)
  | retention h => retention (f h)
  | isTruthy h => isTruthy (f h)
  | repr h => repr (f h)
  | str h => str (f h)
  | isInstance h cls => isInstance (f h) (f cls)
  | extract h t => extract (f h) t
  | member h name => member (f h) name
  | hasMember h name => hasMember (f h) name
  | setMember h name v => setMember (f h) name (v.exchange f)
  | call h args keywords =>
      call (f h) (args.map (·.exchange f)) (keywords.map fun e => (e.1, e.2.exchange f))
  | callMethod h name args keywords =>
      callMethod (f h) name (args.map (·.exchange f)) (keywords.map fun e => (e.1, e.2.exchange f))
  | subscript h key => subscript (f h) (key.exchange f)
  | setSubscript h key new => setSubscript (f h) (key.exchange f) (new.exchange f)
  | deleteSubscript h key => deleteSubscript (f h) (key.exchange f)
  | length h => length (f h)
  | iterate h => iterate (f h)
  | advance v => advance (v.exchange f)
  | next c => next (c.exchange f)
  | containsKey m key => containsKey (m.exchange f) (key.exchange f)
  | getEntry m key => getEntry (m.exchange f) (key.exchange f)
  | setEntry m key new => setEntry (m.exchange f) (key.exchange f) (new.exchange f)
  | removeEntry m key => removeEntry (m.exchange f) (key.exchange f)
  | keys m => keys (m.exchange f)
  | mappingLength m => mappingLength (m.exchange f)
  | mappingIsEmpty m => mappingIsEmpty (m.exchange f)
  | getElement s i => getElement (s.exchange f) i
  | setElement s i new => setElement (s.exchange f) i (new.exchange f)
  | push s new => push (s.exchange f) (new.exchange f)
  | sequenceLength s => sequenceLength (s.exchange f)
  | sequenceIsEmpty s => sequenceIsEmpty (s.exchange f)
  | op => op

/-- The name of a type is asked for only where the handle does not keep it. -/
def Untagged : Operation → Prop
  | typeName h => h.typeTag = Option.none
  | _ => True

/-- **An operation stays the same if foreign handles are exchanged.** -/
theorem result_exchange (d : cx.Disguises f) {op : Operation} (untagged : op.Untagged)
    (still : (op.exchange f).Untagged) :
    ((op.exchange f).result cx : Boundary σ (List Handle)) = op.result cx := by
  cases op with
  | liveHandles | globals | builtins | none | adopt | execute | evaluate | importModule | importFrom
  | newMapping => rfl
  | toForeign v => simp only [exchange, result, Bridge.toForeign, v.send_exchange d]
  | clone h =>
      by_cases own : h.session = cx.session
      · simp only [exchange, d.own own]
      · simp only [exchange, result, Handle.clone, Handle.bind_stranger own,
          Handle.bind_stranger (d.stranger own)]
  | typeName h =>
      by_cases own : h.session = cx.session
      · simp only [exchange, d.own own]
      · have asked : h.typeTag = Option.none := untagged
        have asked' : (f h).typeTag = Option.none := still
        simp only [exchange, result, Handle.typeName, asked, asked', Handle.bind_stranger own,
          Handle.bind_stranger (d.stranger own)]
  | isNone h => simp only [exchange, result, Handle.isNone, d.bind_eq]
  | retention h => simp only [exchange, result, Handle.retention, d.bind_eq]
  | isTruthy h => simp only [exchange, result, Handle.isTruthy, d.bind_eq]
  | repr h => simp only [exchange, result, Handle.repr, d.bind_eq]
  | str h => simp only [exchange, result, Handle.str, d.bind_eq]
  | isInstance h cls => simp only [exchange, result, Handle.isInstance, d.bind_eq]
  | extract h t => simp only [exchange, result, Handle.extract, d.bind_eq]
  | member h name => simp only [exchange, result, Handle.member, d.bind_eq]
  | hasMember h name => simp only [exchange, result, Handle.hasMember, d.bind_eq]
  | setMember h name v =>
      simp only [exchange, result, Handle.setMember, d.bind_eq, v.send_exchange d]
  | call h args keywords => simp only [exchange, result, d.call_eq]
  | callMethod h name args keywords => simp only [exchange, result, d.callMethod_eq]
  | subscript h key => simp only [exchange, result, d.subscript_eq]
  | setSubscript h key new => simp only [exchange, result, d.setSubscript_eq]
  | deleteSubscript h key => simp only [exchange, result, d.deleteSubscript_eq]
  | length h => simp only [exchange, result, Handle.length, d.bind_eq]
  | iterate h => simp only [exchange, result, Handle.iterate, d.bind_eq]
  | advance v => exact v.advance_exchange d
  | next c =>
      obtain ⟨v, failed⟩ := c
      cases failed with
      | true => rfl
      | false =>
          change Cursor.next ⟨v.exchange f, false⟩ cx >>= _ = Cursor.next ⟨v, false⟩ cx >>= _
          simp only [Cursor.next, Bool.false_eq_true, if_false, bind_assoc, v.advance_exchange d]
  | containsKey m key =>
      simp only [exchange, result, Mapping.exchange, Mapping.containsKey, d.bind_eq,
        key.send_exchange d]
  | getEntry m key =>
      simp only [exchange, result, Mapping.exchange, Mapping.get, d.bind_eq, key.send_exchange d]
  | setEntry m key new =>
      simp only [exchange, result, Mapping.exchange, Mapping.set, d.setSubscript_eq]
  | removeEntry m key =>
      simp only [exchange, result, Mapping.exchange, Mapping.remove, d.deleteSubscript_eq]
  | keys m =>
      have same := d.callMethod_eq (σ := σ) m.handle [] [] "keys"
      simp only [List.map_nil] at same
      simp only [exchange, result, Mapping.exchange, Mapping.keys, same]
  | mappingLength m => simp only [exchange, result, Mapping.exchange, Mapping.length, d.bind_eq]
  | mappingIsEmpty m =>
      simp only [exchange, result, Mapping.exchange, Mapping.isEmpty, Mapping.length, d.bind_eq]
  | getElement s i =>
      have same := d.subscript_eq (σ := σ) s.handle ⟨.int .isize, i⟩
      change (fun g => [g]) <$> ((s.exchange f).checkIndex cx i >>= fun _ =>
        (f s.handle).subscript cx _) = _
      rw [d.checkIndex_eq]
      exact congrArg (fun x => (fun g => [g]) <$> (s.checkIndex cx i >>= fun _ => x)) same
  | setElement s i new =>
      have same := d.setSubscript_eq (σ := σ) s.handle ⟨.int .isize, i⟩ new
      change (fun _ => []) <$> ((s.exchange f).checkIndex cx i >>= fun _ =>
        (f s.handle).setSubscript cx _ _) = _
      rw [d.checkIndex_eq]
      exact congrArg (fun x => (fun _ => []) <$> (s.checkIndex cx i >>= fun _ => x)) same
  | push s new =>
      have same := d.callMethod_eq (σ := σ) s.handle [new] [] "append"
      simp only [List.map_nil, List.map_cons] at same
      simp only [exchange, result, Sequence.exchange, Sequence.push, same]
  | sequenceLength s => simp only [exchange, result, Sequence.exchange, Sequence.length, d.bind_eq]
  | sequenceIsEmpty s =>
      simp only [exchange, result, Sequence.exchange, Sequence.isEmpty, Sequence.length, d.bind_eq]

end Operation

end GuestBridge.Bridge
