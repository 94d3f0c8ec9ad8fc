import HostValue.Path.Access
import HostValue.Proofs.Path.Field
import HostValue.Proofs.Supply
import HostValue.Proofs.Value.Entries

/-!
# Writes by path

What a write that succeeds does, as a relation between the old root and the new one: on its way it
reads a child in every container, and going back it replaces the child there. What a write does to a
value is proved of one replacement and carried along the path by induction on this relation.
-/

namespace HostValue

/-- The second value is the first one with another child at a segment. -/
inductive Replaced : Value → Segment → Value → Value → Prop where
  | entry (entries : Entries) (key : String) (child : Value) :
      Replaced (.object entries) (.key key) child (.object (entries.put key child))
  | item {items : List Value} {position : UInt64} (inside : position.toNat < items.length)
      (child : Value) :
      Replaced (.vector items) (.index position) child (.vector (items.set position.toNat child))
  | field {payload written : Payload} {name : String} {child : Value}
      (accepted : payload.Accepts name child written) (identity fresh : Nat) :
      Replaced (.hosted identity payload) (.key name) child (.hosted fresh written)

/-- A value is written to the end of a path: there alone, as the last child, or further below. -/
inductive Written (new : Value) : Path → Value → Value → Prop where
  | whole (root : Value) : Written new [] root new
  | last {segment : Segment} {root updated : Value} (replaced : Replaced root segment new updated) :
      Written new [segment] root updated
  | deeper {segment : Segment} {rest : Path} {root current child updated : Value}
      (further : rest ≠ []) (read : root.getSegment segment = .ok current)
      (inner : Written new rest current child) (replaced : Replaced root segment child updated) :
      Written new (segment :: rest) root updated

/-! ### Children -/

namespace Value

theorem getSegment_entry_eq_ok_iff {entries : Entries} {key : String} {child : Value} :
    (object entries).getSegment (.key key) = .ok child ↔
      Entries.get? entries key = some child := by
  dsimp only [getSegment]
  cases Entries.get? entries key with
  | none => simp
  | some present => simp

theorem getSegment_item_eq_ok_iff {items : List Value} {position : UInt64} {child : Value} :
    (vector items).getSegment (.index position) = .ok child ↔
      items[position.toNat]? = some child := by
  dsimp only [getSegment]
  cases items[position.toNat]? with
  | none => simp
  | some present => simp

theorem getSegment_field_eq_ok_iff {identity : Nat} {payload : Payload} {name : String}
    {child : Value} :
    (hosted identity payload).getSegment (.key name) = .ok child ↔
      payload.readField? name = some (.ok child) := by
  dsimp only [getSegment]
  cases payload.readField? name with
  | none => simp
  | some outcome => simp

end Value

theorem Replaced.getSegment {root child updated : Value} {segment : Segment}
    (replaced : Replaced root segment child updated) :
    updated.getSegment segment = .ok child := by
  cases replaced with
  | entry entries key =>
      exact Value.getSegment_entry_eq_ok_iff.mpr (Entries.get?_put_self entries key child)
  | item inside => exact Value.getSegment_item_eq_ok_iff.mpr (List.getElem?_set_self inside)
  | field accepted identity fresh =>
      exact Value.getSegment_field_eq_ok_iff.mpr accepted.readField?

/-! ### Steps of a write -/

def Payload.writeAnew (payload : Payload) (name : String) (child : Value) : Fresh Value :=
  match payload.writeField? name child with
  | some outcome => do (← Fresh.ofExcept outcome).host
  | none => throw (.typeMismatch "writable object" payload.typeName)

namespace Value

variable {new : Value} {rest : Path}

theorem setPath_object (entries : Entries) (key : String) :
    (object entries).setPath (.key key :: rest) new = (do
      let child ← match Entries.get? entries key with
        | some child => child.setPath rest new
        | none => if rest.isEmpty then pure new else throw (noSuchKey key)
      return object (Entries.put entries key child)) :=
  rfl

theorem setPath_vector (items : List Value) (position : UInt64) :
    (vector items).setPath (.index position :: rest) new =
      match items[position.toNat]? with
      | some current => do
        let child ← current.setPath rest new
        return vector (items.set position.toNat child)
      | none => throw (outOfRange position items.length) :=
  rfl

theorem setPath_hosted (identity : Nat) (payload : Payload) (name : String) :
    (hosted identity payload).setPath (.key name :: rest) new =
      if payload.offers .set then do
        let child ←
          if rest.isEmpty then
            pure new
          else do
            let current ← Fresh.ofExcept ((hosted identity payload).getSegment (.key name))
            current.setPath rest new
        payload.writeAnew name child
      else
        throw (.typeMismatch "writable object" payload.typeName) :=
  rfl

theorem setPath_entry {entries : Entries} {key : String} {current : Value}
    (found : Entries.get? entries key = some current) :
    (object entries).setPath (.key key :: rest) new =
      current.setPath rest new >>= fun child => pure (object (Entries.put entries key child)) := by
  rw [setPath_object]
  simp only [found]

theorem setPath_new_entry {entries : Entries} {key : String}
    (absent : Entries.get? entries key = none) :
    (object entries).setPath [.key key] new = pure (object (Entries.put entries key new)) := by
  rw [setPath_object]
  simp only [absent]
  rfl

theorem setPath_no_entry {entries : Entries} {key : String} (further : rest ≠ [])
    (absent : Entries.get? entries key = none) :
    (object entries).setPath (.key key :: rest) new = throw (noSuchKey key) := by
  rw [setPath_object]
  simp only [absent, List.isEmpty_eq_false_iff.mpr further]
  rfl

theorem setPath_item {items : List Value} {position : UInt64} {current : Value}
    (found : items[position.toNat]? = some current) :
    (vector items).setPath (.index position :: rest) new =
      current.setPath rest new >>= fun child => pure (vector (items.set position.toNat child)) := by
  rw [setPath_vector]
  simp only [found]

theorem setPath_no_item {items : List Value} {position : UInt64}
    (absent : items[position.toNat]? = none) :
    (vector items).setPath (.index position :: rest) new =
      throw (outOfRange position items.length) := by
  rw [setPath_vector]
  simp only [absent]

theorem setPath_field_last {identity : Nat} {payload : Payload} {name : String}
    (writable : payload.offers .set = true) :
    (hosted identity payload).setPath [.key name] new = payload.writeAnew name new := by
  rw [setPath_hosted]
  simp only [writable]
  rfl

theorem setPath_field_below {identity : Nat} {payload : Payload} {name : String}
    (writable : payload.offers .set = true) (further : rest ≠ []) :
    (hosted identity payload).setPath (.key name :: rest) new =
      Fresh.ofExcept ((hosted identity payload).getSegment (.key name)) >>= fun current =>
        current.setPath rest new >>= payload.writeAnew name := by
  rw [setPath_hosted]
  simp only [writable, List.isEmpty_eq_false_iff.mpr further]
  rfl

private theorem setPath_unwritable {identity : Nat} {payload : Payload} {name : String}
    (unwritable : payload.offers .set = false) :
    (hosted identity payload).setPath (.key name :: rest) new =
      throw (.typeMismatch "writable object" payload.typeName) := by
  rw [setPath_hosted]
  simp only [unwritable]
  rfl

end Value

theorem Payload.writeAnew_eq_ok_iff {payload : Payload} {name : String} {child result : Value}
    {supply next : Nat} :
    payload.writeAnew name child supply = .ok (result, next) ↔
      ∃ written, payload.Accepts name child written ∧ .hosted supply written = result ∧
        supply + 1 = next := by
  simp only [← writeField?_eq_ok_iff, writeAnew]
  cases payload.writeField? name child with
  | none => simp
  | some outcome =>
      cases outcome with
      | error error => simp [Fresh.run_ofExcept_bind_eq_ok_iff]
      | ok written => simp [Fresh.ofExcept_ok_bind]

/-! ### A write that succeeds -/

private theorem Written.step {new root current child updated : Value} {segment : Segment}
    {rest : Path}
    (read : root.getSegment segment = .ok current) (inner : Written new rest current child)
    (replaced : Replaced root segment child updated) :
    Written new (segment :: rest) root updated := by
  cases inner with
  | whole => exact .last replaced
  | last innermost => exact .deeper (List.cons_ne_nil _ _) read (.last innermost) replaced
  | deeper further innerRead innermost innerReplaced =>
      exact .deeper (List.cons_ne_nil _ _) read (.deeper further innerRead innermost innerReplaced)
        replaced

theorem written_of_setPath {root new updated : Value} {path : Path} {supply next : Nat}
    (succeeded : root.setPath path new supply = .ok (updated, next)) :
    Written new path root updated := by
  induction path generalizing root updated supply next with
  | nil =>
      cases succeeded
      exact .whole root
  | cons segment rest ih =>
      cases root with
      | object entries =>
          cases segment with
          | index position => cases succeeded
          | key key =>
              cases found : Entries.get? entries key with
              | some current =>
                  rw [Value.setPath_entry found, Fresh.run_bind_eq_ok_iff] at succeeded
                  obtain ⟨child, middle, below, made⟩ := succeeded
                  cases made
                  have read := Value.getSegment_entry_eq_ok_iff.mpr found
                  exact .step read (ih below) (.entry entries key child)
              | none =>
                  by_cases further : rest = []
                  · rw [further, Value.setPath_new_entry found] at succeeded
                    cases succeeded
                    rw [further]
                    exact .last (.entry entries key new)
                  · rw [Value.setPath_no_entry further found] at succeeded
                    cases succeeded
      | vector items =>
          cases segment with
          | key key => cases succeeded
          | index position =>
              cases found : items[position.toNat]? with
              | some current =>
                  rw [Value.setPath_item found, Fresh.run_bind_eq_ok_iff] at succeeded
                  obtain ⟨child, middle, below, made⟩ := succeeded
                  cases made
                  have read := Value.getSegment_item_eq_ok_iff.mpr found
                  obtain ⟨inside, _⟩ := List.getElem?_eq_some_iff.mp found
                  exact .step read (ih below) (.item inside child)
              | none =>
                  rw [Value.setPath_no_item found] at succeeded
                  cases succeeded
      | hosted identity payload =>
          cases segment with
          | index position => cases succeeded
          | key name =>
              cases writable : payload.offers .set with
              | false =>
                  rw [Value.setPath_unwritable writable] at succeeded
                  cases succeeded
              | true =>
                  by_cases further : rest = []
                  · rw [further, Value.setPath_field_last writable,
                      Payload.writeAnew_eq_ok_iff] at succeeded
                    obtain ⟨written, accepted, rfl, -⟩ := succeeded
                    rw [further]
                    exact .last (.field accepted identity supply)
                  · rw [Value.setPath_field_below writable further,
                      Fresh.run_ofExcept_bind_eq_ok_iff] at succeeded
                    obtain ⟨current, read, continued⟩ := succeeded
                    obtain ⟨child, middle, below, made⟩ := Fresh.run_bind_eq_ok_iff.mp continued
                    obtain ⟨written, accepted, rfl, -⟩ := Payload.writeAnew_eq_ok_iff.mp made
                    exact .step read (ih below) (.field accepted identity middle)
      | null | bool | integer | float | string => cases segment <;> cases succeeded

/-! ### Reading what was written -/

theorem Value.getPath_cons {root child : Value} {segment : Segment}
    (read : root.getSegment segment = .ok child) (rest : Path) :
    root.getPath (segment :: rest) = child.getPath rest := by
  rw [getPath, read]

theorem Value.getPath_append (root : Value) (path rest : Path) :
    root.getPath (path ++ rest) = root.getPath path >>= fun reached => reached.getPath rest := by
  induction path generalizing root with
  | nil => rfl
  | cons segment path ih =>
      rw [List.cons_append, getPath, getPath]
      cases root.getSegment segment with
      | error error => rfl
      | ok child => exact ih child

theorem Written.getPath {new root updated : Value} {path : Path}
    (written : Written new path root updated) : updated.getPath path = .ok new := by
  induction written with
  | whole root => rfl
  | last replaced => exact Value.getPath_cons replaced.getSegment []
  | deeper further read inner replaced ih =>
      rw [Value.getPath_cons replaced.getSegment]
      exact ih

end HostValue
