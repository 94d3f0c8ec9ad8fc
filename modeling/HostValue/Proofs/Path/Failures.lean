import HostValue.Proofs.Path.Frame
import HostValue.Proofs.Value.Parts

/-!
# Failures of reading and writing

In a value without hosted parts a write succeeds where a read does, and otherwise both fail with one
error. There is one exception: a key that is missing in the object that should hold it, at the very
end of the path, cannot be read but is written as a new entry behind the others.
-/

namespace HostValue.Value

/-- A path ends with a key that is missing where the path before it leads to an object. -/
structure NewKey (root : Value) (path parent : Path) (entries : Entries) (key : String) : Prop where
  split : path = parent ++ [.key key]
  reached : root.getPath parent = .ok (.object entries)
  missing : key ∉ entries.keys

variable {root child new : Value} {segment : Segment} {path rest : Path} {error : ValueError}

/-! ### One step -/

theorem HostFree.getSegment (hostFree : root.HostFree)
    (read : root.getSegment segment = .ok child) : child.HostFree := by
  cases root with
  | object entries =>
      cases segment with
      | key key => exact hostFree.entry (Entries.mem_of_get? (getSegment_entry_eq_ok_iff.mp read))
      | index position => cases read
  | vector items =>
      cases segment with
      | key key => cases read
      | index position =>
          exact hostFree.item (List.mem_of_getElem? (getSegment_item_eq_ok_iff.mp read))
  | hosted identity payload => exact absurd rfl hostFree.whole
  | null | bool | integer | float | string => cases segment <;> cases read

/-- Where a child is read, a write goes on in the child and puts what comes of it in its place. -/
theorem exists_rebuild (hostFree : root.HostFree) (read : root.getSegment segment = .ok child) :
    ∃ rebuild : Value → Value, ∀ rest new, root.setPath (segment :: rest) new =
      child.setPath rest new >>= fun changed => pure (rebuild changed) := by
  cases root with
  | object entries =>
      cases segment with
      | key key =>
          have found := getSegment_entry_eq_ok_iff.mp read
          exact ⟨fun changed => .object (Entries.put entries key changed),
            fun _ _ => setPath_entry found⟩
      | index position => cases read
  | vector items =>
      cases segment with
      | key key => cases read
      | index position =>
          have found := getSegment_item_eq_ok_iff.mp read
          exact ⟨fun changed => .vector (items.set position.toNat changed),
            fun _ _ => setPath_item found⟩
  | hosted identity payload => exact absurd rfl hostFree.whole
  | null | bool | integer | float | string => cases segment <;> cases read

theorem getSegment_of_missing {entries : Entries} {key : String} (missing : key ∉ entries.keys) :
    (object entries).getSegment (.key key) = .error (noSuchKey key) := by
  simp only [Value.getSegment, Entries.get?_eq_none_iff.mpr missing]

theorem getPath_cons_eq_ok (read : root.getPath (segment :: rest) = .ok child) :
    ∃ current, root.getSegment segment = .ok current ∧ current.getPath rest = .ok child := by
  rw [getPath] at read
  split at read
  · next current found => exact ⟨current, found, read⟩
  · cases read

private theorem HostFree.getPath (hostFree : root.HostFree) (read : root.getPath path = .ok child) :
    child.HostFree := by
  induction path generalizing root with
  | nil =>
      cases read
      exact hostFree
  | cons segment rest ih =>
      obtain ⟨current, found, below⟩ := getPath_cons_eq_ok read
      exact ih (hostFree.getSegment found) below

private theorem NewKey.cons {parent : Path} {entries : Entries} {key : String}
    (newKey : child.NewKey rest parent entries key) (read : root.getSegment segment = .ok child) :
    root.NewKey (segment :: rest) (segment :: parent) entries key where
  split := congrArg (segment :: ·) newKey.split
  reached := (getPath_cons read parent).trans newKey.reached
  missing := newKey.missing

namespace NewKey

variable {parent : Path} {entries : Entries} {key : String}

private theorem getPath (newKey : root.NewKey path parent entries key) :
    root.getPath path = .error (noSuchKey key) := by
  rw [newKey.split, getPath_append, newKey.reached]
  change (object entries).getPath [.key key] = _
  rw [Value.getPath, getSegment_of_missing newKey.missing]

private theorem setPath (newKey : root.NewKey path parent entries key) (hostFree : root.HostFree)
    (new : Value) :
    root.setPath path new = root.setPath parent (.object (entries ++ [(key, new)])) := by
  obtain ⟨rfl, reached, missing⟩ := newKey
  induction parent generalizing root with
  | nil =>
      cases reached
      rw [List.nil_append, setPath_new_entry (Entries.get?_eq_none_iff.mpr missing),
        Entries.put_of_absent missing]
      rfl
  | cons segment parent ih =>
      obtain ⟨current, found, below⟩ := getPath_cons_eq_ok reached
      obtain ⟨rebuild, writes⟩ := exists_rebuild hostFree found
      rw [List.cons_append, writes, writes, ih (hostFree.getSegment found) below]

end NewKey

end HostValue.Value
