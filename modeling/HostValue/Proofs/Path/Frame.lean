import HostValue.Proofs.Path.Write

/-!
# What a write leaves alone

A write changes nothing off its path: whatever another path finds or fails on, it finds or fails on
after the write, down to handles and messages. On the path vectors keep their lengths and objects
their keys, except that the last key of the path may be new in the object that holds it.
-/

namespace HostValue

def Segment.lower : Segment → Segment
  | .key name => .key (Text.lowerString name)
  | .index position => .index position

/-- Neither of two paths leads on from the other one, and where they part at a hosted value, their
segments differ in more than the case of letters. -/
structure Value.PathsPart (root : Value) (path other : Path) : Prop where
  notPrefix : ¬path <+: other
  notExtension : ¬other <+: path
  apart : ∀ common segment another rest others,
    path = common ++ segment :: rest → other = common ++ another :: others → segment ≠ another →
      ∀ identity payload, root.getPath common = .ok (.hosted identity payload) →
        segment.lower ≠ another.lower

/-- What becomes of a container on the path of a write, by the segment that leads on from it and
what is left of the path behind that. Of a version one number is set. -/
inductive Reshaped (segment : Segment) (rest : Path) : Value → Value → Prop where
  | vector {items others : List Value} (lengths : others.length = items.length) :
      Reshaped segment rest (.vector items) (.vector others)
  | object {entries others : Entries} (keys : others.keys = entries.keys) :
      Reshaped segment rest (.object entries) (.object others)
  | extended {entries others : Entries} {key : String} (last : rest = [])
      (here : segment = .key key) (new : key ∉ entries.keys)
      (keys : others.keys = entries.keys ++ [key]) :
      Reshaped segment rest (.object entries) (.object others)
  | hosted {payload other : Payload} (identity fresh : Nat)
      (sameType : other.typeName = payload.typeName)
      (version : ∀ version, payload = .version version →
        ∃ component number, other = .version (version.set component number)) :
      Reshaped segment rest (.hosted identity payload) (.hosted fresh other)

/-! ### Paths that part -/

private theorem first_difference_unique {common beginning : Path}
    {segment another first second : Segment}
    {rest others behind beyond : Path} (different : segment ≠ another) (apart : first ≠ second)
    (pathEq : common ++ segment :: rest = beginning ++ first :: behind)
    (otherEq : common ++ another :: others = beginning ++ second :: beyond) :
    common = beginning ∧ segment = first ∧ another = second := by
  induction common generalizing beginning with
  | nil =>
      cases beginning with
      | nil => exact ⟨rfl, (List.cons.inj pathEq).1, (List.cons.inj otherEq).1⟩
      | cons head tail =>
          exact absurd ((List.cons.inj pathEq).1.trans (List.cons.inj otherEq).1.symm) different
  | cons head tail ih =>
      cases beginning with
      | nil => exact absurd ((List.cons.inj pathEq).1.symm.trans (List.cons.inj otherEq).1) apart
      | cons start remainder =>
          obtain ⟨sameHead, pathTail⟩ := List.cons.inj pathEq
          obtain ⟨sameTail, segments⟩ := ih pathTail (List.cons.inj otherEq).2
          exact ⟨by rw [sameHead, sameTail], segments⟩

namespace Value.PathsPart

variable {root : Value} {segment another : Segment} {rest others : Path}

private theorem of_common (common : Path) (different : segment ≠ another)
    (apart : ∀ identity payload, root.getPath common = .ok (.hosted identity payload) →
      segment.lower ≠ another.lower) :
    root.PathsPart (common ++ segment :: rest) (common ++ another :: others) where
  notPrefix := by
    intro isPrefix
    have segments := (List.prefix_append_right_inj common).mp isPrefix
    exact different (List.cons_prefix_cons.mp segments).1
  notExtension := by
    intro isPrefix
    have segments := (List.prefix_append_right_inj common).mp isPrefix
    exact different (List.cons_prefix_cons.mp segments).1.symm
  apart := by
    intro beginning first second behind beyond pathEq otherEq firstDifferent
    obtain ⟨rfl, rfl, rfl⟩ :=
      first_difference_unique different firstDifferent pathEq otherEq
    exact apart

private theorem tail (part : root.PathsPart (segment :: rest) (segment :: others)) {child : Value}
    (read : root.getSegment segment = .ok child) : child.PathsPart rest others where
  notPrefix := fun isPrefix => part.notPrefix (List.prefix_cons_inj segment |>.mpr isPrefix)
  notExtension := fun isPrefix => part.notExtension (List.prefix_cons_inj segment |>.mpr isPrefix)
  apart := by
    intro common first second behind beyond pathEq otherEq different identity payload reached
    apply part.apart (segment :: common) first second behind beyond
    · rw [pathEq]
      rfl
    · rw [otherEq]
      rfl
    · exact different
    · rw [getPath_cons read]
      exact reached

private theorem head (part : root.PathsPart (segment :: rest) (another :: others))
    (different : segment ≠ another) {identity : Nat} {payload : Payload}
    (hosted : root = .hosted identity payload) : segment.lower ≠ another.lower := by
  apply part.apart [] segment another rest others rfl rfl different identity payload
  rw [hosted]
  rfl

end Value.PathsPart

/-! ### One replacement -/

namespace Replaced

variable {root child updated : Value} {segment : Segment}

private theorem getSegment_of_ne (replaced : Replaced root segment child updated) {other : Segment}
    (different : segment ≠ other)
    (apart : ∀ identity payload, root = .hosted identity payload → segment.lower ≠ other.lower) :
    updated.getSegment other = root.getSegment other := by
  cases replaced with
  | entry entries key =>
      cases other with
      | index position => rfl
      | key name =>
          have notKey : name ≠ key := fun same => different (congrArg Segment.key same.symm)
          simp only [Value.getSegment, Entries.get?_put_of_ne notKey]
  | @item items position inside =>
      cases other with
      | key name => rfl
      | index place =>
          have notPosition : position.toNat ≠ place.toNat :=
            fun same => different (congrArg Segment.index (UInt64.toNat_inj.mp same))
          simp only [Value.getSegment, List.getElem?_set_ne notPosition, List.length_set]
  | field accepted identity fresh =>
      cases other with
      | index position =>
          simp only [Value.getSegment, wrongContainer, Value.typeName, accepted.typeName]
      | key name =>
          -- Fields are found in any case of letters, so keys that differ may name one field.
          have lowerNe := apart identity _ rfl
          have namesApart := fun same => lowerNe (congrArg Segment.key same).symm
          simp only [Value.getSegment, accepted.readField?_of_ne namesApart, accepted.typeName]

private theorem reshaped (replaced : Replaced root segment child updated) {current : Value}
    (read : root.getSegment segment = .ok current) (rest : Path) :
    Reshaped segment rest root updated := by
  cases replaced with
  | entry entries key =>
      apply Reshaped.object
      rw [Entries.keys_put, if_pos]
      have found := Value.getSegment_entry_eq_ok_iff.mp read
      exact Entries.mem_keys_iff.mpr ⟨current, Entries.mem_of_get? found⟩
  | item inside => exact .vector List.length_set
  | field accepted identity fresh =>
      exact .hosted identity fresh accepted.typeName accepted.version_set

private theorem reshaped_last (replaced : Replaced root segment child updated) :
    Reshaped segment [] root updated := by
  cases replaced with
  | entry entries key =>
      by_cases present : key ∈ entries.keys
      · apply Reshaped.object
        rw [Entries.keys_put, if_pos present]
      · apply Reshaped.extended rfl rfl present
        rw [Entries.keys_put, if_neg present]
  | item inside => exact .vector List.length_set
  | field accepted identity fresh =>
      exact .hosted identity fresh accepted.typeName accepted.version_set

end Replaced

/-! ### Whole writes -/

namespace Written

variable {new root updated : Value} {path : Path}

private theorem getPath_of_pathsPart (written : Written new path root updated) {other : Path}
    (part : root.PathsPart path other) : updated.getPath other = root.getPath other := by
  induction written generalizing other with
  | whole root => exact absurd List.nil_prefix part.notPrefix
  | @last segment root updated replaced =>
      cases other with
      | nil => exact absurd List.nil_prefix part.notExtension
      | cons another others =>
          have different : segment ≠ another := by
            intro same
            apply part.notPrefix
            rw [same]
            exact List.prefix_append [another] others
          have same := replaced.getSegment_of_ne different fun _ _ hosted =>
            part.head different hosted
          rw [Value.getPath, Value.getPath, same]
  | @deeper segment rest root current child updated further read inner replaced ih =>
      cases other with
      | nil => exact absurd List.nil_prefix part.notExtension
      | cons another others =>
          by_cases same : segment = another
          · rw [← same] at part ⊢
            rw [Value.getPath_cons read, Value.getPath_cons replaced.getSegment]
            exact ih (part.tail read)
          · have kept := replaced.getSegment_of_ne same fun _ _ hosted => part.head same hosted
            rw [Value.getPath, Value.getPath, kept]

theorem reshaped (written : Written new path root updated) {before after : Path} {segment : Segment}
    (split : path = before ++ segment :: after) :
    ∃ container rebuilt, root.getPath before = .ok container ∧
      updated.getPath before = .ok rebuilt ∧ Reshaped segment after container rebuilt := by
  induction written generalizing before with
  | whole root =>
      exact absurd split.symm (List.append_ne_nil_of_right_ne_nil _ (List.cons_ne_nil _ _))
  | @last first root updated replaced =>
      cases before with
      | nil =>
          obtain ⟨rfl, rfl⟩ := List.cons.inj split
          exact ⟨root, updated, rfl, rfl, replaced.reshaped_last⟩
      | cons another others =>
          have tooLong := (List.cons.inj split).2
          exact absurd tooLong.symm (List.append_ne_nil_of_right_ne_nil _ (List.cons_ne_nil _ _))
  | @deeper first rest root current child updated further read inner replaced ih =>
      cases before with
      | nil =>
          obtain ⟨rfl, rfl⟩ := List.cons.inj split
          exact ⟨root, updated, rfl, rfl, replaced.reshaped read rest⟩
      | cons another others =>
          obtain ⟨rfl, below⟩ := List.cons.inj split
          obtain ⟨container, rebuilt, reached, found, shape⟩ := ih below
          refine ⟨container, rebuilt, ?_, ?_, shape⟩
          · rw [Value.getPath_cons read]
            exact reached
          · rw [Value.getPath_cons replaced.getSegment]
            exact found

end Written

/-- A write changes nothing off its path, and reshapes the containers on it no further than by one
new key at the end of the last one. -/
theorem Value.setPath_changes_path_alone {root new updated : Value} {path : Path}
    {supply next : Nat} (succeeded : root.setPath path new supply = .ok (updated, next)) :
    (∀ other, root.PathsPart path other → updated.getPath other = root.getPath other) ∧
      ∀ before segment after, path = before ++ segment :: after →
        ∃ container rebuilt, root.getPath before = .ok container ∧
          updated.getPath before = .ok rebuilt ∧ Reshaped segment after container rebuilt := by
  have written := written_of_setPath succeeded
  exact ⟨fun other part => written.getPath_of_pathsPart part,
    fun before segment after split => written.reshaped split⟩

/-- The number of a version in a box is replaced: its neighbour is read as before, and the vector
around the box keeps its two items. -/
theorem Value.setPath_changes_path_alone_version :
    Value.getPath
        (.object [("a", .vector [
          .hosted 6 (.box (.hosted 5 (.version ⟨9, 2, 3, [.numeric 4], ["b"]⟩))),
          .hosted 3 (.bare "c")])])
        [.key "a", .index 0, .key "value", .key "minor"] = .ok (.integer 2) ∧
      ∃ container rebuilt,
        Value.getPath
            (.object [("a", .vector [
              .hosted 1 (.box (.hosted 2 (.version ⟨1, 2, 3, [.numeric 4], ["b"]⟩))),
              .hosted 3 (.bare "c")])]) [.key "a"] = .ok container ∧
          Value.getPath
              (.object [("a", .vector [
                .hosted 6 (.box (.hosted 5 (.version ⟨9, 2, 3, [.numeric 4], ["b"]⟩))),
                .hosted 3 (.bare "c")])]) [.key "a"] = .ok rebuilt ∧
            Reshaped (.index 0) [.key "value", .key "MAJOR"] container rebuilt := by
  have succeeded :
      Value.setPath
          (.object [("a", .vector [
            .hosted 1 (.box (.hosted 2 (.version ⟨1, 2, 3, [.numeric 4], ["b"]⟩))),
            .hosted 3 (.bare "c")])])
          [.key "a", .index 0, .key "value", .key "MAJOR"] (.integer 9) 5 =
        .ok (.object [("a", .vector [
          .hosted 6 (.box (.hosted 5 (.version ⟨9, 2, 3, [.numeric 4], ["b"]⟩))),
          .hosted 3 (.bare "c")])], 7) := rfl
  obtain ⟨frame, shapes⟩ := setPath_changes_path_alone succeeded
  constructor
  · rw [frame]
    · rfl
    · exact .of_common [.key "a", .index 0, .key "value"] (by decide) (fun _ _ _ => by decide)
  · exact shapes [.key "a"] (.index 0) [.key "value", .key "MAJOR"] rfl

end HostValue
