import HostValue.Proofs.Path.Write

/-!
# Reading and writing by path as a lens

What was written is read, the second of two writes counts, and writing what was read changes
nothing. A write gives new handles to the hosted values that it passes, so the last two laws hold up
to the identities of the handles on the path.
-/

namespace HostValue

/-- Two values are the same except for the identities of the handles that a path passes. -/
inductive AlikeAlong : Path → Value → Value → Prop where
  | refl (path : Path) (value : Value) : AlikeAlong path value value
  | entry (entries : Entries) (key : String) {rest : Path} {child other : Value}
      (inner : AlikeAlong rest child other) :
      AlikeAlong (.key key :: rest) (.object (entries.put key child))
        (.object (entries.put key other))
  | item (items : List Value) (position : UInt64) {rest : Path} {child other : Value}
      (inner : AlikeAlong rest child other) :
      AlikeAlong (.index position :: rest) (.vector (items.set position.toNat child))
        (.vector (items.set position.toNat other))
  | handle (payload : Payload) (name : String) (rest : Path) (identity fresh : Nat) :
      AlikeAlong (.key name :: rest) (.hosted identity payload) (.hosted fresh payload)
  | box {rest : Path} {child other : Value} (inner : AlikeAlong rest child other)
      (identity fresh : Nat) :
      AlikeAlong (.key "value" :: rest) (.hosted identity (.box child)) (.hosted fresh (.box other))

inductive OutcomesAlike (path : Path) :
    Except ValueError (Value × Nat) → Except ValueError (Value × Nat) → Prop where
  | failure (error : ValueError) : OutcomesAlike path (.error error) (.error error)
  | success {value other : Value} (alike : AlikeAlong path value other) (next last : Nat) :
      OutcomesAlike path (.ok (value, next)) (.ok (other, last))

def Fresh.Alike (path : Path) (run other : Fresh Value) : Prop :=
  ∀ supply another, OutcomesAlike path (run supply) (other another)

/-- Every hosted value that a path passes can be written. -/
def Value.WritableAlong (root : Value) (path : Path) : Prop :=
  ∀ before segment after, path = before ++ segment :: after →
    ∀ identity payload, root.getPath before = .ok (.hosted identity payload) →
      payload.offers .set = true

/-! ### Outcomes -/

namespace Fresh.Alike

variable {path outer : Path}

theorem value {value other : Value} (alike : AlikeAlong path value other) :
    Fresh.Alike path (pure value) (pure other) :=
  fun _ _ => .success alike _ _

theorem failure (error : ValueError) : Fresh.Alike path (throw error) (throw error) :=
  fun _ _ => .failure error

private theorem bind {run other : Fresh Value} {next last : Value → Fresh Value}
    (first : Fresh.Alike path run other)
    (rest : ∀ value another, AlikeAlong path value another →
      Fresh.Alike outer (next value) (last another)) :
    Fresh.Alike outer (run >>= next) (other >>= last) := by
  intro supply another
  have parts := first supply another
  cases runs : run supply with
  | error error =>
      rw [runs] at parts
      cases others : other another with
      | error failure =>
          rw [others] at parts
          cases parts
          rw [run_bind_error runs, run_bind_error others]
          exact .failure error
      | ok made =>
          rw [others] at parts
          cases parts
  | ok made =>
      obtain ⟨value, middle⟩ := made
      rw [runs] at parts
      cases others : other another with
      | error failure =>
          rw [others] at parts
          cases parts
      | ok made =>
          obtain ⟨counterpart, halfway⟩ := made
          rw [others] at parts
          rw [run_bind_ok runs, run_bind_ok others]
          cases parts with
          | success alike => exact rest value counterpart alike middle halfway

end Fresh.Alike

/-! ### Fields written with values that are alike -/

private theorem AlikeAlong.eq_or_typeName {path : Path} {value other : Value}
    (alike : AlikeAlong path value other) :
    value = other ∨
      (value.kind ≠ .integer ∧ other.kind ≠ .integer ∧ value.typeName = other.typeName) := by
  cases alike with
  | refl => exact Or.inl rfl
  | entry | item | handle | box => exact Or.inr ⟨Kind.noConfusion, Kind.noConfusion, rfl⟩

namespace Payload

private theorem writePoint_of_kind_ne (x y : Int64) (name : String) {value : Value}
    (notInteger : value.kind ≠ .integer) :
    writePoint x y name value = .error (.typeMismatch "integer" value.typeName) := by
  cases value with
  | integer => exact absurd rfl notInteger
  | _ => rfl

private theorem writeField?_congr {payload : Payload} (noBox : ∀ content, payload ≠ .box content)
    {name : String} {value other : Value} (notInteger : value.kind ≠ .integer)
    (notIntegerEither : other.kind ≠ .integer) (sameType : value.typeName = other.typeName) :
    payload.writeField? name value = payload.writeField? name other := by
  cases payload with
  | version own =>
      rw [writeField?, writeField?]
      cases found : Version.component? name with
      | none => simp only [Version.writeField, found]
      | some component =>
          rw [own.writeField_of_kind_ne found notInteger,
            own.writeField_of_kind_ne found notIntegerEither, sameType]
  | point x y =>
      rw [writeField?, writeField?, writePoint_of_kind_ne x y name notInteger,
        writePoint_of_kind_ne x y name notIntegerEither, sameType]
  | box content => exact absurd rfl (noBox content)
  | set | bare | other | tag | text | broken => rfl

theorem writeAnew_self (payload : Payload) (name : String) (rest : Path) (value : Value) :
    Fresh.Alike (.key name :: rest) (payload.writeAnew name value)
      (payload.writeAnew name value) := by
  unfold writeAnew
  cases payload.writeField? name value with
  | none => exact .failure _
  | some outcome =>
      cases outcome with
      | error error => exact .failure error
      | ok written => exact fun _ _ => .success (.handle written name rest _ _) _ _

theorem writeAnew_alike (payload : Payload) (name : String) {rest : Path} {value other : Value}
    (alike : AlikeAlong rest value other) :
    Fresh.Alike (.key name :: rest) (payload.writeAnew name value)
      (payload.writeAnew name other) := by
  rcases alike.eq_or_typeName with same | ⟨notInteger, notIntegerEither, sameType⟩
  · rw [same]
    exact payload.writeAnew_self name rest other
  · by_cases box : ∃ content, payload = .box content
    · obtain ⟨content, rfl⟩ := box
      by_cases named : name = "value"
      · rw [named]
        exact fun _ _ => .success (.box alike _ _) _ _
      · simp only [writeAnew, writeField?, if_neg named]
        exact .failure _
    · have noBox : ∀ content, payload ≠ .box content :=
        fun content isBox => box ⟨content, isBox⟩
      have same : payload.writeAnew name value = payload.writeAnew name other := by
        rw [writeAnew, writeAnew,
          writeField?_congr noBox notInteger notIntegerEither sameType]
      rw [same]
      exact payload.writeAnew_self name rest other

theorem Accepts.writeAnew {payload written : Payload} {name : String} {child : Value}
    (accepted : Accepts payload name child written) (value : Value) :
    written.writeAnew name value = payload.writeAnew name value := by
  rw [Payload.writeAnew, Payload.writeAnew, accepted.writeField?, accepted.typeName]

end Payload

/-! ### The second write counts -/

private theorem Value.setPath_entry_last (entries : Entries) (key : String) (new : Value) :
    (object entries).setPath [.key key] new = pure (object (Entries.put entries key new)) := by
  cases found : Entries.get? entries key with
  | none => exact setPath_new_entry found
  | some current =>
      rw [setPath_entry found]
      rfl

private theorem Value.setPath_item_last {items : List Value} {position : UInt64}
    (inside : position.toNat < items.length) (new : Value) :
    (vector items).setPath [.index position] new =
      pure (vector (items.set position.toNat new)) := by
  rw [setPath_item (List.getElem?_eq_getElem inside)]
  rfl

private theorem Replaced.setPath_last {root child updated : Value} {segment : Segment}
    (replaced : Replaced root segment child updated) (other : Value) :
    Fresh.Alike [segment] (updated.setPath [segment] other) (root.setPath [segment] other) := by
  cases replaced with
  | entry entries key =>
      rw [Value.setPath_entry_last, Value.setPath_entry_last, Entries.put_put]
      exact .value (.refl _ _)
  | @item items position inside =>
      have stillInside : position.toNat < (items.set position.toNat child).length := by
        rw [List.length_set]
        exact inside
      rw [Value.setPath_item_last stillInside, Value.setPath_item_last inside, List.set_set]
      exact .value (.refl _ _)
  | field accepted identity fresh =>
      have writable := accepted.offers_set
      rw [Value.setPath_field_last ((accepted.offers .set).trans writable),
        Value.setPath_field_last writable, accepted.writeAnew]
      exact Payload.writeAnew_self _ _ _ _

private theorem Replaced.setPath_below {root current child updated other : Value}
    {segment : Segment}
    {rest : Path} (replaced : Replaced root segment child updated)
    (read : root.getSegment segment = .ok current) (further : rest ≠ [])
    (inner : Fresh.Alike rest (child.setPath rest other) (current.setPath rest other)) :
    Fresh.Alike (segment :: rest) (updated.setPath (segment :: rest) other)
      (root.setPath (segment :: rest) other) := by
  have readAgain := replaced.getSegment
  cases replaced with
  | entry entries key =>
      rw [Value.setPath_entry (Value.getSegment_entry_eq_ok_iff.mp readAgain),
        Value.setPath_entry (Value.getSegment_entry_eq_ok_iff.mp read)]
      apply inner.bind
      intro value another alike
      rw [Entries.put_put]
      exact .value (.entry entries key alike)
  | @item items position inside =>
      rw [Value.setPath_item (Value.getSegment_item_eq_ok_iff.mp readAgain),
        Value.setPath_item (Value.getSegment_item_eq_ok_iff.mp read)]
      apply inner.bind
      intro value another alike
      rw [List.set_set]
      exact .value (.item items position alike)
  | field accepted identity fresh =>
      have writable := accepted.offers_set
      rw [Value.setPath_field_below ((accepted.offers .set).trans writable) further,
        Value.setPath_field_below writable further, readAgain, read, Fresh.ofExcept_ok_bind,
        Fresh.ofExcept_ok_bind]
      apply inner.bind
      intro value another alike
      rw [accepted.writeAnew]
      exact Payload.writeAnew_alike _ _ alike

private theorem Written.setPath_alike {new root updated : Value} {path : Path}
    (written : Written new path root updated) (other : Value) :
    Fresh.Alike path (updated.setPath path other) (root.setPath path other) := by
  induction written with
  | whole root => exact .value (.refl [] other)
  | last replaced => exact replaced.setPath_last other
  | deeper further read inner replaced ih => exact replaced.setPath_below read further ih

/-! ### Writing what was read -/

namespace Value

private theorem writableAlong_nil (root : Value) : root.WritableAlong [] := by
  intro before segment after split
  exact absurd split.symm (List.append_ne_nil_of_right_ne_nil _ (List.cons_ne_nil _ _))

theorem writableAlong_cons_iff {root : Value} {segment : Segment} {rest : Path} :
    root.WritableAlong (segment :: rest) ↔
      (∀ identity payload, root = .hosted identity payload → payload.offers .set = true) ∧
        ∀ child, root.getSegment segment = .ok child → child.WritableAlong rest := by
  constructor
  · intro writable
    constructor
    · intro identity payload hosted
      exact writable [] segment rest rfl identity payload (congrArg Except.ok hosted)
    · intro child read before next after split identity payload reached
      apply writable (segment :: before) next after _ identity payload
      · rw [getPath_cons read]
        exact reached
      · rw [split]
        rfl
  · intro both before next after split identity payload reached
    obtain ⟨here, below⟩ := both
    cases before with
    | nil => exact here identity payload (Except.ok.inj reached)
    | cons first others =>
        obtain ⟨rfl, behind⟩ := List.cons.inj split
        cases read : root.getSegment segment with
        | error error =>
            rw [getPath, read] at reached
            cases reached
        | ok child =>
            rw [getPath_cons read] at reached
            exact below child read others next after behind identity payload reached

private theorem run_setPath_field {identity : Nat} {payload : Payload} {name : String} {rest : Path}
    {current child new : Value} {supply middle : Nat} (writable : payload.offers .set = true)
    (read : (hosted identity payload).getSegment (.key name) = .ok current)
    (below : current.setPath rest new supply = .ok (child, middle)) :
    (hosted identity payload).setPath (.key name :: rest) new supply =
      payload.writeAnew name child middle := by
  by_cases further : rest = []
  · rw [further] at below
    cases below
    rw [further, setPath_field_last writable]
  · rw [setPath_field_below writable further, read, Fresh.ofExcept_ok_bind, Fresh.run_bind_ok below]

private theorem setPath_step {root current child new : Value} {segment : Segment} {rest : Path}
    {supply middle : Nat} (read : root.getSegment segment = .ok current)
    (below : current.setPath rest new supply = .ok (child, middle))
    (alike : AlikeAlong rest current child) (writable : root.WritableAlong (segment :: rest)) :
    ∃ updated next, root.setPath (segment :: rest) new supply = .ok (updated, next) ∧
      AlikeAlong (segment :: rest) root updated := by
  cases root with
  | object entries =>
      cases segment with
      | index position => cases read
      | key key =>
          have found := getSegment_entry_eq_ok_iff.mp read
          refine ⟨object (Entries.put entries key child), middle, ?_, ?_⟩
          · rw [setPath_entry found, Fresh.run_bind_ok below]
            rfl
          · have same := AlikeAlong.entry entries key alike
            rw [Entries.put_eq_self found] at same
            exact same
  | vector items =>
      cases segment with
      | key key => cases read
      | index position =>
          have found := getSegment_item_eq_ok_iff.mp read
          refine ⟨vector (items.set position.toNat child), middle, ?_, ?_⟩
          · rw [setPath_item found, Fresh.run_bind_ok below]
            rfl
          · have same := AlikeAlong.item items position alike
            obtain ⟨inside, isCurrent⟩ := List.getElem?_eq_some_iff.mp found
            rw [← isCurrent, List.set_getElem_self] at same
            exact same
  | hosted identity payload =>
      cases segment with
      | index position => cases read
      | key name =>
          have offered := (writableAlong_cons_iff.mp writable).1 identity payload rfl
          have accepted := Payload.accepts_of_readField? (getSegment_field_eq_ok_iff.mp read) offered
          -- The handle itself comes out of writing the child as it was, from the supply at which
          -- its identity is the next one.
          have unchanged : payload.writeAnew name current identity =
              .ok (hosted identity payload, identity + 1) :=
            Payload.writeAnew_eq_ok_iff.mpr ⟨payload, accepted, rfl, rfl⟩
          have outcomes := payload.writeAnew_alike name alike identity middle
          rw [unchanged] at outcomes
          cases made : payload.writeAnew name child middle with
          | error error =>
              rw [made] at outcomes
              cases outcomes
          | ok result =>
              obtain ⟨updated, next⟩ := result
              rw [made] at outcomes
              cases outcomes with
              | success same =>
                  refine ⟨updated, next, ?_, same⟩
                  rw [run_setPath_field offered read below, made]
  | null | bool | integer | float | string => cases segment <;> cases read

private theorem setPath_of_getPath {root value : Value} {path : Path}
    (read : root.getPath path = .ok value) (writable : root.WritableAlong path) (supply : Nat) :
    ∃ updated next, root.setPath path value supply = .ok (updated, next) ∧
      AlikeAlong path root updated := by
  induction path generalizing root supply with
  | nil =>
      cases read
      exact ⟨value, supply, rfl, .refl [] value⟩
  | cons segment rest ih =>
      cases stepped : root.getSegment segment with
      | error error =>
          rw [getPath, stepped] at read
          cases read
      | ok current =>
          rw [getPath_cons stepped] at read
          obtain ⟨child, middle, below, alike⟩ :=
            ih read ((writableAlong_cons_iff.mp writable).2 current stepped) supply
          exact setPath_step stepped below alike writable

/-- Access by path is a lens up to the handles on the path: a value that was written is read, a
second write has the outcome that it has without the first, and writing what was read succeeds and
changes nothing. -/
theorem setPath_lens (root : Value) (path : Path) :
    (∀ new updated supply next, root.setPath path new supply = .ok (updated, next) →
        updated.getPath path = .ok new ∧
          ∀ other, Fresh.Alike path (updated.setPath path other) (root.setPath path other)) ∧
      ∀ value, root.getPath path = .ok value → root.WritableAlong path →
        ∀ supply, ∃ updated next, root.setPath path value supply = .ok (updated, next) ∧
          AlikeAlong path root updated := by
  constructor
  · intro new updated supply next succeeded
    have written := written_of_setPath succeeded
    exact ⟨written.getPath, written.setPath_alike⟩
  · intro value read writable supply
    exact setPath_of_getPath read writable supply

/-- The number of a version in a box is written and read, a text in its place is refused after the
write as before it, and the number that is there can be written back. -/
theorem setPath_lens_version :
    getPath (.hosted 6 (.box (.hosted 5 (.version ⟨9, 2, 3, [], ["x"]⟩))))
        [.key "value", .key "Major"] = .ok (.integer 9) ∧
      OutcomesAlike [.key "value", .key "Major"]
        (setPath (.hosted 6 (.box (.hosted 5 (.version ⟨9, 2, 3, [], ["x"]⟩))))
          [.key "value", .key "Major"] (.string "4") 7)
        (.error (.typeMismatch "integer for major version" "string")) ∧
      ∃ updated next,
        setPath (.hosted 1 (.box (.hosted 2 (.version ⟨1, 2, 3, [], ["x"]⟩))))
            [.key "value", .key "Major"] (.integer 1) 3 = .ok (updated, next) ∧
          AlikeAlong [.key "value", .key "Major"]
            (.hosted 1 (.box (.hosted 2 (.version ⟨1, 2, 3, [], ["x"]⟩)))) updated := by
  obtain ⟨written, unchanged⟩ := setPath_lens
    (.hosted 1 (.box (.hosted 2 (.version ⟨1, 2, 3, [], ["x"]⟩)))) [.key "value", .key "Major"]
  obtain ⟨read, again⟩ := written (.integer 9)
    (.hosted 6 (.box (.hosted 5 (.version ⟨9, 2, 3, [], ["x"]⟩)))) 5 7 rfl
  refine ⟨read, again (.string "4") 7 3, unchanged (.integer 1) rfl ?_ 3⟩
  apply writableAlong_cons_iff.mpr
  refine ⟨by rintro _ _ ⟨⟩; rfl, ?_⟩
  rintro _ ⟨⟩
  apply writableAlong_cons_iff.mpr
  refine ⟨by rintro _ _ ⟨⟩; rfl, ?_⟩
  rintro child ⟨⟩
  exact writableAlong_nil _

end Value

end HostValue
