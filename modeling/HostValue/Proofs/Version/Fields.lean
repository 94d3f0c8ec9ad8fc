import HostValue.Proofs.Path.Write

/-!
# Fields of versions

Reading and writing a number of a version by its name. Both know the same names; a write is read back
under every spelling of its name and leaves all other fields alone; and a number that is read can be
written back. Numbers have no sign in a version and one in a value, so those above the greatest signed
number are not read.
-/

namespace HostValue.Version

def fieldNames : List String :=
  ["major", "minor", "patch"]

/-- An integer that is not negative: what a number of a version can be set to. -/
def Settable (value : Value) : Prop :=
  ∃ number : Int64, value = .integer number ∧ 0 ≤ number.toInt

variable {version written : Version} {name : String} {component : Component} {value : Value}

/-! ### Names -/

theorem mem_fieldNames_iff :
    Text.lowerString name ∈ fieldNames ↔ ∃ component, component? name = some component := by
  simp only [component?_eq_some_iff]
  constructor
  · intro listed
    rcases List.mem_cons.mp listed with major | listed
    · exact ⟨.major, major⟩
    · rcases List.mem_cons.mp listed with minor | listed
      · exact ⟨.minor, minor⟩
      · exact ⟨.patch, List.mem_singleton.mp listed⟩
  · rintro ⟨component, named⟩
    rw [named]
    cases component with
    | major | minor | patch => decide

theorem component?_eq_none (unknown : Text.lowerString name ∉ fieldNames) :
    component? name = none := by
  cases found : component? name with
  | none => rfl
  | some component => exact absurd (mem_fieldNames_iff.mpr ⟨component, found⟩) unknown

/-! ### Reading -/

theorem readField_of_found (found : component? name = some component) :
    version.readField name =
      if (version.get component).toNat < Nat.pow 2 63 then
        .ok (.integer (version.get component).toInt64)
      else
        .error (.coercion (name ++ " version " ++ renderNat (version.get component).toNat ++
          " does not fit an integer")) := by
  rw [readField, found]

private theorem readField_eq_unknown_iff :
    version.readField name = .error (.unknownField name) ↔
      Text.lowerString name ∉ fieldNames := by
  constructor
  · intro refused listed
    obtain ⟨component, found⟩ := mem_fieldNames_iff.mp listed
    rw [readField_of_found found] at refused
    split at refused <;> cases refused
  · intro unknown
    rw [readField, component?_eq_none unknown]

private theorem exists_readField_iff (found : component? name = some component) :
    (∃ read, version.readField name = .ok read) ↔
      ((version.get component).toNat : Int) ≤ Int64.maxValue.toInt := by
  have bound : ((version.get component).toNat : Int) ≤ Int64.maxValue.toInt ↔
      (version.get component).toNat < Nat.pow 2 63 := by
    change _ ≤ (9223372036854775807 : Int) ↔ _ < 9223372036854775808
    omega
  rw [bound, readField_of_found found]
  constructor
  · rintro ⟨read, succeeded⟩
    split at succeeded
    case isTrue small => exact small
    case isFalse => cases succeeded
  · intro small
    exact ⟨_, if_pos small⟩

private theorem eq_integer_of_readField (found : component? name = some component)
    (read : version.readField name = .ok value) :
    ∃ number : Int64, value = .integer number ∧
      number.toInt = (version.get component).toNat := by
  rw [readField_of_found found] at read
  split at read
  case isTrue small =>
      cases read
      exact ⟨_, rfl, toInt_toInt64 small⟩
  case isFalse => cases read

/-! ### Writing -/

theorem writeField_of_settable (found : component? name = some component)
    (settable : Settable value) : ∃ written, version.writeField name value = .ok written := by
  obtain ⟨number, rfl, nonneg⟩ := settable
  rw [writeField, found]
  exact ⟨_, if_pos nonneg⟩

theorem writeField_of_not_settable (found : component? name = some component)
    (refused : ¬Settable value) :
    ∃ expected actual, version.writeField name value = .error (.typeMismatch expected actual) := by
  by_cases integer : value.kind = .integer
  · cases value with
    | integer number =>
        have negative : ¬0 ≤ number.toInt := fun nonneg => refused ⟨number, rfl, nonneg⟩
        rw [writeField, found]
        exact ⟨_, _, if_neg negative⟩
    | _ => cases integer
  · exact ⟨_, _, version.writeField_of_kind_ne found integer⟩

theorem writeField_of_unknown (unknown : Text.lowerString name ∉ fieldNames) :
    version.writeField name value = .error (.unknownField name) := by
  rw [writeField, component?_eq_none unknown]

private theorem writeField_eq_unknown_iff :
    version.writeField name value = .error (.unknownField name) ↔
      Text.lowerString name ∉ fieldNames := by
  refine ⟨fun refused listed => ?_, writeField_of_unknown⟩
  obtain ⟨component, found⟩ := mem_fieldNames_iff.mp listed
  by_cases settable : Settable value
  · obtain ⟨written, wrote⟩ := writeField_of_settable found settable
    rw [wrote] at refused
    cases refused
  · obtain ⟨expected, actual, failed⟩ := writeField_of_not_settable found settable
    rw [failed] at refused
    cases refused

private theorem exists_writeField_iff :
    (∃ written, version.writeField name value = .ok written) ↔
      Text.lowerString name ∈ fieldNames ∧ Settable value := by
  constructor
  · rintro ⟨written, wrote⟩
    cases Payload.accepts_of_writeField wrote with
    | version _ named nonneg =>
        exact ⟨mem_fieldNames_iff.mpr ⟨_, component?_eq_some_iff.mpr named⟩, _, rfl, nonneg⟩
  · rintro ⟨listed, settable⟩
    obtain ⟨component, found⟩ := mem_fieldNames_iff.mp listed
    exact writeField_of_settable found settable

/-! ### Laws of a write -/

private theorem writeField_of_spelling (wrote : version.writeField name value = .ok written)
    {spelling : String} (same : Text.lowerString spelling = Text.lowerString name) :
    version.writeField spelling value = .ok written := by
  have component : component? spelling = component? name := by
    rw [component?, component?, same]
  rw [writeField] at wrote ⊢
  rw [component]
  cases found : component? name with
  | none =>
      rw [found] at wrote
      cases wrote
  | some field =>
      rw [found] at wrote
      exact wrote

private theorem readField_of_writeField (wrote : version.writeField name value = .ok written)
    {spelling : String} (same : Text.lowerString spelling = Text.lowerString name) :
    written.readField spelling = .ok value :=
  Option.some.inj (Payload.accepts_of_writeField (writeField_of_spelling wrote same)).readField?

private theorem readField_of_writeField_of_ne (wrote : version.writeField name value = .ok written)
    {other : String} (different : Text.lowerString other ≠ Text.lowerString name) :
    written.readField other = version.readField other :=
  Option.some.inj ((Payload.accepts_of_writeField wrote).readField?_of_ne different)

private theorem identifiers_of_writeField (wrote : version.writeField name value = .ok written) :
    written.pre = version.pre ∧ written.build = version.build := by
  obtain ⟨component, number, same⟩ := (Payload.accepts_of_writeField wrote).version_set version rfl
  cases same
  cases component with
  | major | minor | patch => exact ⟨rfl, rfl⟩

private theorem setPath_of_writeField (wrote : version.writeField name value = .ok written)
    (identity supply : Nat) :
    (Value.hosted identity (.version version)).setPath [.key name] value supply =
      .ok (.hosted supply (.version written), supply + 1) := by
  rw [Value.setPath_field_last rfl]
  exact Payload.writeAnew_eq_ok_iff.mpr ⟨_, Payload.accepts_of_writeField wrote, rfl, rfl⟩

private theorem writeField_of_readField (read : version.readField name = .ok value) :
    version.writeField name value = .ok version := by
  have reads : (Payload.version version).readField? name = some (.ok value) := congrArg some read
  have writes := Payload.writeField?_eq_ok_iff.mpr (Payload.accepts_of_readField? reads rfl)
  rw [Payload.writeField?] at writes
  cases outcome : version.writeField name value with
  | error error =>
      rw [outcome] at writes
      cases writes
  | ok written =>
      rw [outcome] at writes
      cases writes
      rfl

/-! ### Main statement -/

/-- Reading and writing refuse the same names, and a write refuses nothing else but what is no integer
or a negative one. What is written is read under every spelling of the name, while all other fields and
the identifiers are as before. A component is read if a signed number can hold it, and writing what was
read changes nothing. -/
theorem fields_are_lenses (version : Version) (name : String) (value : Value) :
    (version.readField name = .error (.unknownField name) ↔
        version.writeField name value = .error (.unknownField name)) ∧
      ((∃ written, version.writeField name value = .ok written) ↔
        Text.lowerString name ∈ fieldNames ∧ Settable value) ∧
      (Text.lowerString name ∉ fieldNames →
        version.writeField name value = .error (.unknownField name)) ∧
      (Text.lowerString name ∈ fieldNames → ¬Settable value →
        ∃ expected actual,
          version.writeField name value = .error (.typeMismatch expected actual)) ∧
      (∀ written, version.writeField name value = .ok written →
        (∀ spelling, Text.lowerString spelling = Text.lowerString name →
            written.readField spelling = .ok value) ∧
          (∀ other, Text.lowerString other ≠ Text.lowerString name →
            written.readField other = version.readField other) ∧
          (written.pre = version.pre ∧ written.build = version.build) ∧
          ∀ identity supply,
            (Value.hosted identity (.version version)).setPath [.key name] value supply =
              .ok (.hosted supply (.version written), supply + 1)) ∧
      ∀ component : Component, Text.lowerString name = component.name →
        ((∃ read, version.readField name = .ok read) ↔
            ((version.get component).toNat : Int) ≤ Int64.maxValue.toInt) ∧
          ∀ read, version.readField name = .ok read →
            (∃ number : Int64, read = .integer number ∧
                number.toInt = (version.get component).toNat) ∧
              version.writeField name read = .ok version := by
  refine ⟨readField_eq_unknown_iff.trans writeField_eq_unknown_iff.symm, exists_writeField_iff,
    writeField_of_unknown, ?_, ?_, ?_⟩
  · intro listed refused
    obtain ⟨component, found⟩ := mem_fieldNames_iff.mp listed
    exact writeField_of_not_settable found refused
  · intro written wrote
    exact ⟨fun _ same => readField_of_writeField wrote same,
      fun _ different => readField_of_writeField_of_ne wrote different,
      identifiers_of_writeField wrote, setPath_of_writeField wrote⟩
  · intro component named
    have found := component?_eq_some_iff.mpr named
    exact ⟨exists_readField_iff found,
      fun read reads => ⟨eq_integer_of_readField found reads, writeField_of_readField reads⟩⟩

/-- A number is set under a name in capitals and read under another spelling, its neighbour is the
greatest number that is read, and the one above that is not read. -/
theorem fields_are_lenses_at_bound :
    writeField ⟨1, 9223372036854775807, 9223372036854775808, [], ["b"]⟩ "MAJOR" (.integer 7) =
        .ok ⟨7, 9223372036854775807, 9223372036854775808, [], ["b"]⟩ ∧
      readField ⟨7, 9223372036854775807, 9223372036854775808, [], ["b"]⟩ "Major" =
        .ok (.integer 7) ∧
      readField ⟨7, 9223372036854775807, 9223372036854775808, [], ["b"]⟩ "minor" =
        readField ⟨1, 9223372036854775807, 9223372036854775808, [], ["b"]⟩ "minor" ∧
      (∃ read, readField ⟨1, 9223372036854775807, 9223372036854775808, [], ["b"]⟩ "minor" =
        .ok read) ∧
      ¬∃ read, readField ⟨1, 9223372036854775807, 9223372036854775808, [], ["b"]⟩ "patch" =
        .ok read := by
  have wrote :
      writeField ⟨1, 9223372036854775807, 9223372036854775808, [], ["b"]⟩ "MAJOR" (.integer 7) =
        .ok ⟨7, 9223372036854775807, 9223372036854775808, [], ["b"]⟩ := rfl
  obtain ⟨-, -, -, -, laws, -⟩ := fields_are_lenses
    ⟨1, 9223372036854775807, 9223372036854775808, [], ["b"]⟩ "MAJOR" (.integer 7)
  obtain ⟨readBack, others, -⟩ := laws _ wrote
  obtain ⟨-, -, -, -, -, minor⟩ := fields_are_lenses
    ⟨1, 9223372036854775807, 9223372036854775808, [], ["b"]⟩ "minor" .null
  obtain ⟨-, -, -, -, -, patch⟩ := fields_are_lenses
    ⟨1, 9223372036854775807, 9223372036854775808, [], ["b"]⟩ "patch" .null
  refine ⟨wrote, readBack "Major" (by decide), others "minor" (by decide), ?_, ?_⟩
  · exact (minor .minor (by decide)).1.mpr (by decide)
  · exact fun read => absurd ((patch .patch (by decide)).1.mp read) (by decide)

end HostValue.Version
