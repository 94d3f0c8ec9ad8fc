import HostValue.Capability
import HostValue.Proofs.Number.Numeral

/-!
# Fields of hosted values

What writing a field of a payload does to its fields: the field reads as what was written, a second
write replaces the first, writing back what was read changes nothing, and the fields of other names
are as before, where names that differ only in the case of their letters may be one.
-/

namespace HostValue

/-! ### Fields of versions -/

namespace Version

@[simp] theorem get_set_self (version : Version) (component : Component) (number : UInt64) :
    (version.set component number).get component = number := by
  cases component <;> rfl

private theorem get_set_of_ne (version : Version) {component other : Component}
    (different : other ≠ component) (number : UInt64) :
    (version.set component number).get other = version.get other := by
  cases component <;> cases other <;> simp_all [get, set]

@[simp] theorem set_set (version : Version) (component : Component) (number other : UInt64) :
    (version.set component number).set component other = version.set component other := by
  cases component <;> rfl

@[simp] theorem set_get (version : Version) (component : Component) :
    version.set component (version.get component) = version := by
  cases component <;> rfl

theorem component?_eq_some_iff {name : String} {component : Component} :
    component? name = some component ↔ Text.lowerString name = component.name := by
  dsimp only [component?]
  constructor
  · intro found
    split at found
    · next named =>
      cases found
      exact named
    · split at found
      · next named =>
        cases found
        exact named
      · split at found
        · next named =>
          cases found
          exact named
        · cases found
  · intro named
    rw [named]
    cases component with
    | major | minor | patch => rfl

theorem writeField_of_kind_ne (version : Version) {name : String} {component : Component}
    (found : component? name = some component) {value : Value}
    (notInteger : value.kind ≠ .integer) :
    version.writeField name value =
      .error (.typeMismatch ("integer for " ++ component.name ++ " version") value.typeName) := by
  rw [writeField, found]
  cases value with
  | integer => exact absurd rfl notInteger
  | _ => rfl

end Version

namespace Payload

/-! ### Accepted writes -/

/-- The writes of a field that a payload accepts, with the payload that results. -/
inductive Accepts : Payload → String → Value → Payload → Prop where
  | version (version : Version) {name : String} {component : Version.Component}
      (named : Text.lowerString name = component.name) {number : Int64}
      (nonneg : 0 ≤ number.toInt) :
      Accepts (.version version) name (.integer number)
        (.version (version.set component number.toUInt64))
  | abscissa (x y : Int64) {name : String} (named : Text.lowerString name = "x") (number : Int64) :
      Accepts (.point x y) name (.integer number) (.point number y)
  | ordinate (x y : Int64) {name : String} (named : Text.lowerString name = "y") (number : Int64) :
      Accepts (.point x y) name (.integer number) (.point x number)
  | content (old new : Value) : Accepts (.box old) "value" new (.box new)

theorem accepts_of_writeField {own updated : Version} {name : String} {value : Value}
    (accepted : own.writeField name value = .ok updated) :
    Accepts (.version own) name value (.version updated) := by
  dsimp only [Version.writeField] at accepted
  cases named : Version.component? name with
  | none =>
      rw [named] at accepted
      cases accepted
  | some component =>
      rw [named] at accepted
      cases value with
      | integer number =>
          dsimp only at accepted
          by_cases nonneg : 0 ≤ number.toInt
          · rw [if_pos nonneg] at accepted
            cases accepted
            exact .version own (Version.component?_eq_some_iff.mp named) nonneg
          · rw [if_neg nonneg] at accepted
            cases accepted
      | _ => cases accepted

private theorem accepts_of_writePoint {x y : Int64} {name : String} {value : Value}
    {written : Payload}
    (accepted : writePoint x y name value = .ok written) :
    Accepts (.point x y) name value written := by
  cases value with
  | integer number =>
      dsimp only [writePoint] at accepted
      split at accepted
      · next named =>
        cases accepted
        exact .abscissa x y named number
      · split at accepted
        · next named =>
          cases accepted
          exact .ordinate x y named number
        · cases accepted
  | _ => cases accepted

theorem writeField?_eq_ok_iff {payload written : Payload} {name : String} {value : Value} :
    payload.writeField? name value = some (.ok written) ↔ Accepts payload name value written := by
  constructor
  · intro accepted
    cases payload with
    | version own =>
        dsimp only [writeField?] at accepted
        cases outcome : own.writeField name value with
        | error error =>
            rw [outcome] at accepted
            cases accepted
        | ok updated =>
            rw [outcome] at accepted
            cases accepted
            exact accepts_of_writeField outcome
    | point x y => exact accepts_of_writePoint (Option.some.inj accepted)
    | box old =>
        dsimp only [writeField?] at accepted
        split at accepted
        · next named =>
          cases accepted
          rw [named]
          exact .content old value
        · cases accepted
    | set | bare | other | tag | text | broken => cases accepted
  · intro accepted
    cases accepted with
    | version own named nonneg =>
        simp [writeField?, Version.writeField, Version.component?_eq_some_iff.mpr named, nonneg]
    | abscissa x y named number => simp [writeField?, writePoint, named]
    | ordinate x y named number => simp [writeField?, writePoint, named]
    | content old new => rfl

/-! ### Laws of an accepted write -/

namespace Accepts

variable {payload written : Payload} {name : String} {value : Value}

theorem readField? (accepted : Accepts payload name value written) :
    written.readField? name = some (.ok value) := by
  cases accepted with
  | version own named nonneg =>
      have small := toNat_toUInt64_of_nonneg nonneg
      simp [Payload.readField?, Version.readField, Version.component?_eq_some_iff.mpr named, small]
  | abscissa x y named number => simp [Payload.readField?, named]
  | ordinate x y named number => simp [Payload.readField?, named]
  | content old new => rfl

theorem writeField? (accepted : Accepts payload name value written) (other : Value) :
    written.writeField? name other = payload.writeField? name other := by
  cases accepted with
  | version own named nonneg =>
      simp only [Payload.writeField?, Version.writeField, Version.component?_eq_some_iff.mpr named,
        Version.set_set]
  | abscissa x y named number => simp only [Payload.writeField?, writePoint, named, if_true]
  | ordinate x y named number =>
      cases other with
      | integer => simp [Payload.writeField?, writePoint, named]
      | _ => rfl
  | content old new => rfl

theorem offers (accepted : Accepts payload name value written) (capability : Capability) :
    written.offers capability = payload.offers capability := by
  cases accepted with
  | version | abscissa | ordinate | content => rfl

theorem typeName (accepted : Accepts payload name value written) :
    written.typeName = payload.typeName := by
  cases accepted with
  | version | abscissa | ordinate | content => rfl

theorem version_set (accepted : Accepts payload name value written) (own : Version)
    (isVersion : payload = .version own) :
    ∃ component number, written = .version (own.set component number) := by
  cases accepted with
  | version =>
      cases isVersion
      exact ⟨_, _, rfl⟩
  | abscissa | ordinate | content => cases isVersion

theorem offers_set (accepted : Accepts payload name value written) :
    payload.offers .set = true := by
  cases accepted with
  | version | abscissa | ordinate | content => rfl

theorem readField?_of_ne (accepted : Accepts payload name value written) {other : String}
    (different : Text.lowerString other ≠ Text.lowerString name) :
    written.readField? other = payload.readField? other := by
  cases accepted with
  | @version own _ component named _ nonneg =>
      rw [named] at different
      simp only [Payload.readField?, Version.readField]
      cases field : Version.component? other with
      | none => rfl
      | some otherComponent =>
          have apart : otherComponent ≠ component := by
            intro same
            rw [← same] at different
            exact different (Version.component?_eq_some_iff.mp field)
          simp only [Version.get_set_of_ne own apart]
  | abscissa x y named number =>
      rw [named] at different
      simp only [Payload.readField?, if_neg different]
  | ordinate x y named number =>
      rw [named] at different
      simp only [Payload.readField?, if_neg different]
  | content old new =>
      have notValue : other ≠ "value" := by
        intro same
        rw [same] at different
        exact different rfl
      simp only [Payload.readField?, if_neg notValue]

end Accepts

/-! ### Writing back -/

theorem accepts_of_readField? {payload : Payload} {name : String} {value : Value}
    (read : payload.readField? name = some (.ok value)) (writable : payload.offers .set = true) :
    Accepts payload name value payload := by
  cases payload with
  | version own =>
      simp only [readField?, Version.readField] at read
      cases field : Version.component? name with
      | none =>
          rw [field] at read
          cases read
      | some component =>
          rw [field] at read
          dsimp only at read
          split at read
          · next small =>
            cases read
            have nonneg : 0 ≤ (own.get component).toInt64.toInt := by
              rw [toInt_toInt64 small]
              exact Int.natCast_nonneg _
            have accepted := Accepts.version own (Version.component?_eq_some_iff.mp field) nonneg
            rw [UInt64.toUInt64_toInt64, Version.set_get] at accepted
            exact accepted
          · cases read
  | point x y =>
      dsimp only [readField?] at read
      split at read
      · next named =>
        cases read
        exact .abscissa x y named x
      · split at read
        · next named =>
          cases read
          exact .ordinate x y named y
        · cases read
  | box content =>
      dsimp only [readField?] at read
      split at read
      · next named =>
        cases read
        rw [named]
        exact .content value value
      · cases read
  | broken => cases read
  | set | bare | other | tag | text => cases writable

end Payload

end HostValue
