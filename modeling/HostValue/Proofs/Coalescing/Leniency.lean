import HostValue.Coalescing

/-!
# Leniency of conversions

The humane mode converts whatever the strict mode converts, into the same strings, lists, numbers
and truth values. It converts more, and could so lead a caller elsewhere: that it does not is proved
for the strings of an argument list, which are looked for in a vector before the argument itself.
-/

namespace HostValue

variable {ε α : Type}

/-- Whatever the first outcome results in, the second one results in as well. -/
def ExtendedBy (narrow wide : Except ε α) : Prop :=
  ∀ result, narrow = .ok result → wide = .ok result

namespace ExtendedBy

theorem refl (outcome : Except ε α) : ExtendedBy outcome outcome :=
  fun _ => id

theorem of_error (error : ε) (wide : Except ε α) : ExtendedBy (.error error) wide := by
  intro result failed
  cases failed

end ExtendedBy

namespace Mode

/-! ### Conversions of one value -/

mutual

theorem toText_lenient (value : Value) :
    ExtendedBy (strict.toText value) (humane.toText value) := by
  cases value with
  | null => exact .refl _
  | string text => exact .refl _
  | hosted identity payload =>
      intro text converted
      rw [toText] at converted ⊢
      cases form : strict.textForm? payload with
      | none =>
          rw [form] at converted
          cases converted
      | some outcome =>
          rw [form] at converted
          rw [textForm?_lenient payload text (form.trans (congrArg some converted))]
  | bool | integer | float => exact .of_error _ _
  | vector | object => exact .of_error _ _
termination_by structural value

theorem textForm?_lenient (payload : Payload) (text : String)
    (formed : strict.textForm? payload = some (.ok text)) :
    humane.textForm? payload = some (.ok text) := by
  cases payload with
  | version | point | tag => exact formed
  | box content =>
      rw [textForm?] at formed ⊢
      cases converted : strict.toText content with
      | error error =>
          rw [converted] at formed
          cases formed
      | ok own =>
          rw [converted] at formed
          rw [toText_lenient content own converted]
          exact formed
  | broken => cases formed
  | set | bare | other | text => cases formed
termination_by structural payload

end

theorem toVector_lenient (value : Value) :
    ExtendedBy (strict.toVector value) (humane.toVector value) := by
  cases value with
  | null | vector => exact .refl _
  | object entries =>
      cases entries with
      | nil => exact .of_error _ _
      | cons entry rest => exact .of_error _ _
  | bool | integer | float | string | hosted => exact .of_error _ _

theorem toInteger_lenient (value : Value) :
    ExtendedBy (strict.toInteger value) (humane.toInteger value) := by
  cases value with
  | null | integer => exact .refl _
  | bool | float | string | vector | object | hosted => exact .of_error _ _

theorem toBool_lenient (value : Value) :
    ExtendedBy (strict.toBool value) (humane.toBool value) := by
  cases value with
  | null | bool => exact .refl _
  | integer | float | string | vector | object | hosted => exact .of_error _ _

/-! ### Strings of arguments -/

private theorem itemStrings_lenient (items : List Value) :
    ExtendedBy (strict.itemStrings items) (humane.itemStrings items) := by
  induction items with
  | nil => exact .refl _
  | cons item rest ih =>
      intro texts converted
      rw [itemStrings] at converted ⊢
      split at converted
      · cases converted
      · next text itemText =>
        rw [toText_lenient item text itemText]
        split at converted
        · next others restTexts =>
          rw [ih others restTexts]
          exact converted
        · cases converted

/-- A value that the strict mode reads as a string makes no vector in the humane mode either. -/
private theorem toVector_of_toText {value : Value} {error : ValueError} {text : String}
    (noVector : strict.toVector value = .error error) (converted : strict.toText value = .ok text) :
    ∃ failure, humane.toVector value = .error failure := by
  cases value with
  | null | vector => cases noVector
  | string | hosted => exact ⟨_, rfl⟩
  | bool | integer | float | object => cases converted

private theorem argumentStrings_lenient (argument : Value) :
    ExtendedBy (strict.argumentStrings argument) (humane.argumentStrings argument) := by
  intro texts converted
  rw [argumentStrings] at converted ⊢
  split at converted
  · next items made =>
    rw [toVector_lenient argument items made]
    exact itemStrings_lenient items texts converted
  · next error noVector =>
    split at converted
    · next text own =>
      obtain ⟨failure, noVectorEither⟩ := toVector_of_toText noVector own
      rw [noVectorEither, toText_lenient argument text own]
      exact converted
    · cases converted

theorem strings_lenient (arguments : List Value) :
    ExtendedBy (strict.strings arguments) (humane.strings arguments) := by
  induction arguments with
  | nil => exact .refl _
  | cons argument rest ih =>
      intro texts converted
      rw [strings] at converted ⊢
      split at converted
      · cases converted
      · next own ownTexts =>
        rw [argumentStrings_lenient argument own ownTexts]
        split at converted
        · next others restTexts =>
          rw [ih others restTexts]
          exact converted
        · cases converted

end Mode

end HostValue
