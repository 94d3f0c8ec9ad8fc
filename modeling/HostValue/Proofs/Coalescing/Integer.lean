import HostValue.Proofs.Number.Signed
import HostValue.Proofs.Number.Whole

/-!
# Conversion to integers

What the humane mode makes integers of. A string is one if it has blanks alone or a signed numeral
between blanks, and a float is one if its exact value is an integer; in both cases the integer has to
fit. Nothing is rounded, and nothing that lies beyond the bounds is brought back between them.
-/

namespace HostValue.Mode

/-! ### Strings -/

/-- The text of an integer: blanks alone for zero, or a signed numeral between blanks. -/
def IntegerText (text : String) (value : Int) : Prop :=
  (Text.Surrounded text.toList [] ∧ value = 0) ∨
    ∃ numeral, Text.Surrounded text.toList numeral ∧ SignedNumeral numeral value

/-- The text of an integer with zeros before its digits and blanks around it. -/
def Pads (padded plain : String) : Prop :=
  ∃ sign zeros digits, plain.toList = sign ++ digits ∧ (sign = [] ∨ sign = ['-']) ∧
    isNumeral digits = true ∧ (∀ c ∈ zeros, c = '0') ∧
    Text.Surrounded padded.toList (sign ++ (zeros ++ digits))

variable {text : String} {number : Int64}

theorem toInteger_string (text : String) : humane.toInteger (.string text) = integerOfString text :=
  rfl

theorem integerOfString_blank (blank : (Text.trim text.toList).isEmpty = true) :
    integerOfString text = .ok 0 :=
  if_pos blank

theorem integerOfString_visible (visible : (Text.trim text.toList).isEmpty = false) :
    integerOfString text =
      match parseSigned? (Text.trim text.toList) with
      | some integer => .ok integer
      | none => .error (.coercion (Text.quoted text ++ " is not a valid integer")) := by
  rw [integerOfString]
  exact if_neg (Bool.eq_false_iff.mp visible)

private theorem integerText_of_integerOfString (converted : integerOfString text = .ok number) :
    IntegerText text number.toInt := by
  have surrounded : Text.Surrounded text.toList (Text.trim text.toList) := Text.exists_trim _
  cases empty : (Text.trim text.toList).isEmpty with
  | true =>
      rw [integerOfString_blank empty] at converted
      rw [List.isEmpty_iff.mp empty] at surrounded
      cases converted
      exact .inl ⟨surrounded, rfl⟩
  | false =>
      rw [integerOfString_visible empty] at converted
      split at converted
      · next integer read =>
        cases converted
        obtain ⟨value, signed, same⟩ := parseSigned?_eq_some_iff.mp read
        exact .inr ⟨_, surrounded, same ▸ signed⟩
      · cases converted

private theorem integerOfString_of_integerText (isText : IntegerText text number.toInt) :
    integerOfString text = .ok number := by
  rcases isText with ⟨surrounded, zero⟩ | ⟨numeral, surrounded, signed⟩
  · have trimmed := Text.trim_of_surrounded surrounded (List.forall_mem_nil _)
    have isZero : number = 0 := Int64.toInt_inj.mp zero
    rw [isZero]
    apply integerOfString_blank
    rw [trimmed]
    rfl
  · have trimmed := Text.trim_of_surrounded surrounded signed.visible
    have read : parseSigned? numeral = some number :=
      parseSigned?_eq_some_iff.mpr ⟨_, signed, rfl⟩
    rw [integerOfString_visible, trimmed, read]
    rw [trimmed]
    exact List.isEmpty_eq_false_iff.mpr signed.ne_nil

theorem integerOfString_eq_ok_iff :
    integerOfString text = .ok number ↔ IntegerText text number.toInt :=
  ⟨integerText_of_integerOfString, integerOfString_of_integerText⟩

private theorem integerOfString_answers (text : String) :
    (∃ number, integerOfString text = .ok number) ∨
      integerOfString text = .error (.coercion (Text.quoted text ++ " is not a valid integer")) := by
  cases empty : (Text.trim text.toList).isEmpty with
  | true => exact .inl ⟨0, integerOfString_blank empty⟩
  | false =>
      rw [integerOfString_visible empty]
      cases parseSigned? (Text.trim text.toList) with
      | some integer => exact .inl ⟨integer, rfl⟩
      | none => exact .inr rfl

private theorem integerOfString_eq_error_iff :
    integerOfString text = .error (.coercion (Text.quoted text ++ " is not a valid integer")) ↔
      ∀ value, IntegerText text value →
        value < Int64.minValue.toInt ∨ Int64.maxValue.toInt < value := by
  constructor
  · intro refused value isText
    by_contra inside
    rw [not_or, not_lt, not_lt] at inside
    rw [← toInt_ofInt_of_bounds inside, ← integerOfString_eq_ok_iff, refused] at isText
    cases isText
  · intro outside
    rcases integerOfString_answers text with ⟨number, converted⟩ | refused
    · have lower := number.minValue_le_toInt
      have upper := number.toInt_le
      rcases outside _ (integerOfString_eq_ok_iff.mp converted) with below | above <;> omega
    · exact refused

private theorem Pads.integerText {padded plain : String} {value : Int} (pads : Pads padded plain)
    (signed : SignedNumeral plain.toList value) : IntegerText padded value := by
  obtain ⟨sign, zeros, digits, plainIs, isSign, numeral, allZero, surrounded⟩ := pads
  rw [plainIs] at signed
  exact .inr ⟨_, surrounded, signed.padded isSign allZero numeral⟩

/-- A string is converted exactly when an integer that fits is written in it, and otherwise refused
with a message that quotes it. So every integer is found again in its text, whatever zeros and blanks
are added to it. -/
theorem humane_integers_of_strings :
    (∀ (text : String) (number : Int64),
        humane.toInteger (.string text) = .ok number ↔ IntegerText text number.toInt) ∧
      (∀ text : String,
        humane.toInteger (.string text) =
            .error (.coercion (Text.quoted text ++ " is not a valid integer")) ↔
          ∀ value, IntegerText text value →
            value < Int64.minValue.toInt ∨ Int64.maxValue.toInt < value) ∧
      ∀ number : Int64, ∃ plain, humane.toText (.integer number) = .ok plain ∧
        humane.toInteger (.string plain) = .ok number ∧
        ∀ padded, Pads padded plain → humane.toInteger (.string padded) = .ok number := by
  simp only [toInteger_string]
  refine ⟨fun text number => integerOfString_eq_ok_iff, fun text => integerOfString_eq_error_iff, ?_⟩
  intro number
  have signed := signedNumeral_renderInt number.toInt
  have alone : Text.Surrounded (renderInt number.toInt).toList (renderInt number.toInt).toList :=
    ⟨[], [], List.forall_mem_nil _, List.forall_mem_nil _, (List.append_nil _).symm⟩
  refine ⟨renderInt number.toInt, rfl, ?_, fun padded pads => ?_⟩
  · exact integerOfString_eq_ok_iff.mpr (.inr ⟨_, alone, signed⟩)
  · exact integerOfString_eq_ok_iff.mpr (pads.integerText signed)

/-- The least integer, whose positive counterpart does not fit, behind more zeros than any number that
fits has digits. -/
theorem humane_integers_of_strings_least :
    humane.toInteger (.string "\u3000-000000000000000000009223372036854775808\n") =
        .ok (-9223372036854775808) ∧
      humane.toInteger (.string "\t\u00a0") = .ok 0 := by
  obtain ⟨texts, -, integers⟩ := humane_integers_of_strings
  constructor
  · obtain ⟨plain, written, -, padded⟩ := integers (-9223372036854775808)
    cases written
    apply padded
    have surrounded : Text.Surrounded
        "\u3000-000000000000000000009223372036854775808\n".toList
        (['-'] ++ (List.replicate 20 '0' ++ Nat.toDigits 10 9223372036854775808)) :=
      ⟨['\u3000'], ['\n'], List.forall_mem_singleton.mpr rfl, List.forall_mem_singleton.mpr rfl,
        by simp; decide⟩
    exact ⟨['-'], List.replicate 20 '0', Nat.toDigits 10 9223372036854775808, String.toList_ofList,
      .inr rfl, isNumeral_toDigits _, fun c => List.eq_of_mem_replicate, surrounded⟩
  · have blank : Text.Surrounded "\t\u00a0".toList [] :=
      ⟨['\t', '\u00a0'], [],
        List.forall_mem_cons.mpr ⟨rfl, List.forall_mem_singleton.mpr rfl⟩, List.forall_mem_nil _,
        by simp⟩
    exact (texts _ 0).mpr (.inl ⟨blank, rfl⟩)

/-! ### Floats -/

variable {x : Double} {n : Int}

end HostValue.Mode
