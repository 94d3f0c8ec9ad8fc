import HostValue.Json.Reader
import HostValue.Proofs.Number.Numeral
import HostValue.Proofs.Text.Run

/-!
# Integers in JSON texts

The text of an integer is read as a number without sign, or as a negative one, and in both cases the
number means that integer and not a float.
-/

namespace HostValue.Json

open Text

def continuesNumber (c : Char) : Bool :=
  c.isDigit || c == '.' || c == 'e' || c == 'E'

def StartsNumber (c : Char) : Prop :=
  c.isDigit = true ∨ c = '-'

theorem StartsNumber.ne {c d : Char} (starts : StartsNumber c) (notDigit : d.isDigit = false)
    (notMinus : d ≠ '-') : c ≠ d := by
  rintro rfl
  rcases starts with digit | minus
  · rw [notDigit] at digit
    cases digit
  · exact notMinus minus

theorem continuesNumber_eq_false {c : Char} (refused : continuesNumber c = false) :
    c.isDigit = false ∧ c ≠ '.' ∧ c ≠ 'e' ∧ c ≠ 'E' := by
  simpa [continuesNumber, and_assoc] using refused

private theorem readDigits_numeral {digits rest : List Char} (numeral : isNumeral digits = true)
    (ends : EndsRun continuesNumber rest) : readDigits (digits ++ rest) = some (digits, rest) := by
  obtain ⟨nonempty, allDigits⟩ := (isNumeral_iff digits).mp numeral
  have stops : EndsRun Char.isDigit rest :=
    fun c first => (continuesNumber_eq_false (ends c first)).1
  unfold readDigits
  rw [takeWhile_run allDigits stops, dropWhile_run allDigits stops]
  simp [nonempty]

private theorem readFraction_absent {rest : List Char} (ends : EndsRun continuesNumber rest) :
    readFraction rest = some (none, rest) := by
  cases rest with
  | nil => rfl
  | cons c others =>
      obtain ⟨-, notPoint, -, -⟩ := continuesNumber_eq_false (ends c rfl)
      unfold readFraction
      split
      · next same => exact absurd (List.cons.inj same).1 notPoint
      · rfl

private theorem readExponent_absent {rest : List Char} (ends : EndsRun continuesNumber rest) :
    readExponent rest = some (none, rest) := by
  cases rest with
  | nil => rfl
  | cons c others =>
      obtain ⟨-, -, notSmall, notLarge⟩ := continuesNumber_eq_false (ends c rfl)
      simp [readExponent, notSmall, notLarge]

private theorem readMagnitude_toDigits (minus : Bool) (number : Nat) {rest : List Char}
    (ends : EndsRun continuesNumber rest) :
    readMagnitude minus (Nat.toDigits 10 number ++ rest) =
      (Numeral.toJson? ⟨minus, Nat.toDigits 10 number, none, none⟩).map (·, rest) := by
  have canonical :=
    (toDigits_digitsValue_iff (isNumeral_toDigits number)).mp (by rw [digitsValue_toDigits])
  have noZero :
      ¬(1 < (Nat.toDigits 10 number).length ∧ (Nat.toDigits 10 number).head? = some '0') := by
    intro both
    have short := canonical both.2
    omega
  unfold readMagnitude
  simp only [readDigits_numeral (isNumeral_toDigits number) ends, if_neg noZero,
    readFraction_absent ends, readExponent_absent ends, Option.bind_eq_bind, Option.bind_some]
  cases Numeral.toJson? ⟨minus, Nat.toDigits 10 number, none, none⟩ <;> rfl

private theorem readNumber_unsigned {c : Char} (notMinus : c ≠ '-') (rest : List Char) :
    readNumber (c :: rest) = readMagnitude false (c :: rest) := by
  unfold readNumber
  split
  · next same => exact absurd (List.cons.inj same).1 notMinus
  · rfl

/-! ### Integers of sixty-four bits -/

def ofInteger (number : Int64) : Json :=
  if number.toInt < 0 then .negative number else .natural number.toUInt64

theorem toValue_ofInteger (number : Int64) :
    (ofInteger number).toNode.toValue = .ok (.integer number) := by
  unfold ofInteger
  split
  · rfl
  · next nonneg => exact toValue_unsigned (Int.not_lt.mp nonneg)

private theorem toJson?_integer (number : Int64) :
    Numeral.toJson?
        ⟨decide (number.toInt < 0), Nat.toDigits 10 number.toInt.natAbs, none, none⟩ =
      some (ofInteger number) := by
  have low : -9223372036854775808 ≤ number.toInt := number.le_toInt
  have high : number.toInt < 9223372036854775808 := number.toInt_lt
  have fits : number.toInt.natAbs < UInt64.size := by
    change number.toInt.natAbs < 18446744073709551616
    omega
  unfold Numeral.toJson? ofInteger
  dsimp only
  rw [digitsValue_toDigits]
  by_cases negative : number.toInt < 0
  · have range : 0 < number.toInt.natAbs ∧ number.toInt.natAbs ≤ Nat.pow 2 63 := by
      change _ ∧ _ ≤ 9223372036854775808
      omega
    have same : -(number.toInt.natAbs : Int) = number.toInt := by omega
    simp only [fits, negative, decide_true, Option.isNone_none, Bool.and_self, Bool.not_true,
      Bool.false_eq_true, ↓reduceIte]
    rw [if_pos range, same, Int64.ofInt_toInt]
  · rw [natAbs_toInt_of_nonneg (Int.not_lt.mp negative)] at fits ⊢
    simp only [fits, negative, decide_true, decide_false, Option.isNone_none, Bool.and_self,
      Bool.not_false, Nat.toUInt64_eq, UInt64.ofNat_toNat, ↓reduceIte]

theorem renderInt_starts (number : Int) :
    ∃ c others, (renderInt number).toList = c :: others ∧ StartsNumber c := by
  rw [renderInt, String.toList_ofList]
  split
  · exact ⟨'-', _, rfl, Or.inr rfl⟩
  · obtain ⟨c, others, digits, digit⟩ := toDigits_starts number.natAbs
    exact ⟨c, others, digits, Or.inl digit⟩

theorem readNumber_renderInt (number : Int64) {rest : List Char}
    (ends : EndsRun continuesNumber rest) :
    readNumber ((renderInt number.toInt).toList ++ rest) = some (ofInteger number, rest) := by
  have magnitude := readMagnitude_toDigits (decide (number.toInt < 0)) number.toInt.natAbs ends
  rw [toJson?_integer, Option.map_some] at magnitude
  rw [renderInt, String.toList_ofList]
  by_cases negative : number.toInt < 0
  · rw [if_pos negative]
    rw [decide_eq_true negative] at magnitude
    exact magnitude
  · rw [if_neg negative, List.nil_append]
    rw [decide_eq_false negative] at magnitude
    obtain ⟨c, others, digits, digit⟩ := toDigits_starts number.toInt.natAbs
    have notMinus : c ≠ '-' := by
      rintro rfl
      cases digit
    rw [digits] at magnitude ⊢
    rw [List.cons_append, readNumber_unsigned notMinus]
    exact magnitude

end HostValue.Json
