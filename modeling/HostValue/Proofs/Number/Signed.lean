import HostValue.Proofs.Number.Numeral
import HostValue.Proofs.Text.Run
import Mathlib.Data.List.Induction

/-!
# Signed numerals

Numerals that may have one sign, and the integers that they stand for. They are read digit by digit,
with a check of the bounds at every digit. No check refuses a number that the whole numeral would bring
back between the bounds, since every digit leads away from zero. So a numeral is read exactly when its
integer fits, however many zeros it begins with.
-/

namespace HostValue

/-- A numeral that may have one sign, and the integer that it stands for. -/
inductive SignedNumeral : List Char → Int → Prop where
  | unsigned {digits : List Char} (numeral : isNumeral digits = true) :
      SignedNumeral digits (digitsValue digits)
  | plus {digits : List Char} (numeral : isNumeral digits = true) :
      SignedNumeral ('+' :: digits) (digitsValue digits)
  | minus {digits : List Char} (numeral : isNumeral digits = true) :
      SignedNumeral ('-' :: digits) (-(digitsValue digits : Int))

def withSign (negative : Bool) (magnitude : Nat) : Int :=
  if negative then -(magnitude : Int) else magnitude

/-! ### Numbers of sixty-four bits -/

private theorem int64OfInt?_eq_some_iff {n : Int} {number : Int64} :
    int64OfInt? n = some number ↔ number.toInt = n := by
  unfold int64OfInt?
  constructor
  · intro fits
    split at fits
    · next bounds =>
      rw [← Option.some.inj fits]
      exact toInt_ofInt_of_bounds bounds
    · cases fits
  · intro same
    have bounds : Int64.minValue.toInt ≤ n ∧ n ≤ Int64.maxValue.toInt :=
      same ▸ ⟨number.minValue_le_toInt, number.toInt_le⟩
    rw [if_pos bounds, ← same, Int64.ofInt_toInt]

private theorem exists_toInt_eq_withSign {negative : Bool} {least greatest : Nat} {number : Int64}
    (smaller : least ≤ greatest) (fits : number.toInt = withSign negative greatest) :
    ∃ part : Int64, part.toInt = withSign negative least := by
  have lower := number.le_toInt
  have upper := number.toInt_lt
  refine ⟨Int64.ofInt (withSign negative least), Int64.toInt_ofInt_of_le ?_ ?_⟩
  · unfold withSign at fits ⊢
    split at fits <;> split <;> omega
  · unfold withSign at fits ⊢
    split at fits <;> split <;> omega

/-! ### Digit by digit -/

private theorem digitsValue_append_singleton (front : List Char) (c : Char) :
    digitsValue (front ++ [c]) = 10 * digitsValue front + digitValue c := by
  rw [digitsValue, List.foldl_append]
  rfl

private theorem appendDigit?_eq_some_iff {negative : Bool} {number next : Int64} {digit : Char}
    {magnitude : Nat} (own : number.toInt = withSign negative magnitude) :
    appendDigit? negative number digit = some next ↔
      digit.isDigit = true ∧
        next.toInt = withSign negative (10 * magnitude + digitValue digit) := by
  have moved : 10 * number.toInt + (if negative then -(digitValue digit : Int) else digitValue digit) =
      withSign negative (10 * magnitude + digitValue digit) := by
    rw [own]
    unfold withSign
    split <;> omega
  unfold appendDigit?
  dsimp only
  rw [moved]
  by_cases isDigit : digit.isDigit = true
  · rw [if_pos isDigit, int64OfInt?_eq_some_iff, and_iff_right isDigit]
  · rw [if_neg isDigit]
    exact iff_of_false nofun fun both => isDigit both.1

private theorem foldlM_appendDigit?_eq_some_iff {negative : Bool} {digits : List Char}
    {number : Int64} :
    digits.foldlM (appendDigit? negative) 0 = some number ↔
      (∀ c ∈ digits, c.isDigit = true) ∧ number.toInt = withSign negative (digitsValue digits) := by
  induction digits using List.reverseRecOn generalizing number with
  | nil =>
      have zero : withSign negative (digitsValue []) = (0 : Int64).toInt := by
        cases negative <;> rfl
      rw [List.foldlM_nil, zero, Int64.toInt_inj, Option.pure_def, Option.some.injEq, eq_comm]
      exact (and_iff_right (List.forall_mem_nil _)).symm
  | append_singleton front c ih =>
      rw [List.foldlM_append, digitsValue_append_singleton, List.forall_mem_append,
        List.forall_mem_singleton]
      simp only [List.foldlM_cons, List.foldlM_nil, bind_pure]
      rw [Option.bind_eq_bind, Option.bind_eq_some_iff]
      constructor
      · rintro ⟨part, frontRead, last⟩
        obtain ⟨frontDigits, partIs⟩ := ih.mp frontRead
        obtain ⟨digit, numberIs⟩ := (appendDigit?_eq_some_iff partIs).mp last
        exact ⟨⟨frontDigits, digit⟩, numberIs⟩
      · rintro ⟨⟨frontDigits, digit⟩, numberIs⟩
        -- The front of a numeral that fits stands for a number nearer to zero.
        have nearer : digitsValue front ≤ 10 * digitsValue front + digitValue c := by omega
        obtain ⟨part, partIs⟩ := exists_toInt_eq_withSign nearer numberIs
        exact ⟨part, ih.mpr ⟨frontDigits, partIs⟩,
          (appendDigit?_eq_some_iff partIs).mpr ⟨digit, numberIs⟩⟩

private theorem readDigits_eq_some_iff {negative : Bool} {digits : List Char} {number : Int64} :
    (if digits.isEmpty then none else digits.foldlM (appendDigit? negative) 0) = some number ↔
      isNumeral digits = true ∧ number.toInt = withSign negative (digitsValue digits) := by
  rw [isNumeral_iff]
  cases digits with
  | nil => exact iff_of_false nofun fun both => both.1.1 rfl
  | cons c rest =>
      rw [List.isEmpty_cons, if_neg Bool.false_ne_true, foldlM_appendDigit?_eq_some_iff]
      exact and_congr_left fun _ => (and_iff_right (List.cons_ne_nil c rest)).symm

/-! ### Signs -/

theorem isNumeral_cons_eq_false {c : Char} (notDigit : c.isDigit = false) (rest : List Char) :
    isNumeral (c :: rest) = false := by
  rw [← Bool.not_eq_true, isNumeral_iff]
  rintro ⟨-, allDigits⟩
  rw [allDigits c List.mem_cons_self] at notDigit
  cases notDigit

private theorem parseSigned?_plus (digits : List Char) :
    parseSigned? ('+' :: digits) =
      if digits.isEmpty then none else digits.foldlM (appendDigit? false) 0 :=
  rfl

private theorem parseSigned?_minus (digits : List Char) :
    parseSigned? ('-' :: digits) =
      if digits.isEmpty then none else digits.foldlM (appendDigit? true) 0 :=
  rfl

private theorem parseSigned?_unsigned {text : List Char} (noPlus : text.head? ≠ some '+')
    (noMinus : text.head? ≠ some '-') :
    parseSigned? text = if text.isEmpty then none else text.foldlM (appendDigit? false) 0 := by
  unfold parseSigned?
  split
  next negative digits parts =>
    split at parts
    · exact absurd rfl noPlus
    · exact absurd rfl noMinus
    · cases parts
      rfl

theorem parseSigned?_eq_some_iff {text : List Char} {number : Int64} :
    parseSigned? text = some number ↔ ∃ value, SignedNumeral text value ∧ number.toInt = value := by
  constructor
  · intro read
    by_cases plus : text.head? = some '+'
    · obtain ⟨digits, rfl⟩ := List.head?_eq_some_iff.mp plus
      obtain ⟨numeral, same⟩ := readDigits_eq_some_iff.mp (parseSigned?_plus digits ▸ read)
      exact ⟨_, .plus numeral, same⟩
    · by_cases minus : text.head? = some '-'
      · obtain ⟨digits, rfl⟩ := List.head?_eq_some_iff.mp minus
        obtain ⟨numeral, same⟩ := readDigits_eq_some_iff.mp (parseSigned?_minus digits ▸ read)
        exact ⟨_, .minus numeral, same⟩
      · rw [parseSigned?_unsigned plus minus] at read
        obtain ⟨numeral, same⟩ := readDigits_eq_some_iff.mp read
        exact ⟨_, .unsigned numeral, same⟩
  · rintro ⟨value, signed, same⟩
    cases signed with
    | plus numeral =>
        rw [parseSigned?_plus]
        exact readDigits_eq_some_iff.mpr ⟨numeral, same⟩
    | minus numeral =>
        rw [parseSigned?_minus]
        exact readDigits_eq_some_iff.mpr ⟨numeral, same⟩
    | unsigned numeral =>
        have noSign {c : Char} (notDigit : c.isDigit = false) : text.head? ≠ some c := by
          intro first
          obtain ⟨rest, rfl⟩ := List.head?_eq_some_iff.mp first
          rw [isNumeral_cons_eq_false notDigit rest] at numeral
          cases numeral
        rw [parseSigned?_unsigned (noSign rfl) (noSign rfl)]
        exact readDigits_eq_some_iff.mpr ⟨numeral, same⟩

/-! ### Texts of integers -/

theorem SignedNumeral.ne_nil {text : List Char} {value : Int} (signed : SignedNumeral text value) :
    text ≠ [] := by
  cases signed with
  | unsigned numeral => exact ((isNumeral_iff text).mp numeral).1
  | plus | minus => exact List.cons_ne_nil _ _

theorem SignedNumeral.visible {text : List Char} {value : Int} (signed : SignedNumeral text value) :
    ∀ c ∈ text, Text.isBlank c = false := by
  cases signed with
  | unsigned numeral => exact Text.visible_numeral numeral
  | plus numeral | minus numeral =>
      exact List.forall_mem_cons.mpr ⟨rfl, Text.visible_numeral numeral⟩

theorem signedNumeral_renderInt (n : Int) : SignedNumeral (renderInt n).toList n := by
  rw [renderInt, String.toList_ofList]
  have numeral := isNumeral_toDigits n.natAbs
  by_cases negative : n < 0
  · have value : -(digitsValue (Nat.toDigits 10 n.natAbs) : Int) = n := by
      rw [digitsValue_toDigits]
      omega
    have signed := SignedNumeral.minus numeral
    rw [value] at signed
    rw [if_pos negative]
    exact signed
  · have value : (digitsValue (Nat.toDigits 10 n.natAbs) : Int) = n := by
      rw [digitsValue_toDigits]
      omega
    have signed := SignedNumeral.unsigned numeral
    rw [value] at signed
    rw [if_neg negative]
    exact signed

theorem SignedNumeral.padded {sign zeros digits : List Char} {value : Int}
    (signed : SignedNumeral (sign ++ digits) value) (isSign : sign = [] ∨ sign = ['-'])
    (allZero : ∀ c ∈ zeros, c = '0') (numeral : isNumeral digits = true) :
    SignedNumeral (sign ++ (zeros ++ digits)) value := by
  obtain ⟨nonempty, allDigits⟩ := (isNumeral_iff digits).mp numeral
  have areZero : ∀ c ∈ zeros, (c == '0') = true := fun c member => beq_iff_eq.mpr (allZero c member)
  have longer : isNumeral (zeros ++ digits) = true :=
    isNumeral_zeros_append areZero digits allDigits (List.append_ne_nil_of_right_ne_nil zeros nonempty)
  have same := digitsValue_zeros_append areZero digits
  rcases isSign with rfl | rfl
  · rw [List.nil_append] at signed ⊢
    cases signed with
    | unsigned => exact same ▸ .unsigned longer
    | plus | minus =>
        rw [isNumeral_cons_eq_false rfl] at numeral
        cases numeral
  · rw [List.singleton_append] at signed ⊢
    cases signed with
    | minus => exact same ▸ .minus longer
    | unsigned impossible =>
        rw [isNumeral_cons_eq_false rfl] at impossible
        cases impossible

end HostValue
