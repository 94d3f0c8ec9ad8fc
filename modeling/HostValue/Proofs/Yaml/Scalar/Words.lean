import HostValue.Proofs.Number.Numeral
import HostValue.Proofs.Yaml.Text

/-!
# Words for nulls, booleans and integers

What is written of a null, a boolean or an integer needs no quotes, and without them it means just that.
-/

namespace HostValue.Yaml

/-! ### Texts of digits -/

theorem forall_digit {holds : Char → Prop} (each : ∀ digit : Fin 10, holds (Nat.digitChar digit))
    {c : Char} (digit : c.isDigit = true) : holds c := by
  rw [← digitChar_digitValue digit]
  exact each ⟨digitValue c, digitValue_lt digit⟩

structure IsDirect (c : Char) : Prop where
  printable : isPrintable c = true
  noBreak : isBreak c = false
  noSpace : c ≠ ' '
  noColon : c ≠ ':'
  noComment : c ≠ '#'

instance (c : Char) : Decidable (IsDirect c) :=
  decidable_of_iff
    (isPrintable c = true ∧ isBreak c = false ∧ c ≠ ' ' ∧ c ≠ ':' ∧ c ≠ '#')
    ⟨fun ⟨printable, noBreak, noSpace, noColon, noComment⟩ =>
      ⟨printable, noBreak, noSpace, noColon, noComment⟩,
      fun direct => ⟨direct.printable, direct.noBreak, direct.noSpace, direct.noColon,
        direct.noComment⟩⟩

private theorem isDirect_digit {c : Char} (digit : c.isDigit = true) : IsDirect c :=
  forall_digit (by decide) digit

theorem digit_apart {c : Char} (digit : c.isDigit = true) :
    isIndicator c = false ∧ endsWord [c] = false ∧ c ≠ '-' ∧ c ≠ '.' ∧ c ≠ '+' :=
  @forall_digit
    (fun c => isIndicator c = false ∧ endsWord [c] = false ∧ c ≠ '-' ∧ c ≠ '.' ∧ c ≠ '+')
    (by decide) c digit

private theorem hasNeighbours_eq_false {related : Char → Char → Bool} {text : List Char}
    (none : ∀ c ∈ text, ∀ d, related c d = false) : hasNeighbours related text = false := by
  induction text with
  | nil => rfl
  | cons c rest ih =>
      obtain ⟨first, others⟩ := List.forall_mem_cons.mp none
      refine hasNeighbours_cons_eq_false.mpr ⟨?_, ih others⟩
      cases rest with
      | nil => rfl
      | cons d more => exact first d

private theorem hasInnerIndicator_eq_false {text : List Char} (direct : ∀ c ∈ text, IsDirect c) :
    hasInnerIndicator text = false := by
  induction text with
  | nil => rfl
  | cons c rest ih =>
      obtain ⟨first, others⟩ := List.forall_mem_cons.mp direct
      change (_ || hasInnerIndicator rest) = false
      rw [ih others, Bool.or_false]
      split
      · exact absurd rfl (others _ List.mem_cons_self).noColon
      · exact absurd rfl (others _ List.mem_cons_self).noComment
      · rfl

theorem allowsPlain_of_isDirect {c : Char} {rest : List Char} (direct : ∀ d ∈ c :: rest, IsDirect d)
    (noOuter : hasOuterIndicator (c :: rest) = false) : allowsPlain (c :: rest) = true := by
  have noBreaks : (c :: rest).any isBreak = false :=
    List.any_eq_false.mpr fun d member => Bool.eq_false_iff.mp (direct d member).noBreak
  have noEscapes : needsEscapes (c :: rest) = false := by
    rw [needsEscapes, Bool.or_eq_false_iff, Bool.not_eq_false']
    refine ⟨List.all_eq_true.mpr fun d member => (direct d member).printable,
      hasNeighbours_eq_false fun d member e => ?_⟩
    rw [beq_eq_false_iff_ne.mpr (direct d member).noSpace, Bool.false_and]
  have inside (d : Char) (member : d ∈ c :: rest) : (d == ' ' || isBreak d) = false := by
    rw [beq_eq_false_iff_ne.mpr (direct d member).noSpace, (direct d member).noBreak]
    rfl
  have noWhiteEnd : hasWhiteEnd (c :: rest) = false := by
    rw [hasWhiteEnd, Bool.or_eq_false_iff]
    refine ⟨inside c List.mem_cons_self, ?_⟩
    rw [List.getLast?_eq_some_getLast (List.cons_ne_nil c rest)]
    exact inside _ (List.getLast_mem _)
  rw [allowsPlain, noBreaks, noEscapes, noWhiteEnd, noOuter, hasInnerIndicator_eq_false direct]
  rfl

private theorem hasOuterIndicator_digit {c : Char} (digit : c.isDigit = true) (rest : List Char) :
    hasOuterIndicator (c :: rest) = false := by
  obtain ⟨noIndicator, -, noMinus, noPoint, -⟩ := digit_apart digit
  unfold hasOuterIndicator
  split
  next same => exact absurd (List.cons.inj same).1 noMinus
  next same => exact absurd (List.cons.inj same).1 noPoint
  next same =>
    cases same
    split
    case isTrue mark =>
      simp only [Bool.or_eq_true, beq_iff_eq, or_assoc] at mark
      rcases mark with rfl | rfl | rfl <;> cases noIndicator
    case isFalse => exact noIndicator
  next => rfl

private theorem hasOuterIndicator_minus {c : Char} (digit : c.isDigit = true) (rest : List Char) :
    hasOuterIndicator ('-' :: c :: rest) = false := by
  obtain ⟨-, goesOn, noMinus, -, -⟩ := digit_apart digit
  unfold hasOuterIndicator
  split
  next same =>
    obtain ⟨-, same⟩ := List.cons.inj same
    exact absurd (List.cons.inj same).1 noMinus
  next same => cases (List.cons.inj same).1
  next same =>
    cases same
    exact goesOn
  next => rfl

theorem isDirect_toDigits (n : Nat) : ∀ c ∈ Nat.toDigits 10 n, IsDirect c :=
  fun _ member => isDirect_digit (isDigit_of_mem_toDigits member)

private theorem allowsPlain_digits (n : Nat) : allowsPlain (Nat.toDigits 10 n) = true := by
  have direct := isDirect_toDigits n
  obtain ⟨c, rest, digits, digit⟩ := toDigits_starts n
  rw [digits] at direct ⊢
  exact allowsPlain_of_isDirect direct (hasOuterIndicator_digit digit rest)

private theorem allowsPlain_minus_digits (n : Nat) :
    allowsPlain ('-' :: Nat.toDigits 10 n) = true := by
  have direct := List.forall_mem_cons.mpr ⟨(by decide : IsDirect '-'), isDirect_toDigits n⟩
  obtain ⟨c, rest, digits, digit⟩ := toDigits_starts n
  rw [digits] at direct ⊢
  exact allowsPlain_of_isDirect direct (hasOuterIndicator_minus digit rest)

theorem allowsPlain_renderInt (number : Int) : allowsPlain (renderInt number).toList = true := by
  rw [renderInt, String.toList_ofList]
  split
  · exact allowsPlain_minus_digits number.natAbs
  · exact allowsPlain_digits number.natAbs

/-! ### Meanings -/

theorem plainMeaning_whole {c : Char} {rest : List Char} {number : DataNode}
    (starts : c.isDigit = true ∨ c = '-') (whole : whole? (c :: rest) = some number) :
    plainMeaning (c :: rest) = number := by
  have apart (d : Char) (noDigit : d.isDigit = false) (noMinus : d ≠ '-') (word : List Char) :
      c :: rest ≠ d :: word := by
    intro same
    obtain ⟨rfl, -⟩ := List.cons.inj same
    rcases starts with digit | minus
    · rw [noDigit] at digit
      cases digit
    · exact noMinus minus
  have noNull : isNull (c :: rest) = false := by
    simp only [isNull, Bool.or_eq_false_iff, beq_eq_false_iff_ne]
    exact ⟨⟨⟨apart 'n' rfl (by decide) _, apart 'N' rfl (by decide) _⟩,
      apart 'N' rfl (by decide) _⟩, apart '~' rfl (by decide) _⟩
  have noBoolean : boolean? (c :: rest) = none := by
    rw [boolean?, if_neg, if_neg]
    · rintro (same | same | same)
      · exact apart 'f' rfl (by decide) _ same
      · exact apart 'F' rfl (by decide) _ same
      · exact apart 'F' rfl (by decide) _ same
    · rintro (same | same | same)
      · exact apart 't' rfl (by decide) _ same
      · exact apart 'T' rfl (by decide) _ same
      · exact apart 'T' rfl (by decide) _ same
  rw [plainMeaning, noNull, noBoolean, whole]
  rfl

theorem withoutSign_digit {c : Char} (digit : c.isDigit = true) (rest : List Char) :
    withoutSign (c :: rest) = c :: rest ∧ withoutPlus (c :: rest) = c :: rest := by
  obtain ⟨-, -, noMinus, -, noPlus⟩ := digit_apart digit
  constructor
  · unfold withoutSign
    split
    next same => exact absurd (List.cons.inj same).1 noPlus
    next same => exact absurd (List.cons.inj same).1 noMinus
    next => rfl
  · unfold withoutPlus
    split
    next same => exact absurd (List.cons.inj same).1 noPlus
    next => rfl

private theorem hasNeedlessZero_digits (n : Nat) : hasNeedlessZero (Nat.toDigits 10 n) = false := by
  have canonical := (toDigits_digitsValue_iff (isNumeral_toDigits n)).mp (by rw [digitsValue_toDigits])
  obtain ⟨c, rest, digits, digit⟩ := toDigits_starts n
  rw [digits] at canonical ⊢
  unfold hasNeedlessZero
  rw [(withoutSign_digit digit rest).1]
  split
  next same =>
    rw [same] at canonical
    cases Nat.le_of_succ_le_succ (canonical rfl)
  next => rfl

theorem natural?_digits (n : Nat) : natural? (Nat.toDigits 10 n) = some n := by
  have letter {c : Char} {rest : List Char} (noDigit : c.isDigit = false) :
      Nat.toDigits 10 n ≠ '0' :: c :: rest := by
    intro same
    have digit : c.isDigit = true := isDigit_of_mem_toDigits (n := n) (by rw [same]; simp)
    rw [noDigit] at digit
    cases digit
  unfold natural?
  split
  next same => exact absurd same (letter rfl)
  next same => exact absurd same (letter rfl)
  next same => exact absurd same (letter rfl)
  next => rw [hasNeedlessZero_digits, if_neg Bool.false_ne_true, numberInBase?_decimal]

private theorem plainMeaning_digits {n : Nat} (small : n < UInt64.size) :
    plainMeaning (Nat.toDigits 10 n) = .unsigned n.toUInt64 := by
  have natural := natural?_digits n
  obtain ⟨c, rest, digits, digit⟩ := toDigits_starts n
  rw [digits] at natural ⊢
  refine plainMeaning_whole (.inl digit) ?_
  unfold whole?
  rw [(withoutSign_digit digit rest).2, natural]
  exact if_pos small

private theorem natural?_minus (digits : List Char) : natural? ('-' :: digits) = none := by
  change (if hasNeedlessZero ('-' :: digits) then none else numberInBase? 10 ('-' :: digits)) = none
  split <;> rfl

private theorem plainMeaning_minus_digits {n : Nat} (small : n ≤ Nat.pow 2 63) :
    plainMeaning ('-' :: Nat.toDigits 10 n) = .signed (Int64.ofInt (-n)) := by
  refine plainMeaning_whole (.inr rfl) ?_
  have signless : withoutPlus ('-' :: Nat.toDigits 10 n) = '-' :: Nat.toDigits 10 n := rfl
  unfold whole?
  rw [signless, natural?_minus]
  simp only [natural?_digits, if_pos small]

theorem toValue_plainMeaning_renderInt (number : Int64) :
    (plainMeaning (renderInt number.toInt).toList).toValue = .ok (.integer number) := by
  have low : -9223372036854775808 ≤ number.toInt := number.le_toInt
  have high : number.toInt < 9223372036854775808 := number.toInt_lt
  rw [renderInt, String.toList_ofList]
  split
  case isTrue negative =>
    have small : number.toInt.natAbs ≤ Nat.pow 2 63 := by
      change _ ≤ 9223372036854775808
      omega
    have same : -(number.toInt.natAbs : Int) = number.toInt := by omega
    rw [List.singleton_append, plainMeaning_minus_digits small, same, Int64.ofInt_toInt]
    rfl
  case isFalse nonneg =>
    have small : number.toInt.natAbs < UInt64.size := by
      change _ < 18446744073709551616
      omega
    rw [List.nil_append, plainMeaning_digits small, natAbs_toInt_of_nonneg (Int.not_lt.mp nonneg),
      toUInt64_toNat]
    exact toValue_unsigned (Int.not_lt.mp nonneg)

/-! ### Texts without quotes -/

private theorem whole?_ne_text (text : List Char) (content : String) :
    whole? text ≠ some (.text content) := by
  unfold whole?
  split
  · split
    · exact fun same => by cases same
    · split <;> exact fun same => by cases same
  · split
    · split
      · exact fun same => by cases same
      · split <;> exact fun same => by cases same
    · exact fun same => by cases same
  · exact fun same => by cases same

theorem plainMeaning_of_readsAsText {text : List Char} (isText : readsAsText text = true) :
    plainMeaning text = .text (String.ofList text) := by
  rw [readsAsText] at isText
  split at isText
  case h_1 content meaning =>
    rw [meaning]
    unfold plainMeaning at meaning
    split at meaning
    · cases meaning
    · split at meaning
      · cases meaning
      · split at meaning
        next whole =>
          rw [meaning] at whole
          exact absurd whole (whole?_ne_text text content)
        next =>
          split at meaning
          · cases meaning
          · exact meaning.symm
  case h_2 => cases isText

end HostValue.Yaml
