import HostValue.DataModel
import HostValue.Number.Digits

/-!
# Numerals and words

Runs of digits and the numbers that they stand for. Every number has one canonical numeral, namely
its decimal digits. A numeral is canonical exactly when no zero stands before its other digits, and
zeros in front do not change what a numeral stands for.
-/

namespace HostValue

theorem isNumeral_iff (text : List Char) :
    isNumeral text = true ↔ text ≠ [] ∧ ∀ c ∈ text, c.isDigit = true := by
  simp [isNumeral, List.all_eq_true]

theorem isDigit_iff (c : Char) : c.isDigit = true ↔ '0' ≤ c ∧ c ≤ '9' := by
  simp only [Char.isDigit, Bool.and_eq_true, decide_eq_true_eq]
  exact Iff.rfl

theorem digit_range {c : Char} (digit : c.isDigit = true) : 48 ≤ c.toNat ∧ c.toNat ≤ 57 :=
  Char.isDigit_iff_toNat.mp digit

theorem digitChar_digitValue {c : Char} (digit : c.isDigit = true) :
    Nat.digitChar (digitValue c) = c := by
  have range := digit_range digit
  apply Char.toNat_inj.mp
  change (Nat.digitChar (c.toNat - 48)).toNat = c.toNat
  rw [Nat.toNat_digitChar_of_lt_ten (by omega)]
  omega

theorem digitValue_lt {c : Char} (digit : c.isDigit = true) : digitValue c < 10 := by
  have range := digit_range digit
  change c.toNat - 48 < 10
  omega

/-! ### The digits of a number -/

private theorem digitsValue_cons (c : Char) (rest : List Char) :
    digitsValue (c :: rest) = Nat.ofDigitChars 10 rest (digitValue c) := by
  change Nat.ofDigitChars 10 (c :: rest) 0 = _
  rw [Nat.ofDigitChars_cons, Nat.mul_zero, Nat.zero_add]
  rfl

theorem digitsValue_toDigits (n : Nat) : digitsValue (Nat.toDigits 10 n) = n :=
  Nat.ofDigitChars_ten_toDigits

theorem isDigit_of_mem_toDigits {n : Nat} {c : Char} (member : c ∈ Nat.toDigits 10 n) :
    c.isDigit = true :=
  Nat.isDigit_of_mem_toDigits (by decide) (by decide) member

theorem isNumeral_toDigits (n : Nat) : isNumeral (Nat.toDigits 10 n) = true :=
  (isNumeral_iff _).mpr ⟨Nat.toDigits_ne_nil, fun _ => isDigit_of_mem_toDigits⟩

theorem toDigits_starts (number : Nat) :
    ∃ c others, Nat.toDigits 10 number = c :: others ∧ c.isDigit = true := by
  cases digits : Nat.toDigits 10 number with
  | nil => exact absurd digits Nat.toDigits_ne_nil
  | cons c others =>
      exact ⟨c, others, rfl, isDigit_of_mem_toDigits (digits ▸ List.mem_cons_self)⟩

theorem toDigits_injective {m n : Nat} (same : Nat.toDigits 10 m = Nat.toDigits 10 n) : m = n := by
  have values := congrArg digitsValue same
  rwa [digitsValue_toDigits, digitsValue_toDigits] at values

theorem eq_zero_of_toDigits_head (n : Nat) (zeroFirst : (Nat.toDigits 10 n).head? = some '0') :
    n = 0 := by
  induction n using Nat.strongRecOn with
  | ind n ih =>
      rw [Nat.toDigits_eq_if (by decide)] at zeroFirst
      by_cases small : n < 10
      · rw [if_pos small, List.head?_cons, Option.some.injEq] at zeroFirst
        have values := congrArg Char.toNat zeroFirst
        rw [Nat.toNat_digitChar_of_lt_ten small] at values
        change 48 + n = 48 at values
        omega
      · rw [if_neg small, List.head?_append, List.head?_eq_some_head Nat.toDigits_ne_nil,
          Option.some_or, ← List.head?_eq_some_head] at zeroFirst
        have quotient := ih (n / 10) (by omega) zeroFirst
        omega

/-! ### Canonical numerals -/

private theorem toDigits_append (digits : List Char) (front : Nat) (positive : 0 < front)
    (allDigits : ∀ c ∈ digits, c.isDigit = true) :
    Nat.toDigits 10 front ++ digits = Nat.toDigits 10 (Nat.ofDigitChars 10 digits front) := by
  induction digits generalizing front with
  | nil => rw [List.append_nil, Nat.ofDigitChars_nil]
  | cons c rest ih =>
      have digit : c.isDigit = true := allDigits c List.mem_cons_self
      have step : Nat.toDigits 10 front ++ [c] = Nat.toDigits 10 (10 * front + digitValue c) := by
        rw [← Nat.toDigits_append_toDigits (by decide) positive (digitValue_lt digit),
          Nat.toDigits_of_lt_base (digitValue_lt digit), digitChar_digitValue digit]
      have tail := ih (10 * front + digitValue c) (by omega)
        (fun d member => allDigits d (List.mem_cons_of_mem c member))
      calc
        Nat.toDigits 10 front ++ c :: rest
            = (Nat.toDigits 10 front ++ [c]) ++ rest := by simp
        _ = Nat.toDigits 10 (10 * front + digitValue c) ++ rest := by rw [step]
        _ = Nat.toDigits 10 (Nat.ofDigitChars 10 rest (10 * front + digitValue c)) := tail
        _ = Nat.toDigits 10 (Nat.ofDigitChars 10 (c :: rest) front) := by
          rw [Nat.ofDigitChars_cons]
          rfl

theorem toDigits_digitsValue_cons {c : Char} {rest : List Char} (notZero : c ≠ '0')
    (allDigits : ∀ d ∈ c :: rest, d.isDigit = true) :
    Nat.toDigits 10 (digitsValue (c :: rest)) = c :: rest := by
  have digit : c.isDigit = true := allDigits c List.mem_cons_self
  have positive : 0 < digitValue c := by
    have range := digit_range digit
    have different : c.toNat ≠ 48 := fun same => notZero (Char.toNat_inj.mp same)
    change 0 < c.toNat - 48
    omega
  have continued := toDigits_append rest (digitValue c) positive
    (fun d member => allDigits d (List.mem_cons_of_mem c member))
  rw [Nat.toDigits_of_lt_base (digitValue_lt digit), digitChar_digitValue digit] at continued
  rw [digitsValue_cons]
  exact continued.symm

theorem toDigits_digitsValue_iff {digits : List Char} (numeral : isNumeral digits = true) :
    Nat.toDigits 10 (digitsValue digits) = digits ↔
      (digits.head? = some '0' → digits.length ≤ 1) := by
  obtain ⟨nonempty, allDigits⟩ := (isNumeral_iff digits).mp numeral
  cases digits with
  | nil => exact absurd rfl nonempty
  | cons c rest =>
      constructor
      · intro canonical zeroFirst
        have zero : digitsValue (c :: rest) = 0 := by
          apply eq_zero_of_toDigits_head
          rw [canonical]
          exact zeroFirst
        rw [zero] at canonical
        rw [← canonical]
        decide
      · intro canonical
        by_cases zero : c = '0'
        · subst zero
          have alone : rest = [] := by
            have bound := canonical rfl
            simpa using bound
          subst alone
          decide
        · exact toDigits_digitsValue_cons zero allDigits

/-! ### Zeros in front -/

private theorem digitsValue_zero_cons (digits : List Char) :
    digitsValue ('0' :: digits) = digitsValue digits :=
  rfl

theorem digitsValue_zeros_append {zeros : List Char} (allZero : ∀ c ∈ zeros, (c == '0') = true)
    (digits : List Char) : digitsValue (zeros ++ digits) = digitsValue digits := by
  induction zeros with
  | nil => rfl
  | cons c rest ih =>
      have zero : c = '0' := by simpa using allZero c List.mem_cons_self
      rw [zero, List.cons_append, digitsValue_zero_cons]
      exact ih fun d member => allZero d (List.mem_cons_of_mem c member)

theorem isNumeral_zeros_append {zeros : List Char} (allZero : ∀ c ∈ zeros, (c == '0') = true)
    (digits : List Char) (allDigits : ∀ c ∈ digits, c.isDigit = true)
    (nonempty : zeros ++ digits ≠ []) : isNumeral (zeros ++ digits) = true := by
  refine (isNumeral_iff _).mpr ⟨nonempty, fun c member => ?_⟩
  rcases List.mem_append.mp member with zero | digit
  · rw [beq_iff_eq.mp (allZero c zero)]
    decide
  · exact allDigits c digit

/-! ### Other bases

The digits of a number in a base, behind zeros or not, are read as that number, whichever characters
they are written with. -/

def readDigitIn (base number : Nat) (c : Char) : Option Nat :=
  (digitInBase? base c).map (base * number + ·)

section Base

variable {base : Nat} {write : Char → Char}

private theorem foldlM_readDigitIn_toDigits (large : 1 < base)
    (reads : ∀ digit < base, digitInBase? base (write digit.digitChar) = some digit) (n : Nat) :
    ((Nat.toDigits base n).map write).foldlM (readDigitIn base) 0 = some n := by
  induction n using Nat.strongRecOn with
  | ind n ih =>
      rw [Nat.toDigits_eq_if large]
      split
      case isTrue small =>
          simp only [List.map_cons, List.map_nil, List.foldlM_cons, List.foldlM_nil, readDigitIn,
            reads n small, Option.map_some, Nat.mul_zero, Nat.zero_add]
          rfl
      case isFalse enough =>
          have positive : 0 < base := Nat.lt_of_succ_lt large
          have digit := reads (n % base) (Nat.mod_lt n positive)
          have smaller : n / base < n := Nat.div_lt_self (by omega) large
          rw [List.map_append, List.foldlM_append, ih (n / base) smaller]
          simp only [List.map_cons, List.map_nil, List.foldlM_cons, List.foldlM_nil, readDigitIn,
            digit, Option.map_some, Option.bind_eq_bind, Option.bind_some, Option.pure_def,
            Nat.div_add_mod]

private theorem foldlM_readDigitIn_zeros (positive : 0 < base) (zeros : Nat) (digits : List Char) :
    (List.replicate zeros '0' ++ digits).foldlM (readDigitIn base) 0 =
      digits.foldlM (readDigitIn base) 0 := by
  have zero : readDigitIn base 0 '0' = some 0 := by
    change (if 0 < base then some 0 else none).map (base * 0 + ·) = some 0
    rw [if_pos positive]
    rfl
  induction zeros with
  | zero => rfl
  | succ zeros ih =>
      rw [List.replicate_succ, List.cons_append, List.foldlM_cons, zero]
      exact ih

theorem numberInBase?_toDigits (large : 1 < base)
    (reads : ∀ digit < base, digitInBase? base (write digit.digitChar) = some digit)
    (zeros n : Nat) :
    numberInBase? base (List.replicate zeros '0' ++ (Nat.toDigits base n).map write) = some n := by
  have nonempty : (List.replicate zeros '0' ++ (Nat.toDigits base n).map write).isEmpty = false := by
    rw [List.isEmpty_eq_false_iff]
    simp [Nat.toDigits_ne_nil]
  rw [numberInBase?, nonempty]
  change List.foldlM (readDigitIn base) 0 _ = some n
  rw [foldlM_readDigitIn_zeros (Nat.lt_of_succ_lt large), foldlM_readDigitIn_toDigits large reads]

end Base

theorem numberInBase?_decimal (n : Nat) : numberInBase? 10 (Nat.toDigits 10 n) = some n := by
  have read : numberInBase? 10 ((Nat.toDigits 10 n).map id) = some n :=
    numberInBase?_toDigits (by decide) (by decide) 0 n
  rwa [List.map_id] at read

/-! ### Machine words

The natural numbers and integers that numbers of sixty-four bits stand for, where a number without
sign and one with sign are the same bits. -/

theorem toNat_toUInt64 {n : Nat} (small : n < UInt64.size) : n.toUInt64.toNat = n :=
  UInt64.toNat_ofNat_of_lt small

theorem toUInt64_toNat (number : UInt64) : number.toNat.toUInt64 = number :=
  UInt64.ofNat_toNat

/-- The upper half of the numbers without sign are the negative ones with a sign. -/
private theorem toInt_cases (number : Int64) :
    number.toUInt64.toNat < Nat.pow 2 63 ∧ number.toInt = number.toUInt64.toNat ∨
      Nat.pow 2 63 ≤ number.toUInt64.toNat ∧ number.toInt < 0 := by
  have bound := number.toBitVec.isLt
  have signed : number.toBitVec.toInt = number.toInt := rfl
  rw [BitVec.toInt_eq_toNat_cond] at signed
  change number.toBitVec.toNat < 9223372036854775808 ∧ number.toInt = number.toBitVec.toNat ∨
    9223372036854775808 ≤ number.toBitVec.toNat ∧ number.toInt < 0
  split at signed
  · omega
  · omega

theorem toNat_toUInt64_of_nonneg {number : Int64} (nonneg : 0 ≤ number.toInt) :
    number.toUInt64.toNat < Nat.pow 2 63 := by
  rcases toInt_cases number with ⟨small, -⟩ | ⟨-, negative⟩
  · exact small
  · exact absurd nonneg (Int.not_le.mpr negative)

theorem natAbs_toInt_of_nonneg {number : Int64} (nonneg : 0 ≤ number.toInt) :
    number.toInt.natAbs = number.toUInt64.toNat := by
  rcases toInt_cases number with ⟨-, same⟩ | ⟨-, negative⟩
  · rw [same, Int.natAbs_natCast]
  · exact absurd nonneg (Int.not_le.mpr negative)

theorem toInt_toInt64 {number : UInt64} (small : number.toNat < Nat.pow 2 63) :
    number.toInt64.toInt = number.toNat := by
  rcases toInt_cases number.toInt64 with ⟨-, same⟩ | ⟨large, -⟩
  · rw [same, UInt64.toUInt64_toInt64]
  · rw [UInt64.toUInt64_toInt64] at large
    exact absurd small (Nat.not_lt.mpr large)

theorem natAbs_toInt_lt (number : Int64) : number.toInt.natAbs < Nat.pow 2 64 := by
  have lower := number.le_toInt
  have upper := number.toInt_lt
  change number.toInt.natAbs < 18446744073709551616
  omega

theorem toInt_ofInt_of_bounds {n : Int}
    (bounds : Int64.minValue.toInt ≤ n ∧ n ≤ Int64.maxValue.toInt) : (Int64.ofInt n).toInt = n :=
  Int64.toInt_ofInt_of_le bounds.1 (Int.lt_add_one_of_le bounds.2)

theorem toValue_unsigned {number : Int64} (nonneg : 0 ≤ number.toInt) :
    (DataNode.unsigned number.toUInt64).toValue = .ok (.integer number) := by
  rw [DataNode.toValue, if_pos (toNat_toUInt64_of_nonneg nonneg), Int64.toInt64_toUInt64]

end HostValue
