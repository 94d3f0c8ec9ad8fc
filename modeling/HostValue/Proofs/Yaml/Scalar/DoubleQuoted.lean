import HostValue.Proofs.Number.Numeral
import HostValue.Proofs.Yaml.Text
import HostValue.Yaml.Scalar

/-!
# Reading scalars in double quotes that were written

Every text is read back from the double quotes in which it is written: each character stands for
itself, behind a backslash for its letter, or as its number in hexadecimal.
-/

namespace HostValue.Yaml

/-! ### Numbers in hexadecimal -/

private theorem numberInBase?_hexDigits (width n : Nat) :
    numberInBase? 16 (hexDigits width n) = some n :=
  numberInBase?_toDigits (by decide) (by decide) _ n

theorem length_hexDigits {width n : Nat} (positive : 0 < width) (small : n < Nat.pow 16 width) :
    (hexDigits width n).length = width := by
  have bound := (Nat.length_toDigits_le_iff (by decide) positive).mpr small
  rw [hexDigits, List.length_append, List.length_replicate, List.length_map]
  omega

theorem charOfHex?_hexDigits (width : Nat) (c : Char) :
    charOfHex? (hexDigits width c.toNat) = some c := by
  have valid : c.toNat.isValidChar := c.valid
  rw [charOfHex?, numberInBase?_hexDigits]
  dsimp only
  rw [if_pos valid, Char.ofNat_toNat]

/-! ### Steps of the reader -/

section Reading

variable {gap : Option Gap} {line column : Nat} {c : Char} {rest : List Char}

private theorem readDoubleQuoted_letter {letter : Char} (meaning : unescape? letter = some c) :
    readDoubleQuoted gap line column ('\\' :: letter :: rest) =
      joinText gap (some c) (readDoubleQuoted none line (column + 2) rest) := by
  unfold unescape? at meaning
  split at meaning <;> cases meaning <;> rfl

private theorem readDoubleQuoted_byte (small : c.toNat ≤ 0xFF) :
    readDoubleQuoted gap line column ('\\' :: 'x' :: hexDigits 2 c.toNat ++ rest) =
      joinText gap (some c) (readDoubleQuoted none line
        (column + ('\\' :: 'x' :: hexDigits 2 c.toNat).length) rest) := by
  have length : (hexDigits 2 c.toNat).length = 2 :=
    length_hexDigits (by decide) (Nat.lt_succ_of_le small)
  have meaning := charOfHex?_hexDigits 2 c
  match digits : hexDigits 2 c.toNat, length with
  | [a, b], _ =>
      rw [digits] at meaning
      change readDoubleQuoted gap line column ('\\' :: 'x' :: a :: b :: rest) = _
      rw [readDoubleQuoted, meaning]
      rfl

private theorem readDoubleQuoted_unit (small : c.toNat ≤ 0xFFFF) :
    readDoubleQuoted gap line column ('\\' :: 'u' :: hexDigits 4 c.toNat ++ rest) =
      joinText gap (some c) (readDoubleQuoted none line
        (column + ('\\' :: 'u' :: hexDigits 4 c.toNat).length) rest) := by
  have length : (hexDigits 4 c.toNat).length = 4 :=
    length_hexDigits (by decide) (Nat.lt_succ_of_le small)
  have meaning := charOfHex?_hexDigits 4 c
  match digits : hexDigits 4 c.toNat, length with
  | [a, b, d, e], _ =>
      rw [digits] at meaning
      change readDoubleQuoted gap line column ('\\' :: 'u' :: a :: b :: d :: e :: rest) = _
      rw [readDoubleQuoted, meaning]
      rfl

private theorem readDoubleQuoted_space :
    readDoubleQuoted gap line column (' ' :: rest) =
      readDoubleQuoted (some (Gap.addWhite gap ' ')) line (column + 1) rest := by
  rw [readDoubleQuoted] <;> simp [isBreak, isWhite]

private theorem readDoubleQuoted_close :
    readDoubleQuoted gap line column ('"' :: rest) =
      some (Gap.fold gap, ⟨rest, line, column + 1⟩) := by
  have noMark : isDocumentMark ('"' :: rest) = false := rfl
  rw [readDoubleQuoted] <;> simp [isBreak, isWhite, noMark]

private theorem readDoubleQuoted_char (noBreak : isBreak c = false) (noWhite : isWhite c = false)
    (noQuote : c ≠ '"') (noBackslash : c ≠ '\\') (inside : 0 < column) :
    readDoubleQuoted gap line column (c :: rest) =
      joinText gap (some c) (readDoubleQuoted none line (column + 1) rest) := by
  have notFirst : column ≠ 0 := by omega
  have notReturn := ne_return_of_not_isBreak noBreak
  rw [readDoubleQuoted] <;> simp_all

end Reading

/-! ### Texts -/

private theorem unescape?_of_escapeLetter? {c letter : Char}
    (escaped : escapeLetter? c = some letter) :
    unescape? letter = some c := by
  unfold escapeLetter? at escaped
  split at escaped <;> cases escaped <;> rfl

private theorem noBreak_of_escapeLetter? {c : Char} (unescaped : escapeLetter? c = none) :
    isBreak c = false := by
  rw [Bool.eq_false_iff, Ne, isBreak_iff]
  rintro (rfl | rfl | rfl | rfl | rfl) <;> cases unescaped

theorem toNat_le_of_not_isPrintable {c : Char} (hidden : isPrintable c = false) :
    c.toNat ≤ 0xFFFF := by
  simp only [isPrintable, Bool.or_eq_false_iff, decide_eq_false_iff_not] at hidden
  omega

private theorem readDoubleQuoted_escape {c : Char} (noSpace : c ≠ ' ') (gap : Option Gap)
    (line : Nat)
    {column : Nat} (inside : 0 < column) (rest : List Char) :
    readDoubleQuoted gap line column (escape c ++ rest) =
      joinText gap (some c) (readDoubleQuoted none line (column + (escape c).length) rest) := by
  rw [escape]
  cases escaped : escapeLetter? c with
  | some letter => exact readDoubleQuoted_letter (unescape?_of_escapeLetter? escaped)
  | none =>
      dsimp only
      split
      case isTrue printable =>
          refine readDoubleQuoted_char (noBreak_of_escapeLetter? escaped)
            (isWhite_eq_false printable noSpace) ?_ ?_ inside
          · rintro rfl
            cases escaped
          · rintro rfl
            cases escaped
      case isFalse hidden =>
          split
          case isTrue small => exact readDoubleQuoted_byte small
          case isFalse =>
              exact readDoubleQuoted_unit
                (toNat_le_of_not_isPrintable (Bool.eq_false_iff.mpr hidden))

theorem readDoubleQuoted_written (text rest spaces : List Char) (line : Nat) {column : Nat}
    (inside : 0 < column) :
    readDoubleQuoted (spacesGap spaces) line column (text.flatMap escape ++ '"' :: rest) =
      some (spaces ++ text, ⟨rest, line, column + (text.flatMap escape).length + 1⟩) := by
  induction text generalizing spaces column with
  | nil =>
      rw [List.flatMap_nil, List.nil_append, readDoubleQuoted_close, fold_spacesGap,
        List.append_nil]
      rfl
  | cons c text ih =>
      rw [List.flatMap_cons, List.append_assoc, List.length_append, ← Nat.add_assoc]
      by_cases space : c = ' '
      · subst space
        have itself : escape ' ' = [' '] := rfl
        rw [itself, List.singleton_append, readDoubleQuoted_space, addWhite_spacesGap,
          ih _ (Nat.succ_pos column), List.append_assoc, List.singleton_append]
        rfl
      · have read := ih [] (Nat.add_pos_left inside (escape c).length)
        rw [readDoubleQuoted_escape space _ line inside]
        change joinText _ _ (readDoubleQuoted (spacesGap []) _ _ _) = _
        rw [read, joinText, fold_spacesGap, List.nil_append]

end HostValue.Yaml
