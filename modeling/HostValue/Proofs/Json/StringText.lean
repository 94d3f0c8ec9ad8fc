import HostValue.Json.Reader
import HostValue.Json.Writer

/-!
# Strings in JSON texts

What is written for a string is read as that string, character by character: a character stands for
itself, behind a backslash for its letter, or as its number.
-/

namespace HostValue.Json

def prepend (c : Char) (found : List Char × List Char) : List Char × List Char :=
  (c :: found.1, found.2)

private theorem unescape?_of_escapeLetter? {c letter : Char}
    (escaped : escapeLetter? c = some letter) :
    unescape? letter = some c := by
  unfold escapeLetter? at escaped
  split at escaped <;> cases escaped <;> rfl

private theorem readString_letter {c letter : Char} (meaning : unescape? letter = some c)
    (rest : List Char) :
    readString ('\\' :: letter :: rest) = (readString rest).map (prepend c) := by
  have notNumber : letter ≠ 'u' := by
    intro isNumber
    rw [isNumber] at meaning
    cases meaning
  rw [readString]
  · rw [meaning]
    cases readString rest <;> rfl
  · intro a b d e others isNumber
    exact absurd isNumber notNumber

private theorem hexDigit?_digitChar :
    ∀ digit : Fin 16, hexDigit? (Nat.digitChar digit) = some digit.val := by
  decide

private theorem hexQuad?_digitChar {number : Nat} (small : number < 256) :
    hexQuad? '0' '0' (Nat.digitChar (number / 16)) (Nat.digitChar (number % 16)) = some number := by
  have upper := hexDigit?_digitChar ⟨number / 16, by omega⟩
  have lower := hexDigit?_digitChar ⟨number % 16, by omega⟩
  have zero : hexDigit? '0' = some 0 := rfl
  dsimp only at upper lower
  simp only [hexQuad?, upper, lower, zero, Option.bind_eq_bind, Option.bind_some, Option.pure_def,
    Option.some.injEq]
  omega

private theorem readString_number {c : Char} (control : c.toNat < 0x20) (rest : List Char) :
    readString
        ('\\' :: 'u' :: '0' :: '0' :: Nat.digitChar (c.toNat / 16) ::
          Nat.digitChar (c.toNat % 16) :: rest) =
      (readString rest).map (prepend c) := by
  rw [readString, hexQuad?_digitChar (by omega)]
  have notHigh : ¬(0xD800 ≤ c.toNat ∧ c.toNat < 0xDC00) := by omega
  have notLow : ¬(0xDC00 ≤ c.toNat ∧ c.toNat < 0xE000) := by omega
  simp only [Option.bind_eq_bind, Option.bind_some, if_neg notHigh, if_neg notLow, Char.ofNat_toNat]
  cases readString rest <;> rfl

private theorem readString_plain {c : Char} (printable : 0x20 ≤ c.toNat) (notQuote : c ≠ '"')
    (notBackslash : c ≠ '\\') (rest : List Char) :
    readString (c :: rest) = (readString rest).map (prepend c) := by
  have accepted : ¬(c.toNat < 0x20 ∨ c = '\\') := by
    intro either
    rcases either with control | backslash
    · omega
    · exact notBackslash backslash
  rw [readString]
  · rw [if_neg accepted]
    cases readString rest <;> rfl
  · exact notQuote
  · intro a b d e others backslash
    exact absurd backslash notBackslash
  · intro letter others backslash
    exact absurd backslash notBackslash

private theorem readString_writeChar (c : Char) (rest : List Char) :
    readString (writeChar c ++ rest) = (readString rest).map (prepend c) := by
  rw [writeChar]
  cases escaped : escapeLetter? c with
  | some letter => exact readString_letter (unescape?_of_escapeLetter? escaped) rest
  | none =>
      dsimp only
      split
      case isTrue control => exact readString_number control rest
      case isFalse printable =>
        have notQuote : c ≠ '"' := by
          intro quote
          rw [quote] at escaped
          cases escaped
        have notBackslash : c ≠ '\\' := by
          intro backslash
          rw [backslash] at escaped
          cases escaped
        exact readString_plain (by omega) notQuote notBackslash rest

theorem readString_flatMap_writeChar (text rest : List Char) :
    readString (text.flatMap writeChar ++ '"' :: rest) = some (text, rest) := by
  induction text with
  | nil => rw [List.flatMap_nil, List.nil_append, readString]
  | cons c others induction =>
      rw [List.flatMap_cons, List.append_assoc, readString_writeChar, induction]
      rfl

theorem readValue_writeString (fuel depth : Nat) (text : String) (rest : List Char) :
    readValue (fuel + 1) depth (writeString text ++ rest) = some (.string text, rest) := by
  have quoted (body : List Char) :
      readValue (fuel + 1) depth ('"' :: body) =
        (readString body).bind fun found => some (.string (String.ofList found.1), found.2) := by
    have first : skipBlanks ('"' :: body) = '"' :: body := rfl
    rw [readValue, first]
    rfl
  rw [writeString, List.append_assoc, List.cons_append, quoted, List.singleton_append,
    readString_flatMap_writeChar, Option.bind_some, String.ofList_toList]

theorem parse?_writeString (text : String) :
    parse? (String.ofList (writeString text)) = some (.string text) := by
  have whole := readValue_writeString (2 * (writeString text).length + 1) maxDepth text []
  rw [List.append_nil] at whole
  rw [parse?, String.toList_ofList, whole]
  rfl

end HostValue.Json
