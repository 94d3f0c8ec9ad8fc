import HostValue.Proofs.Yaml.Scalar.DoubleQuoted
import HostValue.Proofs.Yaml.Scalar.Literal
import HostValue.Proofs.Yaml.Scalar.SingleQuoted

/-!
# What is written of a text

In what style a text is written and what that says of the text. All that is written may stand in a text
of YAML, and what is written of a key without a mark is short enough for a colon to make it a key.
-/

namespace HostValue.Yaml

/-! ### Styles -/

inductive Styled (text : List Char) : Style → Prop where
  | plain (isText : readsAsText text = true) (allowed : allowsPlain text = true) :
      Styled text .plain
  | singleQuoted (noFeed : '\n' ∉ text) (allowed : allowsSingleQuotes text = true) :
      Styled text .singleQuoted
  | doubleQuoted : Styled text .doubleQuoted
  | literal (feed : '\n' ∈ text) (allowed : allowsLiteral text = true) : Styled text .literal

theorem styled_ofText (text : List Char) : Styled text (Style.ofText text) := by
  rw [Style.ofText]
  split
  case isTrue feed =>
    split
    case isTrue allowed => exact .literal (List.contains_iff_mem.mp feed) allowed
    case isFalse => exact .doubleQuoted
  case isFalse noFeed =>
    split
    case isTrue both =>
      rw [Bool.and_eq_true] at both
      exact .plain both.1 both.2
    case isFalse =>
      split
      case isTrue allowed => exact .singleQuoted (mt List.contains_iff_mem.mpr noFeed) allowed
      case isFalse => exact .doubleQuoted

theorem needsEscapes_of_allowsPlain {text : List Char} (allowed : allowsPlain text = true) :
    needsEscapes text = false := by
  simp only [allowsPlain, Bool.and_eq_true, Bool.not_eq_true'] at allowed
  exact allowed.1.1.1.2

private theorem Styled.noEscapes {text : List Char} {style : Style} (styled : Styled text style)
    (direct : style ≠ .doubleQuoted) : needsEscapes text = false := by
  cases styled with
  | plain _ allowed => exact needsEscapes_of_allowsPlain allowed
  | singleQuoted _ allowed => exact needsEscapes_of_allowsSingleQuotes allowed
  | doubleQuoted => exact absurd rfl direct
  | literal _ allowed => exact needsEscapes_of_allowsLiteral allowed

/-! ### Characters of ASCII -/

def IsAscii (c : Char) : Prop :=
  0x20 ≤ c.toNat ∧ c.toNat ≤ 0x7E

instance (c : Char) : Decidable (IsAscii c) :=
  inferInstanceAs (Decidable (_ ∧ _))

private theorem IsAscii.isAllowed {c : Char} (ascii : IsAscii c) : isAllowed c = true := by
  obtain ⟨low, high⟩ := ascii
  simp [Yaml.isAllowed, low, high]

theorem IsAscii.utf8Size {c : Char} (ascii : IsAscii c) : c.utf8Size = 1 := by
  rw [Char.utf8Size_eq_one_iff, UInt32.le_iff_toNat_le]
  exact Nat.le_succ_of_le ascii.2

private theorem isAscii_digit : ∀ digit : Fin 16, IsAscii (Nat.digitChar digit).toUpper := by
  decide

private theorem isAscii_toDigits (n : Nat) :
    ∀ c ∈ (Nat.toDigits 16 n).map Char.toUpper, IsAscii c := by
  induction n using Nat.strongRecOn with
  | ind n ih =>
      rw [Nat.toDigits_eq_if (by decide)]
      split
      case isTrue small =>
        rw [List.map_singleton, List.forall_mem_singleton]
        exact isAscii_digit ⟨n, small⟩
      case isFalse large =>
        rw [List.map_append, List.map_singleton, List.forall_mem_append, List.forall_mem_singleton]
        exact ⟨ih (n / 16) (by omega), isAscii_digit ⟨n % 16, Nat.mod_lt n (by decide)⟩⟩

theorem isAscii_hexDigits (width n : Nat) : ∀ c ∈ hexDigits width n, IsAscii c := by
  rw [hexDigits, List.forall_mem_append]
  refine ⟨fun c member => ?_, isAscii_toDigits n⟩
  rw [List.eq_of_mem_replicate member]
  decide

theorem isAscii_of_escapeLetter? {c letter : Char} (escaped : escapeLetter? c = some letter) :
    IsAscii letter := by
  unfold escapeLetter? at escaped
  split at escaped <;> cases escaped <;> decide

/-! ### Allowed characters -/

theorem all_isAllowed_spaces (spaces : Nat) : (List.replicate spaces ' ').all isAllowed = true := by
  rw [List.all_eq_true]
  intro c member
  rw [List.eq_of_mem_replicate member]
  rfl

theorem all_isAllowed_indent (indentation : Nat) (isStart : Bool) :
    (indent indentation isStart).all isAllowed = true := by
  cases isStart with
  | false => rfl
  | true => exact all_isAllowed_spaces indentation

theorem all_isAllowed_of_needsEscapes {text : List Char} (none : needsEscapes text = false) :
    text.all isAllowed = true :=
  List.all_eq_true.mpr fun c member => isAllowed_of_isPrintable (isPrintable_of_needsEscapes none c member)

private theorem all_isAllowed_escape (c : Char) : (escape c).all isAllowed = true := by
  rw [List.all_eq_true, escape]
  split
  case h_1 letter escaped =>
    rw [List.forall_mem_cons, List.forall_mem_singleton]
    exact ⟨rfl, (isAscii_of_escapeLetter? escaped).isAllowed⟩
  case h_2 =>
    split
    case isTrue printable =>
      rw [List.forall_mem_singleton]
      exact isAllowed_of_isPrintable printable
    case isFalse =>
      split
      all_goals
        rw [List.forall_mem_cons, List.forall_mem_cons]
        exact ⟨rfl, rfl, fun d member => (isAscii_hexDigits _ _ d member).isAllowed⟩

theorem all_isAllowed_indentLines {text : List Char} (allowed : text.all isAllowed = true)
    (indentation : Nat) (isStart : Bool) :
    (indentLines indentation isStart text).all isAllowed = true := by
  induction text generalizing isStart with
  | nil => rfl
  | cons c rest ih =>
      rw [List.all_cons, Bool.and_eq_true] at allowed
      obtain ⟨first, others⟩ := allowed
      by_cases breaks : isBreak c = true
      · rw [indentLines_break breaks, List.all_cons, first, ih others, Bool.and_true]
      · rw [Bool.not_eq_true] at breaks
        rw [indentLines_char breaks, List.all_append, List.all_cons, all_isAllowed_indent, first,
          ih others, Bool.and_true, Bool.and_true]

private theorem all_isAllowed_literalHeader (text : List Char) :
    (literalHeader text).all isAllowed = true := by
  rw [literalHeader_eq]
  cases hidesIndentation text <;> cases chompingOf text.reverse <;> rfl

private theorem all_isAllowed_writeSingleQuoted {text : List Char}
    (allowed : text.all isAllowed = true)
    (indentation : Nat) : (writeSingleQuoted indentation text).all isAllowed = true := by
  have doubled : (text.flatMap doubleQuote).all isAllowed = true := by
    rw [List.all_flatMap, List.all_eq_true]
    intro c member
    rw [doubleQuote]
    split
    · rfl
    · rw [List.all_cons, List.all_eq_true.mp allowed c member]
      rfl
  rw [writeSingleQuoted_eq, quotedRest, List.all_cons, List.all_append, List.all_append,
    all_isAllowed_indentLines doubled, all_isAllowed_indent]
  rfl

theorem all_isAllowed_writeScalar (indentation : Nat) (text : List Char) :
    (writeScalar indentation text).all isAllowed = true := by
  have styled := styled_ofText text
  rw [writeScalar]
  generalize Style.ofText text = style at styled
  cases style with
  | plain => exact all_isAllowed_of_needsEscapes (styled.noEscapes (by decide))
  | singleQuoted =>
      exact all_isAllowed_writeSingleQuoted
        (all_isAllowed_of_needsEscapes (styled.noEscapes (by decide))) indentation
  | doubleQuoted =>
      have escaped : text.all (fun c => (escape c).all isAllowed) = true :=
        List.all_eq_true.mpr fun c _ => all_isAllowed_escape c
      dsimp only
      rw [writeDoubleQuoted, List.all_append, List.all_cons, List.all_flatMap, escaped]
      rfl
  | literal =>
      dsimp only
      rw [writeLiteral, List.all_append, List.all_cons, all_isAllowed_literalHeader,
        all_isAllowed_indentLines (all_isAllowed_of_needsEscapes (styled.noEscapes (by decide)))]
      rfl

/-! ### Sizes -/

def byteSize (text : List Char) : Nat :=
  (String.ofList text).utf8ByteSize

theorem byteSize_cons (c : Char) (text : List Char) :
    byteSize (c :: text) = c.utf8Size + byteSize text := by
  rw [byteSize, String.ofList_cons, String.utf8ByteSize_append, String.utf8ByteSize_singleton, byteSize]

theorem byteSize_append (text rest : List Char) :
    byteSize (text ++ rest) = byteSize text + byteSize rest := by
  rw [byteSize, String.ofList_append, String.utf8ByteSize_append, byteSize, byteSize]

theorem byteSize_singleton (c : Char) : byteSize [c] = c.utf8Size :=
  byteSize_cons c []

private theorem byteSize_of_isAscii {text : List Char} (ascii : ∀ c ∈ text, IsAscii c) :
    byteSize text = text.length := by
  induction text with
  | nil => rfl
  | cons c rest ih =>
      obtain ⟨first, others⟩ := List.forall_mem_cons.mp ascii
      rw [byteSize_cons, first.utf8Size, ih others, List.length_cons, Nat.add_comm]

theorem byteSize_flatMap_le {write : Char → List Char}
    (bound : ∀ c, byteSize (write c) ≤ 4 * c.utf8Size) (text : List Char) :
    byteSize (text.flatMap write) ≤ 4 * byteSize text := by
  induction text with
  | nil => exact Nat.le_refl _
  | cons c rest ih =>
      have first := bound c
      rw [List.flatMap_cons, byteSize_append, byteSize_cons]
      omega

private theorem byteSize_escape_le (c : Char) : byteSize (escape c) ≤ 4 * c.utf8Size := by
  have some : 0 < c.utf8Size := c.utf8Size_pos
  have backslash : Char.utf8Size '\\' = 1 := rfl
  have x : Char.utf8Size 'x' = 1 := rfl
  have u : Char.utf8Size 'u' = 1 := rfl
  rw [escape]
  split
  case h_1 letter escaped =>
    rw [byteSize_cons, byteSize_singleton, (isAscii_of_escapeLetter? escaped).utf8Size]
    omega
  case h_2 =>
    split
    case isTrue printable =>
      rw [byteSize_singleton]
      omega
    case isFalse hidden =>
      rw [Bool.not_eq_true] at hidden
      have high := toNat_le_of_not_isPrintable hidden
      split
      case isTrue low =>
        rw [byteSize_cons, byteSize_cons, byteSize_of_isAscii (isAscii_hexDigits _ _),
          length_hexDigits (by decide) (Nat.lt_succ_of_le low)]
        omega
      case isFalse wide =>
        have two : c.utf8Size ≠ 1 := by
          rw [Ne, Char.utf8Size_eq_one_iff, UInt32.le_iff_toNat_le]
          change ¬c.toNat ≤ 127
          omega
        rw [byteSize_cons, byteSize_cons, byteSize_of_isAscii (isAscii_hexDigits _ _),
          length_hexDigits (by decide) (Nat.lt_succ_of_le high)]
        omega

/-! ### Keys without a mark -/

section SimpleKey

variable {key : List Char}

theorem noBreaks_of_isSimpleKey (simple : isSimpleKey key = true) : ∀ c ∈ key, isBreak c = false := by
  rw [isSimpleKey, Bool.and_eq_true, Bool.not_eq_true', List.any_eq_false] at simple
  exact fun c member => Bool.eq_false_iff.mpr (simple.1 c member)

private theorem byteSize_of_isSimpleKey (simple : isSimpleKey key = true) :
    byteSize key ≤ maxPlainKey := by
  rw [isSimpleKey, Bool.and_eq_true, decide_eq_true_eq] at simple
  exact simple.2

private theorem byteSize_writeSingleQuoted_le (noBreaks : ∀ c ∈ key, isBreak c = false)
    (indentation : Nat) :
    byteSize (writeSingleQuoted indentation key) ≤ 4 * byteSize key + 2 := by
  have quote : Char.utf8Size '\'' = 1 := rfl
  have doubled : byteSize (key.flatMap doubleQuote) ≤ 4 * byteSize key := by
    refine byteSize_flatMap_le (fun c => ?_) key
    have some : 0 < c.utf8Size := c.utf8Size_pos
    rw [doubleQuote]
    split
    case isTrue =>
      rw [byteSize_cons, byteSize_singleton]
      omega
    case isFalse =>
      rw [byteSize_singleton]
      omega
  rw [writeSingleQuoted_eq, (quotedRest_inLine noBreaks indentation).1, byteSize_cons,
    byteSize_append, byteSize_singleton]
  omega

theorem byteSize_writeScalar_le (simple : isSimpleKey key = true) (indentation : Nat) :
    byteSize (writeScalar indentation key) ≤ 4 * maxPlainKey + 2 := by
  have size := byteSize_of_isSimpleKey simple
  have noBreaks := noBreaks_of_isSimpleKey simple
  have styled := styled_ofText key
  rw [writeScalar]
  generalize Style.ofText key = style at styled
  cases styled with
  | plain =>
      dsimp only
      omega
  | singleQuoted =>
      have written := byteSize_writeSingleQuoted_le noBreaks indentation
      dsimp only
      omega
  | doubleQuoted =>
      have quote : Char.utf8Size '"' = 1 := rfl
      have escaped := byteSize_flatMap_le byteSize_escape_le key
      dsimp only
      rw [writeDoubleQuoted, byteSize_append, byteSize_cons, byteSize_singleton]
      omega
  | literal feed => cases noBreaks _ feed

end SimpleKey

end HostValue.Yaml
