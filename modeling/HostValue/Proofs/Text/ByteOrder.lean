/-!
# The order of texts by their bytes

Texts are compared by their characters. Their encodings in bytes are compared byte by byte with the
same outcome: of two characters the smaller one has the smaller encoding, and no encoding of a
character continues another one.
-/

namespace HostValue.Text

def bytes (text : String) : List UInt8 :=
  text.toUTF8.data.toList

private theorem bytes_eq_flatMap (text : String) :
    bytes text = text.toList.flatMap String.utf8EncodeChar := by
  rw [bytes, String.toUTF8_eq_toByteArray, ← String.utf8Encode_toList, List.utf8Encode,
    List.toList_data_toByteArray]

/-! ### The bytes of one character -/

/-- How many bytes follow the first byte of the character with a number. -/
def trailing (number : Nat) : Nat :=
  if number ≤ 0x7F then 0 else if number ≤ 0x7FF then 1 else if number ≤ 0xFFFF then 2 else 3

/-- What the first byte holds beside digits when that many bytes follow. -/
def mark : Nat → Nat
  | 0 => 0
  | 1 => 0xC0
  | 2 => 0xE0
  | _ => 0xF0

def unit : Nat → Nat
  | 0 => 1
  | count + 1 => unit count * 64

/-- The first byte: the mark, and the part of the number that the others leave over. -/
def leadByte (number : Nat) : Nat :=
  mark (trailing number) + number / unit (trailing number)

/-- The other bytes hold the last digits of the number in base sixty-four. -/
def trail : Nat → Nat → List UInt8
  | 0, _ => []
  | count + 1, number => UInt8.ofNat (number / unit count % 64 + 128) :: trail count number

theorem trailing_cases (number : Nat) :
    (trailing number = 0 ∧ number ≤ 0x7F) ∨
      (trailing number = 1 ∧ 0x7F < number ∧ number ≤ 0x7FF) ∨
        (trailing number = 2 ∧ 0x7FF < number ∧ number ≤ 0xFFFF) ∨
          (trailing number = 3 ∧ 0xFFFF < number) := by
  unfold trailing
  repeat' split
  all_goals omega

theorem toNat_bound (c : Char) : c.toNat < 0x110000 := by
  have valid : Nat.isValidChar c.toNat := c.valid
  unfold Nat.isValidChar at valid
  omega

theorem utf8EncodeChar_eq (c : Char) :
    String.utf8EncodeChar c =
      UInt8.ofNat (leadByte c.toNat) :: trail (trailing c.toNat) c.toNat := by
  have bound := toNat_bound c
  rw [leadByte]
  change (if c.toNat ≤ 0x7F then _ else if c.toNat ≤ 0x7FF then _ else
    if c.toNat ≤ 0xFFFF then _ else _) = _
  rcases trailing_cases c.toNat with
    ⟨count, high⟩ | ⟨count, low, high⟩ | ⟨count, low, high⟩ | ⟨count, low⟩
  · rw [count, if_pos high]
    change [UInt8.ofNat c.toNat] = [UInt8.ofNat (0 + c.toNat / 1)]
    rw [Nat.zero_add, Nat.div_one]
  · rw [count, if_neg (by omega), if_pos high]
    change [UInt8.ofNat (c.toNat / 64 % 0x20 + 0xC0), UInt8.ofNat (c.toNat % 64 + 128)] =
      [UInt8.ofNat (0xC0 + c.toNat / 64), UInt8.ofNat (c.toNat / 1 % 64 + 128)]
    rw [Nat.mod_eq_of_lt (by omega), Nat.add_comm 0xC0, Nat.div_one]
  · rw [count, if_neg (by omega), if_neg (by omega), if_pos high]
    change [UInt8.ofNat (c.toNat / 4096 % 0x10 + 0xE0), UInt8.ofNat (c.toNat / 64 % 64 + 128),
        UInt8.ofNat (c.toNat % 64 + 128)] =
      [UInt8.ofNat (0xE0 + c.toNat / 4096), UInt8.ofNat (c.toNat / 64 % 64 + 128),
        UInt8.ofNat (c.toNat / 1 % 64 + 128)]
    rw [Nat.mod_eq_of_lt (by omega), Nat.add_comm 0xE0, Nat.div_one]
  · rw [count, if_neg (by omega), if_neg (by omega), if_neg (by omega)]
    change [UInt8.ofNat (c.toNat / 262144 % 0x08 + 0xF0), UInt8.ofNat (c.toNat / 4096 % 64 + 128),
        UInt8.ofNat (c.toNat / 64 % 64 + 128), UInt8.ofNat (c.toNat % 64 + 128)] =
      [UInt8.ofNat (0xF0 + c.toNat / 262144), UInt8.ofNat (c.toNat / 4096 % 64 + 128),
        UInt8.ofNat (c.toNat / 64 % 64 + 128), UInt8.ofNat (c.toNat / 1 % 64 + 128)]
    rw [Nat.mod_eq_of_lt (by omega), Nat.add_comm 0xF0, Nat.div_one]

theorem byte_lt {small large : Nat} (less : small < large) (bound : large < 256) :
    UInt8.ofNat small < UInt8.ofNat large := by
  rw [UInt8.lt_iff_toNat_lt, UInt8.toNat_ofNat_of_lt' bound,
    UInt8.toNat_ofNat_of_lt' (Nat.lt_trans less bound)]
  exact less

theorem quotient_cases {small large : Nat} (base : Nat) (less : small < large) :
    small / base < large / base ∨
      (small / base = large / base ∧ small % base < large % base) := by
  have ordered : small / base ≤ large / base := Nat.div_le_div_right (Nat.le_of_lt less)
  rcases Nat.lt_or_eq_of_le ordered with below | same
  · exact Or.inl below
  · have smallParts := Nat.div_add_mod small base
    have largeParts := Nat.div_add_mod large base
    rw [same] at smallParts
    exact Or.inr ⟨same, by omega⟩

private theorem trail_append_lt {count small large : Nat}
    (less : small % unit count < large % unit count) (rest tail : List UInt8) :
    trail count small ++ rest < trail count large ++ tail := by
  induction count with
  | zero =>
      rw [unit, Nat.mod_one, Nat.mod_one] at less
      exact absurd less (Nat.lt_irrefl 0)
  | succ count ih =>
      rw [unit] at less
      have digits := quotient_cases (unit count) less
      rw [Nat.mod_mul_right_div_self, Nat.mod_mul_right_div_self, Nat.mod_mul_right_mod,
        Nat.mod_mul_right_mod] at digits
      rw [trail, trail, List.cons_append, List.cons_append, List.cons_lt_cons_iff]
      rcases digits with below | ⟨same, others⟩
      · exact Or.inl (byte_lt (by omega) (by omega))
      · exact Or.inr ⟨by rw [same], ih others⟩

theorem leadByte_range {number : Nat} (bound : number < 0x110000) :
    (trailing number = 0 ∧ leadByte number < 0x80) ∨
      (trailing number = 1 ∧ 0xC0 ≤ leadByte number ∧ leadByte number < 0xE0) ∨
        (trailing number = 2 ∧ 0xE0 ≤ leadByte number ∧ leadByte number < 0xF0) ∨
          (trailing number = 3 ∧ 0xF0 ≤ leadByte number ∧ leadByte number < 0x100) := by
  rw [leadByte]
  rcases trailing_cases number with
    ⟨count, high⟩ | ⟨count, low, high⟩ | ⟨count, low, high⟩ | ⟨count, low⟩
  · rw [count]
    have byte : 0 + number / 1 < 0x80 := by omega
    exact Or.inl ⟨rfl, byte⟩
  · rw [count]
    have byte : 0xC0 ≤ 0xC0 + number / 64 ∧ 0xC0 + number / 64 < 0xE0 := by omega
    exact Or.inr (Or.inl ⟨rfl, byte⟩)
  · rw [count]
    have byte : 0xE0 ≤ 0xE0 + number / 4096 ∧ 0xE0 + number / 4096 < 0xF0 := by omega
    exact Or.inr (Or.inr (Or.inl ⟨rfl, byte⟩))
  · rw [count]
    have byte : 0xF0 ≤ 0xF0 + number / 262144 ∧ 0xF0 + number / 262144 < 0x100 := by omega
    exact Or.inr (Or.inr (Or.inr ⟨rfl, byte⟩))

private theorem leadByte_cases {small large : Nat} (less : small < large)
    (bound : large < 0x110000) :
    leadByte small < leadByte large ∨
      (leadByte small = leadByte large ∧ trailing small = trailing large ∧
        small % unit (trailing large) < large % unit (trailing large)) := by
  by_cases counts : trailing small = trailing large
  · have parts := quotient_cases (unit (trailing large)) less
    rw [leadByte, leadByte, counts]
    omega
  · have smallCases := trailing_cases small
    have largeCases := trailing_cases large
    have smallRange := leadByte_range (Nat.lt_trans less bound)
    have largeRange := leadByte_range bound
    omega

private theorem utf8EncodeChar_append_lt {c d : Char} (less : c < d) (rest tail : List UInt8) :
    String.utf8EncodeChar c ++ rest < String.utf8EncodeChar d ++ tail := by
  have numbers : c.toNat < d.toNat := less
  have bound := toNat_bound d
  have range := leadByte_range bound
  rw [utf8EncodeChar_eq, utf8EncodeChar_eq, List.cons_append, List.cons_append,
    List.cons_lt_cons_iff]
  rcases leadByte_cases numbers bound with below | ⟨same, counts, digits⟩
  · exact Or.inl (byte_lt below (by omega))
  · rw [same, counts]
    exact Or.inr ⟨rfl, trail_append_lt digits rest tail⟩

/-! ### The bytes of texts -/

private theorem flatMap_utf8EncodeChar_lt {left right : List Char} (less : left < right) :
    left.flatMap String.utf8EncodeChar < right.flatMap String.utf8EncodeChar := by
  induction left generalizing right with
  | nil =>
      cases right with
      | nil => exact absurd less (List.lt_irrefl [])
      | cons d tail =>
          rw [List.flatMap_cons, utf8EncodeChar_eq]
          exact List.nil_lt_cons _ _
  | cons c rest ih =>
      cases right with
      | nil => exact absurd less (List.not_lt_nil _)
      | cons d tail =>
          rw [List.flatMap_cons, List.flatMap_cons]
          rcases List.cons_lt_cons_iff.mp less with below | ⟨same, others⟩
          · exact utf8EncodeChar_append_lt below _ _
          · rw [same]
            exact List.append_left_lt (ih others)

private theorem bytes_lt_of_lt {left right : String} (less : left < right) :
    bytes left < bytes right := by
  rw [bytes_eq_flatMap, bytes_eq_flatMap]
  exact flatMap_utf8EncodeChar_lt less

theorem lt_iff_bytes_lt {left right : String} : left < right ↔ bytes left < bytes right := by
  constructor
  · exact bytes_lt_of_lt
  · intro less
    by_cases below : left < right
    · exact below
    · have notGreater : ¬right < left := by
        intro greater
        exact absurd (List.lt_trans less (bytes_lt_of_lt greater)) (List.lt_irrefl _)
      have same : left = right :=
        String.le_antisymm (String.not_lt.mp notGreater) (String.not_lt.mp below)
      rw [same] at less
      exact absurd less (List.lt_irrefl _)

theorem compare_eq_lt_iff {left right : String} :
    compare left right = .lt ↔ bytes left < bytes right :=
  Iff.trans compareOfLessAndEq_eq_lt lt_iff_bytes_lt

private theorem compareLex_eq_lt_iff {left right : List UInt8} :
    List.compareLex compare left right = .lt ↔ left < right := by
  induction left generalizing right with
  | nil =>
      cases right with
      | nil => exact iff_of_false nofun (List.lt_irrefl [])
      | cons byte rest => exact iff_of_true rfl (List.nil_lt_cons byte rest)
  | cons byte rest ih =>
      cases right with
      | nil => exact iff_of_false nofun (List.not_lt_nil _)
      | cons other others =>
          rw [List.compareLex_cons_cons, Ordering.then_eq_lt, Std.compare_eq_lt,
            Std.compare_eq_iff_eq, ih, List.cons_lt_cons_iff]

theorem compare_eq_compare_bytes (left right : String) :
    compare left right = compare (bytes left) (bytes right) := by
  have less (first second : String) (below : compare first second = .lt) :
      compare (bytes first) (bytes second) = .lt := by
    rw [List.compare_eq_compareLex, compareLex_eq_lt_iff]
    exact compare_eq_lt_iff.mp below
  cases texts : compare left right with
  | lt => exact (less left right texts).symm
  | eq => rw [Std.compare_eq_iff_eq.mp texts, Std.ReflOrd.compare_self]
  | gt =>
      have back := less right left (Std.OrientedCmp.gt_iff_lt.mp texts)
      exact (Std.OrientedCmp.gt_iff_lt.mpr back).symm

end HostValue.Text
