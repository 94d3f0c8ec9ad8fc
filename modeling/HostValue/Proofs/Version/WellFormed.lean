import HostValue.Proofs.Number.Numeral
import HostValue.Version.Grammar

/-!
# Well-formed versions

A version may hold any texts as identifiers. Well-formed versions hold those that a version text can
carry: identifiers of digits, letters and hyphens, never an empty one, and no text of digits alone
in the place of a numeric identifier. The text of a version is cut here into its three numbers and the
suffix with the identifiers.
-/

namespace HostValue.Version

def IdentifierChar (c : Char) : Prop :=
  ('0' ≤ c ∧ c ≤ '9') ∨ ('A' ≤ c ∧ c ≤ 'Z') ∨ ('a' ≤ c ∧ c ≤ 'z') ∨ c = '-'

def IsIdentifier (text : List Char) : Prop :=
  text ≠ [] ∧ ∀ c ∈ text, IdentifierChar c

/-- A text in a pre-release is an identifier with a character that is no digit. -/
def WellFormedPre : PreRelease → Prop
  | .numeric _ => True
  | .alphanumeric text =>
      IsIdentifier text.toList ∧ ∃ c ∈ text.toList, ¬('0' ≤ c ∧ c ≤ '9')

/-- Every identifier of the version is one that a version text can carry. -/
structure WellFormed (version : Version) : Prop where
  pre : ∀ identifier ∈ version.pre, WellFormedPre identifier
  build : ∀ identifier ∈ version.build, IsIdentifier identifier.toList

instance (c : Char) : Decidable (IdentifierChar c) :=
  inferInstanceAs (Decidable (_ ∨ _))

-- The characters of the text are run through, not all characters there are.
instance (text : List Char) : Decidable (IsIdentifier text) :=
  @instDecidableAnd _ _ inferInstance (List.decidableBAll IdentifierChar text)

instance (identifier : PreRelease) : Decidable (WellFormedPre identifier) :=
  match identifier with
  | .numeric _ => inferInstanceAs (Decidable True)
  | .alphanumeric text =>
      @instDecidableAnd _ _ inferInstance
        (List.decidableBEx (fun c => ¬('0' ≤ c ∧ c ≤ '9')) text.toList)

instance (version : Version) : Decidable version.WellFormed :=
  decidable_of_iff
    ((∀ identifier ∈ version.pre, WellFormedPre identifier) ∧
      ∀ identifier ∈ version.build, IsIdentifier identifier.toList)
    ⟨fun both => ⟨both.1, both.2⟩, fun wellFormed => ⟨wellFormed.pre, wellFormed.build⟩⟩

theorem wellFormed_of_empty {version : Version} (pre : version.pre = [])
    (build : version.build = []) : version.WellFormed := by
  constructor
  · rw [pre]
    exact fun _ member => absurd member List.not_mem_nil
  · rw [build]
    exact fun _ member => absurd member List.not_mem_nil

theorem isIdentifierChar_iff (c : Char) : isIdentifierChar c = true ↔ IdentifierChar c := by
  have upper : c.isUpper = true ↔ 'A' ≤ c ∧ c ≤ 'Z' := by
    change decide _ = true ↔ _
    exact decide_eq_true_iff
  have lower : c.isLower = true ↔ 'a' ≤ c ∧ c ≤ 'z' := by
    change (decide _ && decide _) = true ↔ _
    rw [Bool.and_eq_true, decide_eq_true_iff, decide_eq_true_iff]
    exact Iff.rfl
  have letters : c.isAlpha = (c.isUpper || c.isLower) := rfl
  simp only [isIdentifierChar, letters, Bool.or_eq_true, beq_iff_eq, upper, lower, isDigit_iff,
    IdentifierChar, or_assoc]
  rw [or_left_comm (a := 'a' ≤ c ∧ c ≤ 'z'), or_left_comm (a := 'A' ≤ c ∧ c ≤ 'Z')]

/-! ### The characters of identifiers -/

theorem identifierChar_digit {c : Char} (digit : c.isDigit = true) : IdentifierChar c := by
  apply (isIdentifierChar_iff c).mp
  simp [isIdentifierChar, digit]

theorem not_identifierChar_point : ¬IdentifierChar '.' := by
  decide

/-! ### The text of a version in parts -/

def marked (mark : Char) (identifiers : List (List Char)) : List Char :=
  if identifiers = [] then [] else mark :: ['.'].intercalate identifiers

def suffix (pre : List PreRelease) (build : List String) : List Char :=
  marked '-' (pre.map (·.render.toList)) ++ marked '+' (build.map String.toList)

private theorem marked_eq_nil_iff {mark : Char} {identifiers : List (List Char)} :
    marked mark identifiers = [] ↔ identifiers = [] := by
  rw [marked]
  split <;> simp_all

theorem suffix_eq_nil_iff {pre : List PreRelease} {build : List String} :
    suffix pre build = [] ↔ pre = [] ∧ build = [] := by
  rw [suffix, List.append_eq_nil_iff, marked_eq_nil_iff, marked_eq_nil_iff, List.map_eq_nil_iff,
    List.map_eq_nil_iff]

theorem two_le_length_marked (mark : Char) {identifiers : List (List Char)}
    (filled : ∀ identifier ∈ identifiers, identifier ≠ []) (nonempty : identifiers ≠ []) :
    2 ≤ (marked mark identifiers).length := by
  rw [marked, if_neg nonempty]
  cases identifiers with
  | nil => exact absurd rfl nonempty
  | cons identifier rest =>
      have first := List.length_pos_iff.mpr (filled identifier List.mem_cons_self)
      cases rest with
      | nil =>
          rw [List.intercalate_singleton, List.length_cons]
          omega
      | cons next others =>
          rw [List.intercalate_cons_cons, List.length_cons, List.length_append, List.length_append]
          omega

theorem mem_intercalate_point {pieces : List (List Char)} {c : Char}
    (member : c ∈ ['.'].intercalate pieces) : (∃ piece ∈ pieces, c ∈ piece) ∨ c = '.' := by
  induction pieces with
  | nil => cases member
  | cons piece rest ih =>
      cases rest with
      | nil =>
          rw [List.intercalate_singleton] at member
          exact Or.inl ⟨piece, List.mem_cons_self, member⟩
      | cons next others =>
          rw [List.intercalate_cons_cons, List.append_assoc, List.mem_append,
            List.singleton_append, List.mem_cons] at member
          rcases member with held | point | later
          · exact Or.inl ⟨piece, List.mem_cons_self, held⟩
          · exact Or.inr point
          · rcases ih later with ⟨found, listed, held⟩ | point
            · exact Or.inl ⟨found, List.mem_cons_of_mem piece listed, held⟩
            · exact Or.inr point

theorem mem_marked {mark c : Char} {identifiers : List (List Char)}
    (member : c ∈ marked mark identifiers) :
    c = mark ∨ c = '.' ∨ ∃ identifier ∈ identifiers, c ∈ identifier := by
  rw [marked] at member
  split at member
  · cases member
  · rcases List.mem_cons.mp member with isMark | inside
    · exact Or.inl isMark
    · exact Or.inr (mem_intercalate_point inside).symm

def numbered (major minor patch rest : List Char) : List Char :=
  major ++ '.' :: (minor ++ '.' :: (patch ++ rest))

theorem render_toList (version : Version) :
    version.render.toList =
      numbered (Nat.toDigits 10 version.major.toNat) (Nat.toDigits 10 version.minor.toNat)
        (Nat.toDigits 10 version.patch.toNat) (suffix version.pre version.build) := by
  have preText :
      (if version.pre.isEmpty then "" else
          "-" ++ ".".intercalate (version.pre.map PreRelease.render)).toList =
        marked '-' (version.pre.map (·.render.toList)) := by
    cases version.pre with
    | nil => rfl
    | cons first rest => simp [marked, Function.comp_def]
  have buildText :
      (if version.build.isEmpty then "" else "+" ++ ".".intercalate version.build).toList =
        marked '+' (version.build.map String.toList) := by
    cases version.build with
    | nil => rfl
    | cons first rest => simp [marked]
  simp only [render, String.toList_append, preText, buildText, renderNat, String.toList_ofList,
    numbered, suffix]
  simp [List.append_assoc]

end HostValue.Version
