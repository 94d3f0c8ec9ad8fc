import HostValue.Proofs.Number.Numeral
import HostValue.Proofs.Outcome
import HostValue.Proofs.Text.Run
import HostValue.Proofs.Version.WellFormed

/-!
# Reading versions in the strict form

What each reader of the strict grammar accepts, stated as the text that it takes off the front. The
readers are deterministic, so every statement is an equivalence: a reader succeeds exactly on texts
that begin with the canonical text of its result and do not continue it.
-/

namespace HostValue.Version

open Text

/-! ### Numbers and points -/

private theorem eq_toDigits_of_readNumber {place : Place} {text rest : List Char}
    {number : UInt64} (accepted : readNumber place text = .ok (number, rest)) :
    text = Nat.toDigits 10 number.toNat ++ rest ∧ EndsRun Char.isDigit rest := by
  unfold readNumber at accepted
  dsimp only at accepted
  split at accepted
  · split at accepted <;> cases accepted
  · rename_i notEmpty
    split at accepted
    · cases accepted
    · rename_i noZero
      split at accepted
      · rename_i small
        cases accepted
        have numeral : isNumeral (text.takeWhile Char.isDigit) = true := by
          refine (isNumeral_iff _).mpr ⟨?_, List.all_eq_true.mp List.all_takeWhile⟩
          intro empty
          rw [empty] at notEmpty
          exact notEmpty rfl
        have canonical :
            Nat.toDigits 10 (digitsValue (text.takeWhile Char.isDigit)) =
              text.takeWhile Char.isDigit := by
          refine (toDigits_digitsValue_iff numeral).mpr fun zeroFirst => ?_
          exact Nat.le_of_not_lt fun long => noZero ⟨long, zeroFirst⟩
        refine ⟨?_, endsRun_dropWhile Char.isDigit text⟩
        rw [toNat_toUInt64 small, canonical, List.takeWhile_append_dropWhile]
      · cases accepted

private theorem readNumber_toDigits (place : Place) (number : UInt64) {rest : List Char}
    (ends : EndsRun Char.isDigit rest) :
    readNumber place (Nat.toDigits 10 number.toNat ++ rest) = .ok (number, rest) := by
  have digits : ∀ c ∈ Nat.toDigits 10 number.toNat, c.isDigit = true :=
    fun _ => isDigit_of_mem_toDigits
  have canonical :=
    (toDigits_digitsValue_iff (isNumeral_toDigits number.toNat)).mp
      (by rw [digitsValue_toDigits])
  unfold readNumber
  dsimp only
  rw [takeWhile_run digits ends, dropWhile_run digits ends, digitsValue_toDigits,
    if_neg (by simp), if_neg ?_, if_pos number.toNat_lt_size, toUInt64_toNat]
  intro both
  obtain ⟨long, zeroFirst⟩ := both
  have short := canonical zeroFirst
  omega

theorem readNumber_eq_ok_iff {place : Place} {text rest : List Char} {number : UInt64} :
    readNumber place text = .ok (number, rest) ↔
      text = Nat.toDigits 10 number.toNat ++ rest ∧ EndsRun Char.isDigit rest := by
  constructor
  · exact eq_toDigits_of_readNumber
  · intro both
    obtain ⟨textEq, ends⟩ := both
    rw [textEq]
    exact readNumber_toDigits place number ends

theorem readPoint_eq_ok_iff {place : Place} {text rest : List Char} :
    readPoint place text = .ok rest ↔ text = '.' :: rest := by
  constructor
  · intro accepted
    unfold readPoint at accepted
    split at accepted
    · cases accepted
      rfl
    · cases accepted
    · cases accepted
  · intro textEq
    rw [textEq]
    rfl

/-! ### Identifiers -/

private theorem splitPoints_eq_splitOn (text : List Char) :
    splitPoints text = text.splitOn '.' := by
  induction text with
  | nil => rfl
  | cons c rest ih =>
      rw [splitPoints, List.splitOn_cons_eq_if_modifyHead]
      by_cases point : c = '.'
      · rw [if_pos point, if_pos (by rw [point]; decide), ih]
      · rw [if_neg point, if_neg (by simpa using point), ih]
        cases split : rest.splitOn '.' with
        | nil => exact absurd split (List.splitOn_ne_nil _ _)
        | cons piece pieces => rfl

private theorem mem_of_mem_splitOn {text piece : List Char} {c : Char}
    (member : piece ∈ text.splitOn '.')
    (inside : c ∈ piece) : c ∈ text ∧ c ≠ '.' := by
  induction text generalizing piece with
  | nil =>
      rw [List.splitOn_nil, List.mem_singleton] at member
      rw [member] at inside
      cases inside
  | cons first rest ih =>
      rw [List.splitOn_cons_eq_if_modifyHead] at member
      by_cases point : first = '.'
      · rw [if_pos (by rw [point]; decide), List.mem_cons] at member
        rcases member with empty | later
        · rw [empty] at inside
          cases inside
        · have found := ih later inside
          exact ⟨List.mem_cons_of_mem first found.1, found.2⟩
      · rw [if_neg (by simpa using point)] at member
        cases split : rest.splitOn '.' with
        | nil => exact absurd split (List.splitOn_ne_nil _ _)
        | cons head tail =>
            rw [split, List.modifyHead_cons, List.mem_cons] at member
            rw [split] at ih
            rcases member with extended | later
            · rw [extended, List.mem_cons] at inside
              rcases inside with same | older
              · rw [same]
                exact ⟨List.mem_cons_self, point⟩
              · have found := ih List.mem_cons_self older
                exact ⟨List.mem_cons_of_mem first found.1, found.2⟩
            · have found := ih (List.mem_cons_of_mem head later) inside
              exact ⟨List.mem_cons_of_mem first found.1, found.2⟩

def belongs (c : Char) : Bool :=
  isIdentifierChar c || c == '.'

theorem belongs_iff (c : Char) : belongs c = true ↔ IdentifierChar c ∨ c = '.' := by
  rw [belongs, Bool.or_eq_true, isIdentifierChar_iff, beq_iff_eq]

theorem belongs_of_mem_intercalate {identifiers : List (List Char)}
    (inside : ∀ identifier ∈ identifiers, ∀ c ∈ identifier, IdentifierChar c) :
    ∀ c ∈ ['.'].intercalate identifiers, belongs c = true := by
  intro c member
  rw [belongs_iff]
  rcases mem_intercalate_point member with ⟨identifier, listed, held⟩ | point
  · exact Or.inl (inside identifier listed c held)
  · exact Or.inr point

theorem splitOn_intercalate_identifiers {identifiers : List (List Char)}
    (nonempty : identifiers ≠ [])
    (inside : ∀ identifier ∈ identifiers, ∀ c ∈ identifier, IdentifierChar c) :
    (['.'].intercalate identifiers).splitOn '.' = identifiers := by
  apply List.splitOn_intercalate _ _ nonempty
  intro identifier member point
  exact not_identifierChar_point (inside identifier member '.' point)

def Accepted (place : Place) (identifier : List Char) : Prop :=
  checkIdentifier place identifier = .ok () ∧ ∀ c ∈ identifier, IdentifierChar c

theorem checkIdentifier_eq_ok_iff {place : Place} {identifier : List Char} :
    checkIdentifier place identifier = .ok () ↔
      identifier ≠ [] ∧ (place = .pre → isNumeral identifier = true →
        identifier.head? = some '0' → identifier.length ≤ 1) := by
  unfold checkIdentifier
  by_cases empty : identifier = []
  · rw [empty]
    simp
  · rw [if_neg (by simpa using empty)]
    by_cases zero : place = .pre ∧ isNumeral identifier ∧ 1 < identifier.length ∧
        identifier.head? = some '0'
    · rw [if_pos zero]
      constructor
      · intro failed
        cases failed
      · intro both
        obtain ⟨_, short⟩ := both
        have bound := short zero.1 zero.2.1 zero.2.2.2
        exact absurd zero.2.2.1 (Nat.not_lt_of_le bound)
    · rw [if_neg zero]
      refine ⟨fun _ => ⟨empty, fun isPre numeral first => ?_⟩, fun _ => rfl⟩
      exact Nat.le_of_not_lt fun long => zero ⟨isPre, numeral, long, first⟩

private theorem accepted_build_iff {identifier : List Char} :
    Accepted .build identifier ↔ IsIdentifier identifier := by
  rw [Accepted, checkIdentifier_eq_ok_iff, IsIdentifier]
  constructor
  · intro both
    obtain ⟨⟨nonempty, _⟩, inside⟩ := both
    exact ⟨nonempty, inside⟩
  · intro both
    obtain ⟨nonempty, inside⟩ := both
    exact ⟨⟨nonempty, fun impossible => by cases impossible⟩, inside⟩

private theorem readIdentifiers_eq_ok_iff {place : Place} {text rest : List Char}
    {identifiers : List (List Char)} :
    readIdentifiers place text = .ok (identifiers, rest) ↔
      text = ['.'].intercalate identifiers ++ rest ∧ identifiers ≠ [] ∧
        (∀ identifier ∈ identifiers, Accepted place identifier) ∧ EndsRun belongs rest := by
  have unfolded :
      readIdentifiers place text = .ok (identifiers, rest) ↔
        (∀ identifier ∈ (text.takeWhile belongs).splitOn '.',
            checkIdentifier place identifier = .ok ()) ∧
          (text.takeWhile belongs).splitOn '.' = identifiers ∧
            text.dropWhile belongs = rest := by
    change (splitPoints (text.takeWhile belongs)).forM (checkIdentifier place) >>=
      (fun _ => pure (splitPoints (text.takeWhile belongs), text.dropWhile belongs)) = _ ↔ _
    rw [bind_eq_ok_iff, splitPoints_eq_splitOn, ← forM_eq_ok_iff]
    constructor
    · intro parts
      obtain ⟨_, checked, made⟩ := parts
      exact ⟨checked, Prod.mk.inj (pure_eq_ok_iff.mp made)⟩
    · intro parts
      obtain ⟨checked, split, dropped⟩ := parts
      exact ⟨(), checked, by rw [split, dropped]; rfl⟩
  rw [unfolded]
  constructor
  · intro parts
    obtain ⟨checked, split, dropped⟩ := parts
    have joined : ['.'].intercalate identifiers = text.takeWhile belongs := by
      rw [← split, List.intercalate_splitOn]
    refine ⟨?_, ?_, ?_, dropped ▸ endsRun_dropWhile belongs text⟩
    · rw [joined, ← dropped, List.takeWhile_append_dropWhile]
    · rw [← split]
      exact List.splitOn_ne_nil _ _
    · intro identifier member
      rw [← split] at member
      refine ⟨checked identifier member, fun c inside => ?_⟩
      obtain ⟨taken, notPoint⟩ := mem_of_mem_splitOn member inside
      have belonging := List.all_eq_true.mp List.all_takeWhile c taken
      exact ((belongs_iff c).mp belonging).resolve_right notPoint
  · intro parts
    obtain ⟨textEq, nonempty, accepted, ends⟩ := parts
    have held := fun identifier member => (accepted identifier member).2
    have inside := belongs_of_mem_intercalate held
    rw [textEq, takeWhile_run inside ends, dropWhile_run inside ends,
      splitOn_intercalate_identifiers nonempty held]
    exact ⟨fun identifier member => (accepted identifier member).1, rfl, rfl⟩

/-- Where identifiers behind a mark may end: with none read, anywhere but at the mark. -/
def MarkedEnd (mark : Char) (identifiers : List (List Char)) (rest : List Char) : Prop :=
  (identifiers = [] → rest.head? ≠ some mark) ∧ (identifiers ≠ [] → EndsRun belongs rest)

theorem readMarked_eq_ok_iff {mark : Char} {place : Place} {text rest : List Char}
    {identifiers : List (List Char)} :
    readMarked mark place text = .ok (identifiers, rest) ↔
      text = marked mark identifiers ++ rest ∧
        (∀ identifier ∈ identifiers, Accepted place identifier) ∧
          MarkedEnd mark identifiers rest := by
  by_cases first : text.head? = some mark
  · obtain ⟨tail, textEq⟩ : ∃ tail, text = mark :: tail := by
      cases text with
      | nil => cases first
      | cons c tail =>
          cases first
          exact ⟨tail, rfl⟩
    have reading : readMarked mark place text = readIdentifiers place tail := by
      rw [textEq, readMarked, if_pos rfl]
    rw [reading, readIdentifiers_eq_ok_iff, textEq]
    constructor
    · intro parts
      obtain ⟨tailEq, nonempty, accepted, ends⟩ := parts
      refine ⟨?_, accepted, fun empty => absurd empty nonempty, fun _ => ends⟩
      rw [marked, if_neg nonempty, tailEq, List.cons_append]
    · intro parts
      obtain ⟨split, accepted, noneEnd, someEnd⟩ := parts
      by_cases empty : identifiers = []
      · rw [empty, marked, if_pos rfl, List.nil_append] at split
        exact absurd (by rw [← split]; rfl) (noneEnd empty)
      · rw [marked, if_neg empty, List.cons_append, List.cons.injEq] at split
        exact ⟨split.2, empty, accepted, someEnd empty⟩
  · have reading : readMarked mark place text = .ok ([], text) := by
      cases text with
      | nil => rfl
      | cons c tail =>
          rw [readMarked, if_neg]
          intro same
          rw [same] at first
          exact first rfl
    rw [reading]
    constructor
    · intro made
      cases made
      exact ⟨rfl, fun _ member => absurd member List.not_mem_nil, fun _ => first,
        fun nonempty => absurd rfl nonempty⟩
    · intro parts
      obtain ⟨split, _, _, _⟩ := parts
      by_cases empty : identifiers = []
      · rw [empty] at split ⊢
        rw [split]
        rfl
      · rw [split, marked, if_neg empty] at first
        exact absurd rfl first

/-! ### From identifiers to their meaning -/

private theorem classify_numeral {identifier : List Char} {result : PreRelease}
    (numeral : isNumeral identifier = true) :
    classify identifier = .ok result ↔
      digitsValue identifier < UInt64.size ∧
        result = .numeric (digitsValue identifier).toUInt64 := by
  rw [classify, if_pos numeral]
  by_cases small : digitsValue identifier < UInt64.size
  · rw [if_pos small, Except.ok.injEq, and_iff_right small, eq_comm]
  · rw [if_neg small]
    constructor
    · intro failed
      cases failed
    · intro both
      obtain ⟨small', _⟩ := both
      exact absurd small' small

private theorem classify_text {identifier : List Char} {result : PreRelease}
    (noNumeral : ¬isNumeral identifier = true) :
    classify identifier = .ok result ↔ result = .alphanumeric (String.ofList identifier) := by
  rw [classify, if_neg noNumeral, Except.ok.injEq, eq_comm]

private theorem not_isNumeral_iff {text : List Char} (nonempty : text ≠ []) :
    ¬isNumeral text = true ↔ ∃ c ∈ text, ¬('0' ≤ c ∧ c ≤ '9') := by
  rw [isNumeral_iff, and_iff_right nonempty]
  simp only [Classical.not_forall, exists_prop, isDigit_iff]

theorem wellFormedPre_alphanumeric_iff {text : String} :
    WellFormedPre (.alphanumeric text) ↔
      IsIdentifier text.toList ∧ ¬isNumeral text.toList = true := by
  constructor
  · intro both
    obtain ⟨identifier, mixed⟩ := both
    exact ⟨identifier, (not_isNumeral_iff identifier.1).mpr mixed⟩
  · intro both
    obtain ⟨identifier, noNumeral⟩ := both
    exact ⟨identifier, (not_isNumeral_iff identifier.1).mp noNumeral⟩

theorem render_numeric_toList (number : UInt64) :
    (PreRelease.numeric number).render.toList = Nat.toDigits 10 number.toNat := by
  rw [PreRelease.render, renderNat, String.toList_ofList]

private theorem accepted_classify_iff {identifier : List Char} {result : PreRelease} :
    Accepted .pre identifier ∧ classify identifier = .ok result ↔
      WellFormedPre result ∧ identifier = result.render.toList := by
  constructor
  · intro both
    obtain ⟨⟨checked, inside⟩, classified⟩ := both
    obtain ⟨nonempty, canonical⟩ := checkIdentifier_eq_ok_iff.mp checked
    by_cases numeral : isNumeral identifier = true
    · obtain ⟨small, resultEq⟩ := (classify_numeral numeral).mp classified
      subst resultEq
      refine ⟨trivial, ?_⟩
      rw [render_numeric_toList, toNat_toUInt64 small,
        (toDigits_digitsValue_iff numeral).mpr (canonical rfl numeral)]
    · have resultEq := (classify_text numeral).mp classified
      subst resultEq
      refine ⟨wellFormedPre_alphanumeric_iff.mpr ?_, ?_⟩
      · rw [String.toList_ofList]
        exact ⟨⟨nonempty, inside⟩, numeral⟩
      · rw [PreRelease.render, String.toList_ofList]
  · intro both
    obtain ⟨wellFormed, textEq⟩ := both
    subst textEq
    cases result with
    | numeric number =>
        have numeral := isNumeral_toDigits number.toNat
        rw [render_numeric_toList, Accepted, checkIdentifier_eq_ok_iff, classify_numeral numeral,
          digitsValue_toDigits, toUInt64_toNat]
        refine ⟨⟨⟨Nat.toDigits_ne_nil, fun _ _ => ?_⟩, fun c member => ?_⟩,
          number.toNat_lt_size, rfl⟩
        · rw [← toDigits_digitsValue_iff numeral, digitsValue_toDigits]
        · exact identifierChar_digit (isDigit_of_mem_toDigits member)
    | alphanumeric text =>
        obtain ⟨⟨nonempty, inside⟩, noNumeral⟩ := wellFormedPre_alphanumeric_iff.mp wellFormed
        rw [PreRelease.render, Accepted, checkIdentifier_eq_ok_iff, classify_text noNumeral,
          String.ofList_toList]
        exact ⟨⟨⟨nonempty, fun _ numeral => absurd numeral noNumeral⟩, inside⟩, rfl⟩

theorem accepted_mapM_classify_iff {identifiers : List (List Char)} {results : List PreRelease} :
    (∀ identifier ∈ identifiers, Accepted .pre identifier) ∧
        identifiers.mapM classify = .ok results ↔
      (∀ result ∈ results, WellFormedPre result) ∧
        identifiers = results.map (·.render.toList) := by
  rw [mapM_eq_ok_iff]
  induction results generalizing identifiers with
  | nil =>
      rw [List.map_nil, List.map_nil, List.map_eq_nil_iff]
      constructor
      · intro both
        obtain ⟨_, empty⟩ := both
        exact ⟨fun _ member => absurd member List.not_mem_nil, empty⟩
      · intro both
        obtain ⟨_, empty⟩ := both
        rw [empty]
        exact ⟨fun _ member => absurd member List.not_mem_nil, rfl⟩
  | cons result rest ih =>
      cases identifiers with
      | nil => simp
      | cons identifier others =>
          rw [List.map_cons, List.map_cons, List.map_cons, List.cons.injEq, List.cons.injEq,
            List.forall_mem_cons, List.forall_mem_cons, and_and_and_comm, accepted_classify_iff, ih,
            and_and_and_comm]

theorem accepted_map_ofList_iff {identifiers : List (List Char)} {results : List String} :
    (∀ identifier ∈ identifiers, Accepted .build identifier) ∧
        identifiers.map String.ofList = results ↔
      (∀ result ∈ results, IsIdentifier result.toList) ∧
        identifiers = results.map String.toList := by
  constructor
  · intro both
    obtain ⟨accepted, resultsEq⟩ := both
    subst resultsEq
    refine ⟨?_, by simp [List.map_map, Function.comp_def]⟩
    intro result member
    obtain ⟨identifier, listed, textEq⟩ := List.mem_map.mp member
    rw [← textEq, String.toList_ofList]
    exact accepted_build_iff.mp (accepted identifier listed)
  · intro both
    obtain ⟨identifiers', textEq⟩ := both
    subst textEq
    refine ⟨?_, by simp [List.map_map, Function.comp_def]⟩
    intro identifier member
    obtain ⟨result, listed, textEq⟩ := List.mem_map.mp member
    rw [← textEq]
    exact accepted_build_iff.mpr (identifiers' result listed)

end HostValue.Version
