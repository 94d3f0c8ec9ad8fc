import HostValue.Proofs.Version.Grammar

/-!
# The strict form

Reading in the strict form and rendering are inverse to each other: a text is accepted exactly when
it is the text of a well-formed version, and then that version is read. Hence every version has one
accepted text, and a number that is written otherwise is refused.
-/

namespace HostValue.Version

open Text

theorem endsRun_marked {belongs : Char → Bool} (mark : Char) {rest : List Char}
    (refused : belongs mark = false) (ends : EndsRun belongs rest)
    (identifiers : List (List Char)) : EndsRun belongs (marked mark identifiers ++ rest) := by
  rw [marked]
  by_cases empty : identifiers = []
  · rw [if_pos empty]
    exact ends
  · rw [if_neg empty]
    exact endsRun_cons refused _

theorem endsRun_suffix (pre : List PreRelease) (build : List String) :
    EndsRun Char.isDigit (suffix pre build) := by
  have buildEnds :=
    endsRun_marked '+' (by decide) (endsRun_nil Char.isDigit) (build.map String.toList)
  rw [List.append_nil] at buildEnds
  exact endsRun_marked '-' (by decide) buildEnds _

theorem markedEnd_pre (identifiers build : List (List Char)) :
    MarkedEnd '-' identifiers (marked '+' build) := by
  have ends := endsRun_marked '+' (by decide) (endsRun_nil belongs) build
  rw [List.append_nil] at ends
  refine ⟨fun _ first => ?_, fun _ => ends⟩
  rw [marked] at first
  split at first <;> cases first

private theorem markedEnd_build (identifiers : List (List Char)) : MarkedEnd '+' identifiers [] :=
  ⟨fun _ => by simp, fun _ => endsRun_nil belongs⟩

private theorem read_eq_ok_iff_parts {text : List Char} {version : Version} :
    read text = .ok version ↔
      ∃ afterMajor minorText afterMinor patchText afterPatch afterPre pre build,
        readNumber .major text = .ok (version.major, afterMajor) ∧
        readPoint .major afterMajor = .ok minorText ∧
        readNumber .minor minorText = .ok (version.minor, afterMinor) ∧
        readPoint .minor afterMinor = .ok patchText ∧
        readNumber .patch patchText = .ok (version.patch, afterPatch) ∧
        readMarked '-' .pre afterPatch = .ok (pre, afterPre) ∧
        readMarked '+' .build afterPre = .ok (build, []) ∧
        pre.mapM classify = .ok version.pre ∧ build.map String.ofList = version.build := by
  unfold read
  constructor
  · intro accepted
    split at accepted
    · exact absurd accepted throw_ne_ok
    · obtain ⟨⟨major, afterMajor⟩, majorRead, accepted⟩ := bind_eq_ok_iff.mp accepted
      obtain ⟨minorText, majorPoint, accepted⟩ := bind_eq_ok_iff.mp accepted
      obtain ⟨⟨minor, afterMinor⟩, minorRead, accepted⟩ := bind_eq_ok_iff.mp accepted
      obtain ⟨patchText, minorPoint, accepted⟩ := bind_eq_ok_iff.mp accepted
      obtain ⟨⟨patch, afterPatch⟩, patchRead, accepted⟩ := bind_eq_ok_iff.mp accepted
      obtain ⟨⟨pre, afterPre⟩, preRead, accepted⟩ := bind_eq_ok_iff.mp accepted
      obtain ⟨⟨build, afterBuild⟩, buildRead, accepted⟩ := bind_eq_ok_iff.mp accepted
      cases afterBuild with
      | cons c rest => exact absurd accepted throw_ne_ok
      | nil =>
          obtain ⟨meanings, classified, made⟩ := bind_eq_ok_iff.mp accepted
          have versionEq := pure_eq_ok_iff.mp made
          subst versionEq
          exact ⟨afterMajor, minorText, afterMinor, patchText, afterPatch, afterPre, pre, build,
            majorRead, majorPoint, minorRead, minorPoint, patchRead, preRead, buildRead,
            classified, rfl⟩
  · intro parts
    obtain ⟨afterMajor, minorText, afterMinor, patchText, afterPatch, afterPre, pre, build,
      majorRead, majorPoint, minorRead, minorPoint, patchRead, preRead, buildRead, classified,
      buildEq⟩ := parts
    have notEmpty : ¬text.isEmpty = true := by
      intro empty
      rw [List.isEmpty_iff.mp empty] at majorRead
      cases majorRead
    rw [if_neg notEmpty]
    refine bind_eq_ok_iff.mpr ⟨_, majorRead, ?_⟩
    refine bind_eq_ok_iff.mpr ⟨_, majorPoint, ?_⟩
    refine bind_eq_ok_iff.mpr ⟨_, minorRead, ?_⟩
    refine bind_eq_ok_iff.mpr ⟨_, minorPoint, ?_⟩
    refine bind_eq_ok_iff.mpr ⟨_, patchRead, ?_⟩
    refine bind_eq_ok_iff.mpr ⟨_, preRead, ?_⟩
    refine bind_eq_ok_iff.mpr ⟨_, buildRead, ?_⟩
    refine bind_eq_ok_iff.mpr ⟨_, classified, ?_⟩
    rw [buildEq]
    rfl

theorem read_eq_ok_iff {text : List Char} {version : Version} :
    read text = .ok version ↔ version.WellFormed ∧ version.render.toList = text := by
  rw [read_eq_ok_iff_parts, render_toList, numbered]
  constructor
  · intro parts
    obtain ⟨afterMajor, minorText, afterMinor, patchText, afterPatch, afterPre, pre, build,
      majorRead, majorPoint, minorRead, minorPoint, patchRead, preRead, buildRead, classified,
      buildEq⟩ := parts
    obtain ⟨textEq, -⟩ := readNumber_eq_ok_iff.mp majorRead
    have afterMajorEq := readPoint_eq_ok_iff.mp majorPoint
    obtain ⟨minorTextEq, -⟩ := readNumber_eq_ok_iff.mp minorRead
    have afterMinorEq := readPoint_eq_ok_iff.mp minorPoint
    obtain ⟨patchTextEq, -⟩ := readNumber_eq_ok_iff.mp patchRead
    obtain ⟨afterPatchEq, preAccepted, -⟩ := readMarked_eq_ok_iff.mp preRead
    obtain ⟨afterPreEq, buildAccepted, -⟩ := readMarked_eq_ok_iff.mp buildRead
    obtain ⟨preWellFormed, preEq⟩ := accepted_mapM_classify_iff.mp ⟨preAccepted, classified⟩
    obtain ⟨buildWellFormed, buildTexts⟩ := accepted_map_ofList_iff.mp ⟨buildAccepted, buildEq⟩
    refine ⟨⟨preWellFormed, buildWellFormed⟩, ?_⟩
    rw [textEq, afterMajorEq, minorTextEq, afterMinorEq, patchTextEq, afterPatchEq, afterPreEq,
      List.append_nil, preEq, buildTexts]
    rfl
  · intro both
    obtain ⟨⟨preWellFormed, buildWellFormed⟩, textEq⟩ := both
    obtain ⟨preAccepted, classified⟩ := accepted_mapM_classify_iff.mpr ⟨preWellFormed, rfl⟩
    obtain ⟨buildAccepted, buildEq⟩ := accepted_map_ofList_iff.mpr ⟨buildWellFormed, rfl⟩
    have pointEnds : ∀ rest, EndsRun Char.isDigit ('.' :: rest) :=
      fun rest => endsRun_cons (by decide) rest
    refine ⟨_, _, _, _, suffix version.pre version.build, _, _, _,
      readNumber_eq_ok_iff.mpr ⟨textEq.symm, pointEnds _⟩, readPoint_eq_ok_iff.mpr rfl,
      readNumber_eq_ok_iff.mpr ⟨rfl, pointEnds _⟩, readPoint_eq_ok_iff.mpr rfl,
      readNumber_eq_ok_iff.mpr ⟨rfl, endsRun_suffix version.pre version.build⟩,
      readMarked_eq_ok_iff.mpr ⟨rfl, preAccepted, markedEnd_pre _ _⟩,
      readMarked_eq_ok_iff.mpr ⟨(List.append_nil _).symm, buildAccepted, markedEnd_build _⟩,
      classified, buildEq⟩

private theorem parseStrict_eq_mapError (input : String) :
    parseStrict input = (read input.toList).mapError fun fault => .parse input fault.message := by
  rw [parseStrict]
  cases read input.toList with
  | ok version => rfl
  | error fault => rfl

theorem parseStrict_eq_ok_iff {input : String} {version : Version} :
    parseStrict input = .ok version ↔ version.WellFormed ∧ version.render = input := by
  rw [parseStrict_eq_mapError, mapError_eq_ok_iff, read_eq_ok_iff, String.toList_inj]

/-! ### Numbers that are refused -/

/-- A numeral without zeros in front, of a number that fits sixty-four bits. -/
def IsCanonical (numeral : List Char) : Prop :=
  (numeral.head? = some '0' → numeral.length ≤ 1) ∧ digitsValue numeral < UInt64.size

instance (numeral : List Char) : Decidable (IsCanonical numeral) :=
  inferInstanceAs (Decidable (_ ∧ _))

theorem isCanonical_toDigits (number : UInt64) : IsCanonical (Nat.toDigits 10 number.toNat) := by
  refine ⟨(toDigits_digitsValue_iff (isNumeral_toDigits _)).mp ?_, ?_⟩
  · rw [digitsValue_toDigits]
  · rw [digitsValue_toDigits]
    exact number.toNat_lt_size

private theorem number_cut {digits other rest tail : List Char} (numeral : isNumeral digits = true)
    (otherNumeral : isNumeral other = true) (ends : EndsRun Char.isDigit rest)
    (otherEnds : EndsRun Char.isDigit tail) (same : digits ++ rest = other ++ tail) :
    digits = other ∧ rest = tail :=
  append_run_inj ((isNumeral_iff _).mp numeral).2 ((isNumeral_iff _).mp otherNumeral).2 ends
    otherEnds same

theorem numbered_inj {major minor patch rest : List Char} {version : Version}
    (majorNumeral : isNumeral major = true) (minorNumeral : isNumeral minor = true)
    (patchNumeral : isNumeral patch = true) (ends : EndsRun Char.isDigit rest)
    (same : version.render.toList = numbered major minor patch rest) :
    major = Nat.toDigits 10 version.major.toNat ∧ minor = Nat.toDigits 10 version.minor.toNat ∧
      patch = Nat.toDigits 10 version.patch.toNat ∧ rest = suffix version.pre version.build := by
  have pointEnds : ∀ tail, EndsRun Char.isDigit ('.' :: tail) :=
    fun tail => endsRun_cons (by decide) tail
  rw [render_toList, numbered, numbered] at same
  obtain ⟨majorEq, afterMajor⟩ :=
    number_cut (isNumeral_toDigits _) majorNumeral (pointEnds _) (pointEnds _) same
  obtain ⟨minorEq, afterMinor⟩ :=
    number_cut (isNumeral_toDigits _) minorNumeral (pointEnds _) (pointEnds _)
      (List.cons.inj afterMajor).2
  obtain ⟨patchEq, afterPatch⟩ :=
    number_cut (isNumeral_toDigits _) patchNumeral (endsRun_suffix _ _) ends
      (List.cons.inj afterMinor).2
  exact ⟨majorEq.symm, minorEq.symm, patchEq.symm, afterPatch.symm⟩

private theorem suffix_pre_inj {identifiers : List (List Char)} {rest : List Char}
    {version : Version}
    (wellFormed : version.WellFormed) (nonempty : identifiers ≠ [])
    (inside : ∀ identifier ∈ identifiers, ∀ c ∈ identifier, IdentifierChar c)
    (ends : EndsRun belongs rest)
    (same : '-' :: (['.'].intercalate identifiers ++ rest) = suffix version.pre version.build) :
    identifiers = version.pre.map (·.render.toList) := by
  obtain ⟨preAccepted, -⟩ := accepted_mapM_classify_iff.mpr ⟨wellFormed.pre, rfl⟩
  by_cases empty : version.pre = []
  · rw [suffix, empty, List.map_nil, marked, if_pos rfl, List.nil_append, marked] at same
    split at same <;> cases same
  · have nonemptyPre : version.pre.map (·.render.toList) ≠ [] := by
      rwa [Ne, List.map_eq_nil_iff]
    rw [suffix, marked, if_neg nonemptyPre, List.cons_append, List.cons.injEq] at same
    have buildEnds := (markedEnd_pre (version.pre.map (·.render.toList))
      (version.build.map String.toList)).2 nonemptyPre
    have joined := (append_run_inj (belongs_of_mem_intercalate inside)
      (belongs_of_mem_intercalate fun identifier member => (preAccepted identifier member).2)
      ends buildEnds same.2).1
    have pieces := congrArg (List.splitOn '.') joined
    rwa [splitOn_intercalate_identifiers nonempty inside,
      splitOn_intercalate_identifiers nonemptyPre
        fun identifier member => (preAccepted identifier member).2] at pieces

private theorem parseStrict_numbered_error {major minor patch rest : List Char}
    (majorNumeral : isNumeral major = true) (minorNumeral : isNumeral minor = true)
    (patchNumeral : isNumeral patch = true) (ends : EndsRun Char.isDigit rest)
    (wrong : ¬(IsCanonical major ∧ IsCanonical minor ∧ IsCanonical patch)) :
    ∃ error, parseStrict (String.ofList (numbered major minor patch rest)) = .error error := by
  cases outcome : parseStrict (String.ofList (numbered major minor patch rest)) with
  | error error => exact ⟨error, rfl⟩
  | ok version =>
      obtain ⟨-, textEq⟩ := parseStrict_eq_ok_iff.mp outcome
      have same := congrArg String.toList textEq
      rw [String.toList_ofList] at same
      obtain ⟨majorEq, minorEq, patchEq, -⟩ :=
        numbered_inj majorNumeral minorNumeral patchNumeral ends same
      rw [majorEq, minorEq, patchEq] at wrong
      exact absurd ⟨isCanonical_toDigits _, isCanonical_toDigits _, isCanonical_toDigits _⟩ wrong

private theorem isCanonical_of_mem_pre {version : Version} (wellFormed : version.WellFormed)
    {identifier : List Char} (member : identifier ∈ version.pre.map (·.render.toList))
    (numeral : isNumeral identifier = true) : IsCanonical identifier := by
  obtain ⟨result, listed, textEq⟩ := List.mem_map.mp member
  rw [← textEq] at numeral ⊢
  cases result with
  | numeric number =>
      rw [render_numeric_toList]
      exact isCanonical_toDigits number
  | alphanumeric text =>
      have mixed := wellFormedPre_alphanumeric_iff.mp (wellFormed.pre _ listed)
      exact absurd numeral mixed.2

private theorem parseStrict_pre_error {major minor patch rest identifier : List Char}
    {identifiers : List (List Char)} (majorNumeral : isNumeral major = true)
    (minorNumeral : isNumeral minor = true) (patchNumeral : isNumeral patch = true)
    (inside : ∀ identifier ∈ identifiers, ∀ c ∈ identifier, IdentifierChar c)
    (ends : EndsRun belongs rest) (member : identifier ∈ identifiers)
    (numeral : isNumeral identifier = true) (wrong : ¬IsCanonical identifier) :
    ∃ error, parseStrict (String.ofList (numbered major minor patch
      ('-' :: (['.'].intercalate identifiers ++ rest)))) = .error error := by
  cases outcome : parseStrict (String.ofList (numbered major minor patch
      ('-' :: (['.'].intercalate identifiers ++ rest)))) with
  | error error => exact ⟨error, rfl⟩
  | ok version =>
      obtain ⟨wellFormed, textEq⟩ := parseStrict_eq_ok_iff.mp outcome
      have same := congrArg String.toList textEq
      rw [String.toList_ofList] at same
      obtain ⟨-, -, -, suffixEq⟩ :=
        numbered_inj majorNumeral minorNumeral patchNumeral (endsRun_cons (by decide) _) same
      have listed :=
        suffix_pre_inj wellFormed (List.ne_nil_of_mem member) inside ends suffixEq
      rw [listed] at member
      exact absurd (isCanonical_of_mem_pre wellFormed member numeral) wrong

/-- Strict reading and rendering are inverse to each other on well-formed versions. So no two texts
are read as one version, and numbers with zeros in front or beyond sixty-four bits are refused, in
the components as well as in the pre-release. -/
theorem parseStrict_inverts_render :
    (∀ (input : String) (version : Version),
      parseStrict input = .ok version ↔ version.WellFormed ∧ version.render = input) ∧
    (∀ (left right : String) (version : Version),
      parseStrict left = .ok version → parseStrict right = .ok version → left = right) ∧
    (∀ major minor patch rest : List Char,
      isNumeral major = true → isNumeral minor = true → isNumeral patch = true →
      EndsRun Char.isDigit rest →
      ¬(IsCanonical major ∧ IsCanonical minor ∧ IsCanonical patch) →
      ∃ error, parseStrict (String.ofList (numbered major minor patch rest)) = .error error) ∧
    ∀ (major minor patch rest : List Char) (identifiers : List (List Char)),
      isNumeral major = true → isNumeral minor = true → isNumeral patch = true →
      (∀ identifier ∈ identifiers, ∀ c ∈ identifier, IdentifierChar c) → EndsRun belongs rest →
      (∃ identifier ∈ identifiers, isNumeral identifier = true ∧ ¬IsCanonical identifier) →
      ∃ error, parseStrict (String.ofList (numbered major minor patch
        ('-' :: (['.'].intercalate identifiers ++ rest)))) = .error error := by
  refine ⟨fun input version => parseStrict_eq_ok_iff, ?_, ?_, ?_⟩
  · intro left right version leftRead rightRead
    have leftEq := (parseStrict_eq_ok_iff.mp leftRead).2
    have rightEq := (parseStrict_eq_ok_iff.mp rightRead).2
    exact leftEq.symm.trans rightEq
  · intro major minor patch rest majorNumeral minorNumeral patchNumeral ends wrong
    exact parseStrict_numbered_error majorNumeral minorNumeral patchNumeral ends wrong
  · intro major minor patch rest identifiers majorNumeral minorNumeral patchNumeral inside ends
      refused
    obtain ⟨identifier, member, numeral, wrong⟩ := refused
    exact parseStrict_pre_error majorNumeral minorNumeral patchNumeral inside ends member numeral
      wrong

/-- The largest number of sixty-four bits is read, one more and a zero in front are not; a numeral
of a build may begin with a zero, one of a pre-release may not. -/
theorem parseStrict_inverts_render_at_bounds :
    parseStrict "18446744073709551615.0.10-0.a-0.07b+007" =
        .ok ⟨18446744073709551615, 0, 10,
          [.numeric 0, .alphanumeric "a-0", .alphanumeric "07b"], ["007"]⟩ ∧
      String.ofList (numbered ['1'] ['0'] ['0'] "-a.7".toList) = "1.0.0-a.7" ∧
      (∃ error, parseStrict (String.ofList
        (numbered "18446744073709551616".toList ['0'] ['1', '0'] [])) = .error error) ∧
      ∃ error, parseStrict (String.ofList
        (numbered ['1'] ['0'] ['0'] ('-' :: (['.'].intercalate [['r', 'c'], ['0', '7']] ++ [])))) =
          .error error := by
  obtain ⟨inverse, unique, numbersRefused, preRefused⟩ := parseStrict_inverts_render
  refine ⟨(inverse _ _).mpr ⟨by decide, by decide⟩, ?_, ?_, ?_⟩
  · exact unique _ _ ⟨1, 0, 0, [.alphanumeric "a", .numeric 7], []⟩
      ((inverse _ _).mpr ⟨by decide, by decide⟩)
      ((inverse _ _).mpr ⟨by decide, by decide⟩)
  · exact numbersRefused _ _ _ _ (by decide) (by decide) (by decide) (endsRun_nil _)
      (by decide)
  · have identifiers : ∀ identifier ∈ [['r', 'c'], ['0', '7']], IsIdentifier identifier := by decide
    exact preRefused _ _ _ _ _ (by decide) (by decide) (by decide)
      (fun identifier member => (identifiers identifier member).2) (endsRun_nil _)
      ⟨['0', '7'], by decide, by decide, by decide⟩

end HostValue.Version
