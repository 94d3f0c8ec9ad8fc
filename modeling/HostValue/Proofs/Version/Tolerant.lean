import HostValue.Proofs.Version.Normalization

/-!
# The tolerant form

Which texts the tolerant reader accepts, and as which versions. Besides one, two or three numbers
with a suffix after the third, it accepts one more form, in which nothing but a suffix stands where
the patch should: a zero is put before it.
-/

namespace HostValue.Version

open Text

/-- The text without the blanks around it and without one `v` in front. -/
def unmarked (input : String) : List Char :=
  let trimmed := trim input.toList
  match trimmed with
  | 'v' :: rest => rest
  | _ => trimmed

def Denotes (digits : List Char) (number : UInt64) : Prop :=
  isNumeral digits = true ∧ digitsValue digits = number.toNat

/-- The forms of a version text in which people write it, and what they mean: one, two or three
numbers, the third of which may have a suffix. -/
inductive Tolerated : List Char → Version → Prop where
  | major {digits : List Char} {major : UInt64} (denotes : Denotes digits major) :
      Tolerated digits ⟨major, 0, 0, [], []⟩
  | minor {digits minorDigits : List Char} {major minor : UInt64} (denotes : Denotes digits major)
      (denotesMinor : Denotes minorDigits minor) :
      Tolerated (digits ++ '.' :: minorDigits) ⟨major, minor, 0, [], []⟩
  | patch {digits minorDigits patchDigits : List Char} {version : Version}
      (denotes : Denotes digits version.major) (denotesMinor : Denotes minorDigits version.minor)
      (denotesPatch : Denotes patchDigits version.patch) (wellFormed : version.WellFormed) :
      Tolerated (numbered digits minorDigits patchDigits (suffix version.pre version.build)) version

structure WithoutPatch (text : List Char) (version : Version) : Prop where
  wellFormed : version.WellFormed
  patch : version.patch = 0
  numbers : ∃ digits minorDigits, Denotes digits version.major ∧ Denotes minorDigits version.minor ∧
    text = numbered digits minorDigits [] (suffix version.pre version.build)
  nonempty : suffix version.pre version.build ≠ []

/-- A mark of identifiers stands right after the second point. -/
def LacksPatch (text : List Char) : Prop :=
  ∃ first second mark rest, '.' ∉ first ∧ '.' ∉ second ∧ (mark = '-' ∨ mark = '+') ∧
    text = first ++ '.' :: (second ++ '.' :: mark :: rest)

/-! ### Components and numbers -/

theorem dropZeros_eq_toDigits_iff {component : List Char} {number : UInt64} :
    dropZeros component = Nat.toDigits 10 number.toNat ↔ Denotes component number := by
  constructor
  · intro normal
    rw [← List.append_nil (Nat.toDigits 10 number.toNat)] at normal
    rcases eq_of_dropZeros afterNumber_nil normal with
      ⟨digits, numeral, value, componentEq⟩ | ⟨-, -, long⟩
    · rw [List.append_nil] at componentEq
      rw [componentEq]
      exact ⟨numeral, value⟩
    · exact absurd long (by decide)
  · intro both
    obtain ⟨numeral, value⟩ := both
    have normal := dropZeros_numeral numeral afterNumber_nil
    rwa [List.append_nil, List.append_nil, value] at normal

theorem point_not_mem_dropZeros {component : List Char} (absent : '.' ∉ component) :
    '.' ∉ dropZeros component := by
  by_cases long : 2 ≤ component.length
  · have coreAbsent : '.' ∉ core component :=
      fun member => absent ((List.dropWhile_sublist _).subset member)
    rw [dropZeros_of_length long]
    split
    · exact coreAbsent
    · rw [List.mem_cons]
      intro either
      rcases either with zero | member
      · cases zero
      · exact coreAbsent member
  · cases component with
    | nil => exact absent
    | cons c rest =>
        have alone : rest = [] := by
          rw [List.length_cons] at long
          exact List.eq_nil_of_length_eq_zero (by omega)
        subst alone
        rw [dropZeros]
        split
        · exact absent
        · rw [List.mem_cons]
          intro either
          rcases either with zero | member
          · cases zero
          · exact absent member

private theorem afterNumber_marked {mark : Char} {tail : List Char}
    (isMark : mark = '-' ∨ mark = '+')
    (after : AfterNumber tail) (identifiers : List (List Char)) :
    AfterNumber (marked mark identifiers ++ tail) := by
  rw [marked]
  split
  · exact after
  · intro c first
    cases first
    exact isMark

theorem afterNumber_suffix (pre : List PreRelease) (build : List String) :
    AfterNumber (suffix pre build) := by
  have afterBuild := afterNumber_marked (Or.inr rfl) afterNumber_nil (build.map String.toList)
  rw [List.append_nil] at afterBuild
  exact afterNumber_marked (Or.inl rfl) afterBuild _

private theorem two_le_length_suffix {version : Version} (wellFormed : version.WellFormed)
    (nonempty : suffix version.pre version.build ≠ []) :
    2 ≤ (suffix version.pre version.build).length := by
  obtain ⟨preAccepted, -⟩ := accepted_mapM_classify_iff.mpr ⟨wellFormed.pre, rfl⟩
  obtain ⟨buildAccepted, -⟩ := accepted_map_ofList_iff.mpr ⟨wellFormed.build, rfl⟩
  rw [suffix, List.length_append]
  by_cases preEmpty : version.pre = []
  · have buildNonempty : version.build ≠ [] :=
      fun buildEmpty => nonempty (suffix_eq_nil_iff.mpr ⟨preEmpty, buildEmpty⟩)
    have long := two_le_length_marked '+'
      (fun identifier member =>
        (checkIdentifier_eq_ok_iff.mp (buildAccepted identifier member).1).1)
      (by rwa [Ne, List.map_eq_nil_iff])
    omega
  · have long := two_le_length_marked '-'
      (fun identifier member => (checkIdentifier_eq_ok_iff.mp (preAccepted identifier member).1).1)
      (by rwa [Ne, List.map_eq_nil_iff])
    omega

/-! ### Reading the normal form -/

theorem read_components_iff {first second third : List Char} {version : Version}
    (firstAbsent : '.' ∉ first) (secondAbsent : '.' ∉ second) :
    read (['.'].intercalate [first, second, third]) = .ok version ↔
      version.WellFormed ∧ first = Nat.toDigits 10 version.major.toNat ∧
        second = Nat.toDigits 10 version.minor.toNat ∧
        third = Nat.toDigits 10 version.patch.toNat ++ suffix version.pre version.build := by
  have joined :
      ['.'].intercalate [first, second, third] = first ++ '.' :: (second ++ '.' :: third) := by
    rw [List.intercalate_cons_cons, List.intercalate_cons_cons, List.intercalate_singleton]
    simp only [List.append_assoc, List.singleton_append]
  rw [read_eq_ok_iff, joined, render_toList, numbered]
  constructor
  · intro both
    obtain ⟨wellFormed, same⟩ := both
    obtain ⟨firstEq, rest⟩ :=
      append_point_inj (point_not_mem_numeral (isNumeral_toDigits _)) firstAbsent same
    obtain ⟨secondEq, thirdEq⟩ :=
      append_point_inj (point_not_mem_numeral (isNumeral_toDigits _)) secondAbsent rest
    exact ⟨wellFormed, firstEq.symm, secondEq.symm, thirdEq.symm⟩
  · intro parts
    obtain ⟨wellFormed, firstEq, secondEq, thirdEq⟩ := parts
    refine ⟨wellFormed, ?_⟩
    rw [firstEq, secondEq, thirdEq]

theorem zero_patch_iff {version : Version} :
    ['0'] = Nat.toDigits 10 version.patch.toNat ++ suffix version.pre version.build ↔
      version.patch = 0 ∧ version.pre = [] ∧ version.build = [] := by
  constructor
  · intro same
    have lengths := congrArg List.length same
    have positive := Nat.length_toDigits_pos (b := 10) (n := version.patch.toNat)
    rw [List.length_append, List.length_singleton] at lengths
    have empty : suffix version.pre version.build = [] :=
      List.eq_nil_of_length_eq_zero (by omega)
    rw [empty, List.append_nil] at same
    have zero : (0 : Nat) = version.patch.toNat := toDigits_injective same
    exact ⟨UInt64.toNat_inj.mp zero.symm, suffix_eq_nil_iff.mp empty⟩
  · intro both
    obtain ⟨zero, empty⟩ := both
    rw [suffix_eq_nil_iff.mpr empty, zero]
    rfl

theorem parseTolerant_eq_ok_iff_read {input : String} {version : Version} :
    parseTolerant input = .ok version ↔
      ∃ components,
        complete? ((splitFirstPoints 2 (unmarked input)).map dropZeros) = some components ∧
          read (['.'].intercalate components) = .ok version := by
  unfold parseTolerant
  change (if (unmarked input).isEmpty = true then _ else _) = _ ↔ _
  by_cases empty : (unmarked input).isEmpty = true
  · rw [if_pos empty, List.isEmpty_iff.mp empty]
    constructor
    · intro failed
      cases failed
    · intro parts
      obtain ⟨components, completed, accepted⟩ := parts
      cases completed
      cases accepted
  · rw [if_neg empty]
    split
    case h_1 refused =>
      constructor
      · intro failed
        cases failed
      · intro parts
        obtain ⟨components, completed, -⟩ := parts
        cases refused.symm.trans completed
    case h_2 components completed =>
      constructor
      · intro accepted
        refine ⟨components, completed, ?_⟩
        split at accepted
        case h_1 found outcome => rw [outcome, Except.ok.inj accepted]
        case h_2 fault outcome => cases accepted
      · intro parts
        obtain ⟨others, completedOthers, accepted⟩ := parts
        cases completed.symm.trans completedOthers
        rw [accepted]

/-! ### The accepted forms -/

def hasSign (component : List Char) : Bool :=
  component.any fun c => c == '+' || c == '-'

theorem hasSign_numeral {digits : List Char} (numeral : isNumeral digits = true) :
    ¬hasSign digits = true := by
  rw [hasSign, List.any_eq_true]
  intro parts
  obtain ⟨c, member, sign⟩ := parts
  have range := digit_range (((isNumeral_iff digits).mp numeral).2 c member)
  rw [Bool.or_eq_true, beq_iff_eq, beq_iff_eq] at sign
  rcases sign with plus | minus
  · rw [plus] at range
    exact absurd range (by decide)
  · rw [minus] at range
    exact absurd range (by decide)

theorem complete?_short {front completed : List (List Char)} {last : List Char}
    (short : front.length < 2) :
    complete? (front ++ [last]) = some completed ↔
      ¬hasSign last = true ∧
        completed = front ++ [last] ++ List.replicate (2 - front.length) ['0'] := by
  have unfolded :
      complete? (front ++ [last]) =
        if hasSign last = true then none
        else some (front ++ [last] ++ List.replicate (2 - front.length) ['0']) := by
    have missing : 3 - (front.length + 1) = 2 - front.length := by omega
    rw [complete?, List.length_append, List.length_singleton, if_pos (by omega),
      List.getLast?_concat, missing]
    rfl
  rw [unfolded]
  by_cases sign : hasSign last = true
  · simp [sign]
  · rw [if_neg sign, Option.some.injEq, and_iff_right sign, eq_comm]

private theorem zero_eq_toDigits_iff {number : UInt64} :
    ['0'] = Nat.toDigits 10 number.toNat ↔ number = 0 := by
  constructor
  · intro same
    have zero : (0 : Nat) = number.toNat := toDigits_injective same
    exact UInt64.toNat_inj.mp zero.symm
  · intro zero
    rw [zero]
    rfl

section Forms

variable {input : String} {version : Version} {first second third : List Char}

theorem parseTolerant_one (text : unmarked input = first) (absent : '.' ∉ first) :
    parseTolerant input = .ok version ↔
      Denotes first version.major ∧ version.minor = 0 ∧ version.patch = 0 ∧ version.pre = [] ∧
        version.build = [] := by
  have reading :
      read (['.'].intercalate [dropZeros first, ['0'], ['0']]) = .ok version ↔ _ :=
    read_components_iff (point_not_mem_dropZeros absent) (by decide)
  rw [dropZeros_eq_toDigits_iff, zero_eq_toDigits_iff, zero_patch_iff] at reading
  have completion {completed : List (List Char)} :
      complete? [dropZeros first] = some completed ↔ _ :=
    complete?_short (show [].length < 2 from Nat.two_pos)
  rw [parseTolerant_eq_ok_iff_read, text, splitFirstPoints_of_noPoint absent]
  constructor
  · intro parts
    obtain ⟨components, completed, accepted⟩ := parts
    rw [(completion.mp completed).2] at accepted
    exact (reading.mp accepted).2
  · intro parts
    have numeral : isNumeral (dropZeros first) = true := by
      rw [dropZeros_eq_toDigits_iff.mpr parts.1]
      exact isNumeral_toDigits _
    have wellFormed := wellFormed_of_empty parts.2.2.2.1 parts.2.2.2.2
    exact ⟨_, completion.mpr ⟨hasSign_numeral numeral, rfl⟩, reading.mpr ⟨wellFormed, parts⟩⟩

theorem parseTolerant_two (text : unmarked input = first ++ '.' :: second)
    (firstAbsent : '.' ∉ first) (secondAbsent : '.' ∉ second) :
    parseTolerant input = .ok version ↔
      Denotes first version.major ∧ Denotes second version.minor ∧ version.patch = 0 ∧
        version.pre = [] ∧ version.build = [] := by
  have reading :
      read (['.'].intercalate [dropZeros first, dropZeros second, ['0']]) = .ok version ↔ _ :=
    read_components_iff (point_not_mem_dropZeros firstAbsent)
      (point_not_mem_dropZeros secondAbsent)
  rw [dropZeros_eq_toDigits_iff, dropZeros_eq_toDigits_iff, zero_patch_iff] at reading
  have completion {completed : List (List Char)} :
      complete? [dropZeros first, dropZeros second] = some completed ↔ _ :=
    complete?_short (show [dropZeros first].length < 2 from Nat.one_lt_two)
  rw [parseTolerant_eq_ok_iff_read, text, splitFirstPoints_append firstAbsent,
    splitFirstPoints_of_noPoint secondAbsent]
  constructor
  · intro parts
    obtain ⟨components, completed, accepted⟩ := parts
    rw [(completion.mp completed).2] at accepted
    exact (reading.mp accepted).2
  · intro parts
    have numeral : isNumeral (dropZeros second) = true := by
      rw [dropZeros_eq_toDigits_iff.mpr parts.2.1]
      exact isNumeral_toDigits _
    have wellFormed := wellFormed_of_empty parts.2.2.2.1 parts.2.2.2.2
    exact ⟨_, completion.mpr ⟨hasSign_numeral numeral, rfl⟩, reading.mpr ⟨wellFormed, parts⟩⟩

theorem parseTolerant_three (text : unmarked input = first ++ '.' :: (second ++ '.' :: third))
    (firstAbsent : '.' ∉ first) (secondAbsent : '.' ∉ second) :
    parseTolerant input = .ok version ↔
      version.WellFormed ∧ Denotes first version.major ∧ Denotes second version.minor ∧
        ((∃ digits, Denotes digits version.patch ∧
            third = digits ++ suffix version.pre version.build) ∨
          (version.patch = 0 ∧ third = suffix version.pre version.build ∧
            suffix version.pre version.build ≠ [])) := by
  have after := afterNumber_suffix version.pre version.build
  rw [parseTolerant_eq_ok_iff_read, text, splitFirstPoints_append firstAbsent,
    splitFirstPoints_append secondAbsent]
  change (∃ components, some [dropZeros first, dropZeros second, dropZeros third] =
    some components ∧ read (['.'].intercalate components) = .ok version) ↔ _
  simp only [Option.some.injEq, exists_eq_left']
  rw [read_components_iff (point_not_mem_dropZeros firstAbsent)
    (point_not_mem_dropZeros secondAbsent), dropZeros_eq_toDigits_iff, dropZeros_eq_toDigits_iff]
  constructor
  · intro parts
    obtain ⟨wellFormed, major, minor, normal⟩ := parts
    refine ⟨wellFormed, major, minor, ?_⟩
    rcases eq_of_dropZeros after normal with
      ⟨digits, numeral, value, thirdEq⟩ | ⟨zero, thirdEq, long⟩
    · exact Or.inl ⟨digits, ⟨numeral, value⟩, thirdEq⟩
    · refine Or.inr ⟨UInt64.toNat_inj.mp zero, thirdEq, ?_⟩
      intro empty
      rw [empty] at long
      exact absurd long (by decide)
  · intro parts
    obtain ⟨wellFormed, major, minor, patch⟩ := parts
    rcases patch with ⟨digits, ⟨numeral, value⟩, thirdEq⟩ | ⟨zero, thirdEq, nonempty⟩
    · refine ⟨wellFormed, major, minor, ?_⟩
      rw [thirdEq, dropZeros_numeral numeral after, value]
    · refine ⟨wellFormed, major, minor, ?_⟩
      rw [thirdEq, dropZeros_bare (two_le_length_suffix wellFormed nonempty) after, zero]
      rfl

end Forms

theorem parseTolerant_eq_ok_iff {input : String} {version : Version} :
    parseTolerant input = .ok version ↔
      Tolerated (unmarked input) version ∨ WithoutPatch (unmarked input) version := by
  constructor
  · intro accepted
    rcases pointCases (unmarked input) with
      absent | ⟨first, second, firstAbsent, secondAbsent, text⟩ |
        ⟨first, second, third, firstAbsent, secondAbsent, text⟩
    · obtain ⟨major, minor, patch, pre, build⟩ := (parseTolerant_one rfl absent).mp accepted
      cases version
      cases minor
      cases patch
      cases pre
      cases build
      exact Or.inl (.major major)
    · obtain ⟨major, minor, patch, pre, build⟩ :=
        (parseTolerant_two text firstAbsent secondAbsent).mp accepted
      rw [text]
      cases version
      cases patch
      cases pre
      cases build
      exact Or.inl (.minor major minor)
    · obtain ⟨wellFormed, major, minor, patch⟩ :=
        (parseTolerant_three text firstAbsent secondAbsent).mp accepted
      rw [text]
      rcases patch with ⟨digits, patch, thirdEq⟩ | ⟨zero, thirdEq, nonempty⟩
      · rw [thirdEq]
        exact Or.inl (.patch major minor patch wellFormed)
      · rw [thirdEq]
        exact Or.inr ⟨wellFormed, zero, ⟨first, second, major, minor, rfl⟩, nonempty⟩
  · intro either
    rcases either with tolerated | withoutPatch
    · generalize text : unmarked input = form at tolerated
      cases tolerated with
      | major denotes =>
          have absent := point_not_mem_numeral denotes.1
          exact (parseTolerant_one text absent).mpr ⟨denotes, rfl, rfl, rfl, rfl⟩
      | minor denotes denotesMinor =>
          exact (parseTolerant_two text (point_not_mem_numeral denotes.1)
            (point_not_mem_numeral denotesMinor.1)).mpr ⟨denotes, denotesMinor, rfl, rfl, rfl⟩
      | patch denotes denotesMinor denotesPatch wellFormed =>
          exact (parseTolerant_three text (point_not_mem_numeral denotes.1)
            (point_not_mem_numeral denotesMinor.1)).mpr
            ⟨wellFormed, denotes, denotesMinor, Or.inl ⟨_, denotesPatch, rfl⟩⟩
    · obtain ⟨digits, minorDigits, denotes, denotesMinor, text⟩ := withoutPatch.numbers
      exact (parseTolerant_three text (point_not_mem_numeral denotes.1)
        (point_not_mem_numeral denotesMinor.1)).mpr
        ⟨withoutPatch.wellFormed, denotes, denotesMinor,
          Or.inr ⟨withoutPatch.patch, rfl, withoutPatch.nonempty⟩⟩

theorem Tolerated.wellFormed {text : List Char} {version : Version}
    (tolerated : Tolerated text version) : version.WellFormed := by
  cases tolerated with
  | major denotes => exact wellFormed_of_empty rfl rfl
  | minor denotes denotesMinor => exact wellFormed_of_empty rfl rfl
  | patch denotes denotesMinor denotesPatch wellFormed => exact wellFormed

theorem Tolerated.not_lacksPatch {text : List Char} {version : Version}
    (tolerated : Tolerated text version) : ¬LacksPatch text := by
  intro parts
  obtain ⟨first, second, mark, rest, firstAbsent, secondAbsent, isMark, textEq⟩ := parts
  cases tolerated with
  | major denotes =>
      apply point_not_mem_numeral denotes.1
      rw [textEq]
      simp
  | minor denotes denotesMinor =>
      obtain ⟨-, minorEq⟩ :=
        append_point_inj (point_not_mem_numeral denotes.1) firstAbsent textEq
      apply point_not_mem_numeral denotesMinor.1
      rw [minorEq]
      simp
  | patch denotes denotesMinor denotesPatch wellFormed =>
      obtain ⟨-, afterMajor⟩ :=
        append_point_inj (point_not_mem_numeral denotes.1) firstAbsent textEq
      obtain ⟨-, afterMinor⟩ :=
        append_point_inj (point_not_mem_numeral denotesMinor.1) secondAbsent afterMajor
      obtain ⟨nonempty, allDigits⟩ := (isNumeral_iff _).mp denotesPatch.1
      rename_i digits _ patchDigits
      cases patchDigits with
      | nil => exact nonempty rfl
      | cons c others =>
          have same : c = mark := (List.cons.inj afterMinor).1
          have digit := allDigits c List.mem_cons_self
          rw [same] at digit
          rcases isMark with minus | plus
          · rw [minus] at digit
            exact absurd digit (by decide)
          · rw [plus] at digit
            exact absurd digit (by decide)

private theorem WithoutPatch.lacksPatch {text : List Char} {version : Version}
    (withoutPatch : WithoutPatch text version) : LacksPatch text := by
  obtain ⟨digits, minorDigits, denotes, denotesMinor, textEq⟩ := withoutPatch.numbers
  have after := afterNumber_suffix version.pre version.build
  have nonempty := withoutPatch.nonempty
  rw [textEq]
  cases tail : suffix version.pre version.build with
  | nil => exact absurd tail nonempty
  | cons mark rest =>
      rw [tail] at after
      exact ⟨digits, minorDigits, mark, rest, point_not_mem_numeral denotes.1,
        point_not_mem_numeral denotesMinor.1, after mark rfl, rfl⟩

def startsWithMark (text : List Char) : Bool :=
  match splitFirstPoints 2 text with
  | [_, _, mark :: _] => mark == '-' || mark == '+'
  | _ => false

private theorem lacksPatch_iff {text : List Char} :
    startsWithMark text = true ↔ LacksPatch text := by
  rw [startsWithMark]
  constructor
  · intro starts
    rcases pointCases text with
      absent | ⟨first, second, firstAbsent, secondAbsent, textEq⟩ |
        ⟨first, second, third, firstAbsent, secondAbsent, textEq⟩
    · rw [splitFirstPoints_of_noPoint absent] at starts
      cases starts
    · rw [textEq, splitFirstPoints_append firstAbsent,
        splitFirstPoints_of_noPoint secondAbsent] at starts
      cases starts
    · rw [textEq, splitFirstPoints_append firstAbsent, splitFirstPoints_append secondAbsent,
        splitFirstPoints] at starts
      cases third with
      | nil => cases starts
      | cons mark rest =>
          have isMark : mark = '-' ∨ mark = '+' := by
            simpa only [Bool.or_eq_true, beq_iff_eq] using starts
          exact ⟨first, second, mark, rest, firstAbsent, secondAbsent, isMark, textEq⟩
  · intro parts
    obtain ⟨first, second, mark, rest, firstAbsent, secondAbsent, isMark, textEq⟩ := parts
    rw [textEq, splitFirstPoints_append firstAbsent, splitFirstPoints_append secondAbsent,
      splitFirstPoints]
    simpa only [Bool.or_eq_true, beq_iff_eq] using isMark

instance (text : List Char) : Decidable (LacksPatch text) :=
  decidable_of_iff _ lacksPatch_iff

/-- What is accepted is of a tolerated form and means what that form says, except where a mark
stands right after the second point; there the suffix is read as if a zero stood before it. -/
theorem parseTolerant_grammar {input : String} {version : Version}
    (accepted : parseTolerant input = .ok version) :
    (Tolerated (unmarked input) version ↔ ¬LacksPatch (unmarked input)) ∧
      (LacksPatch (unmarked input) → WithoutPatch (unmarked input) version) := by
  have forms := parseTolerant_eq_ok_iff.mp accepted
  refine ⟨⟨Tolerated.not_lacksPatch, ?_⟩, ?_⟩
  · intro present
    rcases forms with tolerated | withoutPatch
    · exact tolerated
    · exact absurd withoutPatch.lacksPatch present
  · intro lacking
    rcases forms with tolerated | withoutPatch
    · exact absurd lacking tolerated.not_lacksPatch
    · exact withoutPatch

theorem parseTolerant_grammar_zeros :
    parseTolerant "\tv01.000.0-00a.0+00 \n" =
        .ok ⟨1, 0, 0, [.alphanumeric "00a", .numeric 0], ["00"]⟩ ∧
      Tolerated (unmarked "\tv01.000.0-00a.0+00 \n")
        ⟨1, 0, 0, [.alphanumeric "00a", .numeric 0], ["00"]⟩ :=
  ⟨rfl, (parseTolerant_grammar rfl).1.mpr (by decide)⟩

/-- A text with an empty third component is accepted, although no tolerated form allows for it. -/
theorem parseTolerant_accepts_missing_patch :
    parseTolerant "1.2.-a" = .ok ⟨1, 2, 0, [.alphanumeric "a"], []⟩ ∧
      ∀ version, ¬Tolerated (unmarked "1.2.-a") version := by
  refine ⟨rfl, ?_⟩
  intro version tolerated
  exact tolerated.not_lacksPatch (by decide)

end HostValue.Version
