import HostValue.Proofs.Version.RoundTrip

/-!
# Decorated versions

Versions with blanks around them, a `v` in front and zeros before their numbers. All of them are
accepted, as the version of their numbers and identifiers, unless a number is too large. Then the
fault carries the text with all its decoration.
-/

namespace HostValue.Version

open Text

/-- The text with blanks around it and perhaps a `v` in front. -/
def Decorates (input : String) (body : List Char) : Prop :=
  ∃ before mark after, (∀ c ∈ before, isBlank c = true) ∧ (∀ c ∈ after, isBlank c = true) ∧
    (mark = [] ∨ mark = ['v']) ∧ input.toList = before ++ (mark ++ body) ++ after

/-- The numbers, as runs of digits, and the identifiers that a text is composed of: one, two or three
numbers, the third of which may have identifiers behind it. -/
inductive ComposedOf : List Char → List (List Char) → List PreRelease → List String → Prop where
  | major {major : List Char} (numeral : isNumeral major = true) : ComposedOf major [major] [] []
  | minor {major minor : List Char} (numeral : isNumeral major = true)
      (minorNumeral : isNumeral minor = true) :
      ComposedOf (major ++ '.' :: minor) [major, minor] [] []
  | patch {major minor patch : List Char} {pre : List PreRelease} {build : List String}
      (numeral : isNumeral major = true) (minorNumeral : isNumeral minor = true)
      (patchNumeral : isNumeral patch = true)
      (preWellFormed : ∀ identifier ∈ pre, WellFormedPre identifier)
      (buildWellFormed : ∀ identifier ∈ build, IsIdentifier identifier.toList) :
      ComposedOf (numbered major minor patch (suffix pre build)) [major, minor, patch] pre build

/-- The value of one of several numbers, and zero for those that are left out. -/
def valueAt (numbers : List (List Char)) (position : Nat) : UInt64 :=
  (digitsValue (numbers[position]?.getD [])).toUInt64

/-! ### Removing the decoration -/

private theorem visible_suffix {pre : List PreRelease} {build : List String}
    (wellFormed : (Version.mk 0 0 0 pre build).WellFormed) :
    ∀ c ∈ suffix pre build, isBlank c = false := by
  intro c member
  apply visible_render wellFormed
  rw [render_toList, numbered]
  simp [member]

private theorem visible_point (front : List Char) {rest : List Char}
    (frontVisible : ∀ c ∈ front, isBlank c = false) (restVisible : ∀ c ∈ rest, isBlank c = false) :
    ∀ c ∈ front ++ '.' :: rest, isBlank c = false := by
  intro c member
  rcases List.mem_append.mp member with inFront | behind
  · exact frontVisible c inFront
  · rcases List.mem_cons.mp behind with rfl | inRest
    · rfl
    · exact restVisible c inRest

private theorem ComposedOf.visible {body : List Char} {numbers : List (List Char)}
    {pre : List PreRelease}
    {build : List String} (composed : ComposedOf body numbers pre build) :
    ∀ c ∈ body, isBlank c = false := by
  cases composed with
  | major numeral => exact visible_numeral numeral
  | minor numeral minorNumeral =>
      exact visible_point _ (visible_numeral numeral) (visible_numeral minorNumeral)
  | patch numeral minorNumeral patchNumeral preWellFormed buildWellFormed =>
      refine visible_point _ (visible_numeral numeral) ?_
      refine visible_point _ (visible_numeral minorNumeral) ?_
      intro c member
      rcases List.mem_append.mp member with inPatch | inSuffix
      · exact visible_numeral patchNumeral c inPatch
      · exact visible_suffix ⟨preWellFormed, buildWellFormed⟩ c inSuffix

private theorem numeral_cons {digits : List Char} (numeral : isNumeral digits = true) :
    ∃ c others, digits = c :: others ∧ c.isDigit = true := by
  obtain ⟨nonempty, allDigits⟩ := (isNumeral_iff digits).mp numeral
  obtain ⟨c, others, rfl⟩ := List.exists_cons_of_ne_nil nonempty
  exact ⟨c, others, rfl, allDigits c List.mem_cons_self⟩

private theorem ComposedOf.starts {body : List Char} {numbers : List (List Char)}
    {pre : List PreRelease}
    {build : List String} (composed : ComposedOf body numbers pre build) :
    ∃ c others, body = c :: others ∧ c.isDigit = true := by
  cases composed with
  | major numeral => exact numeral_cons numeral
  | minor numeral =>
      obtain ⟨c, others, rfl, digit⟩ := numeral_cons numeral
      exact ⟨c, _, rfl, digit⟩
  | patch numeral =>
      obtain ⟨c, others, rfl, digit⟩ := numeral_cons numeral
      exact ⟨c, _, rfl, digit⟩

private theorem unmarked_of_decorates {input : String} {body : List Char}
    (decorates : Decorates input body)
    (starts : ∃ c others, body = c :: others ∧ c.isDigit = true)
    (visible : ∀ c ∈ body, isBlank c = false) : unmarked input = body := by
  obtain ⟨before, mark, after, beforeBlank, afterBlank, isMark, text⟩ := decorates
  obtain ⟨c, others, rfl, digit⟩ := starts
  have markVisible : ∀ d ∈ mark ++ c :: others, isBlank d = false := by
    intro d member
    rcases List.mem_append.mp member with inMark | inBody
    · rcases isMark with rfl | rfl
      · cases inMark
      · rw [List.mem_singleton.mp inMark]
        rfl
    · exact visible d inBody
  rw [unmarked, text, trim_surrounded beforeBlank afterBlank (by simp) markVisible]
  rcases isMark with rfl | rfl
  · have noMark : c ≠ 'v' := by
      rintro rfl
      exact absurd digit (by decide)
    simp [noMark]
  · rfl

/-! ### Failures -/

private theorem parse_of_parseTolerant_eq_error {input : String} {error : ValueError}
    (refused : parseTolerant input = .error error) : ∃ message, error = .parse input message := by
  unfold parseTolerant at refused
  change (if (unmarked input).isEmpty = true then _ else _) = _ at refused
  split at refused
  · cases refused
    exact ⟨_, rfl⟩
  · split at refused
    · cases refused
      exact ⟨_, rfl⟩
    · split at refused
      · cases refused
      · cases refused
        exact ⟨_, rfl⟩

private theorem Denotes.lt_size {digits : List Char} {number : UInt64}
    (denotes : Denotes digits number) :
    digitsValue digits < UInt64.size := by
  rw [denotes.2]
  exact number.toNat_lt_size

private theorem ComposedOf.lt_size {input : String} {body : List Char} {numbers : List (List Char)}
    {pre : List PreRelease} {build : List String} (composed : ComposedOf body numbers pre build)
    (text : unmarked input = body) {version : Version} (accepted : parseTolerant input = .ok version) :
    ∀ digits ∈ numbers, digitsValue digits < UInt64.size := by
  cases composed with
  | major numeral =>
      have denotes := ((parseTolerant_one text (point_not_mem_numeral numeral)).mp accepted).1
      simpa using denotes.lt_size
  | minor numeral minorNumeral =>
      obtain ⟨denotes, denotesMinor, -⟩ := (parseTolerant_two text (point_not_mem_numeral numeral)
        (point_not_mem_numeral minorNumeral)).mp accepted
      simpa using ⟨denotes.lt_size, denotesMinor.lt_size⟩
  | @patch major minor patch pre build numeral minorNumeral patchNumeral =>
      obtain ⟨-, denotes, denotesMinor, third⟩ := (parseTolerant_three text
        (point_not_mem_numeral numeral) (point_not_mem_numeral minorNumeral)).mp accepted
      have allDigits := ((isNumeral_iff patch).mp patchNumeral).2
      have ends := (afterNumber_suffix pre build).not_digit
      have otherEnds := (afterNumber_suffix version.pre version.build).not_digit
      have denotesPatch : Denotes patch version.patch := by
        rcases third with ⟨digits, denotesDigits, same⟩ | ⟨-, same, -⟩
        · have otherDigits := ((isNumeral_iff digits).mp denotesDigits.1).2
          obtain ⟨sameDigits, -⟩ := append_run_inj allDigits otherDigits ends otherEnds same
          rwa [sameDigits]
        · have noDigits : ∀ c ∈ ([] : List Char), c.isDigit = true := by simp
          obtain ⟨empty, -⟩ := append_run_inj allDigits noDigits ends otherEnds same
          exact absurd empty ((isNumeral_iff patch).mp patchNumeral).1
      simpa using ⟨denotes.lt_size, denotesMinor.lt_size, denotesPatch.lt_size⟩

private theorem denotes_toUInt64 {digits : List Char} (numeral : isNumeral digits = true)
    (small : digitsValue digits < UInt64.size) : Denotes digits (digitsValue digits).toUInt64 :=
  ⟨numeral, (UInt64.toNat_ofNat_of_lt' small).symm⟩

private theorem ComposedOf.tolerated {body : List Char} {numbers : List (List Char)}
    {pre : List PreRelease}
    {build : List String} (composed : ComposedOf body numbers pre build)
    (small : ∀ digits ∈ numbers, digitsValue digits < UInt64.size) :
    Tolerated body
      ⟨valueAt numbers 0, valueAt numbers 1, valueAt numbers 2, pre, build⟩ := by
  cases composed with
  | major numeral => exact .major (denotes_toUInt64 numeral (small _ (by simp)))
  | minor numeral minorNumeral =>
      exact .minor (denotes_toUInt64 numeral (small _ (by simp)))
        (denotes_toUInt64 minorNumeral (small _ (by simp)))
  | @patch major minor patch pre build numeral minorNumeral patchNumeral preWellFormed buildWellFormed =>
      have wellFormed : (Version.mk (valueAt [major, minor, patch] 0)
          (valueAt [major, minor, patch] 1) (valueAt [major, minor, patch] 2) pre build).WellFormed :=
        ⟨preWellFormed, buildWellFormed⟩
      exact .patch (denotes_toUInt64 numeral (small _ (by simp)))
        (denotes_toUInt64 minorNumeral (small _ (by simp)))
        (denotes_toUInt64 patchNumeral (small _ (by simp))) wellFormed

/-! ### Main statement -/

/-- A decorated text of numbers and identifiers is accepted, as the version of the values of its
numbers and of its identifiers; and if the value of one of its numbers needs more than sixty-four bits,
it is refused as a text that is no version, with all its decoration. -/
theorem parseTolerant_decorated {input : String} {body : List Char} {numbers : List (List Char)}
    {pre : List PreRelease} {build : List String} (decorates : Decorates input body)
    (composed : ComposedOf body numbers pre build) :
    ((∀ digits ∈ numbers, digitsValue digits < UInt64.size) →
        parseTolerant input =
          .ok ⟨valueAt numbers 0, valueAt numbers 1, valueAt numbers 2, pre, build⟩) ∧
      ((∃ digits ∈ numbers, UInt64.size ≤ digitsValue digits) →
        ∃ message, parseTolerant input = .error (.parse input message)) := by
  have text := unmarked_of_decorates decorates composed.starts composed.visible
  refine ⟨fun small => ?_, fun large => ?_⟩
  · apply parseTolerant_eq_ok_iff.mpr
    rw [text]
    exact .inl (composed.tolerated small)
  · obtain ⟨digits, listed, large⟩ := large
    have refused (version : Version) : parseTolerant input ≠ .ok version := fun accepted =>
      absurd (composed.lt_size text accepted digits listed) (Nat.not_lt.mpr large)
    obtain ⟨error, failed⟩ := exists_error_iff.mpr refused
    obtain ⟨message, rfl⟩ := parse_of_parseTolerant_eq_error failed
    exact ⟨message, failed⟩

/-- Zeros before a zero, blanks of several kinds, and dots inside the suffix; and a minor number that
is too large by one. -/
theorem parseTolerant_decorated_zeros :
    parseTolerant "\u00a0\tv000.0018446744073709551615.00-0a.0+00.-\u3000" =
        .ok ⟨0, 18446744073709551615, 0, [.alphanumeric "0a", .numeric 0], ["00", "-"]⟩ ∧
      ∃ message, parseTolerant " 1.018446744073709551616\n" =
        .error (.parse " 1.018446744073709551616\n" message) := by
  have composed : ComposedOf (numbered "000".toList "0018446744073709551615".toList "00".toList
        (suffix [.alphanumeric "0a", .numeric 0] ["00", "-"]))
      ["000".toList, "0018446744073709551615".toList, "00".toList]
      [.alphanumeric "0a", .numeric 0] ["00", "-"] :=
    .patch rfl rfl rfl (by decide) (by decide)
  have decorates : Decorates "\u00a0\tv000.0018446744073709551615.00-0a.0+00.-\u3000"
      (numbered "000".toList "0018446744073709551615".toList "00".toList
        (suffix [.alphanumeric "0a", .numeric 0] ["00", "-"])) :=
    ⟨['\u00a0', '\t'], ['v'], ['\u3000'], List.all_eq_true.mp rfl, List.all_eq_true.mp rfl,
      .inr rfl, by decide⟩
  have composedLarge : ComposedOf ("1".toList ++ '.' :: "018446744073709551616".toList)
      ["1".toList, "018446744073709551616".toList] [] [] := .minor rfl rfl
  have decoratesLarge : Decorates " 1.018446744073709551616\n"
      ("1".toList ++ '.' :: "018446744073709551616".toList) :=
    ⟨[' '], [], ['\n'], List.all_eq_true.mp rfl, List.all_eq_true.mp rfl, .inl rfl, by decide⟩
  exact ⟨(parseTolerant_decorated decorates composed).1 (by decide),
    (parseTolerant_decorated decoratesLarge composedLarge).2 (by decide)⟩

end HostValue.Version
