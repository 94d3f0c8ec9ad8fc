import HostValue.Proofs.Yaml.Text
import HostValue.Yaml.Scalar

/-!
# Reading plain scalars that were written

A text that may be written without quotes is read back as it is, in front of a colon that ends a word
and in front of a line that is not indented enough to go on with it.
-/

namespace HostValue.Yaml

structure InLine (c : Char) : Prop where
  printable : isPrintable c = true
  noBreak : isBreak c = false

section Reading

variable {around : Surroundings} {gap : Option Gap} {line column : Nat} {c : Char} {rest : List Char}

private theorem readPlain_break (breaks : isBreak c = true) (notReturn : c ≠ '\r') :
    readPlain around gap line column (c :: rest) =
      readPlain around (some (Gap.addBreak gap c)) (line + 1) 0 rest := by
  rw [readPlain, if_pos breaks]
  exact fun _ isReturn _ => notReturn isReturn

theorem readPlain_space :
    readPlain around gap line column (' ' :: rest) =
      readPlain around (some (Gap.addWhite gap ' ')) line (column + 1) rest := by
  rw [readPlain]
  · rfl
  · exact fun _ isReturn => by cases isReturn

theorem readPlain_end (noBreak : isBreak c = false) (noWhite : isWhite c = false)
    (ends : around.endsPlain gap column c rest = true) :
    readPlain around gap line column (c :: rest) =
      some ([], Gap.hasBreak gap, ⟨c :: rest, line, column⟩) := by
  rw [readPlain]
  · simp [noBreak, noWhite, ends]
  · exact fun _ isReturn _ => ne_return_of_not_isBreak noBreak isReturn

theorem readPlain_char (inBlock : around.inFlow = false) (noBreak : isBreak c = false)
    (noWhite : isWhite c = false) (goesOn : around.endsPlain gap column c rest = false)
    {text : List Char} {isBroken : Bool} {cursor : Cursor}
    (read : readPlain around none line (column + 1) rest = some (text, isBroken, cursor)) :
    readPlain around gap line column (c :: rest) =
      some (Gap.fold gap ++ c :: text, isBroken, cursor) := by
  rw [readPlain]
  · simp [noBreak, noWhite, goesOn, inBlock, read]
  · exact fun _ isReturn _ => ne_return_of_not_isBreak noBreak isReturn

end Reading

/-- The text goes on as one plain scalar behind a character and spaces that were read already. -/
structure GoesOn (spaces : List Char) (previous : Char) (text : List Char) : Prop where
  inLine : ∀ c ∈ text, InLine c
  noIndicator : hasInnerIndicator (previous :: text) = false
  noSpaceEnd : text.getLast? ≠ some ' '
  empty : text = [] → spaces = []
  behindSpace : spaces ≠ [] → previous = ' '

theorem endsWord_append {text rest : List Char} (ends : endsWord text = false) :
    endsWord (text ++ rest) = false := by
  cases text with
  | nil => cases ends
  | cons c others => exact ends

private theorem hasInnerIndicator_colon {previous : Char} {rest : List Char}
    (none : hasInnerIndicator (previous :: ':' :: rest) = false) : endsWord rest = false := by
  rw [hasInnerIndicator, Bool.or_eq_false_iff] at none
  exact none.1

private theorem hasInnerIndicator_comment {rest : List Char} :
    hasInnerIndicator (' ' :: '#' :: rest) = true :=
  rfl

private theorem hasInnerIndicator_tail {previous : Char} {rest : List Char}
    (none : hasInnerIndicator (previous :: rest) = false) : hasInnerIndicator rest = false := by
  change (_ || hasInnerIndicator rest) = false at none
  exact (Bool.or_eq_false_iff.mp none).2

/-- In a block, a character of a text that goes on as one plain scalar does not end it. -/
private theorem GoesOn.endsPlain_eq_false {around : Surroundings} {spaces rest behind : List Char}
    {previous c : Char} {column : Nat} (inBlock : around.inFlow = false)
    (goesOn : GoesOn spaces previous (c :: rest)) (started : 0 < column)
    (indented : around.minColumn ≤ column) :
    around.endsPlain (spacesGap spaces) column c (rest ++ behind) = false := by
  have noColon : (c == ':' && endsWord (rest ++ behind)) = false := by
    by_cases colon : c = ':'
    · subst colon
      rw [endsWord_append (hasInnerIndicator_colon goesOn.noIndicator), Bool.and_false]
    · rw [beq_eq_false_iff_ne.mpr colon, Bool.false_and]
  have notFirst : (column == 0) = false := by
    rw [beq_eq_false_iff_ne]
    omega
  have notLess : decide (column < around.minColumn) = false := by
    rw [decide_eq_false_iff_not]
    omega
  rw [Surroundings.endsPlain, noColon, inBlock, notFirst, notLess]
  simp only [Bool.false_and, Bool.or_false, Bool.and_false, Bool.and_eq_false_iff,
    beq_eq_false_iff_ne]
  by_cases none : spaces = []
  · exact .inl (by rw [spacesGap, if_pos none]; rfl)
  · refine .inr ?_
    rintro rfl
    have inner := goesOn.noIndicator
    rw [goesOn.behindSpace none, hasInnerIndicator_comment] at inner
    cases inner

private theorem GoesOn.readPlain {around : Surroundings} (inBlock : around.inFlow = false)
    {text behind : List Char} {isBroken : Bool} {cursor : Cursor} {line : Nat}
    {spaces : List Char} {previous : Char} {column : Nat} (goesOn : GoesOn spaces previous text)
    (started : 0 < column) (indented : around.minColumn ≤ column)
    (ends : readPlain around none line (column + text.length) behind = some ([], isBroken, cursor)) :
    readPlain around (spacesGap spaces) line column (text ++ behind) =
      some (spaces ++ text, isBroken, cursor) := by
  induction text generalizing spaces previous column with
  | nil =>
      rw [goesOn.empty rfl]
      exact ends
  | cons c rest ih =>
      have inLine := goesOn.inLine c List.mem_cons_self
      have next : column + 1 + rest.length = column + (c :: rest).length := by
        rw [List.length_cons]
        omega
      rw [← next] at ends
      have others : ∀ d ∈ rest, InLine d := fun d member =>
        goesOn.inLine d (List.mem_cons_of_mem _ member)
      have inner := hasInnerIndicator_tail goesOn.noIndicator
      have last : rest.getLast? ≠ some ' ' := by
        intro space
        apply goesOn.noSpaceEnd
        rw [List.getLast?_cons, space]
        rfl
      by_cases space : c = ' '
      · subst space
        have nonempty : rest ≠ [] := by
          rintro rfl
          exact goesOn.noSpaceEnd rfl
        have behindSpace : GoesOn (spaces ++ [' ']) ' ' rest :=
          ⟨others, inner, last, fun empty => absurd empty nonempty, fun _ => rfl⟩
        rw [List.cons_append, readPlain_space, addWhite_spacesGap,
          ih behindSpace (by omega) (by omega) ends, List.append_assoc, List.singleton_append]
      · have behindWord : GoesOn [] c rest :=
          ⟨others, inner, last, fun _ => rfl, fun nonempty => absurd rfl nonempty⟩
        have read := ih behindWord (by omega) (by omega) ends
        rw [List.cons_append,
          readPlain_char inBlock inLine.noBreak (isWhite_eq_false inLine.printable space)
            (goesOn.endsPlain_eq_false inBlock started indented) read,
          fold_spacesGap, List.nil_append]

/-! ### Whole texts -/

structure IsPlain (c : Char) (rest : List Char) : Prop where
  inLine : InLine c
  noSpace : c ≠ ' '
  noIndicator : hasOuterIndicator (c :: rest) = false
  goesOn : GoesOn [] c rest

theorem exists_isPlain {text : List Char} (allowed : allowsPlain text = true) :
    ∃ c rest, text = c :: rest ∧ IsPlain c rest := by
  simp only [allowsPlain, needsEscapes, hasWhiteEnd, Bool.and_eq_true, Bool.not_eq_true',
    Bool.or_eq_false_iff, Bool.not_eq_false', List.isEmpty_eq_false_iff] at allowed
  obtain ⟨⟨⟨⟨⟨nonempty, noBreak⟩, printable, -⟩, first, last⟩, noOuter⟩, noInner⟩ := allowed
  obtain ⟨c, rest, rfl⟩ := List.exists_cons_of_ne_nil nonempty
  have inLine : ∀ d ∈ c :: rest, InLine d := fun d member =>
    ⟨List.all_eq_true.mp printable d member,
      by simpa using List.any_eq_false.mp noBreak d member⟩
  obtain ⟨firstInLine, others⟩ := List.forall_mem_cons.mp inLine
  have noSpace : c ≠ ' ' := by
    rintro rfl
    cases first
  have noSpaceEnd : rest.getLast? ≠ some ' ' := by
    intro space
    rw [List.getLast?_cons, space] at last
    cases last
  exact ⟨c, rest, rfl, firstInLine, noSpace, noOuter, others, noInner, noSpaceEnd, fun _ => rfl,
    fun some => absurd rfl some⟩

theorem IsPlain.noBreaks {c : Char} {rest : List Char} (plain : IsPlain c rest) :
    ∀ d ∈ c :: rest, isBreak d = false :=
  List.forall_mem_cons.mpr
    ⟨plain.inLine.noBreak, fun d member => (plain.goesOn.inLine d member).noBreak⟩

private theorem IsPlain.colon {rest : List Char} (plain : IsPlain ':' rest) :
    endsWord rest = false :=
  plain.noIndicator

section Whole

variable {around : Surroundings} {line column : Nat}

theorem IsPlain.readPlain {c : Char} {rest behind : List Char} (plain : IsPlain c rest)
    (inBlock : around.inFlow = false) (indented : around.minColumn ≤ column + 1) {isBroken : Bool}
    {cursor : Cursor}
    (ends : readPlain around none line (column + 1 + rest.length) behind =
      some ([], isBroken, cursor)) :
    readPlain around none line column (c :: (rest ++ behind)) =
      some (c :: rest, isBroken, cursor) := by
  have stays : around.endsPlain none column c (rest ++ behind) = false := by
    rw [Surroundings.endsPlain, inBlock]
    simp only [Option.isSome_none, Bool.false_and, Bool.false_or, Bool.or_false,
      Bool.and_eq_false_iff, beq_eq_false_iff_ne]
    by_cases colon : c = ':'
    · subst colon
      exact .inr (endsWord_append plain.colon)
    · exact .inl colon
  have read := plain.goesOn.readPlain inBlock (Nat.succ_pos column) indented ends
  exact readPlain_char inBlock plain.inLine.noBreak
    (isWhite_eq_false plain.inLine.printable plain.noSpace) stays read

theorem readPlain_colon {after : List Char} (ends : endsWord after = true) :
    readPlain around none line column (':' :: after) =
      some ([], false, ⟨':' :: after, line, column⟩) := by
  refine readPlain_end rfl rfl ?_
  rw [Surroundings.endsPlain, ends]
  simp

private theorem readPlain_spaces (first : Option Char) (others : List Char) (spaces : Nat)
    (rest : List Char) :
    readPlain around (some (.breaks first others)) line column (List.replicate spaces ' ' ++ rest) =
      readPlain around (some (.breaks first others)) line (column + spaces) rest := by
  induction spaces generalizing column with
  | zero => rfl
  | succ spaces ih =>
      rw [List.replicate_succ, List.cons_append, readPlain_space]
      change readPlain around (some (.breaks first others)) line (column + 1) _ = _
      rw [ih, Nat.add_right_comm, Nat.add_assoc]

theorem readPlain_line {spaces : Nat} {rest : List Char} (inBlock : around.inFlow = false)
    (starts : ∀ c, rest.head? = some c → isBreak c = false ∧ isWhite c = false)
    (low : rest ≠ [] → spaces < around.minColumn) :
    readPlain around none line column ('\n' :: (List.replicate spaces ' ' ++ rest)) =
      some ([], true, ⟨rest, line + 1, spaces⟩) := by
  rw [readPlain_break rfl (by decide)]
  change readPlain around (some (.breaks (some '\n') [])) _ _ _ = _
  rw [readPlain_spaces, Nat.zero_add]
  cases rest with
  | nil => rfl
  | cons c others =>
      obtain ⟨noBreak, noWhite⟩ := starts c rfl
      have less := low (by simp)
      refine readPlain_end noBreak noWhite ?_
      rw [Surroundings.endsPlain, inBlock]
      simp [less]

end Whole

end HostValue.Yaml
