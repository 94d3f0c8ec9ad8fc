import HostValue.Proofs.Yaml.Text
import HostValue.Yaml.Scalar
import HostValue.Yaml.Writer

/-!
# Reading literal scalars that were written

A text of lines is read back from the literal scalar in which it is written, in front of a line that is
less indented. Its header keeps exactly the line breaks with which the text ends.
-/

namespace HostValue.Yaml

/-- What a header says of the line breaks at the end of a text, which is given from its end. -/
def chompingOf : List Char → Chomping
  | [] => .strip
  | last :: before =>
    if !isBreak last then .strip else if before.head?.all isBreak then .keep else .clip

/-- The line break that closes the last line of a text, if it does not end with one. The text is given
from its end. -/
def closer (reversed : List Char) : List Char :=
  if reversed.head?.any isBreak then [] else ['\n']

private theorem chompingOf_keep {last : Char} {before : List Char} (breaks : isBreak last = true)
    (others : before.head?.all isBreak = true) : chompingOf (last :: before) = .keep := by
  rw [chompingOf, breaks, others]
  rfl

private theorem chompingOf_clip {last c : Char} {before : List Char} (breaks : isBreak last = true)
    (noBreak : isBreak c = false) : chompingOf (last :: c :: before) = .clip := by
  simp [chompingOf, breaks, noBreak]

private theorem closer_break {last : Char} (breaks : isBreak last = true) (before : List Char) :
    closer (last :: before) = [] :=
  if_pos breaks

/-! ### Open lines -/

/-- The line breaks that are still open, behind a text that was read and is given from its end. -/
inductive Opens : OpenLines → List Char → Prop where
  | start {others : List Char} {white : Bool} (breaks : ∀ c ∈ others, isBreak c = true) :
      Opens ⟨none, others, white⟩ others.reverse
  | line {first c : Char} {others before : List Char} {white : Bool} (firstBreaks : isBreak first = true)
      (breaks : ∀ c ∈ others, isBreak c = true) (noBreak : isBreak c = false) :
      Opens ⟨some first, others, white⟩ (others.reverse ++ first :: c :: before)

namespace OpenLines

def pending (lines : OpenLines) : List Char :=
  lines.first.toList ++ lines.others

end OpenLines

private theorem Opens.addBreak {lines : OpenLines} {reversed : List Char}
    (opens : Opens lines reversed)
    {c : Char} (breaks : isBreak c = true) :
    Opens { lines with others := lines.others ++ [c] } (c :: reversed) := by
  have more {others : List Char} (allBreak : ∀ d ∈ others, isBreak d = true) :
      ∀ d ∈ others ++ [c], isBreak d = true :=
    List.forall_mem_append.mpr ⟨allBreak, List.forall_mem_singleton.mpr breaks⟩
  cases opens with
  | @start others white allBreak =>
      have longer : Opens ⟨none, others ++ [c], white⟩ _ := .start (more allBreak)
      rwa [List.reverse_append, List.reverse_singleton, List.singleton_append] at longer
  | @line first d others before white firstBreaks allBreak noBreak =>
      have longer : Opens ⟨some first, others ++ [c], white⟩ (_ ++ first :: d :: before) :=
        .line firstBreaks (more allBreak) noBreak
      rwa [List.reverse_append, List.reverse_singleton, List.singleton_append, List.cons_append]
        at longer

private theorem Opens.chomp {lines : OpenLines} {reversed : List Char}
    (opens : Opens lines reversed)
    (nonempty : reversed ≠ []) :
    lines.chomp (chompingOf reversed) = lines.pending ∧ closer reversed = [] := by
  cases opens with
  | @start others white breaks =>
      have backwards : ∀ c ∈ others.reverse, isBreak c = true := fun c member =>
        breaks c (List.mem_reverse.mp member)
      match reversed : others.reverse with
      | [] => exact absurd reversed nonempty
      | last :: before =>
          rw [reversed] at backwards
          obtain ⟨lastBreaks, beforeBreak⟩ := List.forall_mem_cons.mp backwards
          have keeps : before.head?.all isBreak = true := by
            cases before with
            | nil => rfl
            | cons c _ => exact beforeBreak c List.mem_cons_self
          exact ⟨by rw [chompingOf_keep lastBreaks keeps]; rfl, closer_break lastBreaks before⟩
  | @line first c others before white firstBreaks breaks noBreak =>
      have backwards : ∀ c ∈ others.reverse, isBreak c = true := fun c member =>
        breaks c (List.mem_reverse.mp member)
      match reversed : others.reverse with
      | [] =>
          have none : others = [] := List.reverse_eq_nil_iff.mp reversed
          rw [none]
          exact ⟨by rw [List.nil_append, chompingOf_clip firstBreaks noBreak]; rfl,
            closer_break firstBreaks _⟩
      | last :: between =>
          rw [reversed] at backwards
          obtain ⟨lastBreaks, betweenBreak⟩ := List.forall_mem_cons.mp backwards
          have keeps : (between ++ first :: c :: before).head?.all isBreak = true := by
            cases between with
            | nil => exact firstBreaks
            | cons d _ => exact betweenBreak d List.mem_cons_self
          rw [List.cons_append]
          exact ⟨by rw [chompingOf_keep lastBreaks keeps]; rfl, closer_break lastBreaks _⟩

/-! ### Steps of the reader -/

section Reading

variable {style : BlockStyle} {lines : OpenLines} {white : Bool} {line column : Nat} {c : Char}
  {rest : List Char}

theorem readLine_break (breaks : isBreak c = true) (notReturn : c ≠ '\r') :
    style.readLine white line column (c :: rest) =
      style.readLines ⟨some (normalBreak c), [], white⟩ (line + 1) 0 rest := by
  rw [BlockStyle.readLine, if_pos breaks]
  exact fun _ isReturn _ => notReturn isReturn

private theorem readLine_char (noBreak : isBreak c = false) {text : List Char} {cursor : Cursor}
    (read : style.readLine white line (column + 1) rest = some (text, cursor)) :
    style.readLine white line column (c :: rest) = some (c :: text, cursor) := by
  rw [BlockStyle.readLine]
  · simp [noBreak, read]
  · exact fun _ isReturn _ => ne_return_of_not_isBreak noBreak isReturn

private theorem readLines_break (breaks : isBreak c = true) (notReturn : c ≠ '\r') :
    style.readLines lines line column (c :: rest) =
      style.readLines { lines with others := lines.others ++ [normalBreak c] } (line + 1) 0 rest := by
  rw [BlockStyle.readLines, if_pos breaks]
  exact fun _ isReturn _ => notReturn isReturn

theorem readLines_spaces (spaces : Nat) (within : column + spaces ≤ style.indentation) :
    style.readLines lines line column (List.replicate spaces ' ' ++ rest) =
      style.readLines lines line (column + spaces) rest := by
  induction spaces generalizing column with
  | zero => rfl
  | succ spaces ih =>
      have less : column < style.indentation := by omega
      rw [List.replicate_succ, List.cons_append, BlockStyle.readLines]
      · simp only [if_pos less]
        exact (ih (by omega)).trans (by rw [Nat.add_right_comm, Nat.add_assoc])
      · exact fun _ isReturn => by cases isReturn

private theorem readLines_char (noBreak : isBreak c = false) (unfolded : style.isFolded = false)
    (indented : style.indentation ≤ column) {text : List Char} {cursor : Cursor}
    (read : style.readLine (isWhite c) line (column + 1) rest = some (text, cursor)) :
    style.readLines lines line column (c :: rest) = some (lines.pending ++ c :: text, cursor) := by
  have notLess : ¬column < style.indentation := by omega
  rw [BlockStyle.readLines]
  · simp [noBreak, notLess, read, unfolded, OpenLines.join, OpenLines.pending]
  · exact fun _ isReturn _ => ne_return_of_not_isBreak noBreak isReturn

private theorem readLines_end {spaces : Nat} (low : spaces < style.indentation)
    (starts : ∀ c, rest.head? = some c → isBreak c = false ∧ isWhite c = false) :
    style.readLines lines line 0 (List.replicate spaces ' ' ++ rest) =
      some (lines.chomp style.chomping, ⟨rest, line, spaces⟩) := by
  rw [readLines_spaces spaces (by omega), Nat.zero_add]
  cases rest with
  | nil => rw [BlockStyle.readLines]
  | cons c others =>
      obtain ⟨noBreak, noWhite⟩ := starts c rfl
      have noSpace : c ≠ ' ' := ne_of_not_isWhite noWhite rfl
      have noTab : c ≠ '\t' := ne_of_not_isWhite noWhite rfl
      rw [BlockStyle.readLines]
      · simp [noBreak, low, noSpace, noTab]
      · exact fun _ isReturn _ => ne_return_of_not_isBreak noBreak isReturn

end Reading

/-! ### Texts -/

section Texts

variable {style : BlockStyle} {spaces : Nat} {c : Char} {rest ending text reversed : List Char}

/-- The rest of a text is read as it is, in front of what ends it: from inside a line, and from the
start of one. What was read before the rest is given from its end. -/
structure ReadsOn (style : BlockStyle) (spaces : Nat) (rest ending text reversed : List Char) :
    Prop where
  inside {c : Char} {before : List Char} (previous : reversed = c :: before)
    (noBreak : isBreak c = false) (white : Bool) (line column : Nat) :
    ∃ last, style.readLine white line column
        (indentLines style.indentation false text ++ ending) = some (text, ⟨rest, last, spaces⟩)
  atStart {lines : OpenLines} (opens : Opens lines reversed) (nonempty : text = [] → reversed ≠ [])
    (line : Nat) :
    ∃ last, style.readLines lines line 0 (indentLines style.indentation true text ++ ending) =
      some (lines.pending ++ text, ⟨rest, last, spaces⟩)

private theorem readsOn_nil (low : spaces < style.indentation)
    (starts : ∀ c, rest.head? = some c → isBreak c = false ∧ isWhite c = false)
    (chomping : style.chomping = chompingOf reversed) :
    ReadsOn style spaces rest (closer reversed ++ (List.replicate spaces ' ' ++ rest)) []
      reversed where
  inside {c before} previous noBreak white line column := by
    subst previous
    have strips : style.chomping = .strip := by
      rw [chomping, chompingOf, noBreak]
      rfl
    have closes : closer (c :: before) = ['\n'] := by
      rw [closer, List.head?_cons, Option.any_some, noBreak]
      rfl
    refine ⟨line + 1, ?_⟩
    rw [closes, indentLines, List.nil_append, List.singleton_append, readLine_break rfl (by decide),
      readLines_end low starts, strips]
    rfl
  atStart {lines} opens nonempty line := by
    obtain ⟨chomped, closes⟩ := opens.chomp (nonempty rfl)
    refine ⟨line, ?_⟩
    rw [closes, indentLines, List.nil_append, List.nil_append, readLines_end low starts, chomping,
      chomped, List.append_nil]

private theorem ReadsOn.break (readsOn : ReadsOn style spaces rest ending text (c :: reversed))
    (breaks : isBreak c = true) (printable : isPrintable c = true) :
    ReadsOn style spaces rest ending (c :: text) reversed := by
  have normal := normalBreak_of_isPrintable printable breaks
  have notReturn : c ≠ '\r' := ne_of_isPrintable printable rfl
  constructor
  case inside =>
    intro d before previous noBreak white line column
    subst previous
    have opens : Opens ⟨some c, [], white⟩ (c :: d :: before) := .line breaks (by simp) noBreak
    obtain ⟨last, read⟩ := readsOn.atStart opens (by simp) (line + 1)
    refine ⟨last, ?_⟩
    rw [indentLines_break breaks, List.cons_append, readLine_break breaks notReturn, normal, read]
    rfl
  case atStart =>
    intro lines opens _ line
    obtain ⟨last, read⟩ := readsOn.atStart (opens.addBreak breaks) (by simp) (line + 1)
    refine ⟨last, ?_⟩
    rw [indentLines_break breaks, List.cons_append, readLines_break breaks notReturn, normal, read,
      OpenLines.pending, OpenLines.pending, ← List.append_assoc, List.append_assoc _ [c],
      List.singleton_append]

private theorem ReadsOn.char (readsOn : ReadsOn style spaces rest ending text (c :: reversed))
    (noBreak : isBreak c = false) (unfolded : style.isFolded = false) :
    ReadsOn style spaces rest ending (c :: text) reversed := by
  constructor
  case inside =>
    intro d before _ _ white line column
    obtain ⟨last, read⟩ := readsOn.inside rfl noBreak white line (column + 1)
    refine ⟨last, ?_⟩
    rw [indentLines_char noBreak]
    exact readLine_char noBreak read
  case atStart =>
    intro lines _ _ line
    obtain ⟨last, read⟩ := readsOn.inside rfl noBreak (isWhite c) line (style.indentation + 1)
    refine ⟨last, ?_⟩
    rw [indentLines_char noBreak, indent, if_pos rfl, List.append_assoc, List.cons_append,
      readLines_spaces _ (by omega), Nat.zero_add,
      readLines_char noBreak unfolded (Nat.le_refl _) read]

private theorem readsOn_written (unfolded : style.isFolded = false)
    (low : spaces < style.indentation)
    (starts : ∀ c, rest.head? = some c → isBreak c = false ∧ isWhite c = false)
    (printable : ∀ c ∈ text, isPrintable c = true)
    (chomping : style.chomping = chompingOf (text.reverse ++ reversed)) :
    ReadsOn style spaces rest
      (closer (text.reverse ++ reversed) ++ (List.replicate spaces ' ' ++ rest)) text reversed := by
  induction text generalizing reversed with
  | nil => exact readsOn_nil low starts chomping
  | cons c text ih =>
      obtain ⟨first, others⟩ := List.forall_mem_cons.mp printable
      rw [List.reverse_cons, List.append_assoc, List.singleton_append] at chomping ⊢
      have readsOn := ih others chomping
      by_cases breaks : isBreak c = true
      · exact readsOn.break breaks first
      · exact readsOn.char (Bool.eq_false_iff.mpr breaks) unfolded

end Texts

/-! ### Headers -/

def Chomping.signs : Chomping → List Char
  | .strip => ['-']
  | .clip => []
  | .keep => ['+']

def hidesIndentation (text : List Char) : Bool :=
  text.head?.any fun c => c == ' ' || isBreak c

theorem literalHeader_eq (text : List Char) :
    literalHeader text =
      '|' :: ((if hidesIndentation text then ['2'] else []) ++ (chompingOf text.reverse).signs) := by
  rw [literalHeader, hidesIndentation]
  cases text.reverse with
  | nil => rfl
  | cons last before =>
      rw [chompingOf]
      dsimp only
      cases isBreak last with
      | false => rfl
      | true => cases before.head?.all isBreak <;> rfl

private theorem readBlockHeader_written (hidden : Bool) (chomping : Chomping) (rest : List Char) :
    readBlockHeader ((if hidden then ['2'] else []) ++ (chomping.signs ++ '\n' :: rest)) =
      some (chomping, if hidden then some 2 else none, '\n' :: rest) := by
  cases hidden <;> cases chomping <;> rfl

theorem skipBlankEnd?_feed (line column : Nat) (rest : List Char) :
    Cursor.skipBlankEnd? ⟨'\n' :: rest, line, column⟩ = some ⟨rest, line + 1, 0⟩ :=
  rfl

private theorem measureIndentation_char {c : Char} (noBreak : isBreak c = false)
    (noWhite : isWhite c = false)
    (column : Nat) (rest : List Char) : measureIndentation 0 column (c :: rest) = some column := by
  have noSpace : c ≠ ' ' := ne_of_not_isWhite noWhite rfl
  have noTab : c ≠ '\t' := ne_of_not_isWhite noWhite rfl
  simp [measureIndentation, noSpace, noTab, noBreak]

private theorem measureIndentation_spaces (spaces column : Nat) (rest : List Char) :
    measureIndentation 0 column (List.replicate spaces ' ' ++ rest) =
      measureIndentation 0 (column + spaces) rest := by
  induction spaces generalizing column with
  | zero => rfl
  | succ spaces ih =>
      rw [List.replicate_succ, List.cons_append]
      exact (ih (column + 1)).trans (by rw [Nat.add_right_comm, Nat.add_assoc])

private theorem measureIndentation_written {text : List Char} (nonempty : text ≠ [])
    (printable : ∀ c ∈ text, isPrintable c = true) (shown : hidesIndentation text = false)
    (indentation : Nat) (rest : List Char) :
    measureIndentation 0 0 (indentLines indentation true text ++ rest) = some indentation := by
  obtain ⟨c, others, rfl⟩ := List.exists_cons_of_ne_nil nonempty
  rw [hidesIndentation, List.head?_cons, Option.any_some, Bool.or_eq_false_iff,
    beq_eq_false_iff_ne] at shown
  have noWhite := isWhite_eq_false (printable c List.mem_cons_self) shown.1
  rw [indentLines_char shown.2, indent, if_pos rfl, List.append_assoc, List.cons_append,
    measureIndentation_spaces, Nat.zero_add, measureIndentation_char shown.2 noWhite]

theorem closeLine_eq (text : List Char) : closeLine text = text ++ closer text.reverse := by
  rw [closeLine, closer, List.head?_reverse]
  split
  · rw [List.append_nil]
  · rfl

private theorem closeLine_writeLiteral {text : List Char} (nonempty : text ≠ [])
    (indentation : Nat) :
    closeLine (writeLiteral indentation text) =
      '|' :: ((if hidesIndentation text then ['2'] else []) ++ ((chompingOf text.reverse).signs ++
        '\n' :: (indentLines indentation true text ++ closer text.reverse))) := by
  have last : (writeLiteral indentation text).getLast? = text.getLast? := by
    rw [writeLiteral, List.getLast?_append, List.getLast?_cons, getLast?_indentLines,
      List.getLast?_eq_some_getLast nonempty]
    rfl
  rw [closeLine_eq, closer, List.head?_reverse, last, ← List.head?_reverse, ← closer, writeLiteral,
    literalHeader_eq]
  simp only [List.append_assoc, List.cons_append]

theorem needsEscapes_of_allowsLiteral {text : List Char} (allowed : allowsLiteral text = true) :
    needsEscapes text = false := by
  rw [allowsLiteral, Bool.and_eq_true, Bool.not_eq_true'] at allowed
  exact allowed.1

theorem readBlock_written {text rest : List Char} (allowed : allowsLiteral text = true)
    (nonempty : text ≠ []) (outer : Option Nat) {spaces : Nat} (low : spaces < outer.getD 0 + 2)
    (starts : ∀ c, rest.head? = some c → isBreak c = false ∧ isWhite c = false) (line column : Nat) :
    ∃ body, closeLine (writeLiteral (outer.getD 0 + 2) text) = '|' :: body ∧
      ∃ last, readBlock false outer ⟨body ++ (List.replicate spaces ' ' ++ rest), line, column⟩ =
        some (text, ⟨rest, last, spaces⟩) := by
  refine ⟨_, closeLine_writeLiteral nonempty _, ?_⟩
  have printable := isPrintable_of_needsEscapes (needsEscapes_of_allowsLiteral allowed)
  have unfolded :
      (BlockStyle.mk false (chompingOf text.reverse) (outer.getD 0 + 2)).isFolded = false :=
    rfl
  have none : Opens .start [] := .start (by simp)
  have chomping : chompingOf text.reverse = chompingOf (text.reverse ++ []) := by
    rw [List.append_nil]
  have readsOn := readsOn_written unfolded low starts printable chomping
  rw [List.append_nil] at readsOn
  obtain ⟨last, read⟩ :=
    readsOn.atStart none (fun empty => absurd empty nonempty) (line + 1)
  refine ⟨last, ?_⟩
  have header := readBlockHeader_written (hidesIndentation text) (chompingOf text.reverse)
    (indentLines (outer.getD 0 + 2) true text ++ (closer text.reverse ++
      (List.replicate spaces ' ' ++ rest)))
  simp only [List.append_assoc, List.cons_append]
  rw [readBlock, header]
  simp only [Option.bind_eq_bind, Option.bind_some, Cursor.moveTo, skipBlankEnd?_feed]
  cases shown : hidesIndentation text with
  | true => exact read
  | false =>
      have measured := measureIndentation_written nonempty printable shown (outer.getD 0 + 2)
        (closer text.reverse ++ (List.replicate spaces ' ' ++ rest))
      have indentation :
          max (outer.getD 0 + 2) (max (outer.elim 0 (· + 1)) 1) = outer.getD 0 + 2 := by
        cases outer with
        | none => rfl
        | some column => simp only [Option.getD_some, Option.elim_some]; omega
      simp only [Bool.false_eq_true, if_false, measured, Option.map_some, indentation]
      exact read

end HostValue.Yaml
