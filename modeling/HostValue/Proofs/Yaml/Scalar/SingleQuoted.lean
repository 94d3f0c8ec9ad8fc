import HostValue.Proofs.Yaml.Text
import HostValue.Yaml.Scalar

/-!
# Reading scalars in single quotes that were written

A text that may be written in single quotes is read back as it is: the quotes that are doubled in it
become single ones, its line breaks are kept, and the indentation behind them is not taken for a part
of it.
-/

namespace HostValue.Yaml

/-! ### Steps of the reader -/

section Reading

variable {gap : Option Gap} {line column : Nat} {c : Char} {rest : List Char}

private theorem readSingleQuoted_break (breaks : isBreak c = true) (notReturn : c ≠ '\r') :
    readSingleQuoted gap line column (c :: rest) =
      readSingleQuoted (some (Gap.addBreak gap c)) (line + 1) 0 rest := by
  rw [readSingleQuoted, if_pos breaks]
  · exact fun _ isReturn _ => notReturn isReturn
  · rintro _ rfl
    cases breaks

theorem readSingleQuoted_space :
    readSingleQuoted gap line column (' ' :: rest) =
      readSingleQuoted (some (Gap.addWhite gap ' ')) line (column + 1) rest := by
  rw [readSingleQuoted]
  · rfl
  · exact fun _ isReturn => by cases isReturn
  · exact fun _ isQuote => by cases isQuote

private theorem readSingleQuoted_quote {text : List Char} {cursor : Cursor}
    (read : readSingleQuoted none line (column + 2) rest = some (text, cursor)) :
    readSingleQuoted gap line column ('\'' :: '\'' :: rest) =
      some (Gap.fold gap ++ '\'' :: text, cursor) := by
  rw [readSingleQuoted, read]

private theorem readSingleQuoted_close (closes : rest.head? ≠ some '\'') :
    readSingleQuoted gap line column ('\'' :: rest) =
      some (Gap.fold gap, ⟨rest, line, column + 1⟩) := by
  have noMark : isDocumentMark ('\'' :: rest) = false := rfl
  rw [readSingleQuoted]
  · simp [noMark, isBreak, isWhite]
  · exact fun _ isReturn => by cases isReturn
  · rintro others _ rfl
    exact closes rfl

private theorem readSingleQuoted_char (noBreak : isBreak c = false) (noWhite : isWhite c = false)
    (noQuote : c ≠ '\'') (inside : 0 < column) {text : List Char} {cursor : Cursor}
    (read : readSingleQuoted none line (column + 1) rest = some (text, cursor)) :
    readSingleQuoted gap line column (c :: rest) = some (Gap.fold gap ++ c :: text, cursor) := by
  have notFirst : column ≠ 0 := by omega
  rw [readSingleQuoted]
  · simp [noBreak, noWhite, noQuote, notFirst, read]
  · exact fun _ isReturn _ => ne_return_of_not_isBreak noBreak isReturn
  · exact fun _ isQuote _ => noQuote isQuote

private theorem readSingleQuoted_spaces (first : Option Char) (others : List Char) (spaces : Nat) :
    readSingleQuoted (some (.breaks first others)) line column
        (List.replicate spaces ' ' ++ rest) =
      readSingleQuoted (some (.breaks first others)) line (column + spaces) rest := by
  induction spaces generalizing column with
  | zero => rfl
  | succ spaces ih =>
      rw [List.replicate_succ, List.cons_append, readSingleQuoted_space]
      change readSingleQuoted (some (.breaks first others)) line (column + 1) _ = _
      rw [ih, Nat.add_right_comm, Nat.add_assoc]

end Reading

/-! ### Texts -/

/-- The gap behind a character that was read, and whether a line starts there. Line feeds do not
start such a gap: they are not written in single quotes. -/
inductive Behind : Option Gap → Char → Bool → Prop where
  | word {c : Char} (noSpace : c ≠ ' ') (noBreak : isBreak c = false) : Behind none c false
  | spaces {text : List Char} : Behind (some (.white text)) ' ' false
  | lines {first c : Char} {others : List Char} (notFeed : first ≠ '\n') (breaks : isBreak c = true) :
      Behind (some (.breaks (some first) others)) c true

private theorem fold_breaks {first : Char} (notFeed : first ≠ '\n') (others : List Char) :
    Gap.fold (some (.breaks (some first) others)) = first :: others := by
  simp [Gap.fold, notFeed]

def indentedColumn (indentation : Nat) (isStart : Bool) (column : Nat) : Nat :=
  if isStart then column + indentation else column

private theorem Behind.read_indent {gap : Option Gap} {previous : Char} {isStart : Bool}
    (behind : Behind gap previous isStart) (indentation line column : Nat) (rest : List Char) :
    readSingleQuoted gap line column (indent indentation isStart ++ rest) =
      readSingleQuoted gap line (indentedColumn indentation isStart column) rest := by
  cases behind with
  | word => rfl
  | spaces => rfl
  | lines => exact readSingleQuoted_spaces _ _ indentation

private theorem placeAfter_indent (indentation line column : Nat) (isStart : Bool)
    (rest : List Char) :
    placeAfter line column (indent indentation isStart ++ rest) =
      placeAfter line (indentedColumn indentation isStart column) rest := by
  cases isStart with
  | false => rfl
  | true => exact placeAfter_spaces indentation

def doubleQuote (c : Char) : List Char :=
  if c == '\'' then ['\'', '\''] else [c]

/-- The related characters that single quotes do not keep: a space before a line break, and one
behind it. -/
structure KeptInQuotes (text : List Char) : Prop where
  noSpaceBreak : hasNeighbours (fun c d => c == ' ' && isBreak d) text = false
  noBreakSpace : hasNeighbours (fun c d => isBreak c && d == ' ') text = false

private theorem KeptInQuotes.tail {c : Char} {rest : List Char} (kept : KeptInQuotes (c :: rest)) :
    KeptInQuotes rest :=
  ⟨(hasNeighbours_cons_eq_false.mp kept.noSpaceBreak).2,
    (hasNeighbours_cons_eq_false.mp kept.noBreakSpace).2⟩

private theorem Behind.break {gap : Option Gap} {previous c : Char} {isStart : Bool}
    {rest : List Char}
    (behind : Behind gap previous isStart) (kept : KeptInQuotes (previous :: c :: rest))
    (breaks : isBreak c = true) (printable : isPrintable c = true) (notFeed : c ≠ '\n') :
    Behind (some (Gap.addBreak gap c)) c true ∧
      Gap.fold (some (Gap.addBreak gap c)) = Gap.fold gap ++ [c] := by
  have normal := normalBreak_of_isPrintable printable breaks
  cases behind with
  | word =>
      rw [Gap.addBreak, normal]
      · exact ⟨.lines notFeed breaks, fold_breaks notFeed []⟩
      · exact fun _ _ none => by cases none
  | spaces =>
      have neighbours := not_related_of_hasNeighbours kept.noSpaceBreak
      rw [breaks] at neighbours
      cases neighbours
  | lines firstNotFeed =>
      rw [Gap.addBreak, normal, fold_breaks firstNotFeed, fold_breaks firstNotFeed]
      exact ⟨.lines firstNotFeed breaks, rfl⟩

private theorem Behind.space {gap : Option Gap} {previous : Char} {isStart : Bool}
    {rest : List Char}
    (behind : Behind gap previous isStart) (kept : KeptInQuotes (previous :: ' ' :: rest)) :
    isStart = false ∧ Behind (some (Gap.addWhite gap ' ')) ' ' false ∧
      Gap.fold (some (Gap.addWhite gap ' ')) = Gap.fold gap ++ [' '] := by
  cases behind with
  | word => exact ⟨rfl, .spaces, rfl⟩
  | spaces => exact ⟨rfl, .spaces, rfl⟩
  | lines _ breaks =>
      have neighbours := not_related_of_hasNeighbours kept.noBreakSpace
      rw [breaks] at neighbours
      cases neighbours

def quotedRest (indentation : Nat) (isStart : Bool) (previous : Char) (text : List Char) : List Char :=
  indentLines indentation isStart (text.flatMap doubleQuote) ++
    indent indentation ((previous :: text).getLast?.any isBreak)

private theorem Behind.quotedRest_nil {gap : Option Gap} {previous : Char} {isStart : Bool}
    (behind : Behind gap previous isStart) (indentation : Nat) :
    quotedRest indentation isStart previous [] = indent indentation isStart := by
  cases behind with
  | word _ noBreak => simp [quotedRest, indentLines, noBreak]
  | spaces => rfl
  | lines _ breaks => simp [quotedRest, indentLines, breaks]

private theorem quotedRest_cons {indentation : Nat} {isStart : Bool} {previous c : Char}
    {rest : List Char}
    (noBreak : isBreak c = false) (noQuote : c ≠ '\'') :
    quotedRest indentation isStart previous (c :: rest) =
      indent indentation isStart ++ c :: quotedRest indentation false c rest := by
  have single : doubleQuote c = [c] := by simp [doubleQuote, noQuote]
  rw [quotedRest, List.flatMap_cons, single, List.singleton_append, indentLines_char noBreak,
    quotedRest, List.append_assoc, List.cons_append, List.getLast?_cons_cons]

private theorem quotedRest_quote {indentation : Nat} {isStart : Bool} {previous : Char}
    {rest : List Char} :
    quotedRest indentation isStart previous ('\'' :: rest) =
      indent indentation isStart ++ '\'' :: '\'' :: quotedRest indentation false '\'' rest := by
  have double : doubleQuote '\'' = ['\'', '\''] := rfl
  rw [quotedRest, List.flatMap_cons, double, List.cons_append, List.singleton_append,
    indentLines_char rfl, indentLines_char rfl, quotedRest, List.append_assoc, List.cons_append,
    List.getLast?_cons_cons]
  rfl

private theorem quotedRest_break {indentation : Nat} {isStart : Bool} {previous c : Char}
    {rest : List Char}
    (breaks : isBreak c = true) :
    quotedRest indentation isStart previous (c :: rest) = c :: quotedRest indentation true c rest := by
  have single : doubleQuote c = [c] := by
    have noQuote : c ≠ '\'' := by
      rintro rfl
      cases breaks
    simp [doubleQuote, noQuote]
  rw [quotedRest, List.flatMap_cons, single, List.singleton_append, indentLines_break breaks,
    quotedRest, List.cons_append, List.getLast?_cons_cons]

private theorem readSingleQuoted_quotedRest {indentation : Nat} (deep : 0 < indentation)
    {text rest : List Char}
    (printable : ∀ c ∈ text, isPrintable c = true) (noFeed : '\n' ∉ text)
    (closes : rest.head? ≠ some '\'') {gap : Option Gap} {previous : Char} {isStart : Bool}
    (behind : Behind gap previous isStart) (kept : KeptInQuotes (previous :: text)) (line : Nat)
    {column : Nat} (inside : isStart = false → 0 < column) :
    readSingleQuoted gap line column
        (quotedRest indentation isStart previous text ++ '\'' :: rest) =
      some (Gap.fold gap ++ text,
        ⟨rest, (placeAfter line column (quotedRest indentation isStart previous text)).1,
          (placeAfter line column (quotedRest indentation isStart previous text)).2 + 1⟩) := by
  induction text generalizing gap previous isStart line column with
  | nil =>
      rw [behind.quotedRest_nil, behind.read_indent, readSingleQuoted_close closes,
        ← List.append_nil (indent _ _), placeAfter_indent, List.append_nil]
      rfl
  | cons c text ih =>
      obtain ⟨first, others⟩ := List.forall_mem_cons.mp printable
      obtain ⟨notFeed, noMoreFeed⟩ := List.ne_and_not_mem_of_not_mem_cons noFeed
      have entered : 0 < indentedColumn indentation isStart column := by
        cases isStart with
        | false => exact inside rfl
        | true => exact Nat.add_pos_right column deep
      by_cases breaks : isBreak c = true
      · obtain ⟨behindBreak, folded⟩ := behind.break kept breaks first (Ne.symm notFeed)
        have atStart : true = false → 0 < 0 := by simp
        have read := ih others noMoreFeed behindBreak kept.tail (line + 1) atStart
        rw [quotedRest_break breaks, List.cons_append,
          readSingleQuoted_break breaks (ne_of_isPrintable first rfl), placeAfter_break breaks, read,
          folded, List.append_assoc, List.singleton_append]
      · rw [Bool.not_eq_true] at breaks
        by_cases quote : c = '\''
        · subst quote
          have read := ih others noMoreFeed (.word (by decide) rfl) kept.tail line
            fun _ => Nat.add_pos_left entered 2
          rw [quotedRest_quote, List.append_assoc, behind.read_indent, List.cons_append,
            List.cons_append, readSingleQuoted_quote read, placeAfter_indent, placeAfter_char rfl,
            placeAfter_char rfl]
          rfl
        · rw [quotedRest_cons breaks quote, List.append_assoc, behind.read_indent,
            placeAfter_indent, placeAfter_char breaks, List.cons_append]
          by_cases space : c = ' '
          · subst space
            obtain ⟨rfl, behindSpace, folded⟩ := behind.space kept
            have read := ih others noMoreFeed behindSpace kept.tail line
              fun _ => Nat.add_pos_left entered 1
            rw [readSingleQuoted_space, read, folded, List.append_assoc, List.singleton_append]
          · have read := ih others noMoreFeed (.word space breaks) kept.tail line
              fun _ => Nat.add_pos_left entered 1
            rw [readSingleQuoted_char breaks (isWhite_eq_false first space) quote entered read]
            rfl

theorem writeSingleQuoted_eq (indentation : Nat) (text : List Char) :
    writeSingleQuoted indentation text =
      '\'' :: (quotedRest indentation false '\'' text ++ ['\'']) := by
  have last : ('\'' :: text).getLast?.any isBreak = text.getLast?.any isBreak := by
    cases text with
    | nil => rfl
    | cons c rest => rw [List.getLast?_cons_cons]
  rw [quotedRest, last]
  rfl

theorem needsEscapes_of_allowsSingleQuotes {text : List Char}
    (allowed : allowsSingleQuotes text = true) : needsEscapes text = false := by
  rw [allowsSingleQuotes, Bool.and_eq_true, Bool.not_eq_true'] at allowed
  exact allowed.1

private theorem keptInQuotes_of_allowsSingleQuotes {text : List Char}
    (allowed : allowsSingleQuotes text = true) : KeptInQuotes ('\'' :: text) := by
  have unrelated (related : Char → Char → Bool) (none : ∀ d, related '\'' d = false)
      (inside : hasNeighbours related text = false) : hasNeighbours related ('\'' :: text) = false := by
    refine hasNeighbours_cons_eq_false.mpr ⟨?_, inside⟩
    cases text with
    | nil => rfl
    | cons d rest => exact none d
  rw [allowsSingleQuotes, needsEscapes, Bool.and_eq_true, Bool.not_eq_true', Bool.not_eq_true',
    Bool.or_eq_false_iff] at allowed
  exact ⟨unrelated _ (fun _ => rfl) allowed.1.2, unrelated _ (fun _ => rfl) allowed.2⟩

theorem readSingleQuoted_written {indentation : Nat} (deep : 0 < indentation) {text rest : List Char}
    (allowed : allowsSingleQuotes text = true) (noFeed : '\n' ∉ text)
    (closes : rest.head? ≠ some '\'') (line : Nat) {column : Nat} (inside : 0 < column) :
    readSingleQuoted none line column (quotedRest indentation false '\'' text ++ '\'' :: rest) =
      some (text,
        ⟨rest, (placeAfter line column (quotedRest indentation false '\'' text)).1,
          (placeAfter line column (quotedRest indentation false '\'' text)).2 + 1⟩) := by
  have printable := isPrintable_of_needsEscapes (needsEscapes_of_allowsSingleQuotes allowed)
  exact readSingleQuoted_quotedRest deep printable noFeed closes
    (.word (by decide) rfl) (keptInQuotes_of_allowsSingleQuotes allowed) line fun _ => inside

theorem quotedRest_inLine {text : List Char} (noBreaks : ∀ c ∈ text, isBreak c = false)
    (indentation : Nat) :
    quotedRest indentation false '\'' text = text.flatMap doubleQuote ∧
      ∀ c ∈ text.flatMap doubleQuote, isBreak c = false := by
  have doubled : ∀ c ∈ text.flatMap doubleQuote, isBreak c = false := by
    intro c member
    obtain ⟨d, inside, member⟩ := List.mem_flatMap.mp member
    rw [doubleQuote] at member
    split at member
    case isTrue =>
      rw [List.mem_cons, List.mem_singleton, or_self] at member
      rw [member]
      rfl
    case isFalse =>
      rw [List.mem_singleton.mp member]
      exact noBreaks d inside
  have last : ('\'' :: text).getLast?.any isBreak = false :=
    getLast?_any_isBreak (List.forall_mem_cons.mpr ⟨rfl, noBreaks⟩)
  rw [quotedRest, indentLines_inLine doubled, last]
  exact ⟨List.append_nil _, doubled⟩

end HostValue.Yaml
