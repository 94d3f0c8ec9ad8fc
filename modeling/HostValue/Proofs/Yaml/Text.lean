import HostValue.Yaml.Text
import HostValue.Yaml.Writer

/-!
# YAML text

What the classes of characters say about one another: a character that is written without an escape may
stand in a text and is neither a tab nor a carriage return, and if it breaks a line it is kept as the
break that it is.
-/

namespace HostValue.Yaml

theorem isAllowed_of_isPrintable {c : Char} (printable : isPrintable c = true) :
    isAllowed c = true := by
  simp only [isPrintable, Bool.or_eq_true, Bool.and_eq_true, beq_iff_eq, decide_eq_true_eq,
    bne_iff_ne] at printable
  simp only [isAllowed, Bool.or_eq_true, Bool.and_eq_true, beq_iff_eq, decide_eq_true_eq]
  omega

theorem ne_of_isPrintable {c other : Char} (printable : isPrintable c = true)
    (escaped : isPrintable other = false) : c ≠ other := by
  rintro rfl
  rw [printable] at escaped
  cases escaped

private theorem isWhite_iff {c : Char} : isWhite c = true ↔ c = ' ' ∨ c = '\t' := by
  rw [isWhite, Bool.or_eq_true, beq_iff_eq, beq_iff_eq]

theorem isBreak_iff {c : Char} :
    isBreak c = true ↔ c = '\n' ∨ c = '\r' ∨ c = '\u0085' ∨ c = '\u2028' ∨ c = '\u2029' := by
  simp only [isBreak, Bool.or_eq_true, beq_iff_eq, or_assoc]

theorem isWhite_eq_false {c : Char} (printable : isPrintable c = true) (noSpace : c ≠ ' ') :
    isWhite c = false := by
  rw [Bool.eq_false_iff, Ne, isWhite_iff]
  rintro (space | tab)
  · exact noSpace space
  · exact ne_of_isPrintable printable rfl tab

theorem normalBreak_of_isPrintable {c : Char} (printable : isPrintable c = true)
    (breaks : isBreak c = true) : normalBreak c = c := by
  rcases isBreak_iff.mp breaks with rfl | rfl | rfl | rfl | rfl
  · rfl
  · exact absurd rfl (ne_of_isPrintable printable rfl)
  · exact absurd rfl (ne_of_isPrintable printable rfl)
  · rfl
  · rfl

theorem ne_of_not_isWhite {c other : Char} (noWhite : isWhite c = false)
    (white : isWhite other = true) : c ≠ other := by
  rintro rfl
  rw [noWhite] at white
  cases white

theorem ne_return_of_not_isBreak {c : Char} (noBreak : isBreak c = false) : c ≠ '\r' := by
  rintro rfl
  cases noBreak

theorem isPrintable_of_needsEscapes {text : List Char} (none : needsEscapes text = false) :
    ∀ c ∈ text, isPrintable c = true := by
  rw [needsEscapes, Bool.or_eq_false_iff, Bool.not_eq_false'] at none
  exact List.all_eq_true.mp none.1

/-! ### Neighbours -/

section Neighbours

variable {related : Char → Char → Bool} {c : Char} {rest : List Char}

theorem hasNeighbours_cons_eq_false :
    hasNeighbours related (c :: rest) = false ↔
      rest.head?.any (related c) = false ∧ hasNeighbours related rest = false := by
  rw [hasNeighbours, Bool.or_eq_false_iff]

theorem not_related_of_hasNeighbours {d : Char}
    (none : hasNeighbours related (c :: d :: rest) = false) : related c d = false :=
  (hasNeighbours_cons_eq_false.mp none).1

end Neighbours

/-! ## Places

The line and the column at which one is behind a text, when each of its line breaks is one character;
and the gaps that are nothing but spaces. -/

section Places

/-! ### Gaps of spaces -/

def spacesGap (spaces : List Char) : Option Gap :=
  if spaces = [] then none else some (.white spaces)

theorem addWhite_spacesGap (spaces : List Char) :
    some (Gap.addWhite (spacesGap spaces) ' ') = spacesGap (spaces ++ [' ']) := by
  cases spaces <;> rfl

theorem fold_spacesGap (spaces : List Char) : Gap.fold (spacesGap spaces) = spaces := by
  cases spaces <;> rfl

/-! ### Lines and columns -/

def placeAfter (line column : Nat) : List Char → Nat × Nat
  | [] => (line, column)
  | c :: rest => if isBreak c then placeAfter (line + 1) 0 rest else placeAfter line (column + 1) rest

variable {line column : Nat} {c : Char} {text rest : List Char}

theorem placeAfter_break (breaks : isBreak c = true) :
    placeAfter line column (c :: rest) = placeAfter (line + 1) 0 rest := by
  rw [placeAfter, if_pos breaks]

theorem placeAfter_char (noBreak : isBreak c = false) :
    placeAfter line column (c :: rest) = placeAfter line (column + 1) rest := by
  rw [placeAfter, if_neg (by simp [noBreak])]

theorem placeAfter_inLine (noBreaks : ∀ c ∈ text, isBreak c = false) :
    placeAfter line column text = (line, column + text.length) := by
  induction text generalizing column with
  | nil => rfl
  | cons c rest ih =>
      obtain ⟨first, others⟩ := List.forall_mem_cons.mp noBreaks
      rw [placeAfter_char first, ih others, List.length_cons, Nat.add_right_comm, Nat.add_assoc]

private theorem placeAfter_append :
    placeAfter line column (text ++ rest) =
      placeAfter (placeAfter line column text).1 (placeAfter line column text).2 rest := by
  induction text generalizing line column with
  | nil => rfl
  | cons c others ih =>
      rw [List.cons_append]
      by_cases breaks : isBreak c = true
      · rw [placeAfter_break breaks, placeAfter_break breaks, ih]
      · rw [Bool.not_eq_true] at breaks
        rw [placeAfter_char breaks, placeAfter_char breaks, ih]

theorem placeAfter_spaces (spaces : Nat) :
    placeAfter line column (List.replicate spaces ' ' ++ rest) =
      placeAfter line (column + spaces) rest := by
  have inLine : ∀ c ∈ List.replicate spaces ' ', isBreak c = false := by
    intro c member
    rw [List.eq_of_mem_replicate member]
    rfl
  rw [placeAfter_append, placeAfter_inLine inLine, List.length_replicate]

theorem le_placeAfter (line column : Nat) (text : List Char) :
    line ≤ (placeAfter line column text).1 := by
  induction text generalizing line column with
  | nil => exact Nat.le_refl line
  | cons c rest ih =>
      by_cases breaks : isBreak c = true
      · rw [placeAfter_break breaks]
        exact Nat.le_of_succ_le (ih (line + 1) 0)
      · rw [Bool.not_eq_true] at breaks
        rw [placeAfter_char breaks]
        exact ih line (column + 1)

end Places

/-! ## Lines

A text that is written over lines is indented where its lines start. Its last character stays the last
one, so that the line is closed behind it as the text itself says. -/

def indent (indentation : Nat) (isStart : Bool) : List Char :=
  if isStart then List.replicate indentation ' ' else []

variable {c : Char}

theorem indentLines_break (breaks : isBreak c = true) (indentation : Nat) (isStart : Bool)
    (rest : List Char) :
    indentLines indentation isStart (c :: rest) = c :: indentLines indentation true rest := by
  rw [indentLines, if_pos breaks]

theorem indentLines_char (noBreak : isBreak c = false) (indentation : Nat) (isStart : Bool)
    (rest : List Char) :
    indentLines indentation isStart (c :: rest) =
      indent indentation isStart ++ c :: indentLines indentation false rest := by
  rw [indentLines, if_neg (by simp [noBreak])]
  rfl

theorem getLast?_indentLines (indentation : Nat) (isStart : Bool) (text : List Char) :
    (indentLines indentation isStart text).getLast? = text.getLast? := by
  induction text generalizing isStart with
  | nil => rfl
  | cons c rest ih =>
      by_cases breaks : isBreak c = true
      · rw [indentLines_break breaks, List.getLast?_cons, List.getLast?_cons, ih]
      · rw [Bool.not_eq_true] at breaks
        rw [indentLines_char breaks, List.getLast?_append, List.getLast?_cons, List.getLast?_cons, ih,
          Option.some_or]

theorem indentLines_inLine {text : List Char} (noBreaks : ∀ c ∈ text, isBreak c = false)
    (indentation : Nat) : indentLines indentation false text = text := by
  induction text with
  | nil => rfl
  | cons c rest ih =>
      obtain ⟨first, others⟩ := List.forall_mem_cons.mp noBreaks
      rw [indentLines_char first, ih others]
      rfl

/-! ### Closed lines -/

theorem getLast?_any_isBreak {text : List Char} (noBreaks : ∀ c ∈ text, isBreak c = false) :
    text.getLast?.any isBreak = false := by
  cases last : text.getLast? with
  | none => rfl
  | some c => exact noBreaks c (List.mem_of_getLast? last)

theorem closeLine_append (text : List Char) {rest : List Char} (nonempty : rest ≠ []) :
    closeLine (text ++ rest) = text ++ closeLine rest := by
  have last : (text ++ rest).getLast? = rest.getLast? := by
    rw [List.getLast?_append, List.getLast?_eq_some_getLast nonempty, Option.some_or]
  rw [closeLine, closeLine, last]
  split
  · rfl
  · rw [List.append_assoc]

theorem closeLine_inLine {text : List Char} (noBreaks : ∀ c ∈ text, isBreak c = false) :
    closeLine text = text ++ ['\n'] := by
  rw [closeLine, getLast?_any_isBreak noBreaks, if_neg Bool.false_ne_true]

theorem closeLine_cons {c : Char} (noBreak : isBreak c = false) (rest : List Char) :
    closeLine (c :: rest) = c :: closeLine rest := by
  cases rest with
  | nil => exact closeLine_inLine (List.forall_mem_singleton.mpr noBreak)
  | cons d others => exact closeLine_append [c] (List.cons_ne_nil d others)

end HostValue.Yaml
