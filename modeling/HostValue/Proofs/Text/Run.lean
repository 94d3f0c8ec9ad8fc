import HostValue.Proofs.Number.Numeral
import HostValue.Text.Character

/-!
# Runs of characters

A reader that takes characters as long as they are of a class stops before the first one of another
class. Such a run is found again in front of any text that does not continue it.
-/

namespace HostValue.Text

section Runs

def EndsRun (belongs : Char → Bool) (text : List Char) : Prop :=
  ∀ c, text.head? = some c → belongs c = false

variable {belongs : Char → Bool}

theorem endsRun_nil (belongs : Char → Bool) : EndsRun belongs [] := by
  intro c first
  cases first

theorem endsRun_cons {c : Char} (refused : belongs c = false) (rest : List Char) :
    EndsRun belongs (c :: rest) := by
  intro d first
  cases first
  exact refused

theorem endsRun_append {text other : List Char} (ends : EndsRun belongs text)
    (endsOther : EndsRun belongs other) : EndsRun belongs (text ++ other) := by
  cases text with
  | nil => exact endsOther
  | cons c rest => exact endsRun_cons (ends c rfl) (rest ++ other)

theorem endsRun_dropWhile (belongs : Char → Bool) (text : List Char) :
    EndsRun belongs (text.dropWhile belongs) := by
  intro c first
  have refused := List.head?_dropWhile_not belongs text
  rw [first] at refused
  simpa using refused

theorem takeWhile_run {run rest : List Char} (inside : ∀ c ∈ run, belongs c = true)
    (ends : EndsRun belongs rest) : (run ++ rest).takeWhile belongs = run := by
  rw [List.takeWhile_append_of_pos inside]
  cases rest with
  | nil => rw [List.takeWhile_nil, List.append_nil]
  | cons c tail =>
      have refused : belongs c = false := ends c rfl
      rw [List.takeWhile_cons_of_neg (by rw [refused]; decide), List.append_nil]

theorem dropWhile_run {run rest : List Char} (inside : ∀ c ∈ run, belongs c = true)
    (ends : EndsRun belongs rest) : (run ++ rest).dropWhile belongs = rest := by
  rw [List.dropWhile_append_of_pos inside]
  cases rest with
  | nil => rfl
  | cons c tail =>
      have refused : belongs c = false := ends c rfl
      rw [List.dropWhile_cons_of_neg (by rw [refused]; decide)]

theorem append_run_inj {run other rest tail : List Char} (inside : ∀ c ∈ run, belongs c = true)
    (otherInside : ∀ c ∈ other, belongs c = true) (ends : EndsRun belongs rest)
    (otherEnds : EndsRun belongs tail) (same : run ++ rest = other ++ tail) :
    run = other ∧ rest = tail := by
  have runs := congrArg (List.takeWhile belongs) same
  have rests := congrArg (List.dropWhile belongs) same
  rw [takeWhile_run inside ends, takeWhile_run otherInside otherEnds] at runs
  rw [dropWhile_run inside ends, dropWhile_run otherInside otherEnds] at rests
  exact ⟨runs, rests⟩

end Runs

/-! ### Blanks

No visible ASCII character is a blank. Nothing is removed from the ends of a text in which no blank
stands, and all blanks around such a text are. -/

theorem isBlank_eq_false {c : Char} (low : 0x21 ≤ c.toNat) (high : c.toNat ≤ 0x7E) :
    isBlank c = false := by
  rw [isBlank]
  simp only [Bool.or_eq_false_iff, Bool.and_eq_false_iff, decide_eq_false_iff_not,
    beq_eq_false_iff_ne]
  omega

theorem visible_numeral {digits : List Char} (numeral : isNumeral digits = true) :
    ∀ c ∈ digits, isBlank c = false := by
  intro c member
  have range := digit_range (((isNumeral_iff digits).mp numeral).2 c member)
  exact isBlank_eq_false (by omega) (by omega)

variable {text : List Char}

private theorem dropWhile_isBlank (inside : ∀ c ∈ text, isBlank c = false) :
    text.dropWhile isBlank = text := by
  have ends : EndsRun isBlank text := fun c first => inside c (List.mem_of_head? first)
  have nothing : ∀ c ∈ ([] : List Char), isBlank c = true :=
    fun _ member => absurd member List.not_mem_nil
  exact dropWhile_run nothing ends

theorem trim_eq_self (inside : ∀ c ∈ text, isBlank c = false) : trim text = text := by
  have reversed : ∀ c ∈ text.reverse, isBlank c = false :=
    fun c member => inside c (List.mem_reverse.mp member)
  rw [trim, trimStart, dropWhile_isBlank inside, trimEnd, dropWhile_isBlank reversed,
    List.reverse_reverse]

theorem trim_surrounded {before after : List Char} (beforeBlank : ∀ c ∈ before, isBlank c = true)
    (afterBlank : ∀ c ∈ after, isBlank c = true) (nonempty : text ≠ [])
    (inside : ∀ c ∈ text, isBlank c = false) : trim (before ++ text ++ after) = text := by
  have starts : EndsRun isBlank (text ++ after) := by
    intro c first
    rw [List.head?_append, List.head?_eq_some_head nonempty, Option.some_or] at first
    exact inside c (List.mem_of_head? ((List.head?_eq_some_head nonempty).trans first))
  have ends : EndsRun isBlank text.reverse :=
    fun c last => inside c (List.mem_reverse.mp (List.mem_of_head? last))
  have reversed : ∀ c ∈ after.reverse, isBlank c = true :=
    fun c member => afterBlank c (List.mem_reverse.mp member)
  rw [trim, trimStart, List.append_assoc, dropWhile_run beforeBlank starts, trimEnd,
    List.reverse_append, dropWhile_run reversed ends, List.reverse_reverse]

def Surrounded (text core : List Char) : Prop :=
  ∃ before after, (∀ c ∈ before, isBlank c = true) ∧ (∀ c ∈ after, isBlank c = true) ∧
    text = before ++ core ++ after

private theorem trim_blank (blank : ∀ c ∈ text, isBlank c = true) : trim text = [] := by
  have nothing : text.dropWhile isBlank = [] := by
    have dropped := dropWhile_run blank (endsRun_nil isBlank)
    rwa [List.append_nil] at dropped
  rw [trim, trimStart, nothing]
  rfl

theorem trim_of_surrounded {core : List Char} (surrounded : Surrounded text core)
    (inside : ∀ c ∈ core, isBlank c = false) : trim text = core := by
  obtain ⟨before, after, beforeBlank, afterBlank, rfl⟩ := surrounded
  by_cases nonempty : core = []
  · rw [nonempty, List.append_nil]
    exact trim_blank (List.forall_mem_append.mpr ⟨beforeBlank, afterBlank⟩)
  · exact trim_surrounded beforeBlank afterBlank nonempty inside

theorem exists_trim (text : List Char) :
    ∃ before after, (∀ c ∈ before, isBlank c = true) ∧ (∀ c ∈ after, isBlank c = true) ∧
      text = before ++ trim text ++ after := by
  have blank (text : List Char) : ∀ c ∈ text.takeWhile isBlank, isBlank c = true :=
    List.all_eq_true.mp List.all_takeWhile
  refine ⟨text.takeWhile isBlank, ((trimStart text).reverse.takeWhile isBlank).reverse,
    blank text, fun c member => blank _ c (List.mem_reverse.mp member), ?_⟩
  rw [trim, trimEnd, List.append_assoc, ← List.reverse_append, List.takeWhile_append_dropWhile,
    List.reverse_reverse, trimStart, List.takeWhile_append_dropWhile]

end HostValue.Text
