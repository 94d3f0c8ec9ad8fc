import HostValue.Proofs.Version.Strict
import HostValue.Version.Encoding

/-!
# Bringing texts into the strict form

What the steps before the strict reader do to a text: how the text is cut at its first points,
and which components lose their zeros so that the digits of a number, and what may follow them, are
left.
-/

namespace HostValue.Version

open Text

/-! ### The first points -/

theorem endsRun_point (rest : List Char) : EndsRun (· != '.') ('.' :: rest) :=
  endsRun_cons (by decide) rest

theorem noPoint_iff {text : List Char} : '.' ∉ text ↔ ∀ c ∈ text, (c != '.') = true := by
  constructor
  · intro absent c member
    rw [bne_iff_ne]
    intro point
    rw [point] at member
    exact absent member
  · intro inside member
    have refused := inside '.' member
    revert refused
    decide

theorem splitFirstPoints_of_noPoint {text : List Char} (absent : '.' ∉ text) (count : Nat) :
    splitFirstPoints count text = [text] := by
  cases count with
  | zero => rfl
  | succ count =>
      have dropped : text.dropWhile (· != '.') = [] := by
        have all := dropWhile_run (noPoint_iff.mp absent) (endsRun_nil (· != '.'))
        rwa [List.append_nil] at all
      rw [splitFirstPoints, dropped]

theorem splitFirstPoints_append {front : List Char} (absent : '.' ∉ front) (count : Nat)
    (rest : List Char) :
    splitFirstPoints (count + 1) (front ++ '.' :: rest) = front :: splitFirstPoints count rest := by
  rw [splitFirstPoints, dropWhile_run (noPoint_iff.mp absent) (endsRun_point rest),
    takeWhile_run (noPoint_iff.mp absent) (endsRun_point rest)]

theorem pointCases (text : List Char) :
    '.' ∉ text ∨
      (∃ first second, '.' ∉ first ∧ '.' ∉ second ∧ text = first ++ '.' :: second) ∨
        ∃ first second third, '.' ∉ first ∧ '.' ∉ second ∧
          text = first ++ '.' :: (second ++ '.' :: third) := by
  by_cases some : '.' ∈ text
  · obtain ⟨first, rest, textEq, firstAbsent⟩ := List.eq_append_cons_of_mem some
    by_cases more : '.' ∈ rest
    · obtain ⟨second, third, restEq, secondAbsent⟩ := List.eq_append_cons_of_mem more
      rw [restEq] at textEq
      exact Or.inr (Or.inr ⟨first, second, third, firstAbsent, secondAbsent, textEq⟩)
    · exact Or.inr (Or.inl ⟨first, rest, firstAbsent, more, textEq⟩)
  · exact Or.inl some

theorem append_point_inj {first second rest tail : List Char} (absent : '.' ∉ first)
    (otherAbsent : '.' ∉ second) (same : first ++ '.' :: rest = second ++ '.' :: tail) :
    first = second ∧ rest = tail := by
  obtain ⟨fronts, backs⟩ := append_run_inj (noPoint_iff.mp absent) (noPoint_iff.mp otherAbsent)
    (endsRun_point rest) (endsRun_point tail) same
  exact ⟨fronts, (List.cons.inj backs).2⟩

theorem point_not_mem_numeral {digits : List Char} (numeral : isNumeral digits = true) :
    '.' ∉ digits := by
  intro member
  have digit := ((isNumeral_iff digits).mp numeral).2 '.' member
  revert digit
  decide

/-! ### Zeros before a component -/

/-- What may follow the last number of a version: nothing, or a text that begins with the mark of
identifiers. -/
def AfterNumber (tail : List Char) : Prop :=
  ∀ c, tail.head? = some c → c = '-' ∨ c = '+'

theorem afterNumber_nil : AfterNumber [] := by
  intro c first
  cases first

theorem AfterNumber.not_digit {tail : List Char} (after : AfterNumber tail) :
    EndsRun Char.isDigit tail := by
  intro c first
  rcases after c first with minus | plus
  · rw [minus]
    decide
  · rw [plus]
    decide

theorem AfterNumber.not_zero {tail : List Char} (after : AfterNumber tail) :
    EndsRun (· == '0') tail := by
  intro c first
  rcases after c first with minus | plus
  · rw [minus]
    decide
  · rw [plus]
    decide

def core (component : List Char) : List Char :=
  component.dropWhile (· == '0')

theorem dropZeros_of_length {component : List Char} (long : 2 ≤ component.length) :
    dropZeros component =
      if (core component).head?.any Char.isDigit then core component
      else '0' :: core component := by
  match component, long with
  | _ :: _ :: _, _ => rfl

theorem dropZeros_digit_core {component rest : List Char} {c : Char} (long : 2 ≤ component.length)
    (cut : core component = c :: rest) (digit : c.isDigit = true) :
    dropZeros component = c :: rest := by
  rw [dropZeros_of_length long, cut, if_pos]
  rw [List.head?_cons, Option.any_some]
  exact digit

theorem dropZeros_other_core {component : List Char} (long : 2 ≤ component.length)
    (ends : EndsRun Char.isDigit (core component)) :
    dropZeros component = '0' :: core component := by
  rw [dropZeros_of_length long, if_neg]
  cases cut : core component with
  | nil => decide
  | cons c rest =>
      rw [cut] at ends
      rw [List.head?_cons, Option.any_some, ends c rfl]
      decide

theorem zeros_core (component : List Char) :
    ∃ zeros, (∀ c ∈ zeros, (c == '0') = true) ∧ component = zeros ++ core component :=
  ⟨component.takeWhile (· == '0'), List.all_eq_true.mp List.all_takeWhile,
    List.takeWhile_append_dropWhile.symm⟩

theorem core_append {zeros rest : List Char} (allZero : ∀ c ∈ zeros, (c == '0') = true)
    (ends : EndsRun (· == '0') rest) : core (zeros ++ rest) = rest :=
  dropWhile_run allZero ends

private theorem ne_zero_of_core_cons {component rest : List Char} {c : Char}
    (cut : core component = c :: rest) : c ≠ '0' := by
  have refused := endsRun_dropWhile (· == '0') component
  rw [core] at cut
  rw [cut] at refused
  exact beq_eq_false_iff_ne.mp (refused c rfl)

/-- A numeral in front of what follows it becomes the canonical one of the same value. -/
theorem dropZeros_numeral {digits tail : List Char} (numeral : isNumeral digits = true)
    (after : AfterNumber tail) :
    dropZeros (digits ++ tail) = Nat.toDigits 10 (digitsValue digits) ++ tail := by
  obtain ⟨nonempty, allDigits⟩ := (isNumeral_iff digits).mp numeral
  obtain ⟨zeros, allZero, split⟩ := zeros_core digits
  by_cases long : 2 ≤ (digits ++ tail).length
  · cases cut : core digits with
    | nil =>
        -- Zeros alone: one of them is put back.
        rw [cut, List.append_nil] at split
        have coreEq : core (digits ++ tail) = tail := by
          rw [split]
          exact core_append allZero after.not_zero
        have value : digitsValue digits = 0 := by
          rw [split, ← List.append_nil zeros, digitsValue_zeros_append allZero]
          rfl
        rw [dropZeros_other_core long (by rw [coreEq]; exact after.not_digit), coreEq, value]
        rfl
    | cons c rest =>
        rw [cut] at split
        have notZero : c ≠ '0' := ne_zero_of_core_cons cut
        have coreDigits : ∀ d ∈ c :: rest, d.isDigit = true := by
          intro d member
          apply allDigits
          rw [split]
          exact List.mem_append_right zeros member
        have coreEq : core (digits ++ tail) = c :: (rest ++ tail) := by
          rw [split, List.append_assoc, List.cons_append]
          exact core_append allZero (endsRun_cons (by simpa using notZero) _)
        have value : digitsValue digits = digitsValue (c :: rest) := by
          rw [split, digitsValue_zeros_append allZero]
        rw [dropZeros_digit_core long coreEq (coreDigits c List.mem_cons_self), value,
          toDigits_digitsValue_cons notZero coreDigits, List.cons_append]
  · -- A single digit is left as it is.
    match digits, nonempty with
    | c :: rest, _ =>
        rw [List.cons_append, List.length_cons, List.length_append] at long
        have restEmpty : rest = [] := List.eq_nil_of_length_eq_zero (by omega)
        have tailEmpty : tail = [] := List.eq_nil_of_length_eq_zero (by omega)
        subst restEmpty tailEmpty
        have digit := digit_range (allDigits c List.mem_cons_self)
        have canonical := (toDigits_digitsValue_iff numeral).mpr fun _ => Nat.le_refl 1
        rw [canonical, List.append_nil, dropZeros, if_pos (by omega)]

theorem dropZeros_bare {tail : List Char} (long : 2 ≤ tail.length) (after : AfterNumber tail) :
    dropZeros tail = '0' :: tail := by
  have none : ∀ c ∈ ([] : List Char), (c == '0') = true := fun _ member => by cases member
  have coreEq : core tail = tail := core_append none after.not_zero
  rw [dropZeros_other_core long (by rw [coreEq]; exact after.not_digit), coreEq]

private theorem eq_of_dropZeros_single {c : Char} {tail : List Char} {n : Nat}
    (after : AfterNumber tail) (normal : dropZeros [c] = Nat.toDigits 10 n ++ tail) :
    [c] = Nat.toDigits 10 n ++ tail := by
  rw [dropZeros] at normal
  by_cases ascii : c.toNat < 128
  · rwa [if_pos ascii] at normal
  · rw [if_neg ascii] at normal
    have lengths := congrArg List.length normal
    have positive := Nat.length_toDigits_pos (b := 10) (n := n)
    rw [List.length_append] at lengths
    cases tail with
    | nil =>
        have digit : c ∈ Nat.toDigits 10 n := by
          rw [List.append_nil] at normal
          rw [← normal]
          exact List.mem_cons_of_mem _ List.mem_cons_self
        have range := digit_range (isDigit_of_mem_toDigits digit)
        omega
    | cons mark rest =>
        have marked : c = mark := by
          obtain ⟨zero, others⟩ : ∃ zero, Nat.toDigits 10 n = [zero] := by
            apply List.length_eq_one_iff.mp
            simp only [List.length_cons, List.length_nil] at lengths
            omega
          rw [others] at normal
          exact (List.cons.inj (List.cons.inj normal).2).1
        rcases after mark rfl with minus | plus
        · rw [marked, minus] at ascii
          exact absurd (by decide) ascii
        · rw [marked, plus] at ascii
          exact absurd (by decide) ascii

private theorem eq_of_dropZeros_other {component tail : List Char} {n : Nat}
    (normal : '0' :: core component = Nat.toDigits 10 n ++ tail) :
    n = 0 ∧ core component = tail := by
  have zero : n = 0 := by
    apply eq_zero_of_toDigits_head
    have heads := congrArg List.head? normal
    cases digits : Nat.toDigits 10 n with
    | nil => exact absurd digits Nat.toDigits_ne_nil
    | cons c rest =>
        rw [digits] at heads
        exact heads.symm
  rw [zero] at normal
  exact ⟨zero, (List.cons.inj normal).2⟩

/-- What a component was like when it became a canonical numeral and the rest: a numeral of that
value before the same rest, or, for a zero, the rest alone. -/
theorem eq_of_dropZeros {component tail : List Char} {n : Nat} (after : AfterNumber tail)
    (normal : dropZeros component = Nat.toDigits 10 n ++ tail) :
    (∃ digits, isNumeral digits = true ∧ digitsValue digits = n ∧ component = digits ++ tail) ∨
      (n = 0 ∧ component = tail ∧ 2 ≤ tail.length) := by
  obtain ⟨zeros, allZero, split⟩ := zeros_core component
  by_cases long : 2 ≤ component.length
  · by_cases ends : EndsRun Char.isDigit (core component)
    · rw [dropZeros_other_core long ends] at normal
      obtain ⟨zero, coreEq⟩ := eq_of_dropZeros_other normal
      rw [coreEq] at split
      by_cases empty : zeros = []
      · rw [empty, List.nil_append] at split
        exact Or.inr ⟨zero, split, split ▸ long⟩
      · have numeral := isNumeral_zeros_append allZero [] (by simp) (by simpa using empty)
        have value := digitsValue_zeros_append allZero []
        rw [List.append_nil] at numeral value
        exact Or.inl ⟨zeros, numeral, by rw [value, zero]; rfl, split⟩
    · obtain ⟨c, rest, cut, digit⟩ : ∃ c rest, core component = c :: rest ∧ c.isDigit = true := by
        cases cut : core component with
        | nil => exact absurd (by rw [cut]; exact endsRun_nil _) ends
        | cons c rest =>
            cases digit : c.isDigit with
            | true => exact ⟨c, rest, rfl, digit⟩
            | false => exact absurd (by rw [cut]; exact endsRun_cons digit rest) ends
      rw [dropZeros_digit_core long cut digit] at normal
      rw [cut, normal] at split
      refine Or.inl ⟨zeros ++ Nat.toDigits 10 n, ?_, ?_, by rw [List.append_assoc]; exact split⟩
      · exact isNumeral_zeros_append allZero _ (fun _ => isDigit_of_mem_toDigits) (by simp)
      · rw [digitsValue_zeros_append allZero, digitsValue_toDigits]
  · cases component with
    | nil =>
        have lengths := congrArg List.length normal
        have positive := Nat.length_toDigits_pos (b := 10) (n := n)
        rw [List.length_append] at lengths
        change 0 = _ at lengths
        omega
    | cons c rest =>
        have alone : rest = [] := by
          rw [List.length_cons] at long
          exact List.eq_nil_of_length_eq_zero (by omega)
        subst alone
        exact Or.inl ⟨Nat.toDigits 10 n, isNumeral_toDigits n, digitsValue_toDigits n,
          eq_of_dropZeros_single after normal⟩

end HostValue.Version
