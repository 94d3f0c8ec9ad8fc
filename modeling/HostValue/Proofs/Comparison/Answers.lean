import HostValue.Proofs.Comparison.Agreement

/-!
# Answers of equality

What equality answers where it does not fail. Vectors and objects are answered by the first of their
parts that is not equal, so the answer is a decision over a list of answers, and it depends on the
order of that list only where a difference and a failure meet in it.
-/

namespace HostValue

/-! ### Deciding answers -/

/-- The first answer that is not `true` decides; without one the decision is `true`. -/
def decisive : List (Option Bool) → Option Bool
  | [] => some true
  | some true :: rest => decisive rest
  | answer :: _ => answer

theorem decisive_cons_true (rest : List (Option Bool)) :
    decisive (some true :: rest) = decisive rest :=
  rfl

theorem decisive_cons_other {answer : Option Bool} (other : answer ≠ some true)
    (rest : List (Option Bool)) : decisive (answer :: rest) = answer := by
  cases answer with
  | none => rfl
  | some flag =>
      cases flag with
      | false => rfl
      | true => exact absurd rfl other

theorem decisive_eq_true_iff {answers : List (Option Bool)} :
    decisive answers = some true ↔ ∀ answer ∈ answers, answer = some true := by
  induction answers with
  | nil => simp [decisive]
  | cons answer rest ih =>
      rw [List.forall_mem_cons]
      by_cases first : answer = some true
      · rw [first, decisive_cons_true, ih]
        simp
      · rw [decisive_cons_other first]
        simp [first]

private theorem decisive_mem {answers : List (Option Bool)} (other : decisive answers ≠ some true) :
    decisive answers ∈ answers := by
  induction answers with
  | nil => exact absurd rfl other
  | cons answer rest ih =>
      by_cases first : answer = some true
      · rw [first, decisive_cons_true] at other ⊢
        exact List.mem_cons_of_mem _ (ih other)
      · rw [decisive_cons_other first]
        exact List.mem_cons_self

/-- The decision depends only on which answers there are, unless both a `false` and a failure are
among them. -/
theorem decisive_congr {answers others : List (Option Bool)}
    (same : ∀ answer, answer ∈ others ↔ answer ∈ answers)
    (steady : ¬(some false ∈ answers ∧ none ∈ answers)) : decisive others = decisive answers := by
  by_cases allTrue : decisive answers = some true
  · rw [allTrue]
    rw [decisive_eq_true_iff] at allTrue ⊢
    intro answer member
    exact allTrue answer ((same answer).mp member)
  · have notAll : decisive others ≠ some true := by
      intro othersTrue
      rw [decisive_eq_true_iff] at allTrue othersTrue
      exact allTrue fun answer member => othersTrue answer ((same answer).mpr member)
    have found := decisive_mem allTrue
    have otherFound := (same _).mp (decisive_mem notAll)
    generalize decisive answers = answer at allTrue found
    generalize decisive others = other at notAll otherFound
    match answer, other with
    | some true, _ => exact absurd rfl allTrue
    | _, some true => exact absurd rfl notAll
    | some false, some false => rfl
    | none, none => rfl
    | some false, none => exact absurd ⟨found, otherFound⟩ steady
    | none, some false => exact absurd ⟨otherFound, found⟩ steady

namespace Mode

/-! ### Answers of equality -/

def answer? (mode : Mode) (left right : Value) : Option Bool :=
  (mode.equal left right).toOption

/-- What equality answers for each entry of an object: a key that the other object lacks makes a
difference. -/
def answers (mode : Mode) (entries others : Entries) : List (Option Bool) :=
  entries.map fun entry =>
    match Entries.get? others entry.1 with
    | none => some false
    | some other => mode.answer? entry.2 other

variable {mode : Mode}

theorem answer?_eq_some_iff {left right : Value} {answer : Bool} :
    mode.answer? left right = some answer ↔ mode.equal left right = .ok answer := by
  unfold answer?
  cases mode.equal left right with
  | error => simp [Except.toOption]
  | ok found => simp [Except.toOption]

private theorem toOption_equalItems (items others : List Value) :
    (mode.equalItems items others).toOption =
      decisive (List.zipWith mode.answer? items others) := by
  induction items generalizing others with
  | nil => rfl
  | cons item rest ih =>
      cases others with
      | nil => rfl
      | cons other restOthers =>
          rw [Mode.equalItems, List.zipWith_cons_cons, answer?]
          cases mode.equal item other with
          | error error => rfl
          | ok same =>
              cases same with
              | false => rfl
              | true => exact ih restOthers

theorem answer?_vector {items others : List Value} (lengths : items.length = others.length) :
    mode.answer? (.vector items) (.vector others) =
      decisive (List.zipWith mode.answer? items others) := by
  rw [answer?, equal_vector, if_pos lengths, toOption_equalItems]

theorem answer?_vector_lengths {items others : List Value} (lengths : items.length ≠ others.length) :
    mode.answer? (.vector items) (.vector others) = some false := by
  rw [answer?, equal_vector, if_neg lengths]
  rfl

private theorem toOption_equalEntries (entries others : Entries) :
    (mode.equalEntries entries others).toOption = decisive (mode.answers entries others) := by
  induction entries with
  | nil => rfl
  | cons entry rest ih =>
      obtain ⟨key, value⟩ := entry
      rw [equalEntries_cons, answers, List.map_cons]
      cases Entries.get? others key with
      | none => rfl
      | some other =>
          simp only [answer?]
          cases mode.equal value other with
          | error error => rfl
          | ok same =>
              cases same with
              | false => rfl
              | true => exact ih

theorem answer?_object {entries others : Entries} (lengths : entries.length = others.length) :
    mode.answer? (.object entries) (.object others) = decisive (mode.answers entries others) := by
  rw [answer?, equal_object, if_pos lengths, toOption_equalEntries]

theorem answer?_object_lengths {entries others : Entries}
    (lengths : entries.length ≠ others.length) :
    mode.answer? (.object entries) (.object others) = some false := by
  rw [answer?, equal_object, if_neg lengths]
  rfl

theorem answer?_swap_of_apart {left right : Value} (apart : left.Apart right) :
    mode.answer? right left = mode.answer? left right := by
  apply Option.ext
  intro answer
  rw [answer?_eq_some_iff, answer?_eq_some_iff, equal_eq_ok_iff_of_apart apart,
    equal_eq_ok_iff_of_apart apart.swap]
  exact ⟨LeafEquality.swap, LeafEquality.swap⟩

theorem answer?_mixed {left right : Value} (collection : left.kind.isCollection = true)
    (different : left.kind ≠ right.kind) : mode.answer? left right = none := by
  cases answer : mode.answer? left right with
  | none => rfl
  | some flag => exact absurd (answer?_eq_some_iff.mp answer) (equal_mixed collection different flag)

/-! ### Answers for entries -/

/-- What is answered for an entry of one object: `false` where the other object lacks the key, and
else what the two values under the key are asked for. -/
inductive EntryAnswer (ask : Value → Value → Option Bool) (entries others : Entries) :
    Option Bool → Prop where
  | missing (lacking : ¬Entries.keys entries ⊆ Entries.keys others) :
      EntryAnswer ask entries others (some false)
  | shared {key : String} {value other : Value} {answer : Option Bool}
      (present : (key, value) ∈ entries) (otherPresent : (key, other) ∈ others)
      (asked : ask value other = answer) : EntryAnswer ask entries others answer

theorem mem_answers_iff {entries others : Entries} (othersDistinct : Entries.Distinct others)
    {answer : Option Bool} :
    answer ∈ mode.answers entries others ↔ EntryAnswer mode.answer? entries others answer := by
  unfold answers
  rw [List.mem_map]
  constructor
  · intro found
    obtain ⟨⟨key, value⟩, present, given⟩ := found
    cases lookup : Entries.get? others key with
    | none =>
        simp only [lookup] at given
        rw [← given]
        refine .missing fun subset => ?_
        exact Entries.get?_eq_none_iff.mp lookup (subset (Entries.mem_keys_of_mem present))
    | some other =>
        simp only [lookup] at given
        exact .shared present (Entries.mem_of_get? lookup) given
  · intro given
    cases given with
    | missing lacking =>
        obtain ⟨key, notKept⟩ := Classical.not_forall.mp lacking
        obtain ⟨inEntries, notInOthers⟩ := Classical.not_imp.mp notKept
        obtain ⟨value, present⟩ := Entries.mem_keys_iff.mp inEntries
        refine ⟨(key, value), present, ?_⟩
        simp only [Entries.get?_eq_none_iff.mpr notInOthers]
    | @shared key value other _ present otherPresent asked =>
        refine ⟨(key, value), present, ?_⟩
        simp only [(Entries.get?_eq_some_iff othersDistinct).mpr otherPresent, asked]

/-- The answers for exchanged objects of one size, read off the entries of the first. -/
theorem mem_answers_swap_iff {entries others : Entries} (distinct : Entries.Distinct entries)
    (othersDistinct : Entries.Distinct others) (lengths : entries.length = others.length)
    {answer : Option Bool} :
    answer ∈ mode.answers others entries ↔
      EntryAnswer (fun value other => mode.answer? other value) entries others answer := by
  rw [mem_answers_iff distinct]
  constructor
  · intro given
    cases given with
    | missing lacking =>
        exact .missing fun subset => lacking (Entries.keys_subset_swap distinct lengths subset)
    | shared otherPresent present asked => exact .shared present otherPresent asked
  · intro given
    cases given with
    | missing lacking =>
        exact .missing fun subset =>
          lacking (Entries.keys_subset_swap othersDistinct lengths.symm subset)
    | shared present otherPresent asked => exact .shared otherPresent present asked

end Mode

end HostValue
