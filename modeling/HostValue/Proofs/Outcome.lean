/-!
# Outcomes

When a chain of steps that may fail succeeds: every step succeeds, each on what the one before it
made. The same for a step taken on every item of a list.
-/

namespace HostValue

section Steps

variable {ε α β : Type}

theorem bind_eq_ok_iff {outcome : Except ε α} {next : α → Except ε β} {result : β} :
    outcome >>= next = .ok result ↔ ∃ value, outcome = .ok value ∧ next value = .ok result := by
  cases outcome with
  | error error =>
      constructor
      · intro failed
        cases failed
      · intro parts
        obtain ⟨value, failed, _⟩ := parts
        cases failed
  | ok value =>
      constructor
      · intro continued
        exact ⟨value, rfl, continued⟩
      · intro parts
        obtain ⟨same, equal, continued⟩ := parts
        cases equal
        exact continued

theorem mapError_eq_ok_iff {δ : Type} {relabel : ε → δ} {outcome : Except ε α} {result : α} :
    outcome.mapError relabel = .ok result ↔ outcome = .ok result := by
  cases outcome with
  | error error =>
      constructor
      · intro failed
        cases failed
      · intro failed
        cases failed
  | ok value =>
      change Except.ok value = Except.ok result ↔ Except.ok value = Except.ok result
      rw [Except.ok.injEq, Except.ok.injEq]

theorem pure_eq_ok_iff {value result : α} :
    (pure value : Except ε α) = .ok result ↔ value = result :=
  ⟨Except.ok.inj, congrArg Except.ok⟩

theorem throw_ne_ok {error : ε} {result : α} : (throw error : Except ε α) ≠ .ok result := by
  intro same
  cases same

theorem exists_error_iff {outcome : Except ε α} :
    (∃ error, outcome = .error error) ↔ ∀ value, outcome ≠ .ok value := by
  cases outcome with
  | error error =>
      constructor
      · intro _ value same
        cases same
      · intro _
        exact ⟨error, rfl⟩
  | ok value =>
      constructor
      · intro failed
        obtain ⟨error, same⟩ := failed
        cases same
      · intro never
        exact absurd rfl (never value)

def failure? : Except ε α → Option ε
  | .ok _ => none
  | .error error => some error

theorem failure?_eq_some_iff {outcome : Except ε α} {error : ε} :
    failure? outcome = some error ↔ outcome = .error error := by
  cases outcome with
  | ok value => exact iff_of_false nofun nofun
  | error other => rw [failure?, Option.some.injEq, Except.error.injEq]

theorem mapM_eq_ok_iff {step : α → Except ε β} {items : List α} {results : List β} :
    items.mapM step = .ok results ↔ items.map step = results.map Except.ok := by
  induction items generalizing results with
  | nil =>
      rw [List.mapM_nil, pure_eq_ok_iff, List.map_nil, eq_comm, eq_comm (a := []),
        List.map_eq_nil_iff]
  | cons item rest ih =>
      rw [List.mapM_cons, bind_eq_ok_iff, List.map_cons]
      constructor
      · intro parts
        obtain ⟨first, firstMade, tail⟩ := parts
        obtain ⟨others, othersMade, joined⟩ := bind_eq_ok_iff.mp tail
        have resultsEq := pure_eq_ok_iff.mp joined
        rw [← resultsEq, List.map_cons, firstMade, ih.mp othersMade]
      · intro made
        cases results with
        | nil => cases made
        | cons first others =>
            rw [List.map_cons, List.cons.injEq] at made
            refine ⟨first, made.1, bind_eq_ok_iff.mpr ⟨others, ih.mpr made.2, rfl⟩⟩

theorem mapM_cons_ok {step : α → Except ε β} {item : α} {rest : List α} {first : β}
    {others : List β} (made : step item = .ok first) (restMade : rest.mapM step = .ok others) :
    (item :: rest).mapM step = .ok (first :: others) := by
  rw [List.mapM_cons, made, restMade]
  rfl

theorem mapM_cons_error {step : α → Except ε β} {item : α} {error : ε}
    (failed : step item = .error error) (rest : List α) :
    (item :: rest).mapM step = .error error := by
  rw [List.mapM_cons, failed]
  rfl

theorem mapM_cons_later_error {step : α → Except ε β} {item : α} {rest : List α} {first : β}
    {error : ε} (made : step item = .ok first) (failed : rest.mapM step = .error error) :
    (item :: rest).mapM step = .error error := by
  rw [List.mapM_cons, made, failed]
  rfl

theorem forM_eq_ok_iff {step : α → Except ε Unit} {items : List α} :
    items.forM step = .ok () ↔ ∀ item ∈ items, step item = .ok () := by
  rw [List.forM_eq_forM]
  induction items with
  | nil =>
      rw [List.forM_nil]
      exact ⟨fun _ item member => absurd member List.not_mem_nil, fun _ => rfl⟩
  | cons item rest ih =>
      rw [List.forM_cons, bind_eq_ok_iff, List.forall_mem_cons]
      constructor
      · intro parts
        obtain ⟨_, first, others⟩ := parts
        exact ⟨first, ih.mp others⟩
      · intro both
        obtain ⟨first, others⟩ := both
        exact ⟨(), first, ih.mpr others⟩

/-- What needs one depth and then goes on to need another one needs the larger of the two. -/
theorem bind_within {height others depth : Nat} {first : α} {result : β}
    {next : α → Option β}
    (continued : next first = if others ≤ depth then some result else none) :
    (if height ≤ depth then some first else none).bind next =
      if max height others ≤ depth then some result else none := by
  have bound : max height others ≤ depth ↔ height ≤ depth ∧ others ≤ depth := Nat.max_le
  by_cases low : height ≤ depth
  · rw [if_pos low, Option.bind_some, continued]
    simp only [bound, low, true_and]
  · rw [if_neg low, Option.bind_none, if_neg fun both => low (bound.mp both).1]

end Steps

/-! ### First failures

How a list is gone through whose elements pass or fail each: either all pass, or the first one that
fails decides. -/

variable {α ε : Type} {passes : α → Prop} {fails : α → ε → Prop}

/-- The error of the first element of a list that fails, if there is one. -/
inductive FirstFailure (passes : α → Prop) (fails : α → ε → Prop) : List α → Option ε → Prop where
  | nil : FirstFailure passes fails [] none
  | here {element : α} {error : ε} (failed : fails element error) (rest : List α) :
      FirstFailure passes fails (element :: rest) (some error)
  | later {element : α} {rest : List α} {failure : Option ε} (passed : passes element)
      (others : FirstFailure passes fails rest failure) :
      FirstFailure passes fails (element :: rest) failure

namespace FirstFailure

variable {elements others : List α} {failure : Option ε} {error : ε}

theorem append (first : FirstFailure passes fails elements none)
    (second : FirstFailure passes fails others failure) :
    FirstFailure passes fails (elements ++ others) failure := by
  induction elements with
  | nil => exact second
  | cons element rest ih =>
      cases first with
      | later passed remaining => exact .later passed (ih remaining)

theorem append_of_some (first : FirstFailure passes fails elements (some error))
    (others : List α) : FirstFailure passes fails (elements ++ others) (some error) := by
  induction elements with
  | nil => cases first
  | cons element rest ih =>
      cases first with
      | here failed => exact .here failed _
      | later passed remaining => exact .later passed (ih remaining)

theorem append_or {failure other : Option ε} (first : FirstFailure passes fails elements failure)
    (second : FirstFailure passes fails others other) :
    FirstFailure passes fails (elements ++ others) (failure.or other) := by
  cases failure with
  | none => exact first.append second
  | some error => exact first.append_of_some others

theorem unique (exclusive : ∀ element error, fails element error → ¬passes element)
    (functional : ∀ element error other, fails element error → fails element other → error = other)
    {other : Option ε} (first : FirstFailure passes fails elements failure)
    (second : FirstFailure passes fails elements other) : failure = other := by
  induction first with
  | nil =>
      cases second
      rfl
  | here failed =>
      cases second with
      | here failedEither => rw [functional _ _ _ failed failedEither]
      | later passed => exact absurd passed (exclusive _ _ failed)
  | later passed _ ih =>
      cases second with
      | here failed => exact absurd passed (exclusive _ _ failed)
      | later _ remaining => exact ih remaining

theorem passes_of_none (first : FirstFailure passes fails elements none) {element : α}
    (member : element ∈ elements) : passes element := by
  induction elements with
  | nil => exact absurd member List.not_mem_nil
  | cons head rest ih =>
      cases first with
      | later passed remaining =>
          rcases List.mem_cons.mp member with here | later
          · exact here ▸ passed
          · exact ih remaining later

theorem some_iff :
    FirstFailure passes fails elements (some error) ↔
      ∃ before element after, elements = before ++ element :: after ∧
        (∀ earlier ∈ before, passes earlier) ∧ fails element error := by
  constructor
  · intro first
    induction elements with
    | nil => cases first
    | cons head rest ih =>
        cases first with
        | here failed => exact ⟨[], head, rest, rfl, List.forall_mem_nil _, failed⟩
        | later passed remaining =>
            obtain ⟨before, element, after, rfl, earlier, failed⟩ := ih remaining
            exact ⟨head :: before, element, after, rfl,
              List.forall_mem_cons.mpr ⟨passed, earlier⟩, failed⟩
  · rintro ⟨before, element, after, rfl, earlier, failed⟩
    induction before with
    | nil => exact .here failed after
    | cons head rest ih =>
        obtain ⟨passed, remaining⟩ := List.forall_mem_cons.mp earlier
        exact .later passed (ih remaining)

end FirstFailure

end HostValue
