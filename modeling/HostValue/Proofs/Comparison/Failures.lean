import HostValue.Proofs.Comparison.Numbers

/-!
# Failures of equality

Equality of values without hosted parts fails for two reasons. Two parts of different kinds meet that
the mode does not unify, or an integer meets a NaN: that pair is asked for its order, which two floats
are not. The parts that meet are those at one place, behind parts that are equal.
-/

namespace HostValue

variable {mode : Mode}

namespace Mode

/-! ### Parts that meet -/

/-- In the course of the equality of two values a part of one meets a part of the other: they are the
two values themselves, or stand at one place of two vectors of one length or under one key of two
objects of one size, behind items or entries that are equal. -/
inductive Meets (mode : Mode) (part other : Value) : Value → Value → Prop where
  | whole : Meets mode part other part other
  | item {before after otherBefore otherAfter : List Value} {item otherItem : Value}
      (same : mode.equalItems before otherBefore = .ok true)
      (places : before.length = otherBefore.length) (lengths : after.length = otherAfter.length)
      (inside : Meets mode part other item otherItem) :
      Meets mode part other (.vector (before ++ item :: after))
        (.vector (otherBefore ++ otherItem :: otherAfter))
  | entry {before after others : Entries} {key : String} {value otherValue : Value}
      (same : mode.equalEntries before others = .ok true)
      (lengths : (before ++ (key, value) :: after).length = others.length)
      (found : Entries.get? others key = some otherValue)
      (inside : Meets mode part other value otherValue) :
      Meets mode part other (.object (before ++ (key, value) :: after)) (.object others)

private theorem Meets.within {part other left right : Value}
    (meets : mode.Meets part other left right) :
    part.Within left ∧ other.Within right := by
  induction meets with
  | whole => exact ⟨.whole, .whole⟩
  | item _ _ _ _ ih =>
      exact ⟨.item List.mem_append_cons_self ih.1, .item List.mem_append_cons_self ih.2⟩
  | entry _ _ found _ ih =>
      exact ⟨.entry List.mem_append_cons_self ih.1, .entry (Entries.mem_of_get? found) ih.2⟩

private theorem equalItems_append {before otherBefore : List Value}
    (same : mode.equalItems before otherBefore = .ok true)
    (places : before.length = otherBefore.length) (items others : List Value) :
    mode.equalItems (before ++ items) (otherBefore ++ others) = mode.equalItems items others := by
  induction before generalizing otherBefore with
  | nil =>
      cases otherBefore with
      | nil => rfl
      | cons other rest => cases places
  | cons item rest ih =>
      cases otherBefore with
      | nil => cases places
      | cons other restOthers =>
          rcases equalItems_cons_eq_ok_iff.mp same with ⟨head, tail⟩ | ⟨_, impossible⟩
          · rw [List.cons_append, List.cons_append, Mode.equalItems, head]
            exact ih tail (Nat.succ_inj.mp places)
          · cases impossible

private theorem equalEntries_append {before others : Entries}
    (same : mode.equalEntries before others = .ok true) (entries : Entries) :
    mode.equalEntries (before ++ entries) others = mode.equalEntries entries others := by
  induction before with
  | nil => rfl
  | cons entry rest ih =>
      obtain ⟨key, value⟩ := entry
      rw [equalEntries_eq_ok_true_iff] at same
      obtain ⟨other, found, head⟩ := same key value List.mem_cons_self
      have tail : mode.equalEntries rest others = .ok true :=
        equalEntries_eq_ok_true_iff.mpr fun name part later =>
          same name part (List.mem_cons_of_mem _ later)
      rw [List.cons_append, equalEntries_cons, found]
      simp only [head]
      exact ih tail

private theorem Meets.equal_eq {part other left right : Value}
    (meets : mode.Meets part other left right)
    (unequal : mode.equal part other ≠ .ok true) :
    mode.equal left right = mode.equal part other := by
  induction meets with
  | whole => rfl
  | @item before after otherBefore otherAfter item otherItem same places lengths _ ih =>
      have sizes : (before ++ item :: after).length =
          (otherBefore ++ otherItem :: otherAfter).length := by
        rw [List.length_append, List.length_append, List.length_cons, List.length_cons, places,
          lengths]
      rw [equal_vector, if_pos sizes, equalItems_append same places, Mode.equalItems]
      simp only [ih]
  | entry same lengths found _ ih =>
      rw [equal_object, if_pos lengths, equalEntries_append same, equalEntries_cons, found]
      simp only [ih]

/-! ### Where equality fails -/

private theorem equalItems_eq_error {items others : List Value} {error : ValueError}
    (fails : mode.equalItems items others = .error error) :
    ∃ before item after otherBefore other otherAfter, items = before ++ item :: after ∧
      others = otherBefore ++ other :: otherAfter ∧ before.length = otherBefore.length ∧
      mode.equalItems before otherBefore = .ok true ∧ mode.equal item other = .error error := by
  induction items generalizing others with
  | nil => cases fails
  | cons item rest ih =>
      cases others with
      | nil => cases fails
      | cons other restOthers =>
          rw [Mode.equalItems] at fails
          cases head : mode.equal item other with
          | error found =>
              simp only [head] at fails
              cases fails
              exact ⟨[], item, rest, [], other, restOthers, rfl, rfl, rfl, rfl, head⟩
          | ok answer =>
              cases answer with
              | false =>
                  simp only [head] at fails
                  cases fails
              | true =>
                  simp only [head] at fails
                  obtain ⟨before, part, after, otherBefore, otherPart, otherAfter, rfl, rfl, places,
                    same, failing⟩ := ih fails
                  refine ⟨item :: before, part, after, other :: otherBefore, otherPart, otherAfter,
                    rfl, rfl, congrArg Nat.succ places, ?_, failing⟩
                  exact equalItems_cons_eq_ok_iff.mpr (Or.inl ⟨head, same⟩)

private theorem equalEntries_eq_error {entries others : Entries} {error : ValueError}
    (fails : mode.equalEntries entries others = .error error) :
    ∃ before key value after other, entries = before ++ (key, value) :: after ∧
      Entries.get? others key = some other ∧ mode.equalEntries before others = .ok true ∧
      mode.equal value other = .error error := by
  induction entries with
  | nil => cases fails
  | cons entry rest ih =>
      obtain ⟨key, value⟩ := entry
      rw [equalEntries_cons] at fails
      cases found : Entries.get? others key with
      | none =>
          simp only [found] at fails
          cases fails
      | some other =>
          cases head : mode.equal value other with
          | error met =>
              simp only [found, head] at fails
              cases fails
              exact ⟨[], key, value, rest, other, rfl, found, rfl, head⟩
          | ok answer =>
              cases answer with
              | false =>
                  simp only [found, head] at fails
                  cases fails
              | true =>
                  simp only [found, head] at fails
                  obtain ⟨before, name, part, after, otherPart, rfl, otherFound, same, failing⟩ :=
                    ih fails
                  refine ⟨(key, value) :: before, name, part, after, otherPart, rfl, otherFound, ?_,
                    failing⟩
                  rw [equalEntries_cons, found]
                  simp only [head]
                  exact same

/-- A failure of equality comes from two parts that meet and are neither two vectors nor two
objects. -/
private theorem exists_meets_of_error {left right : Value} {error : ValueError}
    (fails : mode.equal left right = .error error) :
    ∃ part other, mode.Meets part other left right ∧ part.Apart other ∧
      mode.equal part other = .error error := by
  induction left using Value.inductionOnParts generalizing right with
  | leaf left leaf => exact ⟨left, right, .whole, Value.Apart.of_leaf leaf right, fails⟩
  | vector items parts =>
      by_cases kind : right.kind = .vector
      · obtain ⟨others, rfl⟩ := eq_vector_of_kind kind
        rw [equal_vector] at fails
        split at fails
        · next lengths =>
          obtain ⟨before, item, after, otherBefore, other, otherAfter, rfl, rfl, places, same,
            failing⟩ := equalItems_eq_error fails
          obtain ⟨part, otherPart, meets, apart, partFails⟩ :=
            parts item List.mem_append_cons_self failing
          refine ⟨part, otherPart, .item same places ?_ meets, apart, partFails⟩
          rw [List.length_append, List.length_append, List.length_cons, List.length_cons] at lengths
          omega
        · cases fails
      · exact ⟨_, right, .whole, fun _ => Ne.symm kind, fails⟩
  | object entries parts =>
      by_cases kind : right.kind = .object
      · obtain ⟨others, rfl⟩ := eq_object_of_kind kind
        rw [equal_object] at fails
        split at fails
        · next lengths =>
          obtain ⟨before, key, value, after, other, rfl, found, same, failing⟩ :=
            equalEntries_eq_error fails
          obtain ⟨part, otherPart, meets, apart, partFails⟩ :=
            parts key value List.mem_append_cons_self failing
          exact ⟨part, otherPart, .entry same lengths found meets, apart, partFails⟩
        · cases fails
      · exact ⟨_, right, .whole, fun _ => Ne.symm kind, fails⟩

/-! ### Failures of leaves -/

private theorem unify_eq_error {left right : Value} {error : ValueError}
    (fails : mode.unify left right = .error error) : error = incompatible left right := by
  cases mode with
  | strict =>
      cases fails
      rfl
  | humane =>
      rw [unify] at fails
      split at fails
      · cases fails
      · cases fails
        rfl

end Mode

private theorem orderFloats_eq_error_iff {x y : Double} {error : ValueError} :
    orderFloats x y = .error error ↔
      (x.isNaN = true ∨ y.isNaN = true) ∧ error = .coercion "NaN cannot be ordered" := by
  unfold orderFloats Double.order?
  rw [← Bool.or_eq_true]
  cases x.isNaN || y.isNaN with
  | false => simp
  | true => simp [eq_comm]

private theorem isNaN_ofInt (n : Int64) : (Double.ofInt n.toInt).isNaN = false :=
  Double.isNaN_of_isFinite (Double.ofInt_isNearest (natAbs_toInt_lt n)).finite

/-- One of two numbers is an integer and the other one a NaN. -/
inductive IntegerAgainstNaN : Value → Value → Prop where
  | integerNaN (n : Int64) {x : Double} (notNumber : x.isNaN = true) :
      IntegerAgainstNaN (.integer n) (.float x)
  | nanInteger {x : Double} (n : Int64) (notNumber : x.isNaN = true) :
      IntegerAgainstNaN (.float x) (.integer n)

theorem IntegerAgainstNaN.numeric {left right : Value} (against : IntegerAgainstNaN left right) :
    left.kind.isNumeric = true ∧ right.kind.isNumeric = true := by
  cases against with
  | integerNaN | nanInteger => exact ⟨rfl, rfl⟩

theorem sameDomain_of_numeric {left right : Value} (leftNumeric : left.kind.isNumeric = true)
    (rightNumeric : right.kind.isNumeric = true) : sameDomain left right = true := by
  rw [sameDomain, leftNumeric, rightNumeric, Bool.and_self, Bool.or_true]

private theorem Value.kind_of_numeric {value : Value} (numeric : value.kind.isNumeric = true) :
    value.kind.isCollection = false ∧ value.kind ≠ .hosted := by
  cases value with
  | integer | float => exact ⟨rfl, nofun⟩
  | _ => cases numeric

section Mixed

variable {left right : Value} {x y : Double}

private theorem integerAgainstNaN_iff (leftAs : Mode.ComparedAs left x)
    (rightAs : Mode.ComparedAs right y)
    (mixed : left.kind ≠ right.kind) :
    IntegerAgainstNaN left right ↔ x.isNaN = true ∨ y.isNaN = true := by
  constructor
  · intro against
    cases against with
    | integerNaN n notNumber =>
        cases rightAs
        exact Or.inr notNumber
    | nanInteger n notNumber =>
        cases leftAs
        exact Or.inl notNumber
  · intro notNumber
    cases leftAs with
    | integer n =>
        rw [isNaN_ofInt, Bool.false_eq_true, false_or] at notNumber
        cases rightAs with
        | integer => exact absurd rfl mixed
        | float => exact .integerNaN n notNumber
    | float =>
        cases rightAs with
        | integer n =>
            rw [isNaN_ofInt, Bool.false_eq_true, or_false] at notNumber
            exact .nanInteger n notNumber
        | float => exact absurd rfl mixed

private theorem equalScalars_mixed (leftAs : Mode.ComparedAs left x)
    (rightAs : Mode.ComparedAs right y)
    (mixed : left.kind ≠ right.kind) :
    equalScalars left right = (orderFloats x y).map (· == .eq) := by
  cases leftAs with
  | integer m =>
      cases rightAs with
      | integer => exact absurd rfl mixed
      | float =>
          simp only [equalScalars, orderScalars]
          cases orderFloats (.ofInt m.toInt) y <;> rfl
  | float =>
      cases rightAs with
      | integer n =>
          simp only [equalScalars, orderScalars]
          cases orderFloats x (.ofInt n.toInt) <;> rfl
      | float => exact absurd rfl mixed

private theorem equalScalars_mixed_eq_error_iff (leftAs : Mode.ComparedAs left x)
    (rightAs : Mode.ComparedAs right y) (mixed : left.kind ≠ right.kind) {error : ValueError} :
    equalScalars left right = .error error ↔
      IntegerAgainstNaN left right ∧ error = .coercion "NaN cannot be ordered" := by
  rw [equalScalars_mixed leftAs rightAs mixed, integerAgainstNaN_iff leftAs rightAs mixed,
    ← orderFloats_eq_error_iff]
  cases orderFloats x y <;> simp [Except.map]

end Mixed

private theorem equalScalars_eq_error_iff {left right : Value}
    (domain : sameDomain left right = true)
    (leaf : left.kind.isCollection = false) (unhosted : left.kind ≠ .hosted) {error : ValueError} :
    equalScalars left right = .error error ↔
      IntegerAgainstNaN left right ∧ error = .coercion "NaN cannot be ordered" := by
  cases left with
  | vector | object => cases leaf
  | hosted => exact absurd rfl unhosted
  | null =>
      cases right with
      | null => exact iff_of_false nofun nofun
      | _ => cases domain
  | bool a =>
      cases right with
      | bool b => exact iff_of_false nofun nofun
      | _ => cases domain
  | string a =>
      cases right with
      | string b => exact iff_of_false nofun nofun
      | _ => cases domain
  | integer m =>
      cases right with
      | integer n => exact iff_of_false nofun nofun
      | float x => exact equalScalars_mixed_eq_error_iff (.integer m) (.float x) nofun
      | _ => cases domain
  | float x =>
      cases right with
      | float y => exact iff_of_false nofun nofun
      | integer n => exact equalScalars_mixed_eq_error_iff (.float x) (.integer n) nofun
      | _ => cases domain

namespace Mode

theorem equal_eq_error_iff_of_apart {left right : Value} (apart : left.Apart right)
    (leftUnhosted : left.kind ≠ .hosted) (rightUnhosted : right.kind ≠ .hosted)
    {error : ValueError} :
    mode.equal left right = .error error ↔
      (IntegerAgainstNaN left right ∧ error = .coercion "NaN cannot be ordered") ∨
        (sameDomain left right = false ∧ mode.unify left right = .error error) := by
  rw [equal_apart apart, compareThemselves_unhosted leftUnhosted rightUnhosted]
  cases domain : sameDomain left right with
  | true =>
      have leaf : left.kind.isCollection = false := by
        rw [Bool.eq_false_iff]
        intro collection
        rw [sameDomain_collection collection (apart collection)] at domain
        cases domain
      simp only [if_true]
      rw [equalScalars_eq_error_iff domain leaf leftUnhosted]
      simp
  | false =>
      have notAgainst : ¬IntegerAgainstNaN left right := by
        intro against
        rw [sameDomain_of_numeric against.numeric.1 against.numeric.2] at domain
        cases domain
      cases unified : mode.unify left right with
      | error found => simp [notAgainst]
      | ok texts => simp [notAgainst, equalScalars, orderScalars]

theorem equal_numbers_eq_error_iff {left right : Value} (leftNumeric : left.kind.isNumeric = true)
    (rightNumeric : right.kind.isNumeric = true) {error : ValueError} :
    mode.equal left right = .error error ↔
      IntegerAgainstNaN left right ∧ error = .coercion "NaN cannot be ordered" := by
  have leftKind := Value.kind_of_numeric leftNumeric
  have rightKind := Value.kind_of_numeric rightNumeric
  have domain := sameDomain_of_numeric leftNumeric rightNumeric
  rw [equal_eq_error_iff_of_apart (Value.Apart.of_leaf leftKind.1 right) leftKind.2 rightKind.2,
    domain]
  simp

private theorem equal_integer_NaN {left right : Value} (against : IntegerAgainstNaN left right) :
    mode.equal left right = .error (.coercion "NaN cannot be ordered") :=
  (equal_numbers_eq_error_iff against.numeric.1 against.numeric.2).mpr ⟨against, rfl⟩

private theorem equal_floats_NaN {x y : Double} (notNumber : x.isNaN = true ∨ y.isNaN = true) :
    mode.equal (.float x) (.float y) = .ok false := by
  have unordered : x.order? y = none := by
    rw [Double.order?, if_pos (Bool.or_eq_true_iff.mpr notNumber)]
  have different : x.same y = false := by
    rw [Double.same, unordered]
    rfl
  exact congrArg Except.ok different

private theorem equal_numbers_answers {left right : Value}
    (leftNumeric : left.kind.isNumeric = true)
    (rightNumeric : right.kind.isNumeric = true) (notAgainst : ¬IntegerAgainstNaN left right) :
    ∃ answer, mode.equal left right = .ok answer := by
  cases outcome : mode.equal left right with
  | ok answer => exact ⟨answer, rfl⟩
  | error error =>
      have cause := (equal_numbers_eq_error_iff leftNumeric rightNumeric).mp outcome
      exact absurd cause.1 notAgainst

/-! ### Values without hosted parts -/

private theorem exists_meets_of_error_of_hostFree {left right : Value} (leftFree : left.HostFree)
    (rightFree : right.HostFree) {error : ValueError} (fails : mode.equal left right = .error error) :
    ∃ part other, mode.Meets part other left right ∧
      ((IntegerAgainstNaN part other ∧ error = .coercion "NaN cannot be ordered") ∨
        (sameDomain part other = false ∧ error = incompatible part other)) := by
  obtain ⟨part, other, meets, apart, failing⟩ := exists_meets_of_error fails
  have inside := meets.within
  have causes := (equal_eq_error_iff_of_apart apart (leftFree part inside.1)
    (rightFree other inside.2)).mp failing
  refine ⟨part, other, meets, causes.imp_right ?_⟩
  rintro ⟨domain, unified⟩
  exact ⟨domain, unify_eq_error unified⟩

/-- Equality of values without hosted parts fails exactly with the error of a NaN when an integer and
a NaN meet, and else only with that of two parts of different kinds which meet. Two floats always
answer, and a NaN among them makes a difference wherever it meets the other one. -/
theorem equal_fails_on_kinds_and_NaN (mode : Mode) :
    (∀ left right : Value, left.HostFree → right.HostFree →
        ((∃ part other, mode.Meets part other left right ∧ IntegerAgainstNaN part other) →
          mode.equal left right = .error (.coercion "NaN cannot be ordered")) ∧
        ((¬∃ part other, mode.Meets part other left right ∧ IntegerAgainstNaN part other) →
          (∃ answer, mode.equal left right = .ok answer) ∨
            ∃ part other, mode.Meets part other left right ∧ sameDomain part other = false ∧
              mode.equal left right = .error (incompatible part other))) ∧
      (∀ left right : Value, left.kind.isNumeric = true → right.kind.isNumeric = true →
        ¬IntegerAgainstNaN left right → ∃ answer, mode.equal left right = .ok answer) ∧
      ∀ (left right : Value) (x y : Double), mode.Meets (.float x) (.float y) left right →
        x.isNaN = true ∨ y.isNaN = true → mode.equal left right = .ok false := by
  refine ⟨?_, fun left right => equal_numbers_answers, ?_⟩
  · intro left right leftFree rightFree
    constructor
    · rintro ⟨part, other, meets, against⟩
      have failing : mode.equal part other = .error (.coercion "NaN cannot be ordered") :=
        equal_integer_NaN against
      rw [meets.equal_eq (by rw [failing]; nofun), failing]
    · intro noneMeets
      cases outcome : mode.equal left right with
      | ok answer => exact Or.inl ⟨answer, rfl⟩
      | error error =>
          obtain ⟨part, other, meets, ⟨against, _⟩ | ⟨domain, rfl⟩⟩ :=
            exists_meets_of_error_of_hostFree leftFree rightFree outcome
          · exact absurd ⟨part, other, meets, against⟩ noneMeets
          · exact Or.inr ⟨part, other, meets, domain, rfl⟩
  · intro left right x y meets notNumber
    have different : mode.equal (.float x) (.float y) = .ok false := equal_floats_NaN notNumber
    rw [meets.equal_eq (by rw [different]; nofun), different]

/-- An integer meets a NaN under a key of two objects, an integer does not meet one in a vector, an
integer has an answer against a float, and two NaNs at one place of two vectors are different. -/
theorem equal_fails_on_kinds_and_NaN_nested :
    strict.equal (.object [("a", .null), ("b", .vector [.integer 1])])
        (.object [("b", .vector [.float .nan]), ("a", .null)]) =
        .error (.coercion "NaN cannot be ordered") ∧
      ((∃ answer, humane.equal (.integer 1) (.vector []) = .ok answer) ∨
        ∃ part other, humane.Meets part other (.integer 1) (.vector []) ∧
          sameDomain part other = false ∧
            humane.equal (.integer 1) (.vector []) = .error (incompatible part other)) ∧
      (∃ answer, strict.equal (.integer 2) (.float (.zero false)) = .ok answer) ∧
      humane.equal (.vector [.float .nan]) (.vector [.float .nan]) = .ok false := by
  refine ⟨?_, ?_, ?_, ?_⟩
  · have items : strict.Meets (.integer 1) (.float .nan) (.vector [.integer 1])
        (.vector [.float .nan]) := @Meets.item _ _ _ [] [] [] [] _ _ rfl rfl rfl .whole
    have entries : strict.Meets (.integer 1) (.float .nan)
        (.object [("a", .null), ("b", .vector [.integer 1])])
        (.object [("b", .vector [.float .nan]), ("a", .null)]) :=
      @Meets.entry _ _ _ [("a", .null)] [] _ "b" _ _ (by decide) rfl rfl items
    exact ((equal_fails_on_kinds_and_NaN strict).1 _ _ (by decide) (by decide)).1
      ⟨_, _, entries, .integerNaN 1 (by decide)⟩
  · refine ((equal_fails_on_kinds_and_NaN humane).1 _ _ (by decide) (by decide)).2 ?_
    rintro ⟨part, other, meets, against⟩
    cases meets
    cases against
  · refine (equal_fails_on_kinds_and_NaN strict).2.1 _ _ rfl rfl ?_
    intro against
    cases against with
    | integerNaN _ notNumber => exact absurd notNumber (by decide)
  · exact (equal_fails_on_kinds_and_NaN humane).2.2 _ _ .nan .nan
      (@Meets.item _ _ _ [] [] [] [] _ _ rfl rfl rfl .whole) (Or.inl (by decide))

/-- A NaN has no answer against an integer on either side, while it differs from itself. -/
theorem equal_integer_NaN_unanswered :
    (Value.float .nan).HostFree ∧ (Value.integer 1).HostFree ∧
      strict.equal (.float .nan) (.integer 1) = .error (.coercion "NaN cannot be ordered") ∧
      humane.equal (.integer 1) (.float .nan) = .error (.coercion "NaN cannot be ordered") ∧
      (ValueError.coercion "NaN cannot be ordered").isIncompatibleTypes = false ∧
      strict.equal (.float .nan) (.float .nan) = .ok false := by
  decide +kernel

end Mode

end HostValue
