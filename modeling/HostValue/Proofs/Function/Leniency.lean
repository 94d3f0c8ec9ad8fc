import HostValue.Function.Set
import HostValue.Function.Version
import HostValue.Function.Yaml
import HostValue.Proofs.Comparison.Leniency
import HostValue.Proofs.Outcome

/-!
# Leniency of functions

A host that changes from the strict mode to the humane one loses no result: every conversion and
every comparison that the strict mode makes, and every call of a function over versions, sets and
YAML that succeeds in it, gives the same in the humane mode. A result that is a new handle carries
the same payload.
-/

namespace HostValue

/-- Two results are one value, or one payload behind the first handles of two supplies. -/
inductive MadeAlike (supply other : Nat) : Value → Value → Prop where
  | value (value : Value) : MadeAlike supply other value value
  | handle (payload : Payload) :
      MadeAlike supply other (.hosted supply payload) (.hosted other payload)

/-- Whatever the first computation results in, the second one results in as well, up to the
identity of a handle that is made for the result. -/
def Fresh.Lenient (narrow wide : Fresh Value) : Prop :=
  ∀ supply other result next, narrow supply = .ok (result, next) →
    ∃ counterpart last, wide other = .ok (counterpart, last) ∧
      MadeAlike supply other result counterpart

/-- Every call that succeeds in a strict context succeeds with the same result in a humane one. -/
def Function.Lenient (function : Function) : Prop :=
  ∀ narrow wide : Context, narrow.mode = .strict → wide.mode = .humane → ∀ arguments : List Value,
    Fresh.Lenient (function.run narrow arguments) (function.run wide arguments)

/-! ### Computations -/

namespace Fresh.Lenient

theorem value (value : Value) : Fresh.Lenient (pure value) (pure value) := by
  intro supply other result next made
  cases made
  exact ⟨value, other, rfl, .value value⟩

theorem handle (payload : Payload) : Fresh.Lenient payload.host payload.host := by
  intro supply other result next made
  cases made
  exact ⟨_, _, rfl, .handle payload⟩

private theorem failure (error : ValueError) (wide : Fresh Value) :
    Fresh.Lenient (throw error) wide := by
  intro supply other result next made
  cases made

end Fresh.Lenient

/-! ### Calls -/

/-- Whatever the first outcome answers, the second one answers it leniently. -/
def AnsweredBy {ε : Type} (narrow wide : Except ε (Fresh Value)) : Prop :=
  ∀ answer, narrow = .ok answer →
    ∃ counterpart, wide = .ok counterpart ∧ Fresh.Lenient answer counterpart

namespace AnsweredBy

variable {ε α : Type}

theorem answer {answer : Fresh Value} (lenient : Fresh.Lenient answer answer) :
    AnsweredBy (.ok answer : Except ε (Fresh Value)) (.ok answer) := by
  intro result made
  cases made
  exact ⟨answer, rfl, lenient⟩

theorem failure (error : ε) (wide : Except ε (Fresh Value)) : AnsweredBy (.error error) wide :=
  nofun

theorem after {narrow wide : Except ε α} {narrowNext wideNext : α → Except ε (Fresh Value)}
    (first : ExtendedBy narrow wide) (rest : ∀ value, AnsweredBy (narrowNext value) (wideNext value)) :
    AnsweredBy (narrow >>= narrowNext) (wide >>= wideNext) := by
  intro answer made
  obtain ⟨value, narrowValue, continued⟩ := bind_eq_ok_iff.mp made
  obtain ⟨counterpart, reached, lenient⟩ := rest value answer continued
  exact ⟨counterpart, bind_eq_ok_iff.mpr ⟨value, first value narrowValue, reached⟩, lenient⟩

private theorem relabelled {δ : Type} {narrow wide : Except ε (Fresh Value)}
    (answered : AnsweredBy narrow wide)
    (relabel : ε → δ) : AnsweredBy (narrow.mapError relabel) (wide.mapError relabel) := by
  intro answer made
  obtain ⟨counterpart, reached, lenient⟩ := answered answer (mapError_eq_ok_iff.mp made)
  exact ⟨counterpart, mapError_eq_ok_iff.mpr reached, lenient⟩

end AnsweredBy

namespace Function

/-- It is enough that what the strict calls answer the humane ones answer, for no call is out of
range. -/
theorem lenient_of_calls {function : Function}
    (answered : ∀ narrow wide : Context, narrow.mode = .strict → wide.mode = .humane →
      ∀ arguments, AnsweredBy (function.call narrow arguments) (function.call wide arguments)) :
    function.Lenient := by
  intro narrow wide strict humane arguments
  cases ended : function.call narrow arguments with
  | ok answer =>
      obtain ⟨counterpart, reached, lenient⟩ :=
        answered narrow wide strict humane arguments answer ended
      rw [run_of_ok ended, run_of_ok reached]
      exact lenient
  | error stop =>
      cases stop with
      | failure error =>
          rw [run_of_failure ended]
          exact .failure error _
      | outOfRange position => exact absurd ended (function.inRange narrow arguments position)

theorem ofArgument_lenient {name description : String}
    {result : Context → Value → Except ValueError (Fresh Value)}
    (answered : ∀ narrow wide : Context, narrow.mode = .strict → wide.mode = .humane →
      ∀ argument, AnsweredBy (result narrow argument) (result wide argument)) :
    (ofArgument name description result).Lenient := by
  apply lenient_of_calls
  intro narrow wide strict humane arguments
  apply AnsweredBy.after (.refl _)
  intro _
  apply AnsweredBy.after (.refl _)
  intro argument
  exact (answered narrow wide strict humane argument).relabelled Stop.failure

end Function

/-! ### Functions over versions and YAML -/

private theorem VersionFunction.semver_lenient : semver.Lenient := by
  apply Function.ofArgument_lenient
  intro narrow wide strict humane argument
  apply AnsweredBy.after
  · rw [strict, humane]
    exact Mode.toText_lenient argument
  · intro text
    exact .after (.refl _) fun version => .answer (.handle _)

private theorem YamlFunction.toYaml_lenient : toYaml.Lenient := by
  apply Function.ofArgument_lenient
  intro narrow wide _ _ argument
  cases argument.toYaml with
  | ok text => exact .answer (.value _)
  | error error => exact .failure _ _

private theorem YamlFunction.fromYaml_lenient : fromYaml.Lenient := by
  apply Function.ofArgument_lenient
  intro narrow wide strict humane argument
  apply AnsweredBy.after
  · rw [strict, humane]
    exact Mode.toText_lenient argument
  · intro text
    cases Value.ofYaml? text with
    | some value => exact .answer (.value value)
    | none => exact .failure _ _

/-! ### Functions over sets -/

namespace SetFunction

variable {name description : String}

theorem hostSet_lenient (set : StringSet) : Fresh.Lenient (hostSet set) (hostSet set) :=
  .handle _

theorem strings_extended {narrow wide : Context} (strict : narrow.mode = .strict)
    (humane : wide.mode = .humane) (arguments : List Value) :
    ExtendedBy (Call.ofExcept (narrow.mode.strings arguments))
      (Call.ofExcept (wide.mode.strings arguments)) := by
  rw [strict, humane]
  intro texts converted
  exact mapError_eq_ok_iff.mpr
    (Mode.strings_lenient arguments texts (mapError_eq_ok_iff.mp converted))

private theorem withTwoSets_lenient {result : StringSet → StringSet → Fresh Value}
    (lenient : ∀ left right, Fresh.Lenient (result left right) (result left right)) :
    (withTwoSets name description result).Lenient := by
  apply Function.lenient_of_calls
  intro _ _ _ _ arguments
  apply AnsweredBy.after (.refl _)
  intro _
  apply AnsweredBy.after (.refl _)
  intro left
  exact .after (.refl _) fun right => .answer (lenient left right)

private theorem withSet_lenient {result : StringSet → Fresh Value}
    (lenient : ∀ set, Fresh.Lenient (result set) (result set)) :
    (withSet name description result).Lenient := by
  apply Function.lenient_of_calls
  intro _ _ _ _ arguments
  apply AnsweredBy.after (.refl _)
  intro _
  exact .after (.refl _) fun set => .answer (lenient set)

private theorem withItems_lenient {result : StringSet → List String → Fresh Value}
    (lenient : ∀ set items, Fresh.Lenient (result set items) (result set items)) :
    (withItems name description result).Lenient := by
  apply Function.lenient_of_calls
  intro narrow wide strict humane arguments
  apply AnsweredBy.after (.refl _)
  intro _
  apply AnsweredBy.after (.refl _)
  intro set
  apply AnsweredBy.after (.refl _)
  intro items
  apply AnsweredBy.after (strings_extended strict humane items)
  exact fun texts => .answer (lenient set texts)

private theorem newSet_lenient : newSet.Lenient := by
  apply Function.lenient_of_calls
  intro narrow wide strict humane arguments
  apply AnsweredBy.after (strings_extended strict humane arguments)
  exact fun texts => .answer (hostSet_lenient _)

private theorem newKeySet_lenient : newKeySet.Lenient := by
  apply Function.ofArgument_lenient
  intro _ _ _ _ argument
  cases argument with
  | object entries => exact .answer (hostSet_lenient _)
  | null | bool | integer | float | string | vector | hosted => exact .failure _ _

private theorem union_lenient : union.Lenient := by
  apply Function.lenient_of_calls
  intro _ _ _ _ arguments
  apply AnsweredBy.after (.refl _)
  intro _
  apply AnsweredBy.after (.refl _)
  intro first
  exact .after (.refl _) fun united => .answer (hostSet_lenient united)

private theorem table_lenient : ∀ function ∈ table, function.Lenient := by
  simp only [table, List.forall_mem_cons]
  refine ⟨newSet_lenient, newKeySet_lenient, ?insert, ?delete, union_lenient, ?intersection,
    ?difference, ?symmetricDifference, ?equal, ?superset, ?hasAll, ?hasAny, ?size, ?list,
    fun _ absent => absurd absent List.not_mem_nil⟩
  case insert | delete => exact withItems_lenient fun set items => hostSet_lenient _
  case hasAll | hasAny => exact withItems_lenient fun set items => .value _
  case intersection | difference | symmetricDifference =>
    exact withTwoSets_lenient fun left right => hostSet_lenient _
  case equal | superset => exact withTwoSets_lenient fun left right => .value _
  case size | list => exact withSet_lenient fun set => .value _

end SetFunction

/-! ### All conversions, comparisons and functions -/

namespace Mode

/-- Whatever the strict mode converts, compares or computes, the humane mode converts, compares or
computes with the same result. -/
theorem humane_extends_strict :
    (∀ value : Value,
        ExtendedBy (strict.toText value) (humane.toText value) ∧
        ExtendedBy (strict.toVector value) (humane.toVector value) ∧
        ExtendedBy (strict.toInteger value) (humane.toInteger value) ∧
        ExtendedBy (strict.toBool value) (humane.toBool value)) ∧
      (∀ left right : Value,
        ExtendedBy (strict.compare left right) (humane.compare left right) ∧
        ExtendedBy (strict.equal left right) (humane.equal left right)) ∧
      (∀ arguments : List Value,
        ExtendedBy (strict.strings arguments) (humane.strings arguments)) ∧
      ∀ function ∈ VersionFunction.table ++ SetFunction.table ++ YamlFunction.table,
        function.Lenient := by
  refine ⟨?conversions, ?comparisons, strings_lenient, ?functions⟩
  case conversions =>
    intro value
    exact ⟨toText_lenient value, toVector_lenient value, toInteger_lenient value,
      toBool_lenient value⟩
  case comparisons =>
    intro left right
    exact ⟨compare_lenient left right, equal_lenient left right⟩
  case functions =>
    intro function member
    simp only [List.mem_append, VersionFunction.table, YamlFunction.table, List.mem_cons,
      List.not_mem_nil, or_false] at member
    rcases member with (rfl | inSets) | (rfl | rfl)
    · exact VersionFunction.semver_lenient
    · exact SetFunction.table_lenient function inSets
    · exact YamlFunction.toYaml_lenient
    · exact YamlFunction.fromYaml_lenient

/-- Strings are found in a vector before the argument itself is read as one, and a set is made of
them behind another handle. -/
theorem humane_extends_strict_set :
    humane.strings [.vector [.string "b", .hosted 4 (.box (.hosted 9 (.tag "a")))], .string "c"] =
        .ok ["b", "box:a", "c"] ∧
      humane.compare (.vector [.hosted 1 (.text "a"), .integer 1])
        (.vector [.string "a", .integer 2, .bool true]) = .ok .lt ∧
      ∃ counterpart last,
        SetFunction.newSet ⟨.humane, 1⟩ [.vector [.string "b", .null], .hosted 3 (.tag "a")] 8 =
            .ok (counterpart, last) ∧
          MadeAlike 5 8 (.hosted 5 (.set (.ofList ["b", "", "a"]))) counterpart := by
  obtain ⟨-, comparisons, texts, functions⟩ := humane_extends_strict
  refine ⟨texts _ _ (by rfl), (comparisons _ _).1 .lt (by decide), ?_⟩
  have lenient := functions SetFunction.newSet
    (List.mem_append_left _ (List.mem_append_right _ List.mem_cons_self))
  exact lenient ⟨.strict, 0⟩ ⟨.humane, 1⟩ rfl rfl
    [.vector [.string "b", .null], .hosted 3 (.tag "a")] 5 8 _ 6 (by rfl)

end Mode

end HostValue
