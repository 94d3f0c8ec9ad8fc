import HostValue.Proofs.Value.Entries

/-!
# Parts of values

The values that are reached from a value through vectors and objects, itself included. What hosted
values carry is no part of them. Properties of a value that concern every depth are stated of all
its parts, and an induction over values goes from the parts to the whole.
-/

namespace HostValue.Value

/-- A value is reached from another one through vectors and objects. -/
inductive Within (part : Value) : Value → Prop where
  | whole : Within part part
  | item {item : Value} {items : List Value} (member : item ∈ items)
      (inside : Within part item) : Within part (.vector items)
  | entry {key : String} {value : Value} {entries : Entries} (member : (key, value) ∈ entries)
      (inside : Within part value) : Within part (.object entries)

def Everywhere (holds : Value → Prop) (value : Value) : Prop :=
  ∀ part, Within part value → holds part

namespace Everywhere

variable {holds : Value → Prop}

theorem whole {value : Value} (everywhere : value.Everywhere holds) : holds value :=
  everywhere value .whole

theorem item {items : List Value} (everywhere : (vector items).Everywhere holds) {item : Value}
    (member : item ∈ items) : item.Everywhere holds :=
  fun part inside => everywhere part (.item member inside)

theorem entry {entries : Entries} (everywhere : (object entries).Everywhere holds) {key : String}
    {value : Value} (member : (key, value) ∈ entries) : value.Everywhere holds :=
  fun part inside => everywhere part (.entry member inside)

end Everywhere

variable {holds : Value → Prop}

@[simp] theorem everywhere_vector_iff {items : List Value} :
    (vector items).Everywhere holds ↔
      holds (vector items) ∧ ∀ item ∈ items, item.Everywhere holds := by
  constructor
  · intro everywhere
    exact ⟨everywhere.whole, fun item member => everywhere.item member⟩
  · intro both part inside
    cases inside with
    | whole => exact both.1
    | item member inside => exact both.2 _ member part inside

@[simp] theorem everywhere_object_iff {entries : Entries} :
    (object entries).Everywhere holds ↔
      holds (object entries) ∧ ∀ entry ∈ entries, entry.2.Everywhere holds := by
  constructor
  · intro everywhere
    exact ⟨everywhere.whole, fun entry member => everywhere.entry member⟩
  · intro both part inside
    cases inside with
    | whole => exact both.1
    | entry member inside => exact both.2 _ member part inside

theorem everywhere_leaf_iff {value : Value} (leaf : value.kind.isCollection = false) :
    value.Everywhere holds ↔ holds value := by
  constructor
  · intro everywhere
    exact everywhere.whole
  · intro atValue part inside
    cases inside with
    | whole => exact atValue
    | item => cases leaf
    | entry => cases leaf

/-! ### Decision -/

section Decision

variable [DecidablePred holds]

mutual

def decideEverywhere : (value : Value) → Decidable (value.Everywhere holds)
  | .vector items =>
    have := decideEverywhereItem items
    decidable_of_iff' _ everywhere_vector_iff
  | .object entries =>
    have := decideEverywhereEntry entries
    decidable_of_iff' _ everywhere_object_iff
  | .null => decidable_of_iff' _ (everywhere_leaf_iff rfl)
  | .bool _ => decidable_of_iff' _ (everywhere_leaf_iff rfl)
  | .integer _ => decidable_of_iff' _ (everywhere_leaf_iff rfl)
  | .float _ => decidable_of_iff' _ (everywhere_leaf_iff rfl)
  | .string _ => decidable_of_iff' _ (everywhere_leaf_iff rfl)
  | .hosted _ _ => decidable_of_iff' _ (everywhere_leaf_iff rfl)
termination_by structural value => value

def decideEverywhereItem :
    (items : List Value) → Decidable (∀ item ∈ items, item.Everywhere holds)
  | [] => isTrue fun _ member => absurd member List.not_mem_nil
  | item :: rest =>
    have := decideEverywhere item
    have := decideEverywhereItem rest
    decidable_of_iff' _ List.forall_mem_cons
termination_by structural items => items

def decideEverywhereEntry :
    (entries : List (String × Value)) → Decidable (∀ entry ∈ entries, entry.2.Everywhere holds)
  | [] => isTrue fun _ member => absurd member List.not_mem_nil
  | (_, value) :: rest =>
    have := decideEverywhere value
    have := decideEverywhereEntry rest
    decidable_of_iff' _ List.forall_mem_cons
termination_by structural entries => entries

end

instance (value : Value) : Decidable (value.Everywhere holds) :=
  decideEverywhere value

end Decision

/-! ### Induction -/

@[elab_as_elim]
theorem inductionOnParts {motive : Value → Prop}
    (leaf : ∀ value : Value, value.kind.isCollection = false → motive value)
    (vector : ∀ items : List Value, (∀ item ∈ items, motive item) → motive (.vector items))
    (object : ∀ entries : Entries, (∀ key value, (key, value) ∈ entries → motive value) →
      motive (.object entries))
    (value : Value) : motive value := by
  match value with
  | .vector items =>
      refine vector items fun item member => ?_
      have smaller := List.sizeOf_lt_of_mem member
      exact inductionOnParts leaf vector object item
  | .object entries =>
      refine object entries fun key value member => ?_
      have smaller := List.sizeOf_lt_of_mem member
      exact inductionOnParts leaf vector object value
  | .null => exact leaf _ rfl
  | .bool _ => exact leaf _ rfl
  | .integer _ => exact leaf _ rfl
  | .float _ => exact leaf _ rfl
  | .string _ => exact leaf _ rfl
  | .hosted _ _ => exact leaf _ rfl
termination_by sizeOf value
decreasing_by
  · simp only [Value.vector.sizeOf_spec]
    omega
  · simp only [Value.object.sizeOf_spec, Prod.mk.sizeOf_spec] at smaller ⊢
    omega

/-! ### Values without hosted parts -/

def HostFree (value : Value) : Prop :=
  value.Everywhere fun part => part.kind ≠ .hosted

instance (value : Value) : Decidable value.HostFree :=
  inferInstanceAs (Decidable (value.Everywhere _))

/-! ### Distinct keys -/

def HasDistinctKeys : Value → Prop
  | .object entries => Entries.Distinct entries
  | _ => True

def DistinctKeys (value : Value) : Prop :=
  value.Everywhere HasDistinctKeys

instance : DecidablePred HasDistinctKeys
  | .object entries => inferInstanceAs (Decidable (Entries.Distinct entries))
  | .vector _ | .null | .bool _ | .integer _ | .float _ | .string _ | .hosted _ _ => isTrue trivial

instance (value : Value) : Decidable value.DistinctKeys :=
  inferInstanceAs (Decidable (value.Everywhere HasDistinctKeys))

theorem DistinctKeys.entries {entries : Entries} (distinct : (object entries).DistinctKeys) :
    entries.Distinct :=
  distinct.whole

end HostValue.Value

namespace HostValue

/-! ### Plain data

Values of null, booleans, integers and strings, alone and in vectors and objects, and how deep the
collections of a value lie in one another. -/

/-- Nothing in the value is a float or hosted. -/
def Value.Plain (value : Value) : Prop :=
  value.Everywhere fun part => part.kind ≠ .float ∧ part.kind ≠ .hosted

instance (value : Value) : Decidable value.Plain :=
  inferInstanceAs (Decidable (value.Everywhere _))

theorem Value.Plain.induction {holds : Value → Prop} (null : holds .null)
    (bool : ∀ flag, holds (.bool flag)) (integer : ∀ number, holds (.integer number))
    (string : ∀ text, holds (.string text))
    (vector : ∀ items, (∀ item ∈ items, holds item) → holds (.vector items))
    (object : ∀ entries : Entries, entries.Distinct →
      (∀ key value, (key, value) ∈ entries → holds value) → holds (.object entries))
    {value : Value} (plain : value.Plain) (distinct : value.DistinctKeys) : holds value := by
  induction value using Value.inductionOnParts with
  | leaf value leaf =>
      cases value with
      | null => exact null
      | bool flag => exact bool flag
      | integer number => exact integer number
      | string text => exact string text
      | float number => exact absurd rfl plain.whole.1
      | hosted identity payload => exact absurd rfl plain.whole.2
      | vector | object => cases leaf
  | vector items ih =>
      exact vector items fun item member => ih item member (plain.item member) (distinct.item member)
  | object entries ih =>
      refine object entries distinct.entries fun key value member => ?_
      exact ih key value member (plain.entry member) (distinct.entry member)

mutual

/-- How many collections enclose one another in the value, itself included. What hosted values carry
is no part of it. -/
def Value.depth : Value → Nat
  | .null | .bool _ | .integer _ | .float _ | .string _ | .hosted .. => 0
  | .vector items => itemsDepth items + 1
  | .object entries => entriesDepth entries + 1
termination_by structural value => value

def itemsDepth : List Value → Nat
  | [] => 0
  | item :: rest => max item.depth (itemsDepth rest)
termination_by structural items => items

def entriesDepth : List (String × Value) → Nat
  | [] => 0
  | (_, value) :: rest => max value.depth (entriesDepth rest)
termination_by structural entries => entries

end

end HostValue
