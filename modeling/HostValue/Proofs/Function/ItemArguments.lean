import HostValue.Function.Set
import HostValue.Proofs.Set.Algebra
import HostValue.Proofs.Supply

/-!
# Item arguments

Four functions take a set and items in any mixture of strings and vectors. They read the items as the
function that makes a set of them does: each answers as a function of two sets does for the set of the
items, and fails as that set fails to be made.
-/

namespace HostValue.SetFunction

variable {context : Context} {arguments : List Value} {texts : List String} {error : ValueError}

def itemFunctions : List Function :=
  [insert, delete, hasAll, hasAny]

private theorem itemFunctions_withItems {call : Function} (member : call ∈ itemFunctions) :
    ∃ name description result, call = withItems name description result := by
  simp only [itemFunctions, List.mem_cons, List.not_mem_nil, or_false] at member
  rcases member with rfl | rfl | rfl | rfl <;> exact ⟨_, _, _, rfl⟩

private theorem run_hostSet (set : StringSet) (supply : Nat) :
    hostSet set supply = .ok (.hosted supply (.set set), supply + 1) :=
  rfl

/-! ### Conversion of the items -/

theorem newSet_call :
    newSet.call context arguments =
      (Call.ofExcept (context.mode.strings arguments)).map fun texts => hostSet (.ofList texts) :=
  rfl

theorem newSet_of_strings (converted : context.mode.strings arguments = .ok texts) :
    newSet context arguments = hostSet (.ofList texts) := by
  apply Function.run_of_ok
  rw [newSet_call, converted]
  rfl

private theorem newSet_of_error (failed : context.mode.strings arguments = .error error) :
    newSet context arguments = throw error := by
  apply Function.run_of_failure
  rw [newSet_call, failed]
  rfl

section Operand

variable (identity : Nat) (set : StringSet)

theorem withItems_call (name description : String)
    (result : StringSet → List String → Fresh Value) :
    (withItems name description result).call context (.hosted identity (.set set) :: arguments) =
      (Call.ofExcept (context.mode.strings arguments)).map (result set) :=
  rfl

private theorem withItems_of_error (name description : String)
    (result : StringSet → List String → Fresh Value)
    (failed : context.mode.strings arguments = .error error) :
    withItems name description result context (.hosted identity (.set set) :: arguments) =
      throw error := by
  apply Function.run_of_failure
  rw [withItems_call, failed]
  rfl

theorem withItems_of_strings (name description : String)
    (result : StringSet → List String → Fresh Value)
    (converted : context.mode.strings arguments = .ok texts) :
    withItems name description result context (.hosted identity (.set set) :: arguments) =
      result set texts := by
  apply Function.run_of_ok
  rw [withItems_call, converted]
  rfl

theorem insert_of_strings (converted : context.mode.strings arguments = .ok texts) :
    insert context (.hosted identity (.set set) :: arguments) = hostSet (set.insertAll texts) :=
  withItems_of_strings identity set _ _ _ converted

theorem delete_of_strings (converted : context.mode.strings arguments = .ok texts) :
    delete context (.hosted identity (.set set) :: arguments) = hostSet (set.eraseAll texts) :=
  withItems_of_strings identity set _ _ _ converted

theorem hasAll_of_strings (converted : context.mode.strings arguments = .ok texts) :
    hasAll context (.hosted identity (.set set) :: arguments) = pure (.bool (set.hasAll texts)) :=
  withItems_of_strings identity set _ _ _ converted

theorem hasAny_of_strings (converted : context.mode.strings arguments = .ok texts) :
    hasAny context (.hosted identity (.set set) :: arguments) = pure (.bool (set.hasAny texts)) :=
  withItems_of_strings identity set _ _ _ converted

private theorem itemFunctions_of_strings {call : Function} (member : call ∈ itemFunctions)
    (converted : context.mode.strings arguments = .ok texts) :
    (∃ members, call context (.hosted identity (.set set) :: arguments) = hostSet members) ∨
      ∃ answer, call context (.hosted identity (.set set) :: arguments) = pure (.bool answer) := by
  simp only [itemFunctions, List.mem_cons, List.not_mem_nil, or_false] at member
  rcases member with rfl | rfl | rfl | rfl
  · exact Or.inl ⟨_, insert_of_strings identity set converted⟩
  · exact Or.inl ⟨_, delete_of_strings identity set converted⟩
  · exact Or.inr ⟨_, hasAll_of_strings identity set converted⟩
  · exact Or.inr ⟨_, hasAny_of_strings identity set converted⟩

end Operand

/-! ### Items and sets of items -/

private theorem union_two (context : Context) (identity other : Nat) (left right : StringSet) :
    union context [.hosted identity (.set left), .hosted other (.set right)] =
      hostSet (left.union right) :=
  rfl

/-- The functions of a set and items answer as those of the set and another set. -/
structure ReadsItemsAs (context : Context) (operand : Value) (arguments : List Value)
    (items : Value) : Prop where
  insert : ∃ members, insert context (operand :: arguments) = hostSet members ∧
    union context [operand, items] = hostSet members
  delete : ∃ members, delete context (operand :: arguments) = hostSet members ∧
    difference context [operand, items] = hostSet members
  hasAll : ∃ answer, hasAll context (operand :: arguments) = pure (.bool answer) ∧
    isSuperset context [operand, items] = pure (.bool answer)
  hasAny : ∃ answer shared, hasAny context (operand :: arguments) = pure (.bool answer) ∧
    intersection context [operand, items] = hostSet shared ∧
    (answer = true ↔ ∃ item, item ∈ shared)

private theorem readsItemsAs (identity handle : Nat) (set : StringSet)
    (converted : context.mode.strings arguments = .ok texts) :
    ReadsItemsAs context (.hosted identity (.set set)) arguments
      (.hosted handle (.set (.ofList texts))) where
  insert := by
    refine ⟨_, insert_of_strings identity set converted, ?_⟩
    rw [union_two, StringSet.insertAll_eq_union]
  delete := by
    refine ⟨_, delete_of_strings identity set converted, ?_⟩
    rw [StringSet.eraseAll_eq_difference]
    rfl
  hasAll := by
    refine ⟨_, hasAll_of_strings identity set converted, ?_⟩
    rw [StringSet.hasAll_eq_isSuperset]
    rfl
  hasAny :=
    ⟨_, _, hasAny_of_strings identity set converted, rfl, StringSet.hasAny_iff_intersection⟩

private theorem sharesHandle?_of_lt {identity supply : Nat} (below : identity < supply)
    (payload other : Payload) :
    (Value.hosted identity payload).sharesHandle? (.hosted supply other) = some false := by
  have apart : Value.hosted identity payload ≠ .hosted supply other := by
    intro same
    cases same
    exact Nat.lt_irrefl _ below
  exact congrArg some (decide_eq_false apart)

/-- Items are read as the set that is made of them, or refused as that set is refused. Every item that
is inserted is there afterwards, no item that is deleted is, and the set itself stays as it was: the
result is no handle from before the call. -/
theorem items_read_as_their_set (context : Context) (identity : Nat) (set : StringSet)
    (arguments : List Value) :
    (∃ error, newSet context arguments = throw error ∧
        ∀ call ∈ itemFunctions,
          call context (.hosted identity (.set set) :: arguments) = throw error) ∨
      ∃ items, newSet context arguments = hostSet items ∧
        (∀ handle, ReadsItemsAs context (.hosted identity (.set set)) arguments
          (.hosted handle (.set items))) ∧
        (context.mode.strings arguments = .ok [] →
          hasAll context (.hosted identity (.set set) :: arguments) = pure (.bool true) ∧
            hasAny context (.hosted identity (.set set) :: arguments) = pure (.bool false)) ∧
        ∀ supply,
          (do
            let inserted ← insert context (.hosted identity (.set set) :: arguments)
            hasAll context (inserted :: arguments)) supply = .ok (.bool true, supply + 1) ∧
          (do
            let deleted ← delete context (.hosted identity (.set set) :: arguments)
            hasAny context (deleted :: arguments)) supply = .ok (.bool false, supply + 1) ∧
          ∀ call ∈ itemFunctions, ∃ result last,
            call context (.hosted identity (.set set) :: arguments) supply = .ok (result, last) ∧
              (identity < supply →
                (Value.hosted identity (.set set)).sharesHandle? result ≠ some true) ∧
              list context [.hosted identity (.set set)] last =
                .ok (.ofStrings set.toList, last) := by
  cases converted : context.mode.strings arguments with
  | error error =>
      refine Or.inl ⟨error, newSet_of_error converted, fun call member => ?_⟩
      obtain ⟨name, description, result, rfl⟩ := itemFunctions_withItems member
      exact withItems_of_error identity set name description result converted
  | ok texts =>
      refine Or.inr ⟨.ofList texts, newSet_of_strings converted,
        fun handle => readsItemsAs identity handle set converted, ?_, fun supply => ⟨?_, ?_, ?_⟩⟩
      · intro none
        cases none
        exact ⟨hasAll_of_strings identity set converted, hasAny_of_strings identity set converted⟩
      · rw [insert_of_strings identity set converted, Fresh.run_bind_ok (run_hostSet _ supply),
          hasAll_of_strings supply _ converted, StringSet.hasAll_insertAll]
        rfl
      · rw [delete_of_strings identity set converted, Fresh.run_bind_ok (run_hostSet _ supply),
          hasAny_of_strings supply _ converted, StringSet.hasAny_eraseAll]
        rfl
      · intro call member
        rcases itemFunctions_of_strings identity set member converted with
          ⟨members, made⟩ | ⟨answer, answered⟩
        · refine ⟨_, _, congrFun made supply, fun below => ?_, rfl⟩
          rw [sharesHandle?_of_lt below]
          simp
        · refine ⟨_, _, congrFun answered supply, fun _ => ?_, rfl⟩
          simp [Value.sharesHandle?]

/-- In the humane mode a number, an empty object and the items of a vector are items alike. Null is no
item in either mode. -/
theorem items_read_as_their_set_mixed :
    (∃ result last, insert ⟨.humane, 0⟩ [.hosted 1 (.set (.ofList ["a"])), .integer 7, .object [],
          .vector [.string "b", .hosted 2 (.tag "a")]] 3 = .ok (result, last) ∧
        result.set? = some (.ofList ["7", "a", "b"]) ∧
        (Value.hosted 1 (.set (.ofList ["a"]))).sharesHandle? result ≠ some true) ∧
      hasAll ⟨.strict, 0⟩ [.hosted 1 (.set (.ofList ["a"])), .null, .vector []] =
        pure (.bool true) ∧
      hasAny ⟨.strict, 0⟩ [.hosted 1 (.set (.ofList ["a"])), .null, .vector []] =
        pure (.bool false) ∧
      delete ⟨.strict, 0⟩ [.hosted 1 (.set (.ofList ["a"])), .string "a", .integer 7] =
        throw (.coercion "argument is neither vector nor string, but integer") := by
  refine ⟨?_, and_assoc.mp ⟨?_, ?_⟩⟩
  · rcases items_read_as_their_set ⟨.humane, 0⟩ 1 (.ofList ["a"])
        [.integer 7, .object [], .vector [.string "b", .hosted 2 (.tag "a")]] with
      ⟨_, failed, _⟩ | ⟨_, _, _, _, after⟩
    · cases congrFun failed 0
    · obtain ⟨result, last, made, apart, -⟩ := (after 3).2.2 insert (.head _)
      cases made
      exact ⟨_, _, rfl, by decide, apart (by decide)⟩
  · rcases items_read_as_their_set ⟨.strict, 0⟩ 1 (.ofList ["a"]) [.null, .vector []] with
      ⟨_, failed, _⟩ | ⟨_, _, _, vacuous, _⟩
    · cases congrFun failed 0
    · exact vacuous rfl
  · rcases items_read_as_their_set ⟨.strict, 0⟩ 1 (.ofList ["a"]) [.string "a", .integer 7] with
      ⟨_, failed, refused⟩ | ⟨_, made, _⟩
    · cases congrFun failed 0
      exact refused delete (.tail _ (.head _))
    · cases congrFun made 0

end HostValue.SetFunction
