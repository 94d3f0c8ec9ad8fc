import HostValue.Coalescing
import HostValue.Function.Basic

/-!
# Functions over sets

The set functions of a host. Each checks the number of its arguments, then that its operands are
sets, from left to right, and last converts its items to strings.
-/

namespace HostValue.SetFunction

def expectSet (arguments : List Value) (position : Nat) : Call StringSet := do
  let value ← Call.argument arguments position
  match value.set? with
  | some set => return set
  | none => throw (.failure (.invalidArgument position ("not a set, but " ++ value.typeName)))

section Operand

variable {arguments : List Value} {position : Nat} {value : Value}

theorem expectSet_of_set {set : StringSet} (there : arguments[position]? = some value)
    (isSet : value.set? = some set) : expectSet arguments position = .ok set := by
  rw [expectSet, Call.argument_of_some there, Call.ok_bind, isSet]
  rfl

theorem expectSet_of_no_set (there : arguments[position]? = some value)
    (noSet : value.set? = none) :
    expectSet arguments position =
      .error (.failure (.invalidArgument position ("not a set, but " ++ value.typeName))) := by
  rw [expectSet, Call.argument_of_some there, Call.ok_bind, noSet]
  rfl

theorem inRange_expectSet (there : position < arguments.length) :
    (expectSet arguments position).InRange := by
  apply Call.InRange.bind (.argument there)
  intro value _
  cases value.set? with
  | some set => exact .ok set
  | none => exact .failure _

end Operand

def hostSet (set : StringSet) : Fresh Value :=
  (Payload.set set).host

/-! ### Kinds of functions -/

section Kinds

variable (name description : String)

def withTwoSets (result : StringSet → StringSet → Fresh Value) : Function where
  name := name
  description := description
  call _ arguments := do
    Call.ofExcept (checkCount name arguments.length 2)
    let left ← expectSet arguments 0
    let right ← expectSet arguments 1
    return result left right
  inRange _ arguments := by
    apply Call.InRange.demand
    intro two
    apply Call.InRange.bind (inRange_expectSet (by omega))
    intro left _
    apply Call.InRange.bind (inRange_expectSet (by omega))
    intro right _
    exact .ok _

def withSet (result : StringSet → Fresh Value) : Function where
  name := name
  description := description
  call _ arguments := do
    Call.ofExcept (checkCount name arguments.length 1)
    return result (← expectSet arguments 0)
  inRange _ arguments := by
    apply Call.InRange.demand
    intro one
    apply Call.InRange.bind (inRange_expectSet (one ▸ Nat.one_pos))
    intro set _
    exact .ok _

def withItems (result : StringSet → List String → Fresh Value) : Function where
  name := name
  description := description
  call context arguments := do
    Call.ofExcept (checkLeastCount name arguments.length 1)
    let set ← expectSet arguments 0
    let items ← Call.argumentsFrom arguments 1
    return result set (← Call.ofExcept (context.mode.strings items))
  inRange context arguments := by
    apply Call.InRange.demand
    intro one
    apply Call.InRange.bind (inRange_expectSet one)
    intro set _
    apply Call.InRange.bind (.argumentsFrom one)
    intro items _
    apply Call.InRange.bind (.ofExcept _)
    intro texts _
    exact .ok _

end Kinds

/-! ### The functions -/

def newSet : Function where
  name := "new-set"
  description := "create a set filled with the given values"
  call context arguments := do
    return hostSet (.ofList (← Call.ofExcept (context.mode.strings arguments)))
  inRange context arguments := by
    apply Call.InRange.bind (.ofExcept _)
    intro texts _
    exact .ok _

def newKeySet : Function :=
  .ofArgument "new-key-set" "create a set filled with the keys of an object" fun _ argument =>
    match argument with
    | .object entries => .ok (hostSet (.ofList (entries.map (·.1))))
    | other => .error (.invalidArgument 0 ("not an object, but " ++ other.typeName))

def insert : Function :=
  withItems "set-insert" "returns a copy of the set with the newly added values inserted to it"
    fun set items => hostSet (set.insertAll items)

def delete : Function :=
  withItems "set-delete" "returns a copy of the set with the given values removed from it"
    fun set items => hostSet (set.eraseAll items)

def uniteArgument (arguments : List Value) (united : StringSet) (position : Nat) :
    Call StringSet :=
  return united.union (← expectSet arguments position)

/-- One argument after the other is looked at and united with those before it. -/
def union : Function where
  name := "set-union"
  description := "returns the union of two or more sets"
  call _ arguments := do
    Call.ofExcept (checkLeastCount "set-union" arguments.length 2)
    let first ← expectSet arguments 0
    let others := List.range' 1 (arguments.length - 1)
    return hostSet (← others.foldlM (uniteArgument arguments) first)
  inRange _ arguments := by
    apply Call.InRange.demand
    intro two
    apply Call.InRange.bind (inRange_expectSet (by omega))
    intro first _
    apply Call.InRange.bind
    · apply Call.InRange.foldlM
      intro position member united
      have there : position < arguments.length := by
        have bounds := List.mem_range'_1.mp member
        omega
      exact .bind (inRange_expectSet there) fun set _ => .ok _
    · intro united _
      exact .ok _

def intersection : Function :=
  withTwoSets "set-intersection" "returns the members present in both sets"
    fun left right => hostSet (left.intersection right)

def difference : Function :=
  withTwoSets "set-difference" "returns the members of the first set missing from the second"
    fun left right => hostSet (left.difference right)

def symmetricDifference : Function :=
  withTwoSets "set-symmetric-difference" "returns the members present in exactly one of the sets"
    fun left right => hostSet (left.symmetricDifference right)

def equal : Function :=
  withTwoSets "set-equal?" "returns true if both sets have the same members"
    fun left right => return .bool (left.size == right.size && left.isSuperset right)

def isSuperset : Function :=
  withTwoSets "set-superset-of?" "returns true if the first set contains every member of the second"
    fun left right => return .bool (left.isSuperset right)

def hasAll : Function :=
  withItems "set-has?" "returns true if the set contains all of the given values"
    fun set items => return .bool (set.hasAll items)

def hasAny : Function :=
  withItems "set-has-any?" "returns true if the set contains at least one of the given values"
    fun set items => return .bool (set.hasAny items)

def size : Function :=
  withSet "set-size" "returns the number of members"
    fun set => return .ofCount (UInt64.ofNat set.size)

def list : Function :=
  withSet "set-list" "returns the members as a sorted vector"
    fun set => return .ofStrings set.toList

def table : List Function :=
  [newSet, newKeySet, insert, delete, union, intersection, difference, symmetricDifference, equal,
    isSuperset, hasAll, hasAny, size, list]

end HostValue.SetFunction
