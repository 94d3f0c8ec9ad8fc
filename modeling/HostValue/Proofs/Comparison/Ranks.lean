import HostValue.Comparison
import HostValue.Proofs.Version.Precedence

/-!
# Ranks

What values that compare themselves are compared by: versions, sets, points, and texts, to which
strings belong as well. The order of ranks is lawful where it is defined, and the answer of two
operands about themselves is the order of their ranks, whichever of them gives it. Only a type whose
comparison fails altogether gives none.
-/

namespace HostValue

open Std

inductive Rank where
  | version (version : Version)
  | set (set : StringSet)
  | point (x y : Int64)
  | text (content : String)

def Rank.order? : Rank → Rank → Option Ordering
  | .version own, .version other => some (own.order other)
  | .set own, .set other => some (own.order other)
  | .point x y, .point u v => some (Payload.orderPoints x y u v)
  | .text own, .text other => some (compare own other)
  | _, _ => none

namespace Value

def rank? : Value → Option Rank
  | .string content => some (.text content)
  | .hosted _ (.text content) => some (.text content)
  | .hosted _ (.version version) => some (.version version)
  | .hosted _ (.set set) => some (.set set)
  | .hosted _ (.point x y) => some (.point x y)
  | _ => none

def rankOrder? (left right : Value) : Option Ordering :=
  left.rank?.bind fun own => right.rank?.bind own.order?

end Value

/-! ### Orders of sets and points -/

private theorem StringSet.orderMembers_eq_compareLex (left right : List String) :
    StringSet.orderMembers left right = List.compareLex compare left right := by
  induction left generalizing right with
  | nil => cases right <;> rfl
  | cons x xs ih =>
      cases right with
      | nil => rfl
      | cons y ys => rw [StringSet.orderMembers, List.compareLex_cons_cons, ih]

theorem StringSet.order_eq_compareLex (left right : StringSet) :
    left.order right = List.compareLex compare left.members right.members :=
  StringSet.orderMembers_eq_compareLex left.members right.members

instance : TransCmp StringSet.order where
  eq_swap := by
    intro left right
    rw [StringSet.order_eq_compareLex, StringSet.order_eq_compareLex]
    exact OrientedCmp.eq_swap
  isLE_trans := by
    intro first second third
    rw [StringSet.order_eq_compareLex, StringSet.order_eq_compareLex,
      StringSet.order_eq_compareLex]
    exact TransCmp.isLE_trans

def Payload.orderPair (left right : Int64 × Int64) : Ordering :=
  Payload.orderPoints left.1 left.2 right.1 right.2

private theorem Payload.orderPair_eq_compareLex :
    Payload.orderPair = compareLex (compareOn Prod.fst) (compareOn Prod.snd) :=
  rfl

instance : TransCmp Payload.orderPair := by
  rw [Payload.orderPair_eq_compareLex]
  infer_instance

/-! ### Order of ranks -/

/-- Two steps that do not go down make one step, which goes up if either of them does. -/
theorem compare_then {α : Type} {cmp : α → α → Ordering} [TransCmp cmp] {first second third : α}
    (below : (cmp first second).isLE = true) (above : (cmp second third).isLE = true) :
    cmp first third = (cmp first second).then (cmp second third) := by
  cases lower : cmp first second with
  | lt => exact TransCmp.lt_of_lt_of_isLE lower above
  | eq => exact TransCmp.congr_left lower
  | gt =>
      rw [lower] at below
      cases below

namespace Rank

private theorem order?_swap (left right : Rank) :
    right.order? left = (left.order? right).map Ordering.swap := by
  cases left with
  | version own =>
      cases right with
      | version other => exact congrArg some OrientedCmp.eq_swap
      | set | point | text => rfl
  | set own =>
      cases right with
      | set other => exact congrArg some OrientedCmp.eq_swap
      | version | point | text => rfl
  | point x y =>
      cases right with
      | point u v =>
          have reversed : Payload.orderPair (u, v) (x, y) =
              (Payload.orderPair (x, y) (u, v)).swap := OrientedCmp.eq_swap
          exact congrArg some reversed
      | version | set | text => rfl
  | text own =>
      cases right with
      | text other => exact congrArg some OrientedCmp.eq_swap
      | version | set | point => rfl

private theorem order?_self (rank : Rank) : rank.order? rank = some .eq := by
  cases rank with
  | version own => exact congrArg some ReflCmp.compare_self
  | set own => exact congrArg some ReflCmp.compare_self
  | point x y =>
      have same : Payload.orderPair (x, y) (x, y) = .eq := ReflCmp.compare_self
      exact congrArg some same
  | text own => exact congrArg some ReflCmp.compare_self

theorem order?_trans {first second third : Rank} {lower upper : Ordering}
    (below : first.order? second = some lower) (above : second.order? third = some upper)
    (lowerUp : lower.isLE = true) (upperUp : upper.isLE = true) :
    first.order? third = some (lower.then upper) := by
  cases first with
  | version own =>
      cases second with
      | version middle =>
          cases third with
          | version other =>
              cases below
              cases above
              exact congrArg some (compare_then lowerUp upperUp)
          | set | point | text => cases above
      | set | point | text => cases below
  | set own =>
      cases second with
      | set middle =>
          cases third with
          | set other =>
              cases below
              cases above
              exact congrArg some (compare_then lowerUp upperUp)
          | version | point | text => cases above
      | version | point | text => cases below
  | point x y =>
      cases second with
      | point u v =>
          cases third with
          | point s t =>
              cases below
              cases above
              have composed : Payload.orderPair (x, y) (s, t) =
                  (Payload.orderPair (x, y) (u, v)).then (Payload.orderPair (u, v) (s, t)) :=
                compare_then lowerUp upperUp
              exact congrArg some composed
          | version | set | text => cases above
      | version | set | text => cases below
  | text own =>
      cases second with
      | text middle =>
          cases third with
          | text other =>
              cases below
              cases above
              exact congrArg some (compare_then lowerUp upperUp)
          | version | set | point => cases above
      | version | set | point => cases below

end Rank

theorem Value.rankOrder?_swap (left right : Value) :
    right.rankOrder? left = (left.rankOrder? right).map Ordering.swap := by
  unfold Value.rankOrder?
  cases left.rank? with
  | none => cases right.rank? <;> rfl
  | some own =>
      cases right.rank? with
      | none => rfl
      | some other => exact Rank.order?_swap own other

private theorem Value.rankOrder?_self (value : Value) :
    value.rankOrder? value = value.rank?.map fun _ => .eq := by
  unfold Value.rankOrder?
  cases value.rank? with
  | none => rfl
  | some own => exact own.order?_self

theorem Value.rankOrder?_eq_some_iff {left right : Value} {ordering : Ordering} :
    left.rankOrder? right = some ordering ↔
      ∃ own other, left.rank? = some own ∧ right.rank? = some other ∧
        own.order? other = some ordering := by
  simp [rankOrder?, Option.bind_eq_some_iff]

/-! ### The answers of the operands -/

namespace Value

def ownOrder (own other : Value) : Except ValueError (Option Ordering) :=
  match own with
  | .hosted _ payload =>
    match payload.compareWith? other with
    | none => .ok none
    | some (.ok ordering) => .ok (some ordering)
    | some (.error error) => if error.isIncompatibleTypes then .ok none else .error error
  | _ => .ok none

private theorem ownOrder_unhosted {own : Value} (unhosted : own.kind ≠ .hosted) (other : Value) :
    own.ownOrder other = .ok none := by
  cases own with
  | hosted => exact absurd rfl unhosted
  | _ => rfl

theorem ownOrder_eq_some_iff {identity : Nat} {payload : Payload} {other : Value}
    {ordering : Ordering} :
    (hosted identity payload).ownOrder other = .ok (some ordering) ↔
      payload.compareWith? other = some (.ok ordering) := by
  simp only [ownOrder]
  cases payload.compareWith? other with
  | none => simp
  | some outcome =>
      cases outcome with
      | ok found => simp
      | error error => cases refused : error.isIncompatibleTypes <;> simp [refused]

theorem ownOrder_hosted (identity : Nat) {payload : Payload} (sound : payload ≠ .broken)
    (other : Value) :
    (hosted identity payload).ownOrder other =
      .ok ((hosted identity payload).rankOrder? other) := by
  cases payload with
  | broken => exact absurd rfl sound
  | bare | other | tag | box => rfl
  | version own =>
      cases other with
      | hosted _ right => cases right <;> rfl
      | _ => rfl
  | set own =>
      cases other with
      | hosted _ right => cases right <;> rfl
      | _ => rfl
  | point x y =>
      cases other with
      | hosted _ right => cases right <;> rfl
      | _ => rfl
  | text content =>
      cases other with
      | hosted _ right => cases right <;> rfl
      | _ => rfl

end Value

/-- The comparison of a type fails, and not because of the type of the other operand. -/
def Payload.ComparerFails (payload : Payload) : Prop :=
  ∃ operand error, payload.compareWith? operand = some (.error error) ∧
    error.isIncompatibleTypes = false

theorem Payload.comparerFails_iff {payload : Payload} : payload.ComparerFails ↔ payload = .broken := by
  constructor
  · intro fails
    obtain ⟨operand, error, failed, other⟩ := fails
    by_cases broken : payload = .broken
    · exact broken
    · have answer := Value.ownOrder_hosted 0 broken operand
      simp only [Value.ownOrder, failed, other] at answer
      cases answer
  · intro broken
    rw [broken]
    exact ⟨.null, _, rfl, rfl⟩

namespace Value

/-- The value compares itself, and that fails. -/
def ComparerFails : Value → Prop
  | .hosted _ payload => payload.ComparerFails
  | _ => False

instance : DecidablePred ComparerFails
  | .hosted _ _ => decidable_of_iff' _ Payload.comparerFails_iff
  | .null | .bool _ | .integer _ | .float _ | .string _ | .vector _ | .object _ => isFalse id

theorem eq_broken_of_comparerFails {value : Value} (fails : value.ComparerFails) :
    ∃ identity, value = hosted identity .broken := by
  cases value with
  | hosted identity payload => exact ⟨identity, by rw [Payload.comparerFails_iff.mp fails]⟩
  | _ => exact absurd fails id

theorem ownOrder_sound {own : Value} (sound : ¬own.ComparerFails) (other : Value) :
    own.ownOrder other = .ok (if own.kind = .hosted then own.rankOrder? other else none) := by
  cases own with
  | hosted identity payload =>
      exact ownOrder_hosted identity (fun broken => sound (Payload.comparerFails_iff.mpr broken)) other
  | _ => rfl

end Value

theorem compareThemselves_eq (left right : Value) :
    compareThemselves left right =
      match left.ownOrder right with
      | .ok none =>
        match right.ownOrder left with
        | .ok (some ordering) => .ok (some ordering.swap)
        | outcome => outcome
      | outcome => outcome :=
  rfl

theorem compareThemselves_sound {left right : Value} (leftSound : ¬left.ComparerFails)
    (rightSound : ¬right.ComparerFails) :
    compareThemselves left right =
      .ok (if left.kind = .hosted ∨ right.kind = .hosted then left.rankOrder? right else none) := by
  rw [compareThemselves_eq, Value.ownOrder_sound leftSound, Value.ownOrder_sound rightSound,
    Value.rankOrder?_swap left right]
  by_cases leftHosted : left.kind = .hosted
  · cases left.rankOrder? right <;> by_cases rightHosted : right.kind = .hosted <;>
      simp [leftHosted, rightHosted]
  · by_cases rightHosted : right.kind = .hosted
    · cases left.rankOrder? right <;> simp [leftHosted, rightHosted]
    · simp [leftHosted, rightHosted]

theorem compareThemselves_failing {left right : Value}
    (fails : left.ComparerFails ∨ right.ComparerFails) :
    compareThemselves left right = .error (.coercion "broken compare") := by
  by_cases leftFails : left.ComparerFails
  · obtain ⟨identity, rfl⟩ := Value.eq_broken_of_comparerFails leftFails
    rfl
  · obtain ⟨identity, rfl⟩ := Value.eq_broken_of_comparerFails (fails.resolve_left leftFails)
    have unranked : left.rankOrder? (.hosted identity .broken) = none := by
      unfold Value.rankOrder?
      cases left.rank? <;> rfl
    rw [compareThemselves_eq, Value.ownOrder_sound leftFails, unranked, ite_self]
    rfl

theorem not_comparerFails_of_answer {left right : Value} {answer : Option Ordering}
    (asked : compareThemselves left right = .ok answer) :
    ¬left.ComparerFails ∧ ¬right.ComparerFails := by
  rw [← not_or]
  intro fails
  rw [compareThemselves_failing fails] at asked
  cases asked

theorem compareThemselves_self {value : Value} (hosted : value.kind = .hosted)
    (sound : ¬value.ComparerFails) :
    compareThemselves value value = .ok (value.rank?.map fun _ => .eq) := by
  rw [compareThemselves_sound sound sound, if_pos (Or.inl hosted), Value.rankOrder?_self]

theorem compareThemselves_swap (left right : Value) :
    compareThemselves right left = (compareThemselves left right).map (Option.map Ordering.swap) := by
  by_cases fails : left.ComparerFails ∨ right.ComparerFails
  · rw [compareThemselves_failing fails, compareThemselves_failing fails.symm]
    rfl
  · obtain ⟨leftSound, rightSound⟩ := not_or.mp fails
    rw [compareThemselves_sound leftSound rightSound, compareThemselves_sound rightSound leftSound,
      Value.rankOrder?_swap left right]
    by_cases hosted : left.kind = .hosted ∨ right.kind = .hosted
    · rw [if_pos hosted, if_pos hosted.symm]
      rfl
    · rw [if_neg hosted, if_neg (fun other => hosted other.symm)]
      rfl

theorem compareThemselves_unhosted {left right : Value} (leftUnhosted : left.kind ≠ .hosted)
    (rightUnhosted : right.kind ≠ .hosted) : compareThemselves left right = .ok none := by
  rw [compareThemselves_eq, Value.ownOrder_unhosted leftUnhosted,
    Value.ownOrder_unhosted rightUnhosted]

end HostValue
