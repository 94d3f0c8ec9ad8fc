import HostValue.Function.Set
import HostValue.Proofs.Function.Flattening
import HostValue.Proofs.Outcome
import Mathlib.Data.List.Forall2

/-!
# Argument checks

In what order the functions over sets look at their arguments. A function first checks how many there
are, then its operands from left to right, and converts the items behind them last. A call fails as the
first of these does that fails, and answers if none does. What comes before the items is alike in every
context, and no call reads an argument where there is none.
-/

namespace HostValue.SetFunction

/-! ### Checks -/

/-- What a function makes sure of before it looks at items. -/
inductive Check where
  | exactly (count : Nat)
  | atLeast (count : Nat)
  | set (position : Nat)
  | object (position : Nat)

namespace Check

/-- The arguments are as the check asks. Where there is no argument, nothing passes. -/
inductive Passes (arguments : List Value) : Check → Prop where
  | exactly {count : Nat} (fits : arguments.length = count) : Passes arguments (.exactly count)
  | atLeast {count : Nat} (fits : count ≤ arguments.length) : Passes arguments (.atLeast count)
  | set {position : Nat} {value : Value} {set : StringSet}
      (there : arguments[position]? = some value) (isSet : value.set? = some set) :
      Passes arguments (.set position)
  | object {position : Nat} {entries : Entries}
      (there : arguments[position]? = some (.object entries)) : Passes arguments (.object position)

/-- The error with which the arguments of a function are refused. Where there is no argument, nothing
fails either. -/
inductive Fails (name : String) (arguments : List Value) : Check → ValueError → Prop where
  | exactly {count : Nat} (unfit : arguments.length ≠ count) :
      Fails name arguments (.exactly count) (wrongCount name arguments.length count)
  | atLeast {count : Nat} (unfit : arguments.length < count) :
      Fails name arguments (.atLeast count) (tooFew name arguments.length count)
  | set {position : Nat} {value : Value} (there : arguments[position]? = some value)
      (noSet : value.set? = none) :
      Fails name arguments (.set position)
        (.invalidArgument position ("not a set, but " ++ value.typeName))
  | object {position : Nat} {value : Value} (there : arguments[position]? = some value)
      (noObject : value.kind ≠ .object) :
      Fails name arguments (.object position)
        (.invalidArgument position ("not an object, but " ++ value.typeName))

variable {name : String} {arguments : List Value} {check : Check} {error other : ValueError}

private theorem Fails.not_passes (fails : check.Fails name arguments error) :
    ¬check.Passes arguments := by
  intro passes
  cases fails with
  | exactly unfit =>
      cases passes with
      | exactly fits => exact unfit fits
  | atLeast unfit =>
      cases passes with
      | atLeast fits => exact Nat.not_le_of_lt unfit fits
  | set there noSet =>
      cases passes with
      | set thereToo isSet =>
          cases there.symm.trans thereToo
          cases noSet.symm.trans isSet
  | object there noObject =>
      cases passes with
      | object thereToo =>
          cases there.symm.trans thereToo
          exact noObject rfl

private theorem Fails.unique (fails : check.Fails name arguments error)
    (failsEither : check.Fails name arguments other) : error = other := by
  cases fails with
  | exactly | atLeast =>
      cases failsEither
      rfl
  | set there | object there =>
      cases failsEither with
      | _ thereToo =>
          cases there.symm.trans thereToo
          rfl

end Check

variable {name description : String} {arguments : List Value} {checks : List Check} {check : Check}
  {items : Option Nat} {calls : Context → Call (Fresh Value)} {error : ValueError}
  {failure other : Option ValueError}

abbrev FirstFault (name : String) (arguments : List Value) : List Check → Option ValueError → Prop :=
  FirstFailure (Check.Passes arguments) (Check.Fails name arguments)

/-- The computation results in a value, whatever handles are made before it. -/
def Answers (answer : Fresh Value) : Prop :=
  ∀ supply, ∃ result last, answer supply = .ok (result, last)

/-- The call answers if the conversion of its items succeeds, and fails as the conversion does if not. -/
inductive DecidedBy (conversion : Except ValueError (List String)) (call : Call (Fresh Value)) :
    Prop where
  | made {texts : List String} {answer : Fresh Value} (made : conversion = .ok texts)
      (ended : call = .ok answer) (answers : Answers answer)
  | failed {message : String} (failed : conversion = .error (.coercion message))
      (ended : call = .error (.failure (.coercion message)))

/-- What becomes of the calls of a function on some arguments, one in each context. A check that fails
refuses all of them alike. Without items they also answer alike, and with items each is decided by the
conversion that its context makes. -/
inductive Settled (name : String) (arguments : List Value) (checks : List Check)
    (items : Option Nat) (calls : Context → Call (Fresh Value)) : Prop where
  | refused {error : ValueError} (first : FirstFault name arguments checks (some error))
      (alike : ∀ context, calls context = .error (.failure error))
  | answered {answer : Fresh Value} (passed : FirstFault name arguments checks none)
      (noItems : items = none) (answers : Answers answer)
      (alike : ∀ context, calls context = .ok answer)
  | converted {start : Nat} (passed : FirstFault name arguments checks none)
      (takesItems : items = some start) (there : start ≤ arguments.length)
      (decided : ∀ context,
        DecidedBy (context.mode.strings (arguments.drop start)) (calls context))

namespace Settled

theorem pass (passes : check.Passes arguments) (settled : Settled name arguments checks items calls) :
    Settled name arguments (check :: checks) items calls := by
  cases settled with
  | refused first alike => exact .refused (.later passes first) alike
  | answered passed noItems answers alike =>
      exact .answered (.later passes passed) noItems answers alike
  | converted passed takesItems there decided =>
      exact .converted (.later passes passed) takesItems there decided

theorem fail (fails : check.Fails name arguments error) :
    Settled name arguments (check :: checks) items fun _ => .error (.failure error) :=
  .refused (.here fails checks) fun _ => rfl

theorem answer {answer : Fresh Value} (answers : Answers answer) :
    Settled name arguments [] none fun _ => .ok answer :=
  .answered .nil rfl answers fun _ => rfl

/-- What comes after a check of the number of arguments may rely on it. -/
theorem demanded {condition : Prop} [Decidable condition]
    (passes : condition → check.Passes arguments)
    (fails : ¬condition → check.Fails name arguments error)
    (settled : condition → Settled name arguments checks items calls) :
    Settled name arguments (check :: checks) items fun context =>
      Call.ofExcept (demand condition error) >>= fun _ => calls context := by
  by_cases fits : condition
  · simp only [demand_bind fits]
    exact (settled fits).pass (passes fits)
  · simp only [demand_bind_error fits]
    exact .fail (fails fits)

theorem exactly {count : Nat}
    (settled : arguments.length = count → Settled name arguments checks items calls) :
    Settled name arguments (.exactly count :: checks) items fun context =>
      Call.ofExcept (checkCount name arguments.length count) >>= fun _ => calls context :=
  .demanded .exactly .exactly settled

theorem atLeast {count : Nat}
    (settled : count ≤ arguments.length → Settled name arguments checks items calls) :
    Settled name arguments (.atLeast count :: checks) items fun context =>
      Call.ofExcept (checkLeastCount name arguments.length count) >>= fun _ => calls context :=
  .demanded .atLeast (fun unfit => .atLeast (Nat.lt_of_not_le unfit)) settled

theorem operand {position : Nat} {next : Context → StringSet → Call (Fresh Value)}
    (there : position < arguments.length)
    (settled : ∀ set, Settled name arguments checks items fun context => next context set) :
    Settled name arguments (.set position :: checks) items fun context =>
      expectSet arguments position >>= next context := by
  have found : arguments[position]? = some arguments[position] := List.getElem?_eq_getElem there
  cases made : arguments[position].set? with
  | none =>
      simp only [expectSet_of_no_set found made]
      exact .fail (.set found made)
  | some set =>
      simp only [expectSet_of_set found made]
      exact (settled set).pass (.set found made)

end Settled

/-! ### Kinds of functions -/

namespace Signature

variable {signature : Signature} {function : Function}

end Signature

end HostValue.SetFunction
