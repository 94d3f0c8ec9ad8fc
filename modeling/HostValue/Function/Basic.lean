import HostValue.DeepCopy

/-!
# Functions

What a host calls: a named function from a context and arguments to a value. Every function checks the
number of its arguments first and then reads them by their positions. A call that read an argument where
there is none would break off, with neither a value nor an error for the host; that this does not happen
belongs to a function.
-/

namespace HostValue

structure Context where
  mode : Mode
  entropy : Nat

/-! ### Calls -/

inductive Stop where
  | failure (error : ValueError)
  /-- An argument was read where there is none. -/
  | outOfRange (position : Nat)

abbrev Call := Except Stop

namespace Call

variable {α β : Type}

def ofExcept (outcome : Except ValueError α) : Call α :=
  outcome.mapError .failure

def argument (arguments : List Value) (position : Nat) : Call Value :=
  match arguments[position]? with
  | some value => .ok value
  | none => .error (.outOfRange position)

def argumentsFrom (arguments : List Value) (start : Nat) : Call (List Value) :=
  if start ≤ arguments.length then .ok (arguments.drop start) else .error (.outOfRange start)

theorem ok_bind (value : α) (next : α → Call β) : Except.ok value >>= next = next value :=
  rfl

theorem argument_of_some {arguments : List Value} {position : Nat} {value : Value}
    (there : arguments[position]? = some value) : argument arguments position = .ok value := by
  rw [argument, there]

theorem argumentsFrom_of_le {arguments : List Value} {start : Nat}
    (there : start ≤ arguments.length) : argumentsFrom arguments start = .ok (arguments.drop start) :=
  if_pos there

/-- The call reads no argument where there is none. -/
def InRange (call : Call α) : Prop :=
  ∀ position, call ≠ .error (.outOfRange position)

namespace InRange

theorem ok (value : α) : InRange (.ok value) :=
  nofun

theorem failure (error : ValueError) : InRange (.error (.failure error) : Call α) :=
  nofun

theorem ofExcept (outcome : Except ValueError α) : InRange (Call.ofExcept outcome) := by
  cases outcome <;> exact nofun

theorem bind {call : Call α} {next : α → Call β} (first : call.InRange)
    (others : ∀ value, call = .ok value → (next value).InRange) : (call >>= next).InRange := by
  cases call with
  | error stop =>
      intro position same
      cases same
      exact first position rfl
  | ok value => exact others value rfl

theorem argument {arguments : List Value} {position : Nat} (there : position < arguments.length) :
    (Call.argument arguments position).InRange := by
  rw [argument_of_some (List.getElem?_eq_getElem there)]
  exact ok _

theorem argumentsFrom {arguments : List Value} {start : Nat} (there : start ≤ arguments.length) :
    (Call.argumentsFrom arguments start).InRange := by
  rw [argumentsFrom_of_le there]
  exact ok _

theorem foldlM {step : α → β → Call α} {items : List β} {start : α}
    (steps : ∀ item ∈ items, ∀ state, (step state item).InRange) :
    (items.foldlM step start).InRange := by
  induction items generalizing start with
  | nil => exact ok start
  | cons item rest ih =>
      obtain ⟨here, later⟩ := List.forall_mem_cons.mp steps
      rw [List.foldlM_cons]
      exact bind (here start) fun _ _ => ih later

end InRange

end Call

/-! ### Numbers of arguments -/

def wrongCount (function : String) (count expected : Nat) : ValueError :=
  .argumentCount function
    ("expected " ++ renderNat expected ++ " argument(s), got " ++ renderNat count)

def tooFew (function : String) (count least : Nat) : ValueError :=
  .argumentCount function
    ("expected at least " ++ renderNat least ++ " argument(s), got " ++ renderNat count)

def demand (condition : Prop) [Decidable condition] (error : ValueError) : Except ValueError Unit :=
  if condition then .ok () else .error error

def checkCount (function : String) (count expected : Nat) : Except ValueError Unit :=
  demand (count = expected) (wrongCount function count expected)

def checkLeastCount (function : String) (count least : Nat) : Except ValueError Unit :=
  demand (least ≤ count) (tooFew function count least)

section Demand

variable {α : Type} {condition : Prop} [Decidable condition] {error : ValueError}
  {next : Unit → Call α}

theorem demand_bind (fits : condition) :
    Call.ofExcept (demand condition error) >>= next = next () := by
  rw [demand, if_pos fits]
  rfl

theorem demand_bind_error (unfit : ¬condition) :
    Call.ofExcept (demand condition error) >>= next = .error (.failure error) := by
  rw [demand, if_neg unfit]
  rfl

/-- What comes after a demand may rely on it. -/
theorem Call.InRange.demand (others : condition → (next ()).InRange) :
    (Call.ofExcept (demand condition error) >>= next).InRange := by
  by_cases fits : condition
  · rw [demand_bind fits]
    exact others fits
  · rw [demand_bind_error fits]
    exact .failure error

end Demand

/-! ### Functions -/

/-- A function looks at its arguments, and only then, with what it finds there, makes its value, which
may be behind a new handle. No call of it reads an argument where there is none. -/
structure Function where
  name : String
  description : String
  call : Context → List Value → Call (Fresh Value)
  inRange : ∀ context arguments, (call context arguments).InRange

namespace Function

def run (function : Function) (context : Context) (arguments : List Value) : Fresh Value :=
  match ended : function.call context arguments with
  | .ok answer => answer
  | .error (.failure error) => throw error
  | .error (.outOfRange position) => absurd ended (function.inRange context arguments position)

instance : CoeFun Function fun _ => Context → List Value → Fresh Value :=
  ⟨run⟩

def ofArgument (name description : String)
    (result : Context → Value → Except ValueError (Fresh Value)) : Function where
  name := name
  description := description
  call context arguments := do
    Call.ofExcept (checkCount name arguments.length 1)
    Call.ofExcept (result context (← Call.argument arguments 0))
  inRange context arguments := by
    apply Call.InRange.demand
    intro one
    apply Call.InRange.bind (.argument (one ▸ Nat.one_pos))
    intro argument _
    exact .ofExcept _

variable {function : Function} {context : Context} {arguments : List Value} {answer : Fresh Value}

theorem run_of_ok (ended : function.call context arguments = .ok answer) :
    function context arguments = answer := by
  unfold run
  split <;> grind

theorem run_of_failure {error : ValueError}
    (ended : function.call context arguments = .error (.failure error)) :
    function context arguments = throw error := by
  unfold run
  split <;> grind

section Argument

variable {name description : String} {argument : Value}
  {result : Context → Value → Except ValueError (Fresh Value)}

theorem run_ofArgument (made : result context argument = .ok answer) :
    ofArgument name description result context [argument] = answer := by
  apply run_of_ok
  change Call.ofExcept (result context argument) = .ok answer
  rw [made]
  rfl

theorem run_ofArgument_error {error : ValueError} (failed : result context argument = .error error) :
    ofArgument name description result context [argument] = throw error := by
  apply run_of_failure
  change Call.ofExcept (result context argument) = .error (.failure error)
  rw [failed]
  rfl

end Argument

end Function

end HostValue
