import HostValue.Value.Basic

/-!
# Identity

Whether two values are the same down to the bits of their numbers and the identities of their
handles. It decides whether two handles are one: a handle is its identity together with its payload,
so handles from unrelated sources are told apart even where their identities happen to agree.
-/

namespace HostValue

mutual

def Value.identical : Value → Value → Bool
  | .null, .null => true
  | .bool a, .bool b => a == b
  | .integer a, .integer b => a == b
  | .float a, .float b => a == b
  | .string a, .string b => a == b
  | .vector a, .vector b => identicalItems a b
  | .object a, .object b => identicalEntries a b
  | .hosted i a, .hosted j b => i == j && a.identical b
  | _, _ => false
termination_by structural value => value

def Payload.identical : Payload → Payload → Bool
  | .version a, .version b => a == b
  | .set a, .set b => a == b
  | .point a b, .point c d => a == c && b == d
  | .bare a, .bare b => a == b
  | .other a, .other b => a == b
  | .tag a, .tag b => a == b
  | .text a, .text b => a == b
  | .box a, .box b => a.identical b
  | .broken, .broken => true
  | _, _ => false
termination_by structural payload => payload

def identicalItems : List Value → List Value → Bool
  | [], [] => true
  | a :: as, b :: bs => a.identical b && identicalItems as bs
  | _, _ => false
termination_by structural items => items

def identicalEntries : List (String × Value) → List (String × Value) → Bool
  | [], [] => true
  | (k, a) :: as, (l, b) :: bs => k == l && a.identical b && identicalEntries as bs
  | _, _ => false
termination_by structural entries => entries

end

mutual

theorem Value.identical_iff : ∀ (a b : Value), a.identical b = true ↔ a = b
  | .null, b => by cases b <;> simp [Value.identical]
  | .bool _, b => by cases b <;> simp [Value.identical]
  | .integer _, b => by cases b <;> simp [Value.identical]
  | .float _, b => by cases b <;> simp [Value.identical]
  | .string _, b => by cases b <;> simp [Value.identical]
  | .vector as, b => by
    cases b <;> simp [Value.identical, identicalItems_iff as]
  | .object as, b => by
    cases b <;> simp [Value.identical, identicalEntries_iff as]
  | .hosted _ p, b => by
    cases b <;> simp [Value.identical, Payload.identical_iff p]

theorem Payload.identical_iff : ∀ (a b : Payload), a.identical b = true ↔ a = b
  | .version _, b => by cases b <;> simp [Payload.identical]
  | .set _, b => by cases b <;> simp [Payload.identical]
  | .point _ _, b => by cases b <;> simp [Payload.identical]
  | .bare _, b => by cases b <;> simp [Payload.identical]
  | .other _, b => by cases b <;> simp [Payload.identical]
  | .tag _, b => by cases b <;> simp [Payload.identical]
  | .text _, b => by cases b <;> simp [Payload.identical]
  | .box v, b => by cases b <;> simp [Payload.identical, Value.identical_iff v]
  | .broken, b => by cases b <;> simp [Payload.identical]

theorem identicalItems_iff : ∀ (as bs : List Value), identicalItems as bs = true ↔ as = bs
  | [], bs => by cases bs <;> simp [identicalItems]
  | a :: as, bs => by
    cases bs <;> simp [identicalItems, Value.identical_iff a, identicalItems_iff as]

theorem identicalEntries_iff :
    ∀ (as bs : List (String × Value)), identicalEntries as bs = true ↔ as = bs
  | [], bs => by cases bs <;> simp [identicalEntries]
  | (_, a) :: as, bs => by
    cases bs <;>
      simp [identicalEntries, Value.identical_iff a, identicalEntries_iff as, Prod.ext_iff]

end

instance : DecidableEq Value := fun a b =>
  decidable_of_iff (a.identical b = true) (a.identical_iff b)

instance : DecidableEq Payload := fun a b =>
  decidable_of_iff (a.identical b = true) (a.identical_iff b)

def Value.sharesHandle? (left right : Value) : Option Bool :=
  match left, right with
  | .hosted .., .hosted .. => some (left = right)
  | _, _ => none

end HostValue
