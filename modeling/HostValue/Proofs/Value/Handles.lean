import HostValue.Proofs.Value.Parts
import HostValue.Value.Identity

/-!
# Handles in values

The handles that a value holds, the value without regard to them, and the payloads that are reached
through vectors and objects.
-/

namespace HostValue

mutual

/-- The identities of the handles in a value and in the boxes that it holds, once for every place,
with the handle of a box after its content. -/
def Value.handles : Value → List Nat
  | .null | .bool _ | .integer _ | .float _ | .string _ => []
  | .vector items => itemHandles items
  | .object entries => entryHandles entries
  | .hosted identity payload => payload.handles ++ [identity]
termination_by structural value => value

def Payload.handles : Payload → List Nat
  | .box content => content.handles
  | .version _ | .set _ | .point .. | .bare _ | .other _ | .tag _ | .text _ | .broken => []
termination_by structural payload => payload

def itemHandles : List Value → List Nat
  | [] => []
  | item :: rest => item.handles ++ itemHandles rest
termination_by structural items => items

def entryHandles : List (String × Value) → List Nat
  | [] => []
  | (_, value) :: rest => value.handles ++ entryHandles rest
termination_by structural entries => entries

end

mutual

/-- The value with the same identity in all its handles, those in boxes included. -/
def Value.nameless : Value → Value
  | .null => .null
  | .bool flag => .bool flag
  | .integer number => .integer number
  | .float number => .float number
  | .string text => .string text
  | .vector items => .vector (namelessItems items)
  | .object entries => .object (namelessEntries entries)
  | .hosted _ payload => .hosted 0 payload.nameless
termination_by structural value => value

def Payload.nameless : Payload → Payload
  | .box content => .box content.nameless
  | .version version => .version version
  | .set set => .set set
  | .point x y => .point x y
  | .bare label => .bare label
  | .other label => .other label
  | .tag label => .tag label
  | .text content => .text content
  | .broken => .broken
termination_by structural payload => payload

def namelessItems : List Value → List Value
  | [] => []
  | item :: rest => item.nameless :: namelessItems rest
termination_by structural items => items

def namelessEntries : List (String × Value) → List (String × Value)
  | [] => []
  | (key, value) :: rest => (key, value.nameless) :: namelessEntries rest
termination_by structural entries => entries

end

mutual

/-- The payloads of the hosted values that are reached through vectors and objects, in order. -/
def Value.payloads : Value → List Payload
  | .null | .bool _ | .integer _ | .float _ | .string _ => []
  | .vector items => itemPayloads items
  | .object entries => entryPayloads entries
  | .hosted _ payload => [payload]
termination_by structural value => value

def itemPayloads : List Value → List Payload
  | [] => []
  | item :: rest => item.payloads ++ itemPayloads rest
termination_by structural items => items

def entryPayloads : List (String × Value) → List Payload
  | [] => []
  | (_, value) :: rest => value.payloads ++ entryPayloads rest
termination_by structural entries => entries

end

/-! ### Handles and payloads of parts -/

namespace Value

private theorem mem_itemHandles {items : List Value} {item : Value} (member : item ∈ items)
    {identity : Nat} (held : identity ∈ item.handles) : identity ∈ itemHandles items := by
  induction items with
  | nil => exact absurd member List.not_mem_nil
  | cons head rest ih =>
      rw [itemHandles]
      rcases List.mem_cons.mp member with here | later
      · exact List.mem_append_left _ (here ▸ held)
      · exact List.mem_append_right _ (ih later)

private theorem mem_entryHandles {entries : Entries} {key : String} {value : Value}
    (member : (key, value) ∈ entries) {identity : Nat} (held : identity ∈ value.handles) :
    identity ∈ entryHandles entries := by
  induction entries with
  | nil => exact absurd member List.not_mem_nil
  | cons head rest ih =>
      rw [entryHandles]
      rcases List.mem_cons.mp member with here | later
      · exact List.mem_append_left _ (here ▸ held)
      · exact List.mem_append_right _ (ih later)

private theorem mem_handles_of_within {identity : Nat} {payload : Payload} {value : Value}
    (inside : Within (.hosted identity payload) value) : identity ∈ value.handles := by
  induction inside with
  | whole => exact List.mem_append_right _ List.mem_cons_self
  | item member _ ih => exact mem_itemHandles member ih
  | entry member _ ih => exact mem_entryHandles member ih

private theorem mem_itemPayloads_iff {items : List Value} {payload : Payload} :
    payload ∈ itemPayloads items ↔ ∃ item ∈ items, payload ∈ item.payloads := by
  induction items with
  | nil => simp [itemPayloads]
  | cons item rest ih => simp [itemPayloads, ih]

private theorem mem_entryPayloads_iff {entries : Entries} {payload : Payload} :
    payload ∈ entryPayloads entries ↔ ∃ entry ∈ entries, payload ∈ entry.2.payloads := by
  induction entries with
  | nil => simp [entryPayloads]
  | cons entry rest ih => simp [entryPayloads, ih]

theorem mem_payloads_iff {value : Value} {payload : Payload} :
    payload ∈ value.payloads ↔ ∃ identity, Within (.hosted identity payload) value := by
  constructor
  · intro member
    induction value using inductionOnParts with
    | leaf value leaf =>
        cases value with
        | hosted identity own =>
            cases List.mem_singleton.mp member
            exact ⟨identity, .whole⟩
        | vector | object => cases leaf
        | null | bool | integer | float | string => exact absurd member List.not_mem_nil
    | vector items ih =>
        obtain ⟨item, present, found⟩ := mem_itemPayloads_iff.mp member
        obtain ⟨identity, inside⟩ := ih item present found
        exact ⟨identity, .item present inside⟩
    | object entries ih =>
        obtain ⟨⟨key, value⟩, present, found⟩ := mem_entryPayloads_iff.mp member
        obtain ⟨identity, inside⟩ := ih key value present found
        exact ⟨identity, .entry present inside⟩
  · rintro ⟨identity, inside⟩
    induction inside with
    | whole => exact List.mem_singleton_self payload
    | item member _ ih => exact mem_itemPayloads_iff.mpr ⟨_, member, ih⟩
    | entry member _ ih => exact mem_entryPayloads_iff.mpr ⟨_, member, ih⟩

theorem not_sharesHandle?_of_disjoint {value other : Value}
    (disjoint : ∀ identity ∈ value.handles, identity ∉ other.handles) {part source : Value}
    (inside : Within part value) (insideOther : Within source other) :
    part.sharesHandle? source ≠ some true := by
  intro shared
  cases part with
  | hosted identity payload =>
      cases source with
      | hosted =>
          obtain ⟨rfl, -⟩ := Value.hosted.inj (of_decide_eq_true (Option.some.inj shared))
          exact disjoint identity (mem_handles_of_within inside) (mem_handles_of_within insideOther)
      | _ => cases shared
  | _ => cases shared

end Value

end HostValue
