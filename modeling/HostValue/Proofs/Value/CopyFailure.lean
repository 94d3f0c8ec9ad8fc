import HostValue.Proofs.Outcome
import HostValue.Proofs.Supply
import HostValue.Proofs.Value.Handles

/-!
# When a deep copy fails

A copy goes through the hosted values in order and stops at the first one that cannot be copied. How
it ends does not depend on the supply of identities.
-/

namespace HostValue

/-! ### The first payload that cannot be copied -/

namespace Payload

def Copies (payload : Payload) : Prop :=
  ∃ run, payload.copy? = some run ∧ ∀ supply, ∃ made, run supply = .ok made

inductive CopyFails (payload : Payload) : ValueError → Prop where
  | unoffered (unoffered : payload.copy? = none) : CopyFails payload (.notCopyable payload.typeName)
  | failing {run : Fresh Value} {error : ValueError} (offered : payload.copy? = some run)
      (fails : ∀ supply, run supply = .error error) : CopyFails payload error

theorem CopyFails.not_copies {payload : Payload} {error : ValueError}
    (fails : payload.CopyFails error) : ¬ payload.Copies := by
  rintro ⟨run, offered, succeeds⟩
  cases fails with
  | unoffered unoffered =>
      rw [unoffered] at offered
      cases offered
  | failing alsoOffered fails =>
      cases Option.some.inj (offered.symm.trans alsoOffered)
      obtain ⟨made, runs⟩ := succeeds 0
      rw [fails] at runs
      cases runs

private theorem CopyFails.unique {payload : Payload} {error other : ValueError}
    (fails : payload.CopyFails error) (failsEither : payload.CopyFails other) : error = other := by
  cases fails with
  | unoffered unoffered =>
      cases failsEither with
      | unoffered => rfl
      | failing offered =>
          rw [unoffered] at offered
          cases offered
  | failing offered fails =>
      cases failsEither with
      | unoffered unoffered =>
          rw [unoffered] at offered
          cases offered
      | failing alsoOffered failsEither =>
          cases Option.some.inj (offered.symm.trans alsoOffered)
          exact Except.error.inj ((fails 0).symm.trans (failsEither 0))

end Payload

abbrev FirstCopyFailure (payloads : List Payload) (failure : Option ValueError) : Prop :=
  FirstFailure Payload.Copies Payload.CopyFails payloads failure

theorem FirstCopyFailure.unique {payloads : List Payload} {failure other : Option ValueError}
    (first : FirstCopyFailure payloads failure) (second : FirstCopyFailure payloads other) :
    failure = other :=
  FirstFailure.unique (fun _ _ fails => fails.not_copies)
    (fun _ _ _ fails failsEither => fails.unique failsEither) first second

/-! ### Whether a copy is made -/

namespace Fresh

variable {α β : Type}

/-- A computation that fails with an error, or succeeds, whatever the supply. -/
inductive Settles (run : Fresh α) : Option ValueError → Prop where
  | success (succeeds : ∀ supply, ∃ made, run supply = .ok made) : Settles run none
  | failure (error : ValueError) (fails : ∀ supply, run supply = .error error) :
      Settles run (some error)

def Follows (run : Fresh α) (payloads : List Payload) : Prop :=
  ∃ failure, FirstCopyFailure payloads failure ∧ run.Settles failure

namespace Follows

variable {run : Fresh α} {next : α → Fresh β} {payloads others : List Payload}

theorem pure (value : α) : Follows (pure value : Fresh α) [] :=
  ⟨none, .nil, .success fun supply => ⟨(value, supply), rfl⟩⟩

private theorem host (payload : Payload) : payload.host.Follows [] :=
  ⟨none, .nil, .success fun supply => ⟨(.hosted supply payload, supply + 1), rfl⟩⟩

theorem bind (first : run.Follows payloads) (second : ∀ value, (next value).Follows others) :
    (run >>= next).Follows (payloads ++ others) := by
  obtain ⟨failure, stopped, settles⟩ := first
  cases settles with
  | failure error fails =>
      exact ⟨some error, stopped.append_of_some others,
        .failure error fun supply => run_bind_error (fails supply)⟩
  | success succeeds =>
      obtain ⟨⟨sample, _⟩, _⟩ := succeeds 0
      obtain ⟨failure, remaining, settles⟩ := second sample
      refine ⟨failure, stopped.append remaining, ?_⟩
      -- What the rest does depends on the value, but not the error that it ends in, if any.
      have same (value : α) : (next value).Settles failure := by
        obtain ⟨other, alsoRemaining, settlesEither⟩ := second value
        exact FirstCopyFailure.unique alsoRemaining remaining ▸ settlesEither
      cases failure with
      | none =>
          refine .success fun supply => ?_
          obtain ⟨⟨value, middle⟩, runs⟩ := succeeds supply
          rw [run_bind_ok runs]
          cases same value with
          | success succeeds => exact succeeds middle
      | some error =>
          refine .failure error fun supply => ?_
          obtain ⟨⟨value, middle⟩, runs⟩ := succeeds supply
          rw [run_bind_ok runs]
          cases same value with
          | failure _ fails => exact fails middle

theorem bind_pure (first : run.Follows payloads) (result : α → β) :
    (run >>= fun value => Pure.pure (result value)).Follows payloads := by
  rw [← List.append_nil payloads]
  exact first.bind fun value => .pure (result value)

private theorem hosted (identity : Nat) {payload : Payload}
    (dichotomy : payload.Copies ∨ ∃ error, payload.CopyFails error) :
    (Value.hosted identity payload).deepCopy.Follows [payload] := by
  rcases dichotomy with copies | ⟨error, fails⟩
  · refine ⟨none, .later copies .nil, .success fun supply => ?_⟩
    obtain ⟨copier, offered, succeeds⟩ := copies
    rw [Value.deepCopy, offered]
    exact succeeds supply
  · refine ⟨some error, .here fails [], .failure error fun supply => ?_⟩
    rw [Value.deepCopy]
    cases fails with
    | unoffered unoffered =>
        rw [unoffered]
        rfl
    | failing offered fails =>
        rw [offered]
        exact fails supply

end Follows

end Fresh

mutual

theorem Value.deepCopy_follows (value : Value) : value.deepCopy.Follows value.payloads := by
  cases value with
  | null | bool | integer | float | string => exact .pure _
  | vector items =>
      rw [Value.deepCopy]
      exact (copyItems_follows items).bind_pure Value.vector
  | object entries =>
      rw [Value.deepCopy]
      exact (copyEntries_follows entries).bind_pure Value.object
  | hosted identity payload => exact .hosted identity payload.copies_or_fails
termination_by structural value

theorem Payload.copies_or_fails (payload : Payload) :
    payload.Copies ∨ ∃ error, payload.CopyFails error := by
  cases payload with
  | version | set | point => exact Or.inl ⟨_, rfl, fun supply => ⟨_, rfl⟩⟩
  | box content =>
      obtain ⟨_, _, settles⟩ :=
        content.deepCopy_follows.bind fun copy => .host (.box copy)
      cases settles with
      | success succeeds => exact Or.inl ⟨_, rfl, succeeds⟩
      | failure error fails => exact Or.inr ⟨error, .failing rfl fails⟩
  | broken => exact Or.inr ⟨_, .failing rfl fun _ => rfl⟩
  | bare | other | tag | text => exact Or.inr ⟨_, .unoffered rfl⟩
termination_by structural payload

theorem copyItems_follows (items : List Value) :
    (copyItems items).Follows (itemPayloads items) := by
  cases items with
  | nil => exact .pure _
  | cons item rest =>
      rw [copyItems]
      exact item.deepCopy_follows.bind fun copy => (copyItems_follows rest).bind_pure (copy :: ·)
termination_by structural items

theorem copyEntries_follows (entries : List (String × Value)) :
    (copyEntries entries).Follows (entryPayloads entries) := by
  cases entries with
  | nil => exact .pure _
  | cons entry rest =>
      obtain ⟨key, value⟩ := entry
      rw [copyEntries]
      exact value.deepCopy_follows.bind fun copy =>
        (copyEntries_follows rest).bind_pure ((key, copy) :: ·)
termination_by structural entries

end

namespace Value

theorem deepCopy_eq_error_iff (value : Value) (supply : Nat) (error : ValueError) :
    value.deepCopy supply = .error error ↔ FirstCopyFailure value.payloads (some error) := by
  obtain ⟨failure, stopped, settles⟩ := value.deepCopy_follows
  cases settles with
  | success succeeds =>
      obtain ⟨made, runs⟩ := succeeds supply
      rw [runs]
      constructor
      · intro same
        cases same
      · intro first
        cases FirstCopyFailure.unique stopped first
  | failure found fails =>
      rw [fails]
      constructor
      · intro same
        exact Except.error.inj same ▸ stopped
      · intro first
        rw [Option.some.inj (FirstCopyFailure.unique stopped first)]

theorem exists_deepCopy_error_iff (value : Value) (supply : Nat) :
    (∃ error, value.deepCopy supply = .error error) ↔
      ∃ identity payload error, Within (.hosted identity payload) value ∧
        payload.CopyFails error := by
  constructor
  · rintro ⟨error, failed⟩
    have first := (value.deepCopy_eq_error_iff supply error).mp failed
    obtain ⟨before, payload, after, split, -, fails⟩ := FirstFailure.some_iff.mp first
    have member : payload ∈ value.payloads := by
      rw [split]
      exact List.mem_append_right _ List.mem_cons_self
    obtain ⟨identity, inside⟩ := mem_payloads_iff.mp member
    exact ⟨identity, payload, error, inside, fails⟩
  · rintro ⟨identity, payload, error, inside, fails⟩
    have member := mem_payloads_iff.mpr ⟨identity, inside⟩
    obtain ⟨failure, stopped, settles⟩ := value.deepCopy_follows
    cases settles with
    | success => exact absurd (stopped.passes_of_none member) fails.not_copies
    | failure found fails => exact ⟨found, fails supply⟩

end Value

end HostValue
