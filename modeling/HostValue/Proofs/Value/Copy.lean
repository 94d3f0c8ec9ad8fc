import HostValue.Proofs.Value.CopyFailure

/-!
# What a deep copy keeps and what it makes anew

A deep copy differs from its source in the identities of handles alone, and takes all of them from
the supply, one for each place where the source has a handle.
-/

namespace HostValue

/-! ### New handles -/

/-- The new identities are those that the supply gave out, one for every old one. -/
structure Renewed (old new : List Nat) (supply next : Nat) : Prop where
  identities : new = List.range' supply old.length
  next_eq : next = supply + old.length

namespace Renewed

variable {old new : List Nat} {supply middle next : Nat}

theorem nil (supply : Nat) : Renewed [] [] supply supply :=
  ⟨rfl, rfl⟩

private theorem host (identity supply : Nat) : Renewed [identity] [supply] supply (supply + 1) :=
  ⟨rfl, rfl⟩

theorem append {later newer : List Nat} (first : Renewed old new supply middle)
    (second : Renewed later newer middle next) :
    Renewed (old ++ later) (new ++ newer) supply next := by
  constructor
  · rw [first.identities, second.identities, first.next_eq, List.length_append,
      List.range'_append_1]
  · rw [second.next_eq, first.next_eq, List.length_append, Nat.add_assoc]

private theorem nodup (renewed : Renewed old new supply next) : new.Nodup := by
  rw [renewed.identities]
  exact List.nodup_range'

private theorem supply_le (renewed : Renewed old new supply next) {identity : Nat}
    (member : identity ∈ new) : supply ≤ identity := by
  rw [renewed.identities] at member
  exact (List.mem_range'_1.mp member).1

end Renewed

mutual

/-- A copy has the content of its source, and all its handles are new. -/
theorem Value.deepCopy_eq_ok (value : Value) {copy : Value} {supply next : Nat}
    (copied : value.deepCopy supply = .ok (copy, next)) :
    copy.nameless = value.nameless ∧ Renewed value.handles copy.handles supply next := by
  cases value with
  | null | bool | integer | float | string =>
      cases copied
      exact ⟨rfl, .nil supply⟩
  | vector items =>
      rw [Value.deepCopy] at copied
      obtain ⟨copies, middle, itemsCopied, done⟩ := Fresh.run_bind_eq_ok_iff.mp copied
      cases done
      obtain ⟨content, renewed⟩ := copyItems_eq_ok items itemsCopied
      exact ⟨congrArg Value.vector content, renewed⟩
  | object entries =>
      rw [Value.deepCopy] at copied
      obtain ⟨copies, middle, entriesCopied, done⟩ := Fresh.run_bind_eq_ok_iff.mp copied
      cases done
      obtain ⟨content, renewed⟩ := copyEntries_eq_ok entries entriesCopied
      exact ⟨congrArg Value.object content, renewed⟩
  | hosted identity payload =>
      rw [Value.deepCopy] at copied
      cases offered : payload.copy? with
      | none =>
          rw [offered] at copied
          cases copied
      | some run =>
          rw [offered] at copied
          exact Payload.copy?_eq_ok payload offered copied identity
termination_by structural value

-- The handle that the source has is any: a copier sees the payload alone.
theorem Payload.copy?_eq_ok (payload : Payload) {run : Fresh Value}
    (offered : payload.copy? = some run) {copy : Value} {supply next : Nat}
    (copied : run supply = .ok (copy, next)) (identity : Nat) :
    copy.nameless = .hosted 0 payload.nameless ∧
      Renewed (payload.handles ++ [identity]) copy.handles supply next := by
  cases payload with
  | version | set | point =>
      cases offered
      cases copied
      exact ⟨rfl, .host identity supply⟩
  | box content =>
      cases offered
      -- The content takes its identities first, so the handle of the box comes last in both lists.
      obtain ⟨inner, middle, contentCopied, done⟩ := Fresh.run_bind_eq_ok_iff.mp copied
      cases done
      obtain ⟨same, renewed⟩ := Value.deepCopy_eq_ok content contentCopied
      exact ⟨congrArg (fun value => Value.hosted 0 (.box value)) same,
        renewed.append (.host identity middle)⟩
  | broken =>
      cases offered
      cases copied
  | bare | other | tag | text => cases offered
termination_by structural payload

theorem copyItems_eq_ok (items : List Value) {copies : List Value} {supply next : Nat}
    (copied : copyItems items supply = .ok (copies, next)) :
    namelessItems copies = namelessItems items ∧
      Renewed (itemHandles items) (itemHandles copies) supply next := by
  cases items with
  | nil =>
      cases copied
      exact ⟨rfl, .nil supply⟩
  | cons item rest =>
      rw [copyItems] at copied
      obtain ⟨copy, middle, itemCopied, continued⟩ := Fresh.run_bind_eq_ok_iff.mp copied
      obtain ⟨others, last, restCopied, done⟩ := Fresh.run_bind_eq_ok_iff.mp continued
      cases done
      obtain ⟨first, firstRenewed⟩ := Value.deepCopy_eq_ok item itemCopied
      obtain ⟨second, secondRenewed⟩ := copyItems_eq_ok rest restCopied
      exact ⟨congrArg₂ List.cons first second, firstRenewed.append secondRenewed⟩
termination_by structural items

theorem copyEntries_eq_ok (entries : List (String × Value)) {copies : List (String × Value)}
    {supply next : Nat} (copied : copyEntries entries supply = .ok (copies, next)) :
    namelessEntries copies = namelessEntries entries ∧
      Renewed (entryHandles entries) (entryHandles copies) supply next := by
  cases entries with
  | nil =>
      cases copied
      exact ⟨rfl, .nil supply⟩
  | cons entry rest =>
      obtain ⟨key, value⟩ := entry
      rw [copyEntries] at copied
      obtain ⟨copy, middle, valueCopied, continued⟩ := Fresh.run_bind_eq_ok_iff.mp copied
      obtain ⟨others, last, restCopied, done⟩ := Fresh.run_bind_eq_ok_iff.mp continued
      cases done
      obtain ⟨first, firstRenewed⟩ := Value.deepCopy_eq_ok value valueCopied
      obtain ⟨second, secondRenewed⟩ := copyEntries_eq_ok rest restCopied
      exact ⟨congrArg₂ (fun made others => (key, made) :: others) first second,
        firstRenewed.append secondRenewed⟩
termination_by structural entries

end

namespace Value

/-- A copy is the same value with handles that are new and all different. It fails if and only if
some hosted value that is reached through vectors and objects cannot be copied, with the error of
the first one. -/
theorem deepCopy_faithful_and_independent (value : Value) (supply : Nat) :
    (∀ copy next, value.deepCopy supply = .ok (copy, next) →
        copy.nameless = value.nameless ∧ copy.handles.Nodup ∧
          ((∀ identity ∈ value.handles, identity < supply) →
            (∀ identity ∈ copy.handles, identity ∉ value.handles) ∧
              ∀ made source, Within made copy → Within source value →
                made.sharesHandle? source ≠ some true)) ∧
      (∀ error, value.deepCopy supply = .error error ↔
        ∃ before payload after, value.payloads = before ++ payload :: after ∧
          (∀ earlier ∈ before, earlier.Copies) ∧ payload.CopyFails error) ∧
      ((∃ error, value.deepCopy supply = .error error) ↔
        ∃ identity payload error, Within (.hosted identity payload) value ∧
          payload.CopyFails error) := by
  refine ⟨fun copy next copied => ?_, fun error => ?_, value.exists_deepCopy_error_iff supply⟩
  · obtain ⟨content, renewed⟩ := value.deepCopy_eq_ok copied
    refine ⟨content, renewed.nodup, fun used => ?_⟩
    have disjoint : ∀ identity ∈ copy.handles, identity ∉ value.handles := by
      intro identity new old
      exact Nat.not_lt.mpr (renewed.supply_le new) (used identity old)
    exact ⟨disjoint, fun _ _ inside insideSource =>
      not_sharesHandle?_of_disjoint disjoint inside insideSource⟩
  · rw [value.deepCopy_eq_error_iff supply error]
    exact FirstFailure.some_iff

theorem deepCopy_faithful_and_independent_shared :
    (object [("a", .hosted 1 (.version ⟨1, 0, 2, [], ["x"]⟩)),
        ("b", .vector [.hosted 1 (.version ⟨1, 0, 2, [], ["x"]⟩),
          .hosted 3 (.box (.hosted 1 (.version ⟨1, 0, 2, [], ["x"]⟩)))])]).deepCopy 4 =
      .ok (object [("a", .hosted 4 (.version ⟨1, 0, 2, [], ["x"]⟩)),
        ("b", .vector [.hosted 5 (.version ⟨1, 0, 2, [], ["x"]⟩),
          .hosted 7 (.box (.hosted 6 (.version ⟨1, 0, 2, [], ["x"]⟩)))])], 8) ∧
      (∀ identity ∈ [1, 1, 1, 3], identity < 4) ∧ [4, 5, 6, 7].Nodup ∧
      (∀ identity ∈ [4, 5, 6, 7], identity ∉ [1, 1, 1, 3]) ∧
      (vector [.hosted 1 (.version ⟨1, 0, 2, [], ["x"]⟩), .hosted 2 (.bare "d"),
        .hosted 3 .broken]).deepCopy 4 = .error (.notCopyable "bare") := by
  have copied :
      (object [("a", .hosted 1 (.version ⟨1, 0, 2, [], ["x"]⟩)),
          ("b", .vector [.hosted 1 (.version ⟨1, 0, 2, [], ["x"]⟩),
            .hosted 3 (.box (.hosted 1 (.version ⟨1, 0, 2, [], ["x"]⟩)))])]).deepCopy 4 =
        .ok (object [("a", .hosted 4 (.version ⟨1, 0, 2, [], ["x"]⟩)),
          ("b", .vector [.hosted 5 (.version ⟨1, 0, 2, [], ["x"]⟩),
            .hosted 7 (.box (.hosted 6 (.version ⟨1, 0, 2, [], ["x"]⟩)))])], 8) := rfl
  have used : ∀ identity ∈ [1, 1, 1, 3], identity < 4 := by decide
  obtain ⟨-, distinct, fresh⟩ := (deepCopy_faithful_and_independent _ 4).1 _ 8 copied
  refine ⟨copied, used, distinct, (fresh used).1, ?_⟩
  refine ((deepCopy_faithful_and_independent _ 4).2.1 _).mpr ⟨[_], _, [_], rfl, ?_, .unoffered rfl⟩
  exact List.forall_mem_singleton.mpr ⟨_, rfl, fun _ => ⟨_, rfl⟩⟩

end Value

end HostValue
