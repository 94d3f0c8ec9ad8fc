import HostValue.Proofs.Value.Entries
import Mathlib.Data.List.Induction

/-!
# Gathered entries

What remains of pairs that are put one after the other into an object: every key once, where it first
came, with the value that came last.
-/

namespace HostValue.Entries

/-- The entries are what the pairs come to: their keys in the order in which each first came, and with
every key the last value that came with it. -/
structure Gathers (pairs : List (String × Value)) (entries : Entries) : Prop where
  keys : keys entries = (keys pairs).eraseDups
  last : ∀ key value, (key, value) ∈ entries ↔
    ∃ before after, pairs = before ++ (key, value) :: after ∧ key ∉ Entries.keys after

variable {pairs : List (String × Value)}

theorem ofPairs_append_singleton (pairs : List (String × Value)) (key : String) (value : Value) :
    ofPairs (pairs ++ [(key, value)]) = put (ofPairs pairs) key value := by
  rw [ofPairs, List.foldl_append]
  rfl

theorem ofPairs_distinct (pairs : List (String × Value)) : Distinct (ofPairs pairs) := by
  induction pairs using List.reverseRecOn with
  | nil => exact List.nodup_nil
  | append_singleton pairs pair ih =>
      rw [ofPairs_append_singleton]
      exact ih.put pair.1 pair.2

private theorem mem_put_iff {entries : Entries} (distinct : Distinct entries) {key name : String}
    {value other : Value} :
    (name, other) ∈ put entries key value ↔
      if name = key then other = value else (name, other) ∈ entries := by
  rw [← get?_eq_some_iff (distinct.put key value)]
  split
  · next same => rw [same, get?_put_self, Option.some.injEq, eq_comm]
  · next different => rw [get?_put_of_ne different, get?_eq_some_iff distinct]

private theorem eraseDups_append_singleton (names : List String) (name : String) :
    (names ++ [name]).eraseDups =
      if name ∈ names then names.eraseDups else names.eraseDups ++ [name] := by
  rw [List.eraseDups_append]
  split
  · next present => simp [List.removeAll, present]
  · next absent => simp [List.removeAll, absent, List.eraseDups_cons]

/-- The last pair of a key is the one put last, or the last one before it if that has another key. -/
private theorem isLast_append_singleton_iff {key name : String} {value other : Value} :
    (∃ before after, pairs ++ [(key, value)] = before ++ (name, other) :: after ∧
        name ∉ keys after) ↔
      if name = key then other = value
      else ∃ before after, pairs = before ++ (name, other) :: after ∧ name ∉ keys after := by
  constructor
  · rintro ⟨before, after, split, absent⟩
    rcases List.eq_nil_or_concat after with rfl | ⟨earlier, final, rfl⟩
    · obtain ⟨-, same⟩ := List.append_inj' split rfl
      cases same
      rw [if_pos rfl]
    · rw [List.concat_eq_append] at split absent
      rw [← List.cons_append, ← List.append_assoc] at split
      obtain ⟨pairsEq, same⟩ := List.append_inj' split rfl
      cases same
      rw [keys_append, List.mem_append, not_or] at absent
      rw [if_neg fun same => absent.2 (List.mem_singleton.mpr same)]
      exact ⟨before, earlier, pairsEq, absent.1⟩
  · split
    · next same =>
      intro valueEq
      rw [same, valueEq]
      exact ⟨pairs, [], rfl, List.not_mem_nil⟩
    · next different =>
      rintro ⟨before, after, rfl, absent⟩
      refine ⟨before, after ++ [(key, value)], ?_, ?_⟩
      · rw [List.append_assoc, List.cons_append]
      · rw [keys_append, List.mem_append, not_or]
        exact ⟨absent, fun present => different (List.mem_singleton.mp present)⟩

theorem gathers_ofPairs (pairs : List (String × Value)) : Gathers pairs (ofPairs pairs) := by
  induction pairs using List.reverseRecOn with
  | nil =>
      refine ⟨rfl, fun key value => iff_of_false List.not_mem_nil ?_⟩
      rintro ⟨before, after, split, -⟩
      exact List.append_ne_nil_of_right_ne_nil before (List.cons_ne_nil _ _) split.symm
  | append_singleton pairs pair ih =>
      obtain ⟨key, value⟩ := pair
      rw [ofPairs_append_singleton]
      refine ⟨?_, fun name other => ?_⟩
      · have member : key ∈ keys (ofPairs pairs) ↔ key ∈ keys pairs := by
          rw [ih.keys, List.mem_eraseDups]
        simp only [keys_put, member]
        rw [ih.keys, keys_append]
        exact (eraseDups_append_singleton (keys pairs) key).symm
      · rw [mem_put_iff (ofPairs_distinct pairs), isLast_append_singleton_iff]
        split
        · exact Iff.rfl
        · exact ih.last name other

private theorem eq_of_keys {entries others : Entries} (distinct : Distinct others)
    (sameKeys : keys entries = keys others) (subset : ∀ entry ∈ entries, entry ∈ others) :
    entries = others := by
  induction entries generalizing others with
  | nil => exact (List.map_eq_nil_iff.mp sameKeys.symm).symm
  | cons entry rest ih =>
      cases others with
      | nil => cases sameKeys
      | cons other otherRest =>
          obtain ⟨absent, otherDistinct⟩ := List.nodup_cons.mp distinct
          obtain ⟨headKey, restKeys⟩ := List.cons.inj sameKeys
          change keys rest = keys otherRest at restKeys
          obtain ⟨headIn, restIn⟩ := List.forall_mem_cons.mp subset
          -- A key of the rest is none of the heads, so what has it stands in the other rest.
          have apart {found : String × Value} (member : found ∈ otherRest) :
              found.1 ≠ other.1 := by
            intro same
            have keyIn : found.1 ∈ keys otherRest := List.mem_map_of_mem member
            rw [same] at keyIn
            exact absent keyIn
          have head : entry = other := by
            rcases List.mem_cons.mp headIn with here | later
            · exact here
            · exact absurd headKey (apart later)
          have remaining : ∀ found ∈ rest, found ∈ otherRest := by
            intro found member
            rcases List.mem_cons.mp (restIn found member) with here | later
            · have keyIn : found.1 ∈ keys rest := List.mem_map_of_mem member
              rw [restKeys, here] at keyIn
              exact absurd keyIn absent
            · exact later
          rw [head, ih otherDistinct restKeys remaining]

theorem gathers_iff {entries : Entries} : Gathers pairs entries ↔ entries = ofPairs pairs := by
  have made := gathers_ofPairs pairs
  refine ⟨fun gathers => ?_, fun same => same ▸ made⟩
  refine eq_of_keys (ofPairs_distinct pairs) (gathers.keys.trans made.keys.symm) ?_
  intro entry member
  exact (made.last entry.1 entry.2).mpr ((gathers.last entry.1 entry.2).mp member)

theorem mem_of_mem_ofPairs {entry : String × Value} (member : entry ∈ ofPairs pairs) :
    entry ∈ pairs := by
  obtain ⟨before, after, split, -⟩ := ((gathers_ofPairs pairs).last entry.1 entry.2).mp member
  rw [split]
  exact List.mem_append_right before List.mem_cons_self

end HostValue.Entries
