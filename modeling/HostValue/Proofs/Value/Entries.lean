import HostValue.Value.Basic
import Mathlib.Data.List.Perm.Subperm

/-!
# Entries with distinct keys

An object holds every key once. A look-up then finds exactly the entries there are, and two objects
of one size have the same keys as soon as the keys of one are all keys of the other.
-/

namespace HostValue.Entries

def keys (entries : Entries) : List String :=
  entries.map Prod.fst

def Distinct (entries : Entries) : Prop :=
  (keys entries).Nodup

instance (entries : Entries) : Decidable (Distinct entries) :=
  inferInstanceAs (Decidable (List.Nodup _))

theorem get?_cons (name key : String) (value : Value) (rest : Entries) :
    get? ((name, value) :: rest) key = if name = key then some value else get? rest key :=
  rfl

theorem put_cons (name key : String) (old value : Value) (rest : Entries) :
    put ((name, old) :: rest) key value =
      if name = key then (name, value) :: rest else (name, old) :: put rest key value :=
  rfl

/-! ### Look-up -/

theorem mem_keys_of_mem {entries : Entries} {key : String} {value : Value}
    (present : (key, value) ∈ entries) : key ∈ keys entries :=
  List.mem_map_of_mem present

theorem mem_keys_iff {entries : Entries} {key : String} :
    key ∈ keys entries ↔ ∃ value, (key, value) ∈ entries := by
  simp [keys]

theorem mem_of_get? {entries : Entries} {key : String} {value : Value}
    (found : get? entries key = some value) : (key, value) ∈ entries := by
  induction entries with
  | nil => cases found
  | cons entry rest ih =>
      obtain ⟨name, first⟩ := entry
      rw [get?_cons] at found
      split at found
      · next same =>
        cases found
        rw [same]
        exact List.mem_cons_self
      · exact List.mem_cons_of_mem _ (ih found)

theorem get?_eq_none_iff {entries : Entries} {key : String} :
    get? entries key = none ↔ key ∉ keys entries := by
  induction entries with
  | nil => exact iff_of_true rfl List.not_mem_nil
  | cons entry rest ih =>
      obtain ⟨name, first⟩ := entry
      rw [get?_cons]
      split
      · next same => simp [keys, same]
      · next different =>
        rw [ih]
        simp [keys, Ne.symm different]

theorem get?_eq_some_iff {entries : Entries} (distinct : Distinct entries) {key : String}
    {value : Value} : get? entries key = some value ↔ (key, value) ∈ entries := by
  refine ⟨mem_of_get?, ?_⟩
  induction entries with
  | nil => intro present; cases present
  | cons entry rest ih =>
      obtain ⟨name, first⟩ := entry
      obtain ⟨absent, restDistinct⟩ := List.nodup_cons.mp distinct
      intro present
      rw [get?_cons]
      rcases List.mem_cons.mp present with same | later
      · cases same
        rw [if_pos rfl]
      · have different : name ≠ key := by
          intro same
          rw [same] at absent
          exact absent (mem_keys_of_mem later)
        rw [if_neg different]
        exact ih restDistinct later

theorem zip_keys_values (entries : Entries) :
    (keys entries).zip (entries.map Prod.snd) = entries := by
  induction entries with
  | nil => rfl
  | cons entry rest ih => exact congrArg (entry :: ·) ih

/-! ### Keys of two objects -/

theorem length_keys (entries : Entries) : (keys entries).length = entries.length :=
  List.length_map _

/-- Objects of one size have the same keys if one has all the keys of the other. -/
theorem keys_subset_swap {entries others : Entries} (distinct : Distinct entries)
    (lengths : entries.length = others.length) (subset : keys entries ⊆ keys others) :
    keys others ⊆ keys entries := by
  have permuted : (keys entries).Perm (keys others) := by
    refine (List.subperm_of_subset distinct subset).perm_of_length_le (Nat.le_of_eq ?_)
    rw [length_keys, length_keys, lengths]
  exact permuted.symm.subset

/-! ### Construction -/

theorem keys_put (entries : Entries) (key : String) (value : Value) :
    keys (put entries key value) =
      if key ∈ keys entries then keys entries else keys entries ++ [key] := by
  induction entries with
  | nil => rfl
  | cons entry rest ih =>
      obtain ⟨name, old⟩ := entry
      rw [put_cons]
      by_cases same : name = key
      · simp [keys, same]
      · rw [if_neg same]
        change name :: keys (put rest key value) = _
        rw [ih]
        by_cases later : key ∈ keys rest
        · have present : key ∈ keys ((name, old) :: rest) := List.mem_cons_of_mem _ later
          rw [if_pos later, if_pos present]
          rfl
        · have absent : key ∉ keys ((name, old) :: rest) := by
            intro present
            rcases List.mem_cons.mp present with atHead | inRest
            · exact same atHead.symm
            · exact later inRest
          rw [if_neg later, if_neg absent]
          rfl

theorem get?_put_self (entries : Entries) (key : String) (value : Value) :
    get? (put entries key value) key = some value := by
  induction entries with
  | nil => exact if_pos rfl
  | cons entry rest ih =>
      obtain ⟨name, old⟩ := entry
      rw [put_cons]
      split
      · next same => rw [get?_cons, if_pos same]
      · next different => rw [get?_cons, if_neg different, ih]

theorem get?_put_of_ne {key other : String} (different : other ≠ key) (entries : Entries)
    (value : Value) : get? (put entries key value) other = get? entries other := by
  induction entries with
  | nil => exact if_neg different.symm
  | cons entry rest ih =>
      obtain ⟨name, old⟩ := entry
      rw [put_cons]
      split
      · next same =>
        have notOther : name ≠ other := fun isOther => different (isOther.symm.trans same)
        rw [get?_cons, get?_cons, if_neg notOther, if_neg notOther]
      · rw [get?_cons, get?_cons, ih]

theorem put_put (entries : Entries) (key : String) (value other : Value) :
    put (put entries key value) key other = put entries key other := by
  induction entries with
  | nil => exact if_pos rfl
  | cons entry rest ih =>
      obtain ⟨name, old⟩ := entry
      rw [put_cons, put_cons]
      split
      · next same => rw [put_cons, if_pos same]
      · next different => rw [put_cons, if_neg different, ih]

theorem put_eq_self {entries : Entries} {key : String} {value : Value}
    (found : get? entries key = some value) : put entries key value = entries := by
  induction entries with
  | nil => cases found
  | cons entry rest ih =>
      obtain ⟨name, old⟩ := entry
      rw [get?_cons] at found
      rw [put_cons]
      split
      · next same =>
        rw [if_pos same, Option.some.injEq] at found
        rw [found]
      · next different =>
        rw [if_neg different] at found
        rw [ih found]

theorem Distinct.put {entries : Entries} (distinct : Distinct entries) (key : String)
    (value : Value) : Distinct (put entries key value) := by
  rw [Distinct, keys_put]
  split
  · exact distinct
  · next absent =>
    refine List.nodup_append.mpr ⟨distinct, List.pairwise_singleton _ key, ?_⟩
    intro present inKeys added isAdded same
    rw [same, List.mem_singleton.mp isAdded] at inKeys
    exact absent inKeys

theorem keys_append (entries others : Entries) :
    keys (entries ++ others) = keys entries ++ keys others :=
  List.map_append

theorem put_of_absent {entries : Entries} {key : String} (absent : key ∉ keys entries)
    (value : Value) : put entries key value = entries ++ [(key, value)] := by
  induction entries with
  | nil => rfl
  | cons entry rest ih =>
      obtain ⟨name, old⟩ := entry
      have different : key ≠ name := List.ne_of_not_mem_cons absent
      have later : key ∉ keys rest := List.not_mem_of_not_mem_cons absent
      rw [put_cons, if_neg different.symm, ih later, List.cons_append]

private theorem foldl_put_of_distinct {entries others : Entries}
    (distinct : Distinct (entries ++ others)) :
    others.foldl (fun made pair => put made pair.1 pair.2) entries = entries ++ others := by
  induction others generalizing entries with
  | nil => rw [List.foldl_nil, List.append_nil]
  | cons entry rest ih =>
      have apart : (keys entries ++ keys (entry :: rest)).Nodup := by
        rw [← keys_append]
        exact distinct
      have absent : entry.1 ∉ keys entries := fun present =>
        (List.nodup_append.mp apart).2.2 entry.1 present entry.1 List.mem_cons_self rfl
      rw [← List.singleton_append, ← List.append_assoc] at distinct
      rw [List.foldl_cons, put_of_absent absent, ih distinct, List.append_assoc,
        List.singleton_append]

theorem ofPairs_eq_self {entries : Entries} (distinct : Distinct entries) :
    ofPairs entries = entries :=
  @foldl_put_of_distinct [] entries distinct

end HostValue.Entries
