import HostValue.Proofs.Comparison.Contests

/-!
# Key order in equality

The contested pairs are exactly the ones on which the order of keys shows: some order makes equality
answer `false`, and another one makes it fail. On every other pair equality ignores the order of keys
and the side of its operands.
-/

namespace HostValue.Mode

variable {mode : Mode}

/-! ### Orders that show the contest -/

/-- Some order of the keys leads to the answer with the left operand on the left. -/
def Reaches (mode : Mode) (left right : Value) (answer : Option Bool) : Prop :=
  ∃ left' right', left.Reorders left' ∧ right.Reorders right' ∧ mode.answer? left' right' = answer

private theorem Reaches.possible {left right : Value} {answer : Option Bool}
    (reaches : mode.Reaches left right answer) : mode.Possible left right answer := by
  obtain ⟨left', right', leftReorders, rightReorders, given⟩ := reaches
  exact ⟨left', right', leftReorders, rightReorders, Or.inl given⟩

private theorem reaches_items {goal : Option Bool} (refusal : goal ≠ some true)
    {items others : List Value}
    (parts : ∀ item ∈ items, ∀ other ∈ others, mode.Contested item other →
      mode.Reaches item other goal)
    (contested : mode.ContestedItems items others) :
    ∃ items' others', List.Forall₂ Value.Reorders items items' ∧
      List.Forall₂ Value.Reorders others others' ∧
        decisive (List.zipWith mode.answer? items' others') = goal := by
  induction items generalizing others with
  | nil => cases contested
  | cons item rest ih =>
      cases contested with
      | @head _ other _ restOthers inside =>
          obtain ⟨item', other', itemReorders, otherReorders, given⟩ :=
            parts item List.mem_cons_self other List.mem_cons_self inside
          refine ⟨item' :: rest, other' :: restOthers, .cons itemReorders (reorders_items_refl rest),
            .cons otherReorders (reorders_items_refl restOthers), ?_⟩
          rw [← given] at refusal
          rw [List.zipWith_cons_cons, decisive_cons_other refusal, given]
      | @tail _ other _ restOthers same later =>
          obtain ⟨rest', restOthers', restReorder, othersReorder, given⟩ :=
            ih (fun part member otherPart otherMember => parts part
              (List.mem_cons_of_mem item member) otherPart
              (List.mem_cons_of_mem other otherMember)) later
          refine ⟨item :: rest', other :: restOthers', .cons .refl restReorder,
            .cons .refl othersReorder, ?_⟩
          rw [List.zipWith_cons_cons, answer?_eq_some_iff.mpr same, decisive_cons_true, given]

theorem reaches_first {goal : Option Bool} (refusal : goal ≠ some true) {entries others : Entries}
    (lengths : entries.length = others.length) (given : goal ∈ mode.answers entries others) :
    mode.Reaches (.object entries) (.object others) goal := by
  obtain ⟨entry, present, answered⟩ := List.mem_map.mp given
  obtain ⟨before, after, rfl⟩ := List.append_of_mem present
  have toFront : (before ++ entry :: after).Perm (entry :: (before ++ after)) := List.perm_middle
  refine ⟨.object (entry :: (before ++ after)), .object others, .single (.object toFront), .refl, ?_⟩
  rw [answer?_object (toFront.length_eq.symm.trans lengths), answers, List.map_cons, answered,
    decisive_cons_other refusal]

private theorem reaches_under_key {goal : Option Bool} (refusal : goal ≠ some true)
    {entries others : Entries} (othersDistinct : Entries.Distinct others)
    (lengths : entries.length = others.length) {key : String} {value other : Value}
    (present : (key, value) ∈ entries) (otherPresent : (key, other) ∈ others)
    (inside : mode.Reaches value other goal) :
    mode.Reaches (.object entries) (.object others) goal := by
  obtain ⟨value', other', valueReorders, otherReorders, given⟩ := inside
  obtain ⟨before, after, rfl⟩ := List.append_of_mem present
  obtain ⟨othersBefore, othersAfter, rfl⟩ := List.append_of_mem otherPresent
  have othersReorder := Entries.Reorders.set othersBefore othersAfter key otherReorders
  have found : Entries.get? (othersBefore ++ (key, other') :: othersAfter) key = some other' :=
    (Entries.get?_eq_some_iff (othersReorder.distinct othersDistinct)).mpr
      (List.mem_append_right _ List.mem_cons_self)
  have reached : goal ∈ mode.answers (before ++ (key, value') :: after)
      (othersBefore ++ (key, other') :: othersAfter) := by
    refine List.mem_map.mpr ⟨(key, value'), List.mem_append_right _ List.mem_cons_self, ?_⟩
    simp only [found, given]
  have lengths' : (before ++ (key, value') :: after).length =
      (othersBefore ++ (key, other') :: othersAfter).length := by
    simpa using lengths
  obtain ⟨left', right', leftReorders, rightReorders, answered⟩ :=
    reaches_first refusal lengths' reached
  exact ⟨left', right', (Value.Reorders.at_entry before after key valueReorders).trans leftReorders,
    (Value.Reorders.at_entry othersBefore othersAfter key otherReorders).trans rightReorders,
    answered⟩

private theorem Contested.reaches {left right : Value} (leftKeys : left.DistinctKeys)
    (rightKeys : right.DistinctKeys) (contested : mode.Contested left right) {goal : Option Bool}
    (refusal : goal ≠ some true) : mode.Reaches left right goal := by
  induction left using Value.inductionOnParts generalizing right with
  | leaf left leaf =>
      exact absurd contested (not_contested_of_apart (Value.Apart.of_leaf leaf right))
  | vector items parts =>
      cases contested with
      | @vector _ others lengths inside =>
          obtain ⟨items', others', itemsReorder, othersReorder, given⟩ := by
            refine reaches_items refusal ?_ inside
            intro item member other otherMember itemContested
            exact parts item member (leftKeys.item member) (rightKeys.item otherMember) itemContested
          have lengths' : items'.length = others'.length := by
            rw [← itemsReorder.length_eq, lengths, othersReorder.length_eq]
          refine ⟨.vector items', .vector others', .of_items [] itemsReorder,
            .of_items [] othersReorder, ?_⟩
          rw [answer?_vector lengths', given]
  | object entries parts =>
      cases contested with
      | object lengths unequal failing =>
          refine reaches_first refusal lengths ?_
          match goal with
          | some true => exact absurd rfl refusal
          | some false => exact unequal
          | none => exact failing
      | entry lengths present otherPresent inside =>
          exact reaches_under_key refusal rightKeys.entries lengths present otherPresent
            (parts _ _ present (leftKeys.entry present) (rightKeys.entry otherPresent) inside)

/-! ### Key order and side -/

private theorem possible_eq_true_iff {left right : Value} (leftKeys : left.DistinctKeys)
    (rightKeys : right.DistinctKeys) {answer : Option Bool}
    (possible : mode.Possible left right answer) :
    answer = some true ↔ mode.answer? left right = some true := by
  have settled : mode.Settled left right := settled leftKeys rightKeys
  by_cases contested : mode.Contested left right
  · have notTrue := settled.doubtful contested answer possible
    have notTrueHere := settled.doubtful contested _ (possible_self left right)
    exact ⟨fun isTrue => absurd isTrue notTrue, fun isTrue => absurd isTrue notTrueHere⟩
  · rw [settled.steady contested answer possible]

/-- Without a contest every order of the keys and either side lead to one outcome; with one, they
lead to two. -/
private theorem not_contested_iff {left right : Value} (leftKeys : left.DistinctKeys)
    (rightKeys : right.DistinctKeys) :
    ¬mode.Contested left right ↔
      ∀ answer, mode.Possible left right answer → answer = mode.answer? left right := by
  constructor
  · exact (settled leftKeys rightKeys).steady
  · intro one contested
    have unequal : mode.Reaches left right (some false) :=
      contested.reaches leftKeys rightKeys (by simp)
    have failing : mode.Reaches left right none := contested.reaches leftKeys rightKeys (by simp)
    have same := (one _ unequal.possible).trans (one _ failing.possible).symm
    cases same

/-- Equality ignores the order of keys and the side of its operands exactly where the pair is not
contested; and which values are found equal never depends on them. -/
theorem equal_ignores_key_order_iff (mode : Mode) {left right : Value}
    (leftKeys : left.DistinctKeys) (rightKeys : right.DistinctKeys) :
    (¬mode.Contested left right ↔
        ∀ left' right', left.Reorders left' → right.Reorders right' → ∀ answer,
          (mode.equal left' right' = .ok answer ↔ mode.equal left right = .ok answer) ∧
            (mode.equal right' left' = .ok answer ↔ mode.equal left right = .ok answer)) ∧
      ∀ left' right', left.Reorders left' → right.Reorders right' →
        (mode.equal left' right' = .ok true ↔ mode.equal left right = .ok true) ∧
          (mode.equal right' left' = .ok true ↔ mode.equal left right = .ok true) := by
  simp only [← answer?_eq_some_iff]
  constructor
  · rw [not_contested_iff leftKeys rightKeys]
    constructor
    · intro one left' right' leftReorders rightReorders answer
      rw [one _ ⟨left', right', leftReorders, rightReorders, Or.inl rfl⟩,
        one _ ⟨left', right', leftReorders, rightReorders, Or.inr rfl⟩]
      exact ⟨Iff.rfl, Iff.rfl⟩
    · intro all answer possible
      obtain ⟨left', right', leftReorders, rightReorders, given⟩ := possible
      have kept := all left' right' leftReorders rightReorders
      apply Option.ext
      intro flag
      rcases given with forward | backward
      · rw [← forward]
        exact (kept flag).1
      · rw [← backward]
        exact (kept flag).2
  · intro left' right' leftReorders rightReorders
    exact ⟨possible_eq_true_iff leftKeys rightKeys
        ⟨left', right', leftReorders, rightReorders, Or.inl rfl⟩,
      possible_eq_true_iff leftKeys rightKeys
        ⟨left', right', leftReorders, rightReorders, Or.inr rfl⟩⟩

/-- Two objects with one difference and no failure: other orders of the keys leave them unequal. -/
theorem equal_ignores_key_order_at_difference :
    strict.equal (.object [("k", .hosted 0 (.bare "x")), ("a", .integer 1)])
        (.object [("a", .integer 2), ("k", .hosted 0 (.bare "x"))]) = .ok false ∧
      strict.equal (.object [("a", .integer 2), ("k", .hosted 0 (.bare "x"))])
        (.object [("k", .hosted 0 (.bare "x")), ("a", .integer 1)]) = .ok false := by
  have leaves : ∀ entry ∈ [("a", Value.integer 1), ("k", .hosted 0 (.bare "x"))],
      entry.2.kind.isCollection = false := by decide
  have uncontested : ¬strict.Contested (.object [("a", .integer 1), ("k", .hosted 0 (.bare "x"))])
      (.object [("a", .integer 2), ("k", .hosted 0 (.bare "x"))]) := by
    intro contested
    cases contested with
    | object _ _ failing => exact absurd failing (by decide)
    | entry _ present _ inside =>
        exact not_contested_of_apart (Value.Apart.of_leaf (leaves _ present) _) inside
  have reorders : (Value.object [("a", .integer 1), ("k", .hosted 0 (.bare "x"))]).Reorders
      (.object [("k", .hosted 0 (.bare "x")), ("a", .integer 1)]) := .single (.object (.swap _ _ []))
  have kept := (equal_ignores_key_order_iff strict (by decide) (by decide)).1.mp uncontested _ _
    reorders .refl false
  exact ⟨kept.1.mpr (by decide), kept.2.mpr (by decide)⟩

/-- Two objects with an unequal and an incomparable entry: the answer is `false` where the unequal
one comes first, and a failure from the other side and in the other order. -/
theorem equal_depends_on_key_order :
    strict.equal (.object [("a", .integer 1), ("b", .vector [])])
        (.object [("b", .integer 3), ("a", .integer 2)]) = .ok false ∧
      strict.equal (.object [("b", .integer 3), ("a", .integer 2)])
        (.object [("a", .integer 1), ("b", .vector [])]) =
          .error (.incompatibleTypes "integer" "vector") ∧
      strict.equal (.object [("b", .vector []), ("a", .integer 1)])
        (.object [("b", .integer 3), ("a", .integer 2)]) =
          .error (.incompatibleTypes "vector" "integer") :=
  ⟨by decide, by decide, by decide⟩

end HostValue.Mode
