import HostValue.Proofs.Comparison.Answers
import HostValue.Proofs.Value.Reordering

/-!
# Contested pairs

Equality of two objects walks the entries of the left one and stops at the first that is unequal or
cannot be compared. Two objects of one size that have an unequal entry next to one whose comparison
fails are contested: which of the two is met first depends on the order of the entries and on the
side. Pairs without a contest in them have one outcome whatever the order and the side, and pairs
with a contest are never found equal.
-/

namespace HostValue.Mode

variable {mode : Mode}

/-! ### Contested pairs -/

mutual

/-- The answer of equality depends on the order of keys: two objects of one size have an entry that
is unequal or missing and an entry whose comparison fails. They may stand in vectors of one length
behind items that are equal, or in objects of one size under one key. -/
inductive Contested (mode : Mode) : Value → Value → Prop where
  | vector {items others : List Value} (lengths : items.length = others.length)
      (inside : ContestedItems mode items others) : Contested mode (.vector items) (.vector others)
  | object {entries others : Entries} (lengths : entries.length = others.length)
      (unequal : some false ∈ mode.answers entries others)
      (failing : none ∈ mode.answers entries others) :
      Contested mode (.object entries) (.object others)
  | entry {entries others : Entries} {key : String} {value other : Value}
      (lengths : entries.length = others.length) (present : (key, value) ∈ entries)
      (otherPresent : (key, other) ∈ others) (inside : Contested mode value other) :
      Contested mode (.object entries) (.object others)

/-- Two items at one place are contested, and all items before them are equal. -/
inductive ContestedItems (mode : Mode) : List Value → List Value → Prop where
  | head {item other : Value} (rest restOthers : List Value) (inside : Contested mode item other) :
      ContestedItems mode (item :: rest) (other :: restOthers)
  | tail {item other : Value} {rest restOthers : List Value}
      (same : mode.equal item other = .ok true) (later : ContestedItems mode rest restOthers) :
      ContestedItems mode (item :: rest) (other :: restOthers)

end

/-- Some order of the keys leads to the answer, with either operand on the left. -/
def Possible (mode : Mode) (left right : Value) (answer : Option Bool) : Prop :=
  ∃ left' right', left.Reorders left' ∧ right.Reorders right' ∧
    (mode.answer? left' right' = answer ∨ mode.answer? right' left' = answer)

/-- No order of the keys leads to another answer, or else to `true`. -/
structure Settled (mode : Mode) (left right : Value) : Prop where
  steady : ¬mode.Contested left right →
    ∀ answer, mode.Possible left right answer → answer = mode.answer? left right
  doubtful : mode.Contested left right →
    ∀ answer, mode.Possible left right answer → answer ≠ some true

/-- A way to ask two values for their equality: as they stand or exchanged. -/
def Asks (mode : Mode) (ask : Value → Value → Option Bool) : Prop :=
  ∀ left right, ask left right = mode.answer? left right ∨ ask left right = mode.answer? right left

theorem Asks.possible {ask : Value → Value → Option Bool} (asks : mode.Asks ask)
    {left left' right right' : Value} (leftReorders : left.Reorders left')
    (rightReorders : right.Reorders right') : mode.Possible left right (ask left' right') := by
  rcases asks left' right' with forward | backward
  · exact ⟨left', right', leftReorders, rightReorders, Or.inl forward.symm⟩
  · exact ⟨left', right', leftReorders, rightReorders, Or.inr backward.symm⟩

theorem possible_self (left right : Value) :
    mode.Possible left right (mode.answer? left right) :=
  ⟨left, right, .refl, .refl, Or.inl rfl⟩

/-! ### Leaves -/

theorem not_contested_of_apart {left right : Value} (apart : left.Apart right) :
    ¬mode.Contested left right := by
  intro contested
  cases contested with
  | vector | object | entry => exact apart rfl rfl

private theorem settled_of_apart {left right : Value} (apart : left.Apart right) :
    mode.Settled left right := by
  refine ⟨fun _ answer possible => ?_, fun contested => absurd contested (not_contested_of_apart apart)⟩
  obtain ⟨left', right', leftReorders, rightReorders, given⟩ := possible
  have apart' : left'.Apart right' := by
    intro collection
    rw [leftReorders.kind] at collection ⊢
    rw [rightReorders.kind]
    exact apart collection
  rw [answer?_swap_of_apart apart', or_self] at given
  rw [← given]
  cases leftLeaf : left.kind.isCollection with
  | true =>
      rw [answer?_mixed leftLeaf (apart leftLeaf)]
      refine answer?_mixed (by rw [leftReorders.kind, leftLeaf]) ?_
      rw [leftReorders.kind, rightReorders.kind]
      exact apart leftLeaf
  | false =>
      rw [leftReorders.leaf leftLeaf]
      cases rightLeaf : right.kind.isCollection with
      | true =>
          rw [← answer?_swap_of_apart apart, answer?_mixed rightLeaf (apart.swap rightLeaf)]
          rw [leftReorders.leaf leftLeaf] at apart'
          rw [← answer?_swap_of_apart apart']
          refine answer?_mixed (by rw [rightReorders.kind, rightLeaf]) ?_
          rw [rightReorders.kind]
          exact apart.swap rightLeaf
      | false => rw [rightReorders.leaf rightLeaf]

/-! ### Vectors -/

private theorem decisive_items {ask : Value → Value → Option Bool} (asks : mode.Asks ask)
    {items items' others others' : List Value}
    (itemsReorder : List.Forall₂ Value.Reorders items items')
    (othersReorder : List.Forall₂ Value.Reorders others others')
    (lengths : items.length = others.length)
    (parts : ∀ item ∈ items, ∀ other ∈ others, mode.Settled item other) :
    (¬mode.ContestedItems items others →
        decisive (List.zipWith ask items' others') =
          decisive (List.zipWith mode.answer? items others)) ∧
      (mode.ContestedItems items others →
        decisive (List.zipWith ask items' others') ≠ some true) := by
  induction itemsReorder generalizing others others' with
  | nil =>
      cases othersReorder with
      | nil => exact ⟨fun _ => rfl, fun contested => by cases contested⟩
      | cons => cases lengths
  | @cons item item' rest rest' itemReorders _ ih =>
      cases othersReorder with
      | nil => cases lengths
      | @cons other other' restOthers restOthers' otherReorders restReorder =>
          have settled := parts item List.mem_cons_self other List.mem_cons_self
          have possible := asks.possible itemReorders otherReorders
          rw [List.zipWith_cons_cons, List.zipWith_cons_cons]
          -- A contested pair of first items is never found equal, so it hides all that is behind it.
          by_cases contested : mode.Contested item other
          · have notTrue := settled.doubtful contested _ possible
            rw [decisive_cons_other notTrue]
            exact ⟨fun steady => absurd (.head rest restOthers contested) steady, fun _ => notTrue⟩
          · have kept := settled.steady contested _ possible
            rw [kept]
            by_cases same : mode.answer? item other = some true
            · have equal := answer?_eq_some_iff.mp same
              obtain ⟨steady, doubtful⟩ := ih restReorder (Nat.succ_inj.mp lengths)
                fun part member otherPart otherMember =>
                  parts part (List.mem_cons_of_mem item member) otherPart
                    (List.mem_cons_of_mem other otherMember)
              rw [same, decisive_cons_true, decisive_cons_true]
              refine ⟨fun uncontested => steady fun later => uncontested (.tail equal later), ?_⟩
              intro inside
              cases inside with
              | head _ _ inside => exact absurd inside contested
              | tail _ later => exact doubtful later
            · rw [decisive_cons_other same, decisive_cons_other same]
              exact ⟨fun _ => rfl, fun _ => same⟩

private theorem settled_vector_lengths {items others : List Value}
    (lengths : items.length ≠ others.length) : mode.Settled (.vector items) (.vector others) := by
  constructor
  · intro _ answer possible
    obtain ⟨_, _, leftReorders, rightReorders, given⟩ := possible
    obtain ⟨items', rfl, itemsReorder⟩ := leftReorders.vector
    obtain ⟨others', rfl, othersReorder⟩ := rightReorders.vector
    have lengths' : items'.length ≠ others'.length := by
      rw [← itemsReorder.length_eq, ← othersReorder.length_eq]
      exact lengths
    rw [answer?_vector_lengths lengths', answer?_vector_lengths lengths'.symm, or_self] at given
    rw [← given, answer?_vector_lengths lengths]
  · intro contested
    cases contested with
    | vector same => exact absurd same lengths

private theorem settled_vector {items others : List Value} (lengths : items.length = others.length)
    (parts : ∀ item ∈ items, ∀ other ∈ others, mode.Settled item other) :
    mode.Settled (.vector items) (.vector others) := by
  have decided (answer : Option Bool)
      (possible : mode.Possible (.vector items) (.vector others) answer) :
      (¬mode.ContestedItems items others →
          answer = mode.answer? (.vector items) (.vector others)) ∧
        (mode.ContestedItems items others → answer ≠ some true) := by
    obtain ⟨_, _, leftReorders, rightReorders, given⟩ := possible
    obtain ⟨items', rfl, itemsReorder⟩ := leftReorders.vector
    obtain ⟨others', rfl, othersReorder⟩ := rightReorders.vector
    have lengths' : items'.length = others'.length := by
      rw [← itemsReorder.length_eq, lengths, othersReorder.length_eq]
    rw [answer?_vector lengths]
    rcases given with forward | backward
    · rw [← forward, answer?_vector lengths']
      exact decisive_items (fun _ _ => Or.inl rfl) itemsReorder othersReorder lengths parts
    · rw [← backward, answer?_vector lengths'.symm, List.zipWith_comm]
      exact decisive_items (fun _ _ => Or.inr rfl) itemsReorder othersReorder lengths parts
  constructor
  · intro uncontested answer possible
    exact (decided answer possible).1 fun inside => uncontested (.vector lengths inside)
  · intro contested answer possible
    cases contested with
    | vector _ inside => exact (decided answer possible).2 inside

/-! ### Objects -/

/-- Reordered objects have the answers of the objects that they come from, where the values under
every shared key have kept their answer. -/
private theorem entryAnswer_reorders_iff {ask : Value → Value → Option Bool}
    {entries entries' others others' : Entries} (entriesReorder : Entries.Reorders entries entries')
    (othersReorder : Entries.Reorders others others')
    (kept : ∀ key value other value' other', (key, value) ∈ entries → (key, other) ∈ others →
      value.Reorders value' → other.Reorders other' →
        ask value' other' = mode.answer? value other) {answer : Option Bool} :
    EntryAnswer ask entries' others' answer ↔ EntryAnswer mode.answer? entries others answer := by
  have sameKeys := entriesReorder.keys_subset_iff othersReorder
  constructor
  · intro given
    cases given with
    | missing lacking => exact .missing fun subset => lacking (sameKeys.mpr subset)
    | @shared key value' other' _ present' otherPresent' asked =>
        obtain ⟨value, present, reorders⟩ := entriesReorder.back key value' present'
        obtain ⟨other, otherPresent, otherReorders⟩ := othersReorder.back key other' otherPresent'
        rw [kept key value other value' other' present otherPresent reorders otherReorders] at asked
        exact .shared present otherPresent asked
  · intro given
    cases given with
    | missing lacking => exact .missing fun subset => lacking (sameKeys.mp subset)
    | @shared key value other _ present otherPresent asked =>
        obtain ⟨value', present', reorders⟩ := entriesReorder.forth key value present
        obtain ⟨other', otherPresent', otherReorders⟩ := othersReorder.forth key other otherPresent
        rw [← kept key value other value' other' present otherPresent reorders otherReorders] at asked
        exact .shared present' otherPresent' asked

section Objects

variable {ask : Value → Value → Option Bool} {entries entries' others others' : Entries}
  {answers' : List (Option Bool)}

private theorem decisive_entries (asks : mode.Asks ask) (othersDistinct : Entries.Distinct others)
    (entriesReorder : Entries.Reorders entries entries')
    (othersReorder : Entries.Reorders others others') (lengths : entries.length = others.length)
    (parts : ∀ key value other, (key, value) ∈ entries → (key, other) ∈ others →
      mode.Settled value other)
    (given : ∀ answer, answer ∈ answers' ↔ EntryAnswer ask entries' others' answer)
    (uncontested : ¬mode.Contested (.object entries) (.object others)) :
    decisive answers' = decisive (mode.answers entries others) := by
  refine decisive_congr ?_ fun both => uncontested (.object lengths both.1 both.2)
  intro answer
  rw [given, mem_answers_iff othersDistinct]
  refine entryAnswer_reorders_iff entriesReorder othersReorder ?_
  intro key value other value' other' present otherPresent reorders otherReorders
  exact (parts key value other present otherPresent).steady
    (fun inside => uncontested (.entry lengths present otherPresent inside)) _
    (asks.possible reorders otherReorders)

private theorem not_contested_of_entries (asks : mode.Asks ask)
    (othersDistinct : Entries.Distinct others)
    (entriesReorder : Entries.Reorders entries entries')
    (othersReorder : Entries.Reorders others others')
    (parts : ∀ key value other, (key, value) ∈ entries → (key, other) ∈ others →
      mode.Settled value other)
    (given : ∀ answer, answer ∈ answers' ↔ EntryAnswer ask entries' others' answer)
    (equal : decisive answers' = some true) :
    ¬mode.Contested (.object entries) (.object others) := by
  rw [decisive_eq_true_iff] at equal
  -- Under a shared key the answer is `true` for some order of keys, so it is no other one.
  have equalUnder {key : String} {value other : Value} (present : (key, value) ∈ entries)
      (otherPresent : (key, other) ∈ others) :
      ¬mode.Contested value other ∧ mode.answer? value other = some true := by
    obtain ⟨value', present', reorders⟩ := entriesReorder.forth key value present
    obtain ⟨other', otherPresent', otherReorders⟩ := othersReorder.forth key other otherPresent
    have settled := parts key value other present otherPresent
    have possible := asks.possible reorders otherReorders
    have isTrue := equal _ ((given _).mpr (.shared present' otherPresent' rfl))
    have uncontested : ¬mode.Contested value other :=
      fun inside => settled.doubtful inside _ possible isTrue
    exact ⟨uncontested, by rw [← settled.steady uncontested _ possible, isTrue]⟩
  intro contested
  cases contested with
  | object _ unequal _ =>
      cases (mem_answers_iff othersDistinct).mp unequal with
      | missing lacking =>
          have sameKeys := entriesReorder.keys_subset_iff othersReorder
          have refused := equal _ ((given _).mpr (.missing fun subset => lacking (sameKeys.mp subset)))
          cases refused
      | shared present otherPresent asked =>
          rw [(equalUnder present otherPresent).2] at asked
          cases asked
  | entry _ present otherPresent inside => exact (equalUnder present otherPresent).1 inside

end Objects

private theorem settled_object_lengths {entries others : Entries}
    (lengths : entries.length ≠ others.length) :
    mode.Settled (.object entries) (.object others) := by
  constructor
  · intro _ answer possible
    obtain ⟨_, _, leftReorders, rightReorders, given⟩ := possible
    obtain ⟨entries', rfl, entriesReorder⟩ := leftReorders.object
    obtain ⟨others', rfl, othersReorder⟩ := rightReorders.object
    have lengths' : entries'.length ≠ others'.length := by
      rw [entriesReorder.length_eq, othersReorder.length_eq]
      exact lengths
    rw [answer?_object_lengths lengths', answer?_object_lengths lengths'.symm, or_self] at given
    rw [← given, answer?_object_lengths lengths]
  · intro contested
    cases contested with
    | object same => exact absurd same lengths
    | entry same => exact absurd same lengths

private theorem settled_object {entries others : Entries} (distinct : Entries.Distinct entries)
    (othersDistinct : Entries.Distinct others) (lengths : entries.length = others.length)
    (parts : ∀ key value other, (key, value) ∈ entries → (key, other) ∈ others →
      mode.Settled value other) :
    mode.Settled (.object entries) (.object others) := by
  have decided (answer : Option Bool)
      (possible : mode.Possible (.object entries) (.object others) answer) :
      (¬mode.Contested (.object entries) (.object others) →
          answer = mode.answer? (.object entries) (.object others)) ∧
        (answer = some true → ¬mode.Contested (.object entries) (.object others)) := by
    obtain ⟨_, _, leftReorders, rightReorders, given⟩ := possible
    obtain ⟨entries', rfl, entriesReorder⟩ := leftReorders.object
    obtain ⟨others', rfl, othersReorder⟩ := rightReorders.object
    have distinct' := entriesReorder.distinct distinct
    have othersDistinct' := othersReorder.distinct othersDistinct
    have lengths' : entries'.length = others'.length := by
      rw [entriesReorder.length_eq, lengths, othersReorder.length_eq]
    rw [answer?_object lengths]
    rcases given with forward | backward
    · rw [← forward, answer?_object lengths']
      have asks : mode.Asks mode.answer? := fun _ _ => Or.inl rfl
      have found (answer : Option Bool) : answer ∈ mode.answers entries' others' ↔ _ :=
        mem_answers_iff othersDistinct'
      exact ⟨decisive_entries asks othersDistinct entriesReorder othersReorder lengths parts found,
        not_contested_of_entries asks othersDistinct entriesReorder othersReorder parts found⟩
    · rw [← backward, answer?_object lengths'.symm]
      have asks : mode.Asks fun value other => mode.answer? other value := fun _ _ => Or.inr rfl
      have found (answer : Option Bool) : answer ∈ mode.answers others' entries' ↔ _ :=
        mem_answers_swap_iff distinct' othersDistinct' lengths'
      exact ⟨decisive_entries asks othersDistinct entriesReorder othersReorder lengths parts found,
        not_contested_of_entries asks othersDistinct entriesReorder othersReorder parts found⟩
  exact ⟨fun uncontested answer possible => (decided answer possible).1 uncontested,
    fun contested answer possible isTrue => (decided answer possible).2 isTrue contested⟩

/-! ### Values -/

theorem settled {left right : Value} (leftKeys : left.DistinctKeys)
    (rightKeys : right.DistinctKeys) : mode.Settled left right := by
  induction left using Value.inductionOnParts generalizing right with
  | leaf left leaf => exact settled_of_apart (Value.Apart.of_leaf leaf right)
  | vector items parts =>
      by_cases kind : right.kind = .vector
      · obtain ⟨others, rfl⟩ := eq_vector_of_kind kind
        by_cases lengths : items.length = others.length
        · refine settled_vector lengths ?_
          intro item member other otherMember
          exact parts item member (leftKeys.item member) (rightKeys.item otherMember)
        · exact settled_vector_lengths lengths
      · exact settled_of_apart fun _ => Ne.symm kind
  | object entries parts =>
      by_cases kind : right.kind = .object
      · obtain ⟨others, rfl⟩ := eq_object_of_kind kind
        by_cases lengths : entries.length = others.length
        · refine settled_object leftKeys.entries rightKeys.entries lengths ?_
          intro key value other member otherMember
          exact parts key value member (leftKeys.entry member) (rightKeys.entry otherMember)
        · exact settled_object_lengths lengths
      · exact settled_of_apart fun _ => Ne.symm kind

end HostValue.Mode
