import HostValue.Proofs.Comparison.Transitivity

/-!
# Sameness and equality

Sameness of values never fails and knows no mode, and takes hosted values for the same when they are
one handle or the left one says so. It goes with the equality of the modes, which can fail: what is
the same is equal in either mode, unless a comparison fails, and what is equal in the strict mode is
the same, unless a number is a float or a hosted value stands for a string.
-/

namespace HostValue

/-! ### Sameness of leaves -/

inductive SameLeaf : Value → Value → Prop where
  | self {value : Value} (notFloat : value.kind ≠ .float) : SameLeaf value value
  | float {a b : Double} (same : a.same b = true) : SameLeaf (.float a) (.float b)
  | told {i j : Nat} {a b : Payload} (answered : a.compareWith? (.hosted j b) = some (.ok .eq)) :
      SameLeaf (.hosted i a) (.hosted j b)

private theorem same_hosted (i j : Nat) (a b : Payload) :
    (Value.hosted i a).same (.hosted j b) =
      ((i == j && a == b) ||
        match a.compareWith? (.hosted j b) with
        | some (.ok ordering) => ordering == .eq
        | _ => false) :=
  rfl

theorem same_hosted_iff {i j : Nat} {a b : Payload} :
    (Value.hosted i a).same (.hosted j b) = true ↔
      (i = j ∧ a = b) ∨ a.compareWith? (.hosted j b) = some (.ok .eq) := by
  rw [same_hosted, Bool.or_eq_true, Bool.and_eq_true, beq_iff_eq, beq_iff_eq]
  refine or_congr_right ?_
  cases a.compareWith? (.hosted j b) with
  | none => simp
  | some outcome => cases outcome <;> simp

private theorem SameLeaf.of_same {left right : Value} (leaf : left.kind.isCollection = false)
    (same : left.same right = true) : SameLeaf left right := by
  cases left with
  | vector | object => cases leaf
  | null =>
      cases right with
      | null => exact .self nofun
      | _ => cases same
  | bool a =>
      cases right with
      | bool b =>
          have equal : a = b := eq_of_beq same
          rw [equal]
          exact .self nofun
      | _ => cases same
  | integer a =>
      cases right with
      | integer b =>
          have equal : a = b := eq_of_beq same
          rw [equal]
          exact .self nofun
      | _ => cases same
  | string a =>
      cases right with
      | string b =>
          have equal : a = b := eq_of_beq same
          rw [equal]
          exact .self nofun
      | _ => cases same
  | float a =>
      cases right with
      | float b => exact .float same
      | _ => cases same
  | hosted i a =>
      cases right with
      | hosted j b =>
          rcases same_hosted_iff.mp same with ⟨rfl, rfl⟩ | answered
          · exact .self nofun
          · exact .told answered
      | _ => cases same

private theorem SameLeaf.same {left right : Value} (leaf : left.kind.isCollection = false)
    (alike : SameLeaf left right) : left.same right = true := by
  cases alike with
  | self notFloat =>
      cases left with
      | vector | object => cases leaf
      | float => exact absurd rfl notFloat
      | null => rfl
      | bool | integer | string => exact beq_self_eq_true _
      | hosted => exact same_hosted_iff.mpr (Or.inl ⟨rfl, rfl⟩)
  | float same => exact same
  | told answered => exact same_hosted_iff.mpr (Or.inr answered)

/-! ### Sameness of vectors and objects -/

theorem sameItems_cons (item other : Value) (rest restOthers : List Value) :
    sameItems (item :: rest) (other :: restOthers) = (item.same other && sameItems rest restOthers) :=
  rfl

private theorem sameItems_iff {items others : List Value} :
    sameItems items others = true ↔ ∀ pair ∈ items.zip others, pair.1.same pair.2 = true := by
  induction items generalizing others with
  | nil => exact iff_of_true rfl nofun
  | cons item rest ih =>
      cases others with
      | nil => exact iff_of_true rfl nofun
      | cons other restOthers =>
          rw [sameItems_cons, Bool.and_eq_true, ih, List.zip_cons_cons, List.forall_mem_cons]

private theorem sameEntries_cons (key : String) (value : Value) (rest others : Entries) :
    sameEntries ((key, value) :: rest) others =
      ((match Entries.get? others key with
        | some other => value.same other
        | none => false) && sameEntries rest others) :=
  rfl

private theorem sameEntries_iff {entries others : Entries} :
    sameEntries entries others = true ↔
      ∀ key value, (key, value) ∈ entries →
        ∃ other, Entries.get? others key = some other ∧ value.same other = true := by
  induction entries with
  | nil => exact iff_of_true rfl nofun
  | cons entry rest ih =>
      obtain ⟨key, value⟩ := entry
      rw [sameEntries_cons, Bool.and_eq_true, ih]
      constructor
      · rintro ⟨head, tail⟩ name part present
        rcases List.mem_cons.mp present with atHead | later
        · cases atHead
          split at head
          · next other found => exact ⟨other, found, head⟩
          · cases head
        · exact tail name part later
      · intro all
        obtain ⟨other, found, same⟩ := all key value List.mem_cons_self
        refine ⟨?_, fun name part later => all name part (List.mem_cons_of_mem _ later)⟩
        simp only [found, same]

theorem same_vector (items others : List Value) :
    (Value.vector items).same (.vector others) =
      (items.length == others.length && sameItems items others) :=
  rfl

private theorem same_object (entries others : Entries) :
    (Value.object entries).same (.object others) =
      (entries.length == others.length && sameEntries entries others) :=
  rfl

theorem same_vector_iff {items others : List Value} :
    (Value.vector items).same (.vector others) = true ↔
      items.length = others.length ∧
        ∀ pair ∈ items.zip others, pair.1.same pair.2 = true := by
  rw [same_vector, Bool.and_eq_true, beq_iff_eq, sameItems_iff]

theorem same_object_iff {entries others : Entries} :
    (Value.object entries).same (.object others) = true ↔
      entries.length = others.length ∧
        ∀ key value, (key, value) ∈ entries →
          ∃ other, Entries.get? others key = some other ∧ value.same other = true := by
  rw [same_object, Bool.and_eq_true, beq_iff_eq, sameEntries_iff]

namespace Mode

variable {mode : Mode}

private theorem equalItems_eq_ok_true_iff {items others : List Value} :
    mode.equalItems items others = .ok true ↔
      ∀ pair ∈ items.zip others, mode.equal pair.1 pair.2 = .ok true := by
  induction items generalizing others with
  | nil => exact iff_of_true rfl nofun
  | cons item rest ih =>
      cases others with
      | nil => exact iff_of_true rfl nofun
      | cons other restOthers =>
          rw [equalItems_cons_eq_ok_iff, ih, List.zip_cons_cons, List.forall_mem_cons]
          simp

theorem equal_vector_iff {items others : List Value} :
    mode.equal (.vector items) (.vector others) = .ok true ↔
      items.length = others.length ∧
        ∀ pair ∈ items.zip others, mode.equal pair.1 pair.2 = .ok true := by
  rw [equal_vector, ite_ok_false_eq_ok_true_iff, equalItems_eq_ok_true_iff]

/-! ### Equality of what is the same -/

private theorem LeafOrder.of_same {left right : Value} (leaf : left.kind.isCollection = false)
    (sound : ¬left.ComparerFails) (same : left.same right = true) :
    mode.LeafOrder left right .eq := by
  cases SameLeaf.of_same leaf same with
  | self notFloat =>
      refine .self leaf (fun x float => absurd ?_ notFloat) sound
      rw [float]
      rfl
  | float alike => exact .scalars rfl rfl (.float (Double.order?_of_same alike))
  | told answered =>
      refine .themselves ?_
      rw [compareThemselves_eq, Value.ownOrder, answered]

private theorem equal_of_same {left right : Value}
    (sound : left.Everywhere fun part => ¬part.ComparerFails) (same : left.same right = true) :
    mode.equal left right = .ok true := by
  induction left using Value.inductionOnParts generalizing right with
  | leaf left leaf =>
      rw [equal_eq_ok_iff_of_apart (Value.Apart.of_leaf leaf right)]
      exact (LeafOrder.of_same leaf sound.whole same).equality
  | vector items parts =>
      cases right with
      | vector others =>
          obtain ⟨lengths, matched⟩ := same_vector_iff.mp same
          refine equal_vector_iff.mpr ⟨lengths, ?_⟩
          intro pair member
          have inside := (List.of_mem_zip member).1
          exact parts pair.1 inside (sound.item inside) (matched pair member)
      | _ => cases same
  | object entries parts =>
      cases right with
      | object others =>
          obtain ⟨lengths, matched⟩ := same_object_iff.mp same
          refine equal_object_iff.mpr ⟨lengths, ?_⟩
          intro key value present
          obtain ⟨other, found, alike⟩ := matched key value present
          exact ⟨other, found, parts key value present (sound.entry present) alike⟩
      | _ => cases same

end Mode

/-! ### Sameness of what is equal -/

/-- The comparison of a type takes plain strings. -/
def Payload.AcceptsStrings (payload : Payload) : Prop :=
  ∃ text ordering, payload.compareWith? (.string text) = some (.ok ordering)

def Value.AcceptsStrings : Value → Prop
  | .hosted _ payload => payload.AcceptsStrings
  | _ => False

instance : DecidablePred Value.AcceptsStrings
  | .hosted _ (.text _) => isTrue ⟨"", _, rfl⟩
  | .hosted _ (.version _) | .hosted _ (.set _) | .hosted _ (.point ..) | .hosted _ (.bare _)
  | .hosted _ (.other _) | .hosted _ (.tag _) | .hosted _ (.box _) | .hosted _ .broken =>
    isFalse fun ⟨_, _, accepted⟩ => nomatch accepted
  | .null | .bool _ | .integer _ | .float _ | .string _ | .vector _ | .object _ => isFalse id

private theorem Value.acceptsStrings_of_rank? {value : Value} (hosted : value.kind = .hosted)
    {content : String} (ranked : value.rank? = some (.text content)) : value.AcceptsStrings := by
  cases value with
  | hosted identity payload =>
      cases payload with
      | text => exact ⟨"", _, rfl⟩
      | _ => cases ranked
  | _ => cases hosted

private theorem Rank.text_iff_of_order? {own other : Rank} {ordering : Ordering}
    (ordered : own.order? other = some ordering) :
    (∃ text, own = .text text) ↔ ∃ text, other = .text text := by
  cases own with
  | text s =>
      cases other with
      | text t => exact iff_of_true ⟨s, rfl⟩ ⟨t, rfl⟩
      | _ => cases ordered
  | version | set | point =>
      cases other with
      | text t => cases ordered
      | _ => exact iff_of_false nofun nofun

private theorem SameLeaf.of_ranks {left right : Value} {own other : Rank}
    (leftHosted : left.kind = .hosted)
    (rightHosted : right.kind = .hosted) (leftRank : left.rank? = some own)
    (rightRank : right.rank? = some other) (ordered : own.order? other = some .eq) :
    SameLeaf left right := by
  have ranked := Value.rankOrder?_eq_some_iff.mpr ⟨own, other, leftRank, rightRank, ordered⟩
  have told := Value.ownOrder_sound (Value.not_comparerFails_of_rank? leftRank) right
  rw [if_pos leftHosted, ranked] at told
  cases left with
  | hosted i a =>
      cases right with
      | hosted j b => exact .told (Value.ownOrder_eq_some_iff.mp told)
      | _ => cases rightHosted
  | _ => cases leftHosted

private theorem SameLeaf.of_plainOrder {left right : Value} (leftRefuses : ¬left.AcceptsStrings)
    (rightRefuses : ¬right.AcceptsStrings) (ordered : PlainOrder left right .eq) :
    SameLeaf left right := by
  generalize orderingIs : Ordering.eq = ordering at ordered
  cases ordered with
  | null => exact .self nofun
  | bool a b =>
      rw [Std.compare_eq_iff_eq.mp orderingIs.symm]
      exact .self nofun
  | integer a b =>
      rw [Std.compare_eq_iff_eq.mp orderingIs.symm]
      exact .self nofun
  | handle => exact .self nofun
  | ranks leftRank rightRank ordered =>
      rw [← orderingIs] at ordered
      have texts := Rank.text_iff_of_order? ordered
      -- A string has a rank in common with a hosted value only if that one takes strings.
      by_cases leftHosted : left.kind = .hosted
      · by_cases rightHosted : right.kind = .hosted
        · exact .of_ranks leftHosted rightHosted leftRank rightRank ordered
        · obtain ⟨text, _, rankIs⟩ := Value.eq_string_of_rank? rightRank rightHosted
          obtain ⟨content, rfl⟩ := texts.mpr ⟨text, rankIs⟩
          exact absurd (Value.acceptsStrings_of_rank? leftHosted leftRank) leftRefuses
      · obtain ⟨text, rfl, rfl⟩ := Value.eq_string_of_rank? leftRank leftHosted
        obtain ⟨content, rfl⟩ := texts.mp ⟨text, rfl⟩
        by_cases rightHosted : right.kind = .hosted
        · exact absurd (Value.acceptsStrings_of_rank? rightHosted rightRank) rightRefuses
        · obtain ⟨other, rfl, rankIs⟩ := Value.eq_string_of_rank? rightRank rightHosted
          cases rankIs
          rw [Std.compare_eq_iff_eq.mp (Option.some.inj ordered)]
          exact .self nofun

namespace Mode

private theorem same_of_equal {left right : Value} (leftFree : left.FloatFree)
    (rightFree : right.FloatFree)
    (leftRefuses : left.Everywhere fun part => ¬part.AcceptsStrings)
    (rightRefuses : right.Everywhere fun part => ¬part.AcceptsStrings)
    (equal : strict.equal left right = .ok true) : left.same right = true := by
  induction left using Value.inductionOnParts generalizing right with
  | leaf left leaf =>
      have answer := (equal_eq_ok_iff_of_apart (Value.Apart.of_leaf leaf right)).mp equal
      have ordered := PlainOrder.of_leafOrder leftFree.whole rightFree.whole (.of_equal answer)
      exact SameLeaf.same leaf (.of_plainOrder leftRefuses.whole rightRefuses.whole ordered)
  | vector items parts =>
      by_cases kind : right.kind = .vector
      · obtain ⟨others, rfl⟩ := eq_vector_of_kind kind
        obtain ⟨lengths, matched⟩ := equal_vector_iff.mp equal
        refine same_vector_iff.mpr ⟨lengths, ?_⟩
        intro pair member
        obtain ⟨inItems, inOthers⟩ := List.of_mem_zip member
        exact parts pair.1 inItems (leftFree.item inItems) (rightFree.item inOthers)
          (leftRefuses.item inItems) (rightRefuses.item inOthers) (matched pair member)
      · exact absurd equal (equal_mixed rfl (Ne.symm kind) true)
  | object entries parts =>
      by_cases kind : right.kind = .object
      · obtain ⟨others, rfl⟩ := eq_object_of_kind kind
        obtain ⟨lengths, matched⟩ := equal_object_iff.mp equal
        refine same_object_iff.mpr ⟨lengths, ?_⟩
        intro key value present
        obtain ⟨other, found, alike⟩ := matched key value present
        have otherPresent := Entries.mem_of_get? found
        exact ⟨other, found, parts key value present (leftFree.entry present)
          (rightFree.entry otherPresent) (leftRefuses.entry present)
          (rightRefuses.entry otherPresent) alike⟩
      · exact absurd equal (equal_mixed rfl (Ne.symm kind) true)

/-- What is the same is equal in either mode, if no comparison in the left value fails, and what is
equal in the strict mode is the same, if there are neither floats nor hosted values that take
strings. -/
theorem same_agrees_with_equal :
    (∀ (mode : Mode) (left right : Value), (left.Everywhere fun part => ¬part.ComparerFails) →
        left.same right = true → mode.equal left right = .ok true) ∧
      ∀ left right : Value, left.FloatFree → right.FloatFree →
        (left.Everywhere fun part => ¬part.AcceptsStrings) →
        (right.Everywhere fun part => ¬part.AcceptsStrings) →
          strict.equal left right = .ok true → left.same right = true :=
  ⟨fun _ _ _ => equal_of_same, fun _ _ => same_of_equal⟩

/-- Points behind two handles, and a handle without a comparison, under keys in another order. -/
theorem same_agrees_with_equal_handles :
    humane.equal
        (.object [("k", .hosted 0 (.bare "x")),
          ("p", .vector [.hosted 1 (.point 1 2), .float (.zero true)])])
        (.object [("p", .vector [.hosted 2 (.point 1 2), .float (.zero false)]),
          ("k", .hosted 0 (.bare "x"))]) = .ok true ∧
      (Value.object [("k", .hosted 0 (.bare "x")), ("p", .hosted 1 (.point 1 2))]).same
        (.object [("p", .hosted 2 (.point 1 2)), ("k", .hosted 0 (.bare "x"))]) = true := by
  constructor
  · exact same_agrees_with_equal.1 humane _ _ (by decide) (by decide)
  · exact same_agrees_with_equal.2 _ _ (by decide) (by decide) (by decide) (by decide) (by decide)

end Mode

end HostValue
