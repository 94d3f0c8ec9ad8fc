import HostValue.Proofs.Number.Numeral
import HostValue.Proofs.Number.Single
import HostValue.Proofs.Outcome
import HostValue.Proofs.Value.Decoded
import Mathlib.Data.List.Forall2

/-!
# What data means

A tree of the data model means one value, which its nodes make up from what their contents mean. A
tree that means none fails with the first node, in document order, that no value answers or that
stands for a key and is no text.
-/

namespace HostValue

namespace DataNode

/-! ### Meanings -/

inductive KeyText : DataNode → String → Prop where
  | char (character : Char) : KeyText (.char character) (String.singleton character)
  | text (content : String) : KeyText (.text content) content
  | bytes (content : String) : KeyText (.bytes content) content

/-- The value that a tree of the data model means. -/
inductive Means : DataNode → Value → Prop where
  | none : Means .none .null
  | unit : Means .unit .null
  | some {content : DataNode} {value : Value} (meaning : Means content value) :
      Means (.some content) value
  | tagged (tag : String) {content : DataNode} {value : Value} (meaning : Means content value) :
      Means (.tagged tag content) value
  | bool (flag : Bool) : Means (.bool flag) (.bool flag)
  | signed (number : Int64) : Means (.signed number) (.integer number)
  | unsigned {number : UInt64} {integer : Int64} (same : integer.toInt = number.toNat) :
      Means (.unsigned number) (.integer integer)
  /-- Numbers above those of integers become floats. -/
  | unsignedAbove {number : UInt64} {x : Double} (above : Int64.maxValue.toInt < number.toNat)
      (nearest : x.IsNearest number.toNat) : Means (.unsigned number) (.float x)
  | single {bits : UInt32} {x : Double} (holds : x.Holds bits) : Means (.single bits) (.float x)
  | double (number : Double) : Means (.double number) (.float number)
  | char (character : Char) : Means (.char character) (.string (String.singleton character))
  | text (content : String) : Means (.text content) (.string content)
  | sequence {items : List DataNode} {values : List Value}
      (meanings : List.Forall₂ Means items values) : Means (.sequence items) (.vector values)
  | map {nodes : List (DataNode × DataNode)} {pairs : List (String × Value)} {entries : Entries}
      (keys : List.Forall₂ KeyText (nodes.map Prod.fst) (pairs.map Prod.fst))
      (meanings : List.Forall₂ Means (nodes.map Prod.snd) (pairs.map Prod.snd))
      (gathers : Entries.Gathers pairs entries) : Means (.map nodes) (.object entries)

theorem toText_eq_ok_iff {node : DataNode} {text : String} :
    node.toText = .ok text ↔ node.KeyText text := by
  constructor
  · intro made
    cases node with
    | char | text | bytes =>
        cases made
        constructor
    | _ => cases made
  · intro keyText
    cases keyText with
    | char | text | bytes => rfl

private theorem toValue_unsigned_eq_ok_iff {number : UInt64} {value : Value} :
    (unsigned number).toValue = .ok value ↔ (unsigned number).Means value := by
  have bound : Int64.maxValue.toInt = 9223372036854775807 := rfl
  have power : Nat.pow 2 63 = 9223372036854775808 := rfl
  have small : (number.toNat : Int).natAbs < Nat.pow 2 64 := by
    rw [Int.natAbs_natCast]
    exact number.toNat_lt
  rw [toValue, Except.ok.injEq]
  split
  · next inRange =>
    have same : number.toInt64.toInt = number.toNat := toInt_toInt64 (by omega)
    constructor
    · rintro rfl
      exact .unsigned same
    · intro means
      cases means with
      | unsigned sameEither => rw [Int64.toInt_inj.mp (same.trans sameEither.symm)]
      | unsignedAbove above => omega
  · next above =>
    have nonzero : (number.toNat : Int) ≠ 0 := by omega
    constructor
    · rintro rfl
      exact .unsignedAbove (by omega) (Double.ofInt_isNearest small)
    · intro means
      cases means with
      | @unsigned _ integer same =>
          have most : integer.toInt ≤ Int64.maxValue.toInt :=
            Int64.le_iff_toInt_le.mp integer.le_maxValue
          omega
      | unsignedAbove _ nearest => rw [(Double.isNearest_iff_eq small nonzero).mp nearest]

end DataNode

open DataNode

mutual

theorem DataNode.toValue_eq_ok_iff (node : DataNode) {value : Value} :
    node.toValue = .ok value ↔ node.Means value := by
  cases node with
  | none | unit | bool | signed | double | char | text =>
      constructor
      · intro decoded
        cases decoded
        constructor
      · intro means
        cases means
        rfl
  | unsigned => exact toValue_unsigned_eq_ok_iff
  | single bits =>
      constructor
      · intro decoded
        cases decoded
        exact .single (Double.ofSingleBits_holds bits)
      · intro means
        cases means with
        | single holds =>
            rw [Double.holds_iff.mp holds]
            rfl
  | some content =>
      constructor
      · intro decoded
        exact .some ((DataNode.toValue_eq_ok_iff content).mp decoded)
      · intro means
        cases means with
        | some meaning => exact (DataNode.toValue_eq_ok_iff content).mpr meaning
  | tagged tag content =>
      constructor
      · intro decoded
        exact .tagged tag ((DataNode.toValue_eq_ok_iff content).mp decoded)
      · intro means
        cases means with
        | tagged _ meaning => exact (DataNode.toValue_eq_ok_iff content).mpr meaning
  | newtype | wideSigned | wideUnsigned | bytes | malformedBytes | bareTag =>
      exact iff_of_false nofun nofun
  | sequence items =>
      rw [toValue_sequence_eq_ok_iff]
      constructor
      · rintro ⟨values, decoded, rfl⟩
        exact .sequence ((nodesToValues_eq_ok_iff items).mp decoded)
      · intro means
        cases means with
        | sequence meanings => exact ⟨_, (nodesToValues_eq_ok_iff items).mpr meanings, rfl⟩
  | map nodes =>
      rw [toValue_map_eq_ok_iff]
      constructor
      · rintro ⟨pairs, decoded, rfl⟩
        obtain ⟨keys, meanings⟩ := (nodesToPairs_eq_ok_iff nodes).mp decoded
        exact .map keys meanings (Entries.gathers_ofPairs pairs)
      · intro means
        cases means with
        | map keys meanings gathers =>
            exact ⟨_, (nodesToPairs_eq_ok_iff nodes).mpr ⟨keys, meanings⟩,
              congrArg Value.object (Entries.gathers_iff.mp gathers)⟩
termination_by structural node

theorem nodesToValues_eq_ok_iff (nodes : List DataNode) {values : List Value} :
    nodesToValues nodes = .ok values ↔ List.Forall₂ Means nodes values := by
  cases nodes with
  | nil =>
      rw [nodesToValues, Except.ok.injEq, List.forall₂_nil_left_iff, eq_comm]
  | cons node rest =>
      rw [nodesToValues_cons_eq_ok_iff]
      constructor
      · rintro ⟨first, others, firstDecoded, othersDecoded, rfl⟩
        exact .cons ((DataNode.toValue_eq_ok_iff node).mp firstDecoded)
          ((nodesToValues_eq_ok_iff rest).mp othersDecoded)
      · intro meanings
        cases meanings with
        | cons meaning others =>
            exact ⟨_, _, (DataNode.toValue_eq_ok_iff node).mpr meaning,
              (nodesToValues_eq_ok_iff rest).mpr others, rfl⟩
termination_by structural nodes

theorem nodesToPairs_eq_ok_iff (nodes : List (DataNode × DataNode))
    {pairs : List (String × Value)} :
    nodesToPairs nodes = .ok pairs ↔
      List.Forall₂ KeyText (nodes.map Prod.fst) (pairs.map Prod.fst) ∧
        List.Forall₂ Means (nodes.map Prod.snd) (pairs.map Prod.snd) := by
  cases nodes with
  | nil =>
      rw [nodesToPairs, Except.ok.injEq, List.map_nil, List.map_nil, List.forall₂_nil_left_iff,
        List.forall₂_nil_left_iff, List.map_eq_nil_iff, List.map_eq_nil_iff, and_self, eq_comm]
  | cons entry rest =>
      obtain ⟨keyNode, node⟩ := entry
      rw [nodesToPairs_cons_eq_ok_iff]
      constructor
      · rintro ⟨key, first, others, keyMade, firstDecoded, othersDecoded, rfl⟩
        obtain ⟨keys, meanings⟩ := (nodesToPairs_eq_ok_iff rest).mp othersDecoded
        exact ⟨.cons (toText_eq_ok_iff.mp keyMade) keys,
          .cons ((DataNode.toValue_eq_ok_iff node).mp firstDecoded) meanings⟩
      · rintro ⟨keys, meanings⟩
        cases pairs with
        | nil => cases keys
        | cons pair others =>
            obtain ⟨keyText, otherKeys⟩ := List.forall₂_cons.mp keys
            obtain ⟨meaning, otherMeanings⟩ := List.forall₂_cons.mp meanings
            exact ⟨pair.1, pair.2, others, toText_eq_ok_iff.mpr keyText,
              (DataNode.toValue_eq_ok_iff node).mpr meaning,
              (nodesToPairs_eq_ok_iff rest).mpr ⟨otherKeys, otherMeanings⟩, rfl⟩
termination_by structural nodes

end

end HostValue
