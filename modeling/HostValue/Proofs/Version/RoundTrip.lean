import HostValue.DeepCopy
import HostValue.Proofs.Json.StringText
import HostValue.Proofs.Text.Run
import HostValue.Proofs.Version.Tolerant
import HostValue.Version.Encoding

/-!
# Versions through their texts

Every version that arises from a text is well formed, and stays so whatever is written into it and
however often it is copied. Such a version is found again, with its build identifiers, in its text
and in what is encoded for it.
-/

namespace HostValue.Version

open Text

/-! ### The text of a version -/

private theorem mem_render {version : Version} (wellFormed : version.WellFormed) {c : Char}
    (member : c ∈ version.render.toList) : IdentifierChar c ∨ c = '.' ∨ c = '+' := by
  have digit {number : UInt64} (inside : c ∈ Nat.toDigits 10 number.toNat) : IdentifierChar c :=
    identifierChar_digit (isDigit_of_mem_toDigits inside)
  rw [render_toList, numbered] at member
  simp only [List.mem_append, List.mem_cons, suffix] at member
  rcases member with inMajor | point | inMinor | point | inPatch | inPre | inBuild
  · exact Or.inl (digit inMajor)
  · exact Or.inr (Or.inl point)
  · exact Or.inl (digit inMinor)
  · exact Or.inr (Or.inl point)
  · exact Or.inl (digit inPatch)
  · rcases mem_marked inPre with hyphen | point | ⟨identifier, listed, inside⟩
    · exact Or.inl (Or.inr (Or.inr (Or.inr hyphen)))
    · exact Or.inr (Or.inl point)
    · obtain ⟨accepted, -⟩ := accepted_mapM_classify_iff.mpr ⟨wellFormed.pre, rfl⟩
      exact Or.inl ((accepted identifier listed).2 c inside)
  · rcases mem_marked inBuild with plus | point | ⟨identifier, listed, inside⟩
    · exact Or.inr (Or.inr plus)
    · exact Or.inr (Or.inl point)
    · obtain ⟨accepted, -⟩ := accepted_map_ofList_iff.mpr ⟨wellFormed.build, rfl⟩
      exact Or.inl ((accepted identifier listed).2 c inside)

private theorem identifierChar_range {c : Char} (identifier : IdentifierChar c) :
    0x2D ≤ c.toNat ∧ c.toNat ≤ 0x7A := by
  rcases identifier with digit | upper | lower | hyphen
  · have low : 0x30 ≤ c.toNat := digit.1
    have high : c.toNat ≤ 0x39 := digit.2
    omega
  · have low : 0x41 ≤ c.toNat := upper.1
    have high : c.toNat ≤ 0x5A := upper.2
    omega
  · have low : 0x61 ≤ c.toNat := lower.1
    have high : c.toNat ≤ 0x7A := lower.2
    omega
  · rw [hyphen]
    decide

theorem visible_render {version : Version} (wellFormed : version.WellFormed) :
    ∀ c ∈ version.render.toList, isBlank c = false := by
  intro c member
  rcases mem_render wellFormed member with identifier | point | plus
  · have range := identifierChar_range identifier
    exact isBlank_eq_false (by omega) (by omega)
  · rw [point]
    rfl
  · rw [plus]
    rfl

private theorem unmarked_render {version : Version} (wellFormed : version.WellFormed) :
    unmarked version.render = version.render.toList := by
  rw [unmarked, trim_eq_self (visible_render wellFormed)]
  split
  case h_1 rest textEq =>
    have digit : ('v' : Char).isDigit = true := by
      rw [render_toList, numbered] at textEq
      cases digits : Nat.toDigits 10 version.major.toNat with
      | nil => exact absurd digits Nat.toDigits_ne_nil
      | cons c others =>
          rw [digits, List.cons_append] at textEq
          rw [← (List.cons.inj textEq).1]
          apply isDigit_of_mem_toDigits (n := version.major.toNat)
          rw [digits]
          exact List.mem_cons_self
    exact absurd digit (by decide)
  case h_2 => rfl

private theorem denotes_toDigits (number : UInt64) :
    Denotes (Nat.toDigits 10 number.toNat) number :=
  ⟨isNumeral_toDigits _, digitsValue_toDigits _⟩

theorem parseTolerant_render {version : Version} (wellFormed : version.WellFormed) :
    parseTolerant version.render = .ok version := by
  apply parseTolerant_eq_ok_iff.mpr
  rw [unmarked_render wellFormed, render_toList]
  exact Or.inl (.patch (denotes_toDigits _) (denotes_toDigits _) (denotes_toDigits _) wellFormed)

/-! ### Encoded versions -/

private theorem toVersion_eq_bind (node : DataNode) :
    node.toVersion = node.toText >>= fun content =>
      (parseTolerant content).mapError fun error => .refused error.message := by
  rw [DataNode.toVersion]
  cases node.toText with
  | error error => rfl
  | ok content =>
      dsimp only [bind, Except.bind]
      cases parseTolerant content with
      | ok version => rfl
      | error error => rfl

theorem toVersion_eq_ok_iff {node : DataNode} {version : Version} :
    node.toVersion = .ok version ↔
      ∃ content, node.toText = .ok content ∧ parseTolerant content = .ok version := by
  simp only [toVersion_eq_bind, bind_eq_ok_iff, mapError_eq_ok_iff]

private theorem toVersion_render {version : Version} (wellFormed : version.WellFormed)
    {node : DataNode}
    (made : node.toText = .ok version.render) : node.toVersion = .ok version :=
  toVersion_eq_ok_iff.mpr ⟨version.render, made, parseTolerant_render wellFormed⟩

private theorem parse?_toJson (version : Version) :
    Json.parse? version.toJson = some (.string version.render) :=
  Json.parse?_writeString version.render

/-! ### Versions that arise from texts -/

private theorem wellFormed_of_parseTolerant {input : String} {version : Version}
    (accepted : parseTolerant input = .ok version) : version.WellFormed := by
  rcases parseTolerant_eq_ok_iff.mp accepted with tolerated | withoutPatch
  · exact tolerated.wellFormed
  · exact withoutPatch.wellFormed

/-- A field is written into a hosted value, or a value is copied. -/
inductive Change : Value → Value → Prop where
  | write {payload written : Payload} {name : String} {value : Value}
      (accepted : payload.writeField? name value = some (.ok written)) (identity fresh : Nat) :
      Change (.hosted identity payload) (.hosted fresh written)
  | copy {value copied : Value} {supply next : Nat}
      (accepted : value.deepCopy supply = .ok (copied, next)) : Change value copied

/-- The values that hold a version read from a text or from encoded data, after any changes. -/
inductive Derived : Value → Prop where
  | strict {input : String} {version : Version} (accepted : parseStrict input = .ok version)
      (identity : Nat) : Derived (.hosted identity (.version version))
  | tolerant {input : String} {version : Version} (accepted : parseTolerant input = .ok version)
      (identity : Nat) : Derived (.hosted identity (.version version))
  | decoded {node : DataNode} {version : Version} (accepted : node.toVersion = .ok version)
      (identity : Nat) : Derived (.hosted identity (.version version))
  | changed {value result : Value} (derived : Derived value) (change : Change value result) :
      Derived result

def HoldsWellFormed (value : Value) : Prop :=
  ∃ version, value.version? = some version ∧ version.WellFormed

private theorem version?_eq_some_iff {value : Value} {version : Version} :
    value.version? = some version ↔ ∃ identity, value = .hosted identity (.version version) := by
  constructor
  · intro held
    unfold Value.version? at held
    split at held
    · cases held
      exact ⟨_, rfl⟩
    · cases held
  · intro both
    obtain ⟨identity, valueEq⟩ := both
    rw [valueEq]
    rfl

private theorem WellFormed.set {version : Version} (wellFormed : version.WellFormed)
    (component : Component) (number : UInt64) : (version.set component number).WellFormed := by
  cases component with
  | major => exact ⟨wellFormed.pre, wellFormed.build⟩
  | minor => exact ⟨wellFormed.pre, wellFormed.build⟩
  | patch => exact ⟨wellFormed.pre, wellFormed.build⟩

private theorem eq_set_of_writeField {version updated : Version} {name : String} {value : Value}
    (accepted : version.writeField name value = .ok updated) :
    ∃ component number, updated = version.set component number := by
  unfold writeField at accepted
  cases found : component? name with
  | none =>
      rw [found] at accepted
      cases accepted
  | some component =>
      rw [found] at accepted
      dsimp only at accepted
      split at accepted
      · split at accepted
        · cases accepted
          exact ⟨component, _, rfl⟩
        · cases accepted
      · cases accepted

private theorem eq_version_of_writeField? {version : Version} {name : String} {value : Value}
    {written : Payload}
    (accepted : (Payload.version version).writeField? name value = some (.ok written)) :
    ∃ updated, version.writeField name value = .ok updated ∧ written = .version updated := by
  dsimp only [Payload.writeField?] at accepted
  cases outcome : version.writeField name value with
  | error fault =>
      rw [outcome] at accepted
      cases accepted
  | ok updated =>
      rw [outcome] at accepted
      cases accepted
      exact ⟨updated, rfl, rfl⟩

theorem deepCopy_version (identity supply : Nat) (version : Version) :
    (Value.hosted identity (.version version)).deepCopy supply =
      .ok (.hosted supply (.version version), supply + 1) :=
  rfl

private theorem Change.holdsWellFormed {value result : Value} (change : Change value result)
    (before : HoldsWellFormed value) : HoldsWellFormed result := by
  obtain ⟨version, held, wellFormed⟩ := before
  obtain ⟨own, valueEq⟩ := version?_eq_some_iff.mp held
  cases change with
  | write accepted identity fresh =>
      cases valueEq
      obtain ⟨updated, wrote, writtenEq⟩ := eq_version_of_writeField? accepted
      obtain ⟨component, number, updatedEq⟩ := eq_set_of_writeField wrote
      rw [writtenEq, updatedEq]
      exact ⟨_, rfl, wellFormed.set component number⟩
  | copy accepted =>
      rw [valueEq, deepCopy_version] at accepted
      cases accepted
      exact ⟨version, rfl, wellFormed⟩

private theorem Derived.holdsWellFormed {value : Value} (derived : Derived value) :
    HoldsWellFormed value := by
  induction derived with
  | strict accepted identity => exact ⟨_, rfl, (parseStrict_eq_ok_iff.mp accepted).1⟩
  | tolerant accepted identity => exact ⟨_, rfl, wellFormed_of_parseTolerant accepted⟩
  | decoded accepted identity =>
      obtain ⟨content, -, read⟩ := toVersion_eq_ok_iff.mp accepted
      exact ⟨_, rfl, wellFormed_of_parseTolerant read⟩
  | changed derived change ih => exact change.holdsWellFormed ih

/-- Versions that arise from texts are well formed, and every well-formed version is found again, as
it is, in its text, in every tree that makes this text, and in its JSON text. -/
theorem derived_wellFormed_and_render_inverted :
    (∀ value, Derived value → HoldsWellFormed value) ∧
      ∀ version : Version, version.WellFormed →
        parseTolerant version.render = .ok version ∧
          (∀ node : DataNode, node.toText = .ok version.render → node.toVersion = .ok version) ∧
          ∃ json, Json.parse? version.toJson = some json ∧ json.toNode.toVersion = .ok version := by
  refine ⟨fun _ derived => derived.holdsWellFormed, ?_⟩
  intro version wellFormed
  refine ⟨parseTolerant_render wellFormed, fun _ made => toVersion_render wellFormed made, ?_⟩
  exact ⟨_, parse?_toJson version, toVersion_render wellFormed rfl⟩

theorem render_inverted_after_write_and_copy :
    HoldsWellFormed (.hosted 8 (.version
        ⟨0, 9223372036854775807, 0, [.alphanumeric "0-", .numeric 0], ["00", "-"]⟩)) ∧
      parseTolerant "0.9223372036854775807.0-0-.0+00.-" =
        .ok ⟨0, 9223372036854775807, 0, [.alphanumeric "0-", .numeric 0], ["00", "-"]⟩ := by
  have read :
      parseTolerant " v00.1.00-0-.0+00.-" =
        .ok ⟨0, 1, 0, [.alphanumeric "0-", .numeric 0], ["00", "-"]⟩ := rfl
  have wrote :
      (Payload.version ⟨0, 1, 0, [.alphanumeric "0-", .numeric 0], ["00", "-"]⟩).writeField?
          "MINOR" (.integer 9223372036854775807) =
        some (.ok (.version
          ⟨0, 9223372036854775807, 0, [.alphanumeric "0-", .numeric 0], ["00", "-"]⟩)) := rfl
  have derived := ((Derived.tolerant read 1).changed (.write wrote 1 2)).changed
    (.copy (deepCopy_version 2 8 _))
  obtain ⟨wellFormed, inverted⟩ := derived_wellFormed_and_render_inverted
  have found := (inverted
    ⟨0, 9223372036854775807, 0, [.alphanumeric "0-", .numeric 0], ["00", "-"]⟩ (by decide)).1
  have text :
      Version.render ⟨0, 9223372036854775807, 0, [.alphanumeric "0-", .numeric 0], ["00", "-"]⟩ =
        "0.9223372036854775807.0-0-.0+00.-" := by decide
  rw [text] at found
  exact ⟨wellFormed _ derived, found⟩

end HostValue.Version
