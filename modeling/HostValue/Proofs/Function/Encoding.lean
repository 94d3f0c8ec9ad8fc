import HostValue.Function.Yaml
import HostValue.Proofs.Value.Erasure

/-!
# What is written of hosted values

The JSON text and the YAML text of a value are those of the value with its hosted parts replaced by
their string forms. If one of these has none, both encoders fail with the error of the first such one.
-/

namespace HostValue

/-! ### The two encoders -/

namespace Json

private theorem writeItems_eq (items : List Value) : writeItems items = items.mapM write := by
  induction items with
  | nil => rfl
  | cons item rest ih =>
      rw [writeItems, ih, List.mapM_cons]
      cases write item with
      | error error => rfl
      | ok text => cases rest.mapM write <;> rfl

def labelText (key : String) (text : List Char) : List Char :=
  writeString key ++ ':' :: text

private theorem writeEntries_eq (entries : Entries) :
    writeEntries entries =
      ((entries.map Prod.snd).mapM write).map (List.zipWith labelText entries.keys) := by
  induction entries with
  | nil => rfl
  | cons entry rest ih =>
      obtain ⟨key, value⟩ := entry
      rw [writeEntries, ih, List.map_cons, List.mapM_cons]
      cases write value with
      | error error => rfl
      | ok text => cases (rest.map Prod.snd).mapM write <;> rfl

private theorem write_encoder : Encoder write where
  scalar value isScalar := by
    cases value with
    | null | bool | integer | float | string => exact ⟨_, rfl⟩
    | vector | object | hosted => cases isScalar
  hosted identity payload := by
    rw [write]
    cases payload.encodedText <;> rfl
  vector := by
    refine ⟨fun texts => '[' :: [','].intercalate texts ++ [']'], fun items => ?_⟩
    rw [write, writeItems_eq]
    cases items.mapM write <;> rfl
  object := by
    refine ⟨fun keys texts => '{' :: [','].intercalate (List.zipWith labelText keys texts) ++ ['}'],
      fun entries => ?_⟩
    rw [write, writeEntries_eq]
    cases (entries.map Prod.snd).mapM write <;> rfl

end Json

namespace Yaml

private theorem itemTrees_eq (items : List Value) : itemTrees items = items.mapM Tree.ofValue := by
  induction items with
  | nil => rfl
  | cons item rest ih =>
      rw [itemTrees, ih, List.mapM_cons]
      cases Tree.ofValue item with
      | error error => rfl
      | ok tree => cases rest.mapM Tree.ofValue <;> rfl

def labelTree (key : String) (tree : Tree) : List Char × Tree :=
  (key.toList, tree)

private theorem entryTrees_eq (entries : Entries) :
    entryTrees entries =
      ((entries.map Prod.snd).mapM Tree.ofValue).map (List.zipWith labelTree entries.keys) := by
  induction entries with
  | nil => rfl
  | cons entry rest ih =>
      obtain ⟨key, value⟩ := entry
      rw [entryTrees, ih, List.map_cons, List.mapM_cons]
      cases Tree.ofValue value with
      | error error => rfl
      | ok tree => cases (rest.map Prod.snd).mapM Tree.ofValue <;> rfl

private theorem ofValue_encoder : Encoder Tree.ofValue where
  scalar value isScalar := by
    cases value with
    | null | bool | integer | float | string => exact ⟨_, rfl⟩
    | vector | object | hosted => cases isScalar
  hosted identity payload := by
    rw [Tree.ofValue]
    cases payload.encodedText <;> rfl
  vector := by
    refine ⟨.sequence, fun items => ?_⟩
    rw [Tree.ofValue, itemTrees_eq]
    cases items.mapM Tree.ofValue <;> rfl
  object := by
    refine ⟨fun keys trees => .mapping (List.zipWith labelTree keys trees), fun entries => ?_⟩
    rw [Tree.ofValue, entryTrees_eq]
    cases (entries.map Prod.snd).mapM Tree.ofValue <;> rfl

end Yaml

namespace Value

theorem toJson_factors (value : Value) :
    Factors toJson value value.payloads value.erase? := by
  have joined (source : Value) : source.toJson = (Json.write source).map String.ofList := by
    rw [toJson]
    cases Json.write source <;> rfl
  have mapped := (factors Json.write_encoder value).map id String.ofList (joined value)
    fun erased _ => joined erased
  rwa [Option.map_id] at mapped

private theorem toYaml_factors (value : Value) :
    Factors toYaml value value.payloads value.erase? := by
  have joined (source : Value) :
      source.toYaml = (Yaml.Tree.ofValue source).map fun tree =>
        String.ofList (Yaml.closeLine (tree.write .start 0)) := by
    rw [toYaml]
    cases Yaml.Tree.ofValue source <;> rfl
  have mapped := (factors Yaml.ofValue_encoder value).map id _ (joined value)
    fun erased _ => joined erased
  rwa [Option.map_id] at mapped

/-! ### Values that have no erasure -/

private theorem erase?_eq_none_iff (value : Value) :
    value.erase? = none ↔
      ∃ identity payload, Within (.hosted identity payload) value ∧ ¬payload.HasText := by
  have factored := value.toJson_factors
  generalize value.erase? = erasure at factored
  cases factored with
  | erased written =>
      constructor
      · intro undefined
        cases undefined
      · rintro ⟨identity, payload, inside, textless⟩
        exact absurd (written.passes_of_none (mem_payloads_iff.mpr ⟨identity, inside⟩)) textless
  | refused first =>
      refine ⟨fun _ => ?_, fun _ => rfl⟩
      obtain ⟨before, payload, after, split, -, fails⟩ := FirstFailure.some_iff.mp first
      have member : payload ∈ value.payloads := by
        rw [split]
        exact List.mem_append_right _ List.mem_cons_self
      obtain ⟨identity, inside⟩ := mem_payloads_iff.mp member
      exact ⟨identity, payload, inside, fails.not_hasText⟩

private theorem eraseItems?_eq_self {items : List Value}
    (erases : ∀ item ∈ items, item.erase? = some item) : eraseItems? items = some items := by
  induction items with
  | nil => rfl
  | cons item rest ih =>
      obtain ⟨first, others⟩ := List.forall_mem_cons.mp erases
      rw [eraseItems?, first, ih others]

private theorem erase?_eq_self {value : Value}
    (unhosted : value.Everywhere fun part => part.kind ≠ .hosted) :
    value.erase? = some value := by
  induction value using inductionOnParts with
  | leaf value leaf =>
      cases value with
      | hosted => exact absurd rfl unhosted.whole
      | vector | object => cases leaf
      | null | bool | integer | float | string => rfl
  | vector items ih =>
      have own := eraseItems?_eq_self fun item member => ih item member (unhosted.item member)
      rw [erase?, own, Option.map_some]
  | object entries ih =>
      have own : eraseItems? (entries.map Prod.snd) = some (entries.map Prod.snd) := by
        apply eraseItems?_eq_self
        intro value member
        obtain ⟨⟨key, found⟩, present, rfl⟩ := List.mem_map.mp member
        exact ih key found present (unhosted.entry present)
      rw [erase?, eraseEntries?_eq, own, Option.map_some, Option.map_some,
        Entries.zip_keys_values]

/-! ### Texts -/

theorem run_toYaml {value : Value} (context : Context) (supply : Nat) :
    (∀ text, value.toYaml = .ok text →
        YamlFunction.toYaml context [value] supply = .ok (.string text, supply)) ∧
      ∀ error, value.toYaml = .error error →
        YamlFunction.toYaml context [value] supply = .error (.serialization error.message) := by
  constructor
  · intro text written
    have answered : YamlFunction.toYaml context [value] = pure (.string text) := by
      apply Function.run_ofArgument
      rw [written]
    exact congrFun answered supply
  · intro error failed
    have refused : YamlFunction.toYaml context [value] = throw (.serialization error.message) := by
      apply Function.run_ofArgument_error
      rw [failed]
    exact congrFun refused supply

/-- A value is written, as JSON and as YAML, if and only if it has an erasure, and then as the same
text as its erasure. Otherwise the error is that of the first hosted value without string form. A
set has none, at whatever depth it lies; floats are no matter. -/
theorem encodings_factor_through_erasure (value : Value) :
    (∀ erased, value.erase? = some erased →
        (∃ text, value.toJson = .ok text ∧ erased.toJson = .ok text) ∧
          ∃ text, ∀ context supply,
            YamlFunction.toYaml context [value] supply = .ok (.string text, supply) ∧
              YamlFunction.toYaml context [erased] supply = .ok (.string text, supply)) ∧
      (value.erase? = none →
        ∃ before payload after error, value.payloads = before ++ payload :: after ∧
          (∀ earlier ∈ before, earlier.HasText) ∧ payload.TextFails error ∧
          value.toJson = .error error ∧
          ∀ context supply, YamlFunction.toYaml context [value] supply =
            .error (.serialization error.message)) ∧
      (value.erase? = none ↔
        ∃ identity payload, Within (.hosted identity payload) value ∧ ¬payload.HasText) ∧
      (∀ identity set, Within (.hosted identity (.set set)) value → value.erase? = none) ∧
      ((value.Everywhere fun part => part.kind ≠ .hosted) → value.erase? = some value) := by
  have json := value.toJson_factors
  have yaml := value.toYaml_factors
  refine ⟨fun erased erases => ?_, fun undefined => ?_, value.erase?_eq_none_iff,
    fun identity set inside => ?_, erase?_eq_self⟩
  · rw [erases] at json yaml
    cases json with
    | erased _ own same =>
        cases yaml with
        | erased _ yamlOwn yamlSame =>
            exact ⟨⟨_, own, same⟩, _, fun context supply =>
              ⟨(run_toYaml context supply).1 _ yamlOwn, (run_toYaml context supply).1 _ yamlSame⟩⟩
  · rw [undefined] at json yaml
    cases json with
    | refused first fails =>
        cases yaml with
        | refused yamlFirst yamlFails =>
            have same := yamlFirst.unique (fun _ _ fails => fails.not_hasText)
              (fun _ _ _ fails failsEither => fails.unique failsEither) first
            rw [Option.some.inj same] at yamlFails
            obtain ⟨before, payload, after, split, earlier, refuses⟩ :=
              FirstFailure.some_iff.mp first
            exact ⟨before, payload, after, _, split, earlier, refuses, fails,
              fun context supply => (run_toYaml context supply).2 _ yamlFails⟩
  · refine value.erase?_eq_none_iff.mpr ⟨identity, .set set, inside, ?_⟩
    rintro ⟨text, form⟩
    cases form

/-- An infinity is written where a version and a box are written as texts. Of a set in an object and
a type whose string form fails, the set is met first. -/
theorem encodings_factor_through_erasure_set :
    (vector [.float (.infinity true), .hosted 1 (.version ⟨1, 0, 0, [.alphanumeric "a"], []⟩),
        .object [("k", .hosted 2 (.box (.integer 3)))]]).toJson =
      .ok "[null,\"1.0.0-a\",\x7b\"k\":\"box:3\"\x7d]" ∧
      (vector [.float (.infinity true), .string "1.0.0-a",
          .object [("k", .string "box:3")]]).toJson =
        .ok "[null,\"1.0.0-a\",\x7b\"k\":\"box:3\"\x7d]" ∧
      YamlFunction.toYaml ⟨.strict, 0⟩ [.vector [.float (.infinity true),
          .hosted 1 (.version ⟨1, 0, 0, [.alphanumeric "a"], []⟩),
          .object [("k", .hosted 2 (.box (.integer 3)))]]] 3 =
        .ok (.string "- -.inf\n- 1.0.0-a\n- k: box:3\n", 3) ∧
      YamlFunction.toYaml ⟨.humane, 0⟩ [.vector [.hosted 1 (.tag "a"),
          .object [("k", .hosted 2 (.set .empty))], .hosted 3 .broken]] 4 =
        .error (.serialization "cannot serialize set value: it has no string form") := by
  obtain ⟨⟨text, own, same⟩, yaml, written⟩ := (encodings_factor_through_erasure (.vector
    [.float (.infinity true), .hosted 1 (.version ⟨1, 0, 0, [.alphanumeric "a"], []⟩),
      .object [("k", .hosted 2 (.box (.integer 3)))]])).1 _ rfl
  obtain ⟨_, _, _, error, _, _, _, failed, refused⟩ := (encodings_factor_through_erasure (.vector
    [.hosted 1 (.tag "a"), .object [("k", .hosted 2 (.set .empty))], .hosted 3 .broken])).2.1 rfl
  have yamlOwn := (written ⟨.strict, 0⟩ 3).1
  cases own
  cases failed
  cases yamlOwn
  exact ⟨rfl, same, (written ⟨.strict, 0⟩ 3).1, refused ⟨.humane, 0⟩ 4⟩

end Value

end HostValue
