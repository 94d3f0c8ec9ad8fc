import HostValue.Function.Version
import HostValue.Proofs.Function.Encoding
import HostValue.Proofs.Supply
import HostValue.Proofs.Version.RoundTrip
import HostValue.Proofs.Yaml.RoundTrip

/-!
# Trips through YAML

What a host gets back when it writes a value as YAML and reads the text again: plain data as it was,
and for a version the string from which the version is made again.
-/

namespace HostValue.YamlFunction

theorem run_fromYaml_some {text : String} {value : Value} (read : Value.ofYaml? text = some value)
    (context : Context) (supply : Nat) :
    fromYaml context [.string text] supply = .ok (value, supply) := by
  have answered : fromYaml context [.string text] = pure value := by
    apply Function.run_ofArgument
    have coalesced : context.mode.toText (.string text) = pure text := rfl
    rw [coalesced, pure_bind, read]
    rfl
  exact congrFun answered supply

private theorem run_fromYaml_none {text : String} (refused : Value.ofYaml? text = none)
    (context : Context) (supply : Nat) :
    ∃ message, fromYaml context [.string text] supply = .error (.serialization message) := by
  have failed : fromYaml context [.string text] =
      throw (.serialization "the text is not the YAML of a value") := by
    apply Function.run_ofArgument_error
    have coalesced : context.mode.toText (.string text) = pure text := rfl
    rw [coalesced, pure_bind, refused]
    rfl
  exact ⟨_, congrFun failed supply⟩

/-- Plain data is written as a text from which it is read as it was, in whatever contexts, if at most
128 of its collections enclose one another; and the text of deeper data is refused. -/
theorem fromYaml_toYaml {value : Value} (plain : value.Plain) (distinct : value.DistinctKeys) :
    ∃ text,
      (∀ context supply, toYaml context [value] supply = .ok (.string text, supply)) ∧
      (value.depth ≤ 128 →
        ∀ context supply, fromYaml context [.string text] supply = .ok (value, supply)) ∧
      (128 < value.depth →
        ∀ context supply, ∃ message,
          fromYaml context [.string text] supply = .error (.serialization message)) := by
  obtain ⟨text, written, read⟩ := (Yaml.inverted plain distinct).ofYaml?_toYaml
  rw [Yaml.maxDepth] at read
  refine ⟨text, fun context supply => (Value.run_toYaml context supply).1 text written,
    fun shallow => ?_, fun deep => ?_⟩
  · rw [if_pos shallow] at read
    exact run_fromYaml_some read
  · rw [if_neg (Nat.not_le.mpr deep)] at read
    exact run_fromYaml_none read

/-- Texts that look like a number and like null, the least integer, a key over two lines, a text that
needs escapes and empty collections; and a vector that lies in a hundred and twenty-eight others. -/
theorem fromYaml_toYaml_styles :
    toYaml ⟨.strict, 0⟩ [.object
        [("1", .vector [.string "null", .null, .integer Int64.minValue, .object []]),
          ("a\nb", .vector [.vector [.string " \u2028#\n"]])]] 3 =
        .ok (.string ("'1':\n- 'null'\n- null\n- -9223372036854775808\n- \x7b\x7d\n" ++
          "? |-\n  a\n  b\n: - - \" \\L#\\n\"\n"), 3) ∧
      fromYaml ⟨.humane, 1⟩ [.string
          ("'1':\n- 'null'\n- null\n- -9223372036854775808\n- \x7b\x7d\n" ++
          "? |-\n  a\n  b\n: - - \" \\L#\\n\"\n")] 4 =
        .ok (.object
          [("1", .vector [.string "null", .null, .integer Int64.minValue, .object []]),
            ("a\nb", .vector [.vector [.string " \u2028#\n"]])], 4) ∧
      ∃ text message,
        toYaml ⟨.strict, 0⟩ [Nat.repeat (fun inner => .vector [inner]) 128 (.vector [])] 0 =
          .ok (.string text, 0) ∧
        fromYaml ⟨.strict, 0⟩ [.string text] 0 = .error (.serialization message) := by
  have plain : Value.Plain (.object
      [("1", .vector [.string "null", .null, .integer Int64.minValue, .object []]),
        ("a\nb", .vector [.vector [.string " \u2028#\n"]])]) := by
    decide
  have nested : Value.Plain (Nat.repeat (fun inner => .vector [inner]) 128 (.vector [])) := by
    decide +kernel
  obtain ⟨_, written, read, -⟩ := fromYaml_toYaml plain (by decide)
  obtain ⟨text, nestedWritten, -, refused⟩ := fromYaml_toYaml nested (by decide +kernel)
  obtain ⟨message, failed⟩ := refused (by decide +kernel) ⟨.strict, 0⟩ 0
  have own := written ⟨.strict, 0⟩ 3
  cases own
  exact ⟨rfl, read (by decide) ⟨.humane, 1⟩ 4, text, message, nestedWritten ⟨.strict, 0⟩ 0, failed⟩

/-- The text of a well-formed version is read as a string, the version's text, from which the version
is made again, behind a new handle. -/
theorem semver_fromYaml_toYaml {version : Version} (wellFormed : version.WellFormed) :
    ∃ text,
      (∀ context identity supply,
        toYaml context [.hosted identity (.version version)] supply =
          .ok (.string text, supply)) ∧
      (∀ context supply,
        fromYaml context [.string text] supply = .ok (.string version.render, supply)) ∧
      ∀ context supply,
        VersionFunction.semver context [.string version.render] supply =
          .ok (.hosted supply (.version version), supply + 1) := by
  obtain ⟨text, written, read⟩ := (Yaml.inverted_string version.render).ofYaml?_toYaml
  have leaf : (Value.string version.render).depth ≤ Yaml.maxDepth := Nat.zero_le _
  rw [if_pos leaf] at read
  refine ⟨text, fun context identity supply => ?_, run_fromYaml_some read,
    fun context supply => ?_⟩
  · have same : (Value.hosted identity (.version version)).toYaml =
        (Value.string version.render).toYaml := rfl
    exact (Value.run_toYaml context supply).1 text (same.trans written)
  · have answered : VersionFunction.semver context [.string version.render] =
        (Payload.version version).host := by
      apply Function.run_ofArgument
      have coalesced : context.mode.toText (.string version.render) = pure version.render := rfl
      rw [coalesced, pure_bind, Version.parseTolerant_render wellFormed]
      rfl
    exact congrFun answered supply

/-- The greatest number, and identifiers that read like a number with an exponent or start with zeros. -/
theorem semver_fromYaml_toYaml_numeral :
    toYaml ⟨.strict, 0⟩ [.hosted 7 (.version
        ⟨0, 18446744073709551615, 0, [.alphanumeric "-0e", .numeric 1], ["00", "-"]⟩)] 8 =
        .ok (.string "0.18446744073709551615.0--0e.1+00.-\n", 8) ∧
      fromYaml ⟨.humane, 0⟩ [.string "0.18446744073709551615.0--0e.1+00.-\n"] 8 =
        .ok (.string "0.18446744073709551615.0--0e.1+00.-", 8) ∧
      VersionFunction.semver ⟨.strict, 1⟩ [.string "0.18446744073709551615.0--0e.1+00.-"] 8 =
        .ok (.hosted 8 (.version
          ⟨0, 18446744073709551615, 0, [.alphanumeric "-0e", .numeric 1], ["00", "-"]⟩), 9) := by
  have wellFormed : Version.WellFormed
      ⟨0, 18446744073709551615, 0, [.alphanumeric "-0e", .numeric 1], ["00", "-"]⟩ := by
    decide
  obtain ⟨_, written, read, made⟩ := semver_fromYaml_toYaml wellFormed
  have own := written ⟨.strict, 0⟩ 7 8
  cases own
  exact ⟨rfl, read ⟨.humane, 0⟩ 8, made ⟨.strict, 1⟩ 8⟩

end HostValue.YamlFunction
