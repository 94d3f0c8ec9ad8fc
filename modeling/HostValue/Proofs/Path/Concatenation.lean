import HostValue.Proofs.Path.Spelling
import HostValue.Proofs.Path.Write

/-!
# Paths behind one another

Two texts behind one another spell their two paths behind one another, as long as the second text
does not go on with the last key of the first one. A point between them sees to this. To follow such
a path is to follow the first of its two parts and then, from where that one leads, the second.
-/

namespace HostValue.Path

open Text

/-! ### Texts behind one another -/

private theorem endsRun_iff {text : List Char} :
    EndsRun isKeyChar text ↔ ∀ c ∈ text.head?, c = '[' ∨ c = '.' := by
  have refused (c : Char) : isKeyChar c = false ↔ c = '[' ∨ c = '.' := by
    rw [← Bool.not_eq_true, isKeyChar_iff, Classical.not_and_iff_not_or_not, Classical.not_not,
      Classical.not_not, or_comm]
  exact forall_congr' fun c => imp_congr_right fun _ => refused c

private theorem Spells.append {text other : List Char} {path rest : Path}
    (spells : Spells text path)
    (ends : EndsRun isKeyChar other) (spellsOther : Spells other rest) :
    Spells (text ++ other) (path ++ rest) := by
  induction spells with
  | nil => exact spellsOther
  | point _ ih => exact .point ih
  | @index body text position path inside gives _ ih =>
      rw [List.cons_append, List.append_assoc, List.cons_append]
      exact .index inside gives ih
  | key normal endsKey _ ih =>
      rw [List.append_assoc]
      exact .key normal (endsRun_append endsKey ends) ih

variable {text other : String} {path rest : Path}

theorem parse_append (read : parse text = .ok path) (readOther : parse other = .ok rest)
    (ends : EndsRun isKeyChar other.toList) :
    parse (text ++ other) = within maxSegments (path ++ rest) := by
  have spells := (parse_eq_ok_iff.mp read).1
  have spellsOther := (parse_eq_ok_iff.mp readOther).1
  apply parse_spelled
  rw [String.toList_append]
  exact spells.append ends spellsOther

private theorem parse_append_point (read : parse text = .ok path)
    (readOther : parse other = .ok rest) :
    parse (text ++ "." ++ other) = within maxSegments (path ++ rest) := by
  have pointed : parse ("." ++ other) = .ok rest := by
    obtain ⟨spellsOther, short⟩ := parse_eq_ok_iff.mp readOther
    refine parse_eq_ok_iff.mpr ⟨?_, short⟩
    rw [String.toList_append]
    exact .point spellsOther
  have ends : EndsRun isKeyChar ("." ++ other).toList := by
    rw [String.toList_append]
    exact endsRun_cons rfl _
  rw [String.append_assoc]
  exact parse_append read pointed ends

/-! ### One path after another -/

private theorem read_append {whole : String} (read : parse text = .ok path)
    (readOther : parse other = .ok rest) (readWhole : parse whole = .ok (path ++ rest))
    (root : Value) :
    parse whole >>= root.getPath =
      (parse text >>= root.getPath) >>= fun reached => parse other >>= reached.getPath := by
  rw [read, readOther, readWhole]
  exact root.getPath_append path rest

/-- Two texts with a point between them are read as their paths behind one another, if there is room
for these, and lead where the second path leads from where the first one leads. The same holds
without the point where the second text is empty or begins with a point or an opening bracket. -/
theorem parse_composes (read : parse text = .ok path) (readOther : parse other = .ok rest)
    (short : path.length + rest.length ≤ 100) :
    (parse (text ++ "." ++ other) = .ok (path ++ rest) ∧
        ∀ root : Value, parse (text ++ "." ++ other) >>= root.getPath =
          (parse text >>= root.getPath) >>= fun reached => parse other >>= reached.getPath) ∧
      ((∀ c ∈ other.toList.head?, c = '[' ∨ c = '.') →
        parse (text ++ other) = .ok (path ++ rest) ∧
          ∀ root : Value, parse (text ++ other) >>= root.getPath =
            (parse text >>= root.getPath) >>= fun reached => parse other >>= reached.getPath) := by
  have room : within maxSegments (path ++ rest) = .ok (path ++ rest) := by
    rw [within, List.length_append]
    exact if_pos short
  have pointed : parse (text ++ "." ++ other) = .ok (path ++ rest) :=
    (parse_append_point read readOther).trans room
  refine ⟨⟨pointed, read_append read readOther pointed⟩, fun begins => ?_⟩
  have joined : parse (text ++ other) = .ok (path ++ rest) :=
    (parse_append read readOther (endsRun_iff.mpr begins)).trans room
  exact ⟨joined, read_append read readOther joined⟩

/-- A point at the end of the first text and a closing bracket in the key of the second one; and a
second text that begins with a bracket, right behind a key. -/
theorem parse_composes_at_points :
    (parse ("..a[ +1]." ++ "." ++ "b]c.") = .ok [.key "a", .index 1, .key "b]c"] ∧
        (parse ("..a[ +1]." ++ "." ++ "b]c.") >>=
          Value.getPath (.object [("a", .vector [.null, .object [("b]c", .integer 7)]])])) =
            .ok (.integer 7)) ∧
      parse ("a" ++ "[1].") = .ok [.key "a", .index 1] ∧
        (parse ("a" ++ "[1].") >>= Value.getPath (.object [("b", .null)])) =
          .error (noSuchKey "a") := by
  have front : parse "..a[ +1]." = .ok [.key "a", .index 1] := rfl
  have back : parse "b]c." = .ok [.key "b]c"] := rfl
  have key : parse "a" = .ok [.key "a"] := rfl
  have bracket : parse "[1]." = .ok [.index 1] := rfl
  obtain ⟨⟨pointed, leads⟩, -⟩ := parse_composes front back (by decide)
  obtain ⟨-, joined⟩ := parse_composes key bracket (by decide)
  have head : "[1].".toList.head? = some '[' := rfl
  have begins : ∀ c ∈ "[1].".toList.head?, c = '[' ∨ c = '.' := by
    intro c first
    rw [head, Option.mem_some_iff] at first
    exact Or.inl first.symm
  obtain ⟨behind, leadsBehind⟩ := joined begins
  have found := leads (.object [("a", .vector [.null, .object [("b]c", .integer 7)]])])
  have missing := leadsBehind (.object [("b", .null)])
  rw [front, back] at found
  rw [key, bracket] at missing
  exact ⟨⟨pointed, found.trans rfl⟩, behind, missing.trans rfl⟩

end HostValue.Path
