import HostValue.Coalescing
import HostValue.Proofs.Comparison.Leaves
import HostValue.Proofs.Outcome

/-!
# Flattening of arguments

What strings a list of arguments makes. An argument that makes a vector stands for its items, every
other one for itself, and the strings are those of the values that the arguments stand for, in order.
So the strings of two lists of arguments follow one another, and no string comes from deeper than the
items of an argument.
-/

namespace HostValue.Mode

variable {mode : Mode} {argument : Value} {arguments items : List Value} {texts : List String}

/-! ### What an argument stands for -/

def accepted? (mode : Mode) (argument : Value) : Option (List Value) :=
  (mode.toVector argument).toOption

/-- The values whose strings an argument makes. -/
def parts (mode : Mode) (argument : Value) : List Value :=
  (mode.accepted? argument).getD [argument]

/-- A value that makes no string in the mode, be it because it has parts or because its string would
lose its kind. -/
def Refuses (mode : Mode) (value : Value) : Prop :=
  value.kind.isCollection = true ∨
    (mode = .strict ∧ (value.kind = .boolean ∨ value.kind.isNumeric = true))

theorem parts_vector (items : List Value) : mode.parts (.vector items) = items :=
  rfl

private theorem parts_of_not_accepted (alone : mode.accepted? argument = none) :
    mode.parts argument = [argument] := by
  rw [parts, alone, Option.getD_none]

private theorem mem_parts {part : Value} (member : part ∈ mode.parts argument) :
    part = argument ∨ ∃ items, argument = .vector items ∧ part ∈ items := by
  cases argument with
  | vector items => exact .inr ⟨items, rfl, member⟩
  | null => cases member
  | object entries =>
      cases mode with
      | strict => exact .inl (List.mem_singleton.mp (by cases entries <;> exact member))
      | humane =>
          cases entries with
          | nil => cases member
          | cons entry rest => exact .inl (List.mem_singleton.mp member)
  | bool | integer | float | string | hosted => exact .inl (List.mem_singleton.mp member)

private theorem toText_of_refuses {value : Value} (refuses : mode.Refuses value) (text : String) :
    mode.toText value ≠ .ok text := by
  rcases refuses with collection | ⟨rfl, kind⟩
  · exact toText_collection mode collection text
  · cases value with
    | bool | integer | float => exact nofun
    | null | string | vector | object | hosted => rcases kind with kind | kind <;> cases kind

/-! ### Strings of items -/

theorem itemStrings_cons (item : Value) (rest : List Value) :
    mode.itemStrings (item :: rest) =
      match mode.toText item with
      | .error _ => .error (.coercion "argument vector contains non-string")
      | .ok text =>
        match mode.itemStrings rest with
        | .ok texts => .ok (text :: texts)
        | .error error => .error error :=
  rfl

private theorem itemStrings_eq_ok_iff :
    mode.itemStrings items = .ok texts ↔ items.map mode.toText = texts.map .ok := by
  induction items generalizing texts with
  | nil =>
      rw [itemStrings, Except.ok.injEq, List.map_nil, eq_comm, eq_comm (a := []),
        List.map_eq_nil_iff]
  | cons item rest ih =>
      rw [itemStrings_cons, List.map_cons]
      constructor
      · intro made
        split at made
        · cases made
        · next text own =>
          split at made
          · next others restMade =>
            cases made
            rw [own, ih.mp restMade, List.map_cons]
          · cases made
      · intro same
        cases texts with
        | nil => cases same
        | cons text others =>
            obtain ⟨own, restSame⟩ := List.cons.inj same
            rw [own, ih.mpr restSame]

private theorem itemStrings_answers (items : List Value) :
    (∃ texts, mode.itemStrings items = .ok texts) ∨
      mode.itemStrings items = .error (.coercion "argument vector contains non-string") := by
  induction items with
  | nil => exact .inl ⟨[], rfl⟩
  | cons item rest ih =>
      rw [itemStrings_cons]
      cases mode.toText item with
      | error error => exact .inr rfl
      | ok text =>
          rcases ih with ⟨texts, restMade⟩ | restFailed
          · rw [restMade]
            exact .inl ⟨text :: texts, rfl⟩
          · rw [restFailed]
            exact .inr rfl

/-! ### Strings of arguments -/

private theorem argumentStrings_eq_ok_iff :
    mode.argumentStrings argument = .ok texts ↔
      (mode.parts argument).map mode.toText = texts.map .ok := by
  rw [← itemStrings_eq_ok_iff]
  unfold argumentStrings parts accepted?
  cases mode.toVector argument with
  | ok items => exact Iff.rfl
  | error error =>
      rw [Except.toOption, Option.getD_none, itemStrings_cons]
      cases mode.toText argument with
      | ok text => exact Iff.rfl
      | error error => exact iff_of_false nofun nofun

private theorem argumentStrings_answers (argument : Value) :
    (∃ texts, mode.argumentStrings argument = .ok texts) ∨
      ∃ message, mode.argumentStrings argument = .error (.coercion message) := by
  unfold argumentStrings
  cases mode.toVector argument with
  | ok items => exact (itemStrings_answers items).imp_right fun failed => ⟨_, failed⟩
  | error error =>
      cases mode.toText argument with
      | ok text => exact .inl ⟨[text], rfl⟩
      | error error => exact .inr ⟨_, rfl⟩

theorem strings_cons (argument : Value) (rest : List Value) :
    mode.strings (argument :: rest) = do
      let texts ← mode.argumentStrings argument
      let others ← mode.strings rest
      return texts ++ others := by
  rw [strings]
  cases mode.argumentStrings argument with
  | error error => rfl
  | ok texts => cases mode.strings rest <;> rfl

private theorem strings_append (arguments others : List Value) :
    mode.strings (arguments ++ others) = do
      let texts ← mode.strings arguments
      let otherTexts ← mode.strings others
      return texts ++ otherTexts := by
  induction arguments with
  | nil =>
      change mode.strings others = mode.strings others >>= fun texts => .ok ([] ++ texts)
      cases mode.strings others <;> rfl
  | cons argument rest ih =>
      rw [List.cons_append, strings_cons, strings_cons, ih]
      simp only [bind_assoc, pure_bind, List.append_assoc]

theorem strings_eq_ok_iff :
    mode.strings arguments = .ok texts ↔
      (arguments.flatMap mode.parts).map mode.toText = texts.map .ok := by
  induction arguments generalizing texts with
  | nil =>
      rw [strings, Except.ok.injEq, List.flatMap_nil, List.map_nil, eq_comm, eq_comm (a := []),
        List.map_eq_nil_iff]
  | cons argument rest ih =>
      rw [strings_cons, List.flatMap_cons, List.map_append]
      constructor
      · intro made
        obtain ⟨own, ownMade, tail⟩ := bind_eq_ok_iff.mp made
        obtain ⟨others, othersMade, joined⟩ := bind_eq_ok_iff.mp tail
        rw [← pure_eq_ok_iff.mp joined, List.map_append, argumentStrings_eq_ok_iff.mp ownMade,
          ih.mp othersMade]
      · intro same
        obtain ⟨own, others, rfl, ownSame, othersSame⟩ := List.map_eq_append_iff.mp same.symm
        have ownMade := argumentStrings_eq_ok_iff.mpr ownSame.symm
        have othersMade := ih.mpr othersSame.symm
        exact bind_eq_ok_iff.mpr ⟨own, ownMade, bind_eq_ok_iff.mpr ⟨others, othersMade, rfl⟩⟩

theorem strings_answers (arguments : List Value) :
    (∃ texts, mode.strings arguments = .ok texts) ∨
      ∃ message, mode.strings arguments = .error (.coercion message) := by
  induction arguments with
  | nil => exact .inl ⟨[], rfl⟩
  | cons argument rest ih =>
      rw [strings_cons]
      rcases argumentStrings_answers argument with ⟨own, ownMade⟩ | ⟨message, failed⟩
      · rcases ih with ⟨others, othersMade⟩ | ⟨message, failed⟩
        · rw [ownMade, othersMade]
          exact .inl ⟨own ++ others, rfl⟩
        · rw [ownMade, failed]
          exact .inr ⟨message, rfl⟩
      · rw [failed]
        exact .inr ⟨message, rfl⟩

/-! ### Counting -/

private theorem length_flatMap_parts (arguments : List Value) :
    (arguments.flatMap mode.parts).length =
      arguments.countP (fun argument => (mode.accepted? argument).isNone) +
        (arguments.filterMap mode.accepted?).flatten.length := by
  induction arguments with
  | nil => rfl
  | cons argument rest ih =>
      rw [List.flatMap_cons, List.length_append, ih, parts]
      cases accepted : mode.accepted? argument with
      | none =>
          rw [List.countP_cons_of_pos (by rw [accepted]; rfl), List.filterMap_cons_none accepted,
            Option.getD_none, List.length_singleton]
          omega
      | some items =>
          rw [List.countP_cons_of_neg (by rw [accepted]; exact Bool.false_ne_true),
            List.filterMap_cons_some accepted, Option.getD_some, List.flatten_cons, List.length_append]
          omega

/-! ### Flattening -/

/-- How strings come from arguments: in order from the values that the arguments stand for, none of
which is deeper than an item of an argument or has parts itself, so that their number is known. -/
structure FlattenedTo (mode : Mode) (arguments : List Value) (texts : List String) : Prop where
  inOrder : (arguments.flatMap mode.parts).map mode.toText = texts.map .ok
  shallow : ∀ part ∈ arguments.flatMap mode.parts, part.kind.isCollection = false ∧
    (part ∈ arguments ∨ ∃ items, .vector items ∈ arguments ∧ part ∈ items)
  counted : texts.length =
    arguments.countP (fun argument => (mode.accepted? argument).isNone) +
      (arguments.filterMap mode.accepted?).flatten.length

theorem exists_toText_of_strings (made : mode.strings arguments = .ok texts) {part : Value}
    (member : part ∈ arguments.flatMap mode.parts) : ∃ text, mode.toText part = .ok text := by
  have listed : mode.toText part ∈ texts.map Except.ok :=
    strings_eq_ok_iff.mp made ▸ List.mem_map_of_mem member
  obtain ⟨text, -, same⟩ := List.mem_map.mp listed
  exact ⟨text, same.symm⟩

private theorem flattenedTo_iff :
    mode.strings arguments = .ok texts ↔ mode.FlattenedTo arguments texts := by
  constructor
  · intro made
    have inOrder := strings_eq_ok_iff.mp made
    refine ⟨inOrder, fun part member => ⟨?_, ?_⟩, ?_⟩
    · obtain ⟨text, own⟩ := exists_toText_of_strings made member
      rw [← Bool.not_eq_true]
      intro collection
      exact toText_collection mode collection text own
    · obtain ⟨argument, inArguments, inParts⟩ := List.mem_flatMap.mp member
      rcases mem_parts inParts with rfl | ⟨items, rfl, inItems⟩
      · exact .inl inArguments
      · exact .inr ⟨items, inArguments, inItems⟩
    · have lengths := congrArg List.length inOrder
      rwa [List.length_map, List.length_map, length_flatMap_parts, eq_comm] at lengths
  · intro flattened
    exact strings_eq_ok_iff.mpr flattened.inOrder

private theorem strings_vector_iff (alone : ∀ item ∈ items, mode.accepted? item = none) :
    mode.strings [.vector items] = .ok texts ↔ mode.strings items = .ok texts := by
  have own : items.flatMap mode.parts = items := by
    calc items.flatMap mode.parts = (items.map mode.parts).flatten := List.flatMap_def
      _ = (items.map fun item => [item]).flatten := by
          rw [List.map_congr_left fun item member => parts_of_not_accepted (alone item member)]
      _ = items := by rw [← List.flatMap_def, List.flatMap_singleton']
  rw [strings_eq_ok_iff, strings_eq_ok_iff, own, List.flatMap_singleton, parts_vector]

private theorem strings_of_refused {item : Value} (vector : .vector items ∈ arguments)
    (member : item ∈ items) (refuses : mode.Refuses item) :
    ∃ message, mode.strings arguments = .error (.coercion message) := by
  refine (strings_answers arguments).resolve_left ?_
  rintro ⟨texts, made⟩
  obtain ⟨text, own⟩ :=
    exists_toText_of_strings made (List.mem_flatMap.mpr ⟨.vector items, vector, member⟩)
  exact toText_of_refuses refuses text own

/-- Flattening is compositional, goes one level deep and keeps the order: the strings of a list of
arguments are those of its two parts, a vector of values that make no vectors means what the values do
by themselves, a vector that holds a value without a string fails wherever it stands, and where nothing
fails every string is that of an argument or of an item of one. -/
theorem strings_flatten (mode : Mode) :
    (∀ arguments others,
        mode.strings (arguments ++ others) = do
          let texts ← mode.strings arguments
          let otherTexts ← mode.strings others
          return texts ++ otherTexts) ∧
      (∀ items, (∀ item ∈ items, mode.accepted? item = none) → ∀ texts,
        mode.strings [.vector items] = .ok texts ↔ mode.strings items = .ok texts) ∧
      (∀ arguments items item, .vector items ∈ arguments → item ∈ items → mode.Refuses item →
        ∃ message, mode.strings arguments = .error (.coercion message)) ∧
      ∀ arguments texts,
        mode.strings arguments = .ok texts ↔ mode.FlattenedTo arguments texts :=
  ⟨strings_append, fun _ alone _ => strings_vector_iff alone, fun _ _ _ => strings_of_refused,
    fun _ _ => flattenedTo_iff⟩

/-- An empty object is an empty vector by itself in the humane mode, and no string inside a vector. Null
is an empty vector by itself, and an empty string there. -/
theorem strings_flatten_mixed :
    humane.strings [.vector [.integer 7, .string "a"]] = .ok ["7", "a"] ∧
      (∃ message, humane.strings [.string "a", .vector [.null, .object []]] =
        .error (.coercion message)) ∧
      humane.FlattenedTo [.object [], .null, .vector [.null, .bool true], .string "a"]
        ["", "true", "a"] := by
  obtain ⟨-, together, refused, flattened⟩ := strings_flatten humane
  refine ⟨?_, ?_, (flattened _ _).mp rfl⟩
  · have alone : ∀ item ∈ [.integer 7, .string "a"], humane.accepted? item = none :=
      List.forall_mem_cons.mpr ⟨rfl, List.forall_mem_singleton.mpr rfl⟩
    exact (together _ alone ["7", "a"]).mpr rfl
  · exact refused _ [.null, .object []] (.object []) (.tail _ (.head _)) (.tail _ (.head _))
      (.inl rfl)

end HostValue.Mode
