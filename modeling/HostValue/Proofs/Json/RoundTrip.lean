import HostValue.Proofs.Json.NumberText
import HostValue.Proofs.Json.StringText
import HostValue.Proofs.Outcome
import HostValue.Proofs.Value.Entries
import HostValue.Proofs.Value.Parts

/-!
# Reading back what was written as JSON

The text of plain data describes a tree that means the data again. The reader takes the text off the
front of whatever follows it, at every place where collections may still lie as deep as those of the
data, and refuses it at all other places.
-/

namespace HostValue.Json

open Text

/-! ### Texts of trees -/

def isSpacing (c : Char) : Bool :=
  c == ' ' || c == '\n' || c == '\t' || c == '\r'

theorem skipBlanks_cons {c : Char} (visible : isSpacing c = false) (rest : List Char) :
    skipBlanks (c :: rest) = c :: rest := by
  unfold isSpacing at visible
  rw [skipBlanks, List.dropWhile_cons_of_neg (by simp [visible])]

/-- The text starts with a character that is neither spacing nor closes a collection. -/
def StartsTree (text : List Char) : Prop :=
  ∃ c others, text = c :: others ∧ isSpacing c = false ∧ c ≠ ']' ∧ c ≠ '}'

/-- The text is read as the tree in front of everything that does not go on with a number, where
collections may lie as deep as the height, and nowhere else. -/
structure ReadAs (text : List Char) (json : Json) (height : Nat) : Prop where
  starts : StartsTree text
  read {fuel : Nat} (enough : 2 * text.length ≤ fuel) (depth : Nat) {rest : List Char}
    (ends : EndsRun continuesNumber rest) :
    readValue fuel depth (text ++ rest) = if height ≤ depth then some (json, rest) else none

theorem ReadAs.leaf {text : List Char} {json : Json} (starts : StartsTree text)
    (read : ∀ fuel depth rest, EndsRun continuesNumber rest →
      readValue (fuel + 1) depth (text ++ rest) = some (json, rest)) : ReadAs text json 0 := by
  refine ⟨starts, fun {fuel} enough depth {rest} ends => ?_⟩
  obtain ⟨c, others, rfl, -⟩ := starts
  rw [List.length_cons] at enough
  obtain ⟨fuel, rfl⟩ := Nat.exists_eq_succ_of_ne_zero (n := fuel) (by omega)
  rw [read fuel depth rest ends, if_pos (Nat.zero_le depth)]

private theorem readAs_null : ReadAs "null".toList .null 0 :=
  .leaf ⟨'n', "ull".toList, rfl, rfl, by decide, by decide⟩ fun _ _ _ _ => rfl

private theorem readAs_bool (flag : Bool) :
    ReadAs (if flag then "true" else "false").toList (.bool flag) 0 := by
  cases flag with
  | false => exact .leaf ⟨'f', "alse".toList, rfl, rfl, by decide, by decide⟩ fun _ _ _ _ => rfl
  | true => exact .leaf ⟨'t', "rue".toList, rfl, rfl, by decide, by decide⟩ fun _ _ _ _ => rfl

private theorem readAs_string (text : String) : ReadAs (writeString text) (.string text) 0 :=
  .leaf ⟨'"', _, rfl, rfl, by decide, by decide⟩ fun fuel depth rest _ =>
    readValue_writeString fuel depth text rest

theorem isSpacing_number {c : Char} (starts : StartsNumber c) : isSpacing c = false := by
  simp [isSpacing, starts.ne]

private theorem readValue_number {c : Char} (starts : StartsNumber c) (fuel depth : Nat)
    (rest : List Char) : readValue (fuel + 1) depth (c :: rest) = readNumber (c :: rest) := by
  unfold readValue
  rw [skipBlanks_cons (isSpacing_number starts)]
  split
  case h_7 => rfl
  all_goals
    next same => exact absurd (List.cons.inj same).1 (starts.ne rfl (by decide))

private theorem readAs_integer (number : Int64) :
    ReadAs (renderInt number.toInt).toList (ofInteger number) 0 := by
  obtain ⟨c, others, same, starts⟩ := renderInt_starts number.toInt
  have visible : StartsTree (renderInt number.toInt).toList :=
    ⟨c, others, same, isSpacing_number starts, starts.ne rfl (by decide),
      starts.ne rfl (by decide)⟩
  refine .leaf visible fun fuel depth rest ends => ?_
  have read := readNumber_renderInt number ends
  rw [same, List.cons_append] at read ⊢
  rw [readValue_number starts, read]

theorem StartsTree.append {text : List Char} (starts : StartsTree text) (rest : List Char) :
    StartsTree (text ++ rest) := by
  obtain ⟨c, others, rfl, visible⟩ := starts
  exact ⟨c, others ++ rest, rfl, visible⟩

theorem intercalate_comma_cons (text : List Char) {texts : List (List Char)}
    (starts : StartsTree ([','].intercalate texts)) :
    [','].intercalate (text :: texts) = text ++ ',' :: [','].intercalate texts := by
  cases texts with
  | nil =>
      obtain ⟨_, _, empty, _⟩ := starts
      cases empty
  | cons second others =>
      rw [List.intercalate_cons_cons, List.append_assoc, List.singleton_append]

/-! ### Items -/

structure ItemsReadAs (text : List Char) (jsons : List Json) (height : Nat) : Prop where
  starts : StartsTree text
  read {fuel : Nat} (enough : 2 * text.length < fuel) (depth : Nat) (rest : List Char) :
    readItems fuel depth (text ++ ']' :: rest) =
      if height ≤ depth then some (jsons, rest) else none

theorem readItems_item (fuel depth : Nat) (text : List Char) :
    readItems (fuel + 1) depth text =
      (readValue fuel depth text).bind fun found =>
        match skipBlanks found.2 with
        | ',' :: others =>
          (readItems fuel depth others).bind fun more => some (found.1 :: more.1, more.2)
        | ']' :: others => some ([found.1], others)
        | _ => none := by
  rw [readItems]
  rfl

private theorem ItemsReadAs.single {text : List Char} {json : Json} {height : Nat}
    (item : ReadAs text json height) : ItemsReadAs text [json] (max height 0) := by
  refine ⟨item.starts, fun {fuel} enough depth rest => ?_⟩
  obtain ⟨fuel, rfl⟩ := Nat.exists_eq_succ_of_ne_zero (n := fuel) (by omega)
  rw [readItems_item, item.read (by omega) depth (endsRun_cons rfl rest)]
  exact bind_within rfl

private theorem ItemsReadAs.cons {text body : List Char} {json : Json} {jsons : List Json}
    {height others : Nat} (item : ReadAs text json height) (more : ItemsReadAs body jsons others) :
    ItemsReadAs (text ++ ',' :: body) (json :: jsons) (max height others) := by
  refine ⟨item.starts.append _, fun {fuel} enough depth rest => ?_⟩
  rw [List.length_append, List.length_cons] at enough
  obtain ⟨fuel, rfl⟩ := Nat.exists_eq_succ_of_ne_zero (n := fuel) (by omega)
  rw [List.append_assoc, List.cons_append, readItems_item,
    item.read (by omega) depth (endsRun_cons rfl _)]
  apply bind_within
  change (readItems fuel depth (body ++ ']' :: rest)).bind _ = _
  rw [more.read (by omega) depth rest]
  split
  · rfl
  · rfl

/-! ### Entries -/

structure EntriesReadAs (text : List Char) (jsons : List (String × Json)) (height : Nat) : Prop where
  starts : StartsTree text
  read {fuel : Nat} (enough : 2 * text.length < fuel) (depth : Nat) (rest : List Char) :
    readEntries fuel depth (text ++ '}' :: rest) =
      if height ≤ depth then some (jsons, rest) else none

theorem startsTree_key (key : String) (rest : List Char) : StartsTree (writeString key ++ rest) :=
  ⟨'"', _, rfl, rfl, by decide, by decide⟩

theorem readEntries_key (fuel depth : Nat) (key : String) (rest : List Char) :
    readEntries (fuel + 1) depth (writeString key ++ ':' :: rest) =
      (readValue fuel depth rest).bind fun found =>
        match skipBlanks found.2 with
        | ',' :: others =>
          (readEntries fuel depth others).bind fun more =>
            some ((key, found.1) :: more.1, more.2)
        | '}' :: others => some ([(key, found.1)], others)
        | _ => none := by
  have quoted (body : List Char) : skipBlanks ('"' :: body) = '"' :: body := rfl
  have behind : skipBlanks (':' :: rest) = ':' :: rest := rfl
  rw [readEntries, writeString, List.append_assoc, List.cons_append, quoted,
    List.singleton_append]
  simp only [readString_flatMap_writeChar, Option.bind_eq_bind, Option.bind_some, behind,
    String.ofList_toList]
  rfl

private theorem EntriesReadAs.single {text : List Char} {json : Json} {height : Nat} (key : String)
    (value : ReadAs text json height) :
    EntriesReadAs (writeString key ++ ':' :: text) [(key, json)] (max height 0) := by
  refine ⟨startsTree_key key _, fun {fuel} enough depth rest => ?_⟩
  rw [List.length_append, List.length_cons] at enough
  obtain ⟨fuel, rfl⟩ := Nat.exists_eq_succ_of_ne_zero (n := fuel) (by omega)
  rw [List.append_assoc, List.cons_append, readEntries_key,
    value.read (by omega) depth (endsRun_cons rfl rest)]
  exact bind_within rfl

private theorem EntriesReadAs.cons {text body : List Char} {json : Json}
    {jsons : List (String × Json)}
    {height others : Nat} (key : String) (value : ReadAs text json height)
    (more : EntriesReadAs body jsons others) :
    EntriesReadAs (writeString key ++ ':' :: text ++ ',' :: body) ((key, json) :: jsons)
      (max height others) := by
  refine ⟨(startsTree_key key _).append _, fun {fuel} enough depth rest => ?_⟩
  rw [List.length_append, List.length_append, List.length_cons, List.length_cons] at enough
  obtain ⟨fuel, rfl⟩ := Nat.exists_eq_succ_of_ne_zero (n := fuel) (by omega)
  rw [List.append_assoc, List.append_assoc, List.cons_append, List.cons_append, readEntries_key,
    value.read (by omega) depth (endsRun_cons rfl _)]
  apply bind_within
  change (readEntries fuel depth (body ++ '}' :: rest)).bind _ = _
  rw [more.read (by omega) depth rest]
  split
  · rfl
  · rfl

/-! ### Collections -/

private theorem readValue_array {body : List Char} (starts : StartsTree body) (fuel depth : Nat) :
    readValue (fuel + 1) (depth + 1) ('[' :: body) =
      (readItems fuel depth body).bind fun found => some (.array found.1, found.2) := by
  obtain ⟨c, others, rfl, visible, notClosed, -⟩ := starts
  have first : skipBlanks ('[' :: c :: others) = '[' :: c :: others := rfl
  rw [readValue, first]
  split
  case h_5 rest same =>
    obtain ⟨-, rfl⟩ := List.cons.inj same
    dsimp only
    rw [skipBlanks_cons visible]
    split
    · next closed => exact absurd (List.cons.inj closed).1 notClosed
    · rfl
  all_goals simp_all

private theorem readValue_object {body : List Char} (starts : StartsTree body) (fuel depth : Nat) :
    readValue (fuel + 1) (depth + 1) ('{' :: body) =
      (readEntries fuel depth body).bind fun found => some (.object found.1, found.2) := by
  obtain ⟨c, others, rfl, visible, -, notClosed⟩ := starts
  have first : skipBlanks ('{' :: c :: others) = '{' :: c :: others := rfl
  rw [readValue, first]
  split
  case h_6 rest same =>
    obtain ⟨-, rfl⟩ := List.cons.inj same
    dsimp only
    rw [skipBlanks_cons visible]
    split
    · next closed => exact absurd (List.cons.inj closed).1 notClosed
    · rfl
  all_goals simp_all

theorem ReadAs.collection {mark : Char} {inside : List Char} {json : Json} {height : Nat}
    (visible : isSpacing mark = false) (opens : mark ≠ ']' ∧ mark ≠ '}')
    (refused : ∀ fuel rest, readValue (fuel + 1) 0 (mark :: inside ++ rest) = none)
    (read : ∀ fuel depth rest, 2 * inside.length < fuel + 1 →
      readValue (fuel + 1) (depth + 1) (mark :: inside ++ rest) =
        if height ≤ depth then some (json, rest) else none) :
    ReadAs (mark :: inside) json (height + 1) := by
  refine ⟨⟨mark, inside, rfl, visible, opens⟩, fun {fuel} enough depth {rest} _ => ?_⟩
  rw [List.length_cons] at enough
  obtain ⟨fuel, rfl⟩ := Nat.exists_eq_succ_of_ne_zero (n := fuel) (by omega)
  cases depth with
  | zero => exact refused fuel rest
  | succ depth =>
      rw [read fuel depth rest (by omega)]
      simp only [Nat.add_le_add_iff_right]

private theorem readAs_array_nil : ReadAs ['[', ']'] (.array []) 1 :=
  .collection rfl (by decide) (fun _ _ => rfl) fun _ _ _ _ => rfl

private theorem readAs_object_nil : ReadAs ['{', '}'] (.object []) 1 :=
  .collection rfl (by decide) (fun _ _ => rfl) fun _ _ _ _ => rfl

private theorem ItemsReadAs.array {body : List Char} {jsons : List Json} {height : Nat}
    (items : ItemsReadAs body jsons height) :
    ReadAs ('[' :: (body ++ [']'])) (.array jsons) (height + 1) := by
  refine .collection rfl (by decide) (fun _ _ => rfl) fun fuel depth rest enough => ?_
  rw [List.length_append, List.length_singleton] at enough
  rw [List.cons_append, List.append_assoc, List.singleton_append,
    readValue_array (items.starts.append _), items.read (by omega) depth rest]
  split
  · rfl
  · rfl

private theorem EntriesReadAs.object {body : List Char} {jsons : List (String × Json)}
    {height : Nat}
    (entries : EntriesReadAs body jsons height) :
    ReadAs ('{' :: (body ++ ['}'])) (.object jsons) (height + 1) := by
  refine .collection rfl (by decide) (fun _ _ => rfl) fun fuel depth rest enough => ?_
  rw [List.length_append, List.length_singleton] at enough
  rw [List.cons_append, List.append_assoc, List.singleton_append,
    readValue_object (entries.starts.append _), entries.read (by omega) depth rest]
  split
  · rfl
  · rfl

/-! ### Values -/

/-- What is written for the value is read as a tree that means the value. -/
def Inverted (value : Value) : Prop :=
  ∃ text json, write value = .ok text ∧ json.toNode.toValue = .ok value ∧
    ReadAs text json value.depth

private theorem writeItems_inverted {items : List Value} (nonempty : items ≠ [])
    (inverted : ∀ item ∈ items, Inverted item) :
    ∃ texts jsons, writeItems items = .ok texts ∧
      nodesToValues (itemNodes jsons) = .ok items ∧
      ItemsReadAs ([','].intercalate texts) jsons (itemsDepth items) := by
  induction items with
  | nil => exact absurd rfl nonempty
  | cons item rest ih =>
      obtain ⟨first, others⟩ := List.forall_mem_cons.mp inverted
      obtain ⟨text, json, written, means, read⟩ := first
      cases rest with
      | nil =>
          refine ⟨[text], [json], ?_, ?_, ?_⟩
          · rw [writeItems, written, writeItems]
          · rw [itemNodes, nodesToValues, means, itemNodes, nodesToValues]
          · rw [List.intercalate_singleton]
            exact .single read
      | cons next more =>
          obtain ⟨texts, jsons, restWritten, restMeans, restRead⟩ := ih (by simp) others
          refine ⟨text :: texts, json :: jsons, ?_, ?_, ?_⟩
          · rw [writeItems, written, restWritten]
          · rw [itemNodes, nodesToValues, means, restMeans]
          · rw [intercalate_comma_cons text restRead.starts]
            exact .cons read restRead

private theorem writeEntries_inverted {entries : Entries} (nonempty : entries ≠ [])
    (inverted : ∀ key value, (key, value) ∈ entries → Inverted value) :
    ∃ texts jsons, writeEntries entries = .ok texts ∧
      nodesToPairs (entryNodes jsons) = .ok entries ∧
      EntriesReadAs ([','].intercalate texts) jsons (entriesDepth entries) := by
  induction entries with
  | nil => exact absurd rfl nonempty
  | cons entry rest ih =>
      obtain ⟨key, value⟩ := entry
      obtain ⟨text, json, written, means, read⟩ := inverted key value List.mem_cons_self
      cases rest with
      | nil =>
          refine ⟨[writeString key ++ ':' :: text], [(key, json)], ?_, ?_, ?_⟩
          · rw [writeEntries, written, writeEntries]
          · rw [entryNodes, nodesToPairs, DataNode.toText, means, entryNodes, nodesToPairs]
          · rw [List.intercalate_singleton]
            exact .single key read
      | cons next more =>
          obtain ⟨texts, jsons, restWritten, restMeans, restRead⟩ :=
            ih (by simp) fun key value member => inverted key value (List.mem_cons_of_mem _ member)
          refine ⟨(writeString key ++ ':' :: text) :: texts, (key, json) :: jsons, ?_, ?_, ?_⟩
          · rw [writeEntries, written, restWritten]
          · rw [entryNodes, nodesToPairs, DataNode.toText, means, restMeans]
          · rw [intercalate_comma_cons _ restRead.starts]
            exact .cons key read restRead

private theorem inverted_vector {items : List Value} (inverted : ∀ item ∈ items, Inverted item) :
    Inverted (.vector items) := by
  cases items with
  | nil => exact ⟨['[', ']'], .array [], rfl, rfl, readAs_array_nil⟩
  | cons item rest =>
      obtain ⟨texts, jsons, written, means, read⟩ := writeItems_inverted (by simp) inverted
      refine ⟨'[' :: ([','].intercalate texts ++ [']']), .array jsons, ?_, ?_, read.array⟩
      · rw [write, written]
        rfl
      · rw [toNode, DataNode.toValue, means]

private theorem inverted_object {entries : Entries} (distinct : entries.Distinct)
    (inverted : ∀ key value, (key, value) ∈ entries → Inverted value) :
    Inverted (.object entries) := by
  cases entries with
  | nil => exact ⟨['{', '}'], .object [], rfl, rfl, readAs_object_nil⟩
  | cons entry rest =>
      obtain ⟨texts, jsons, written, means, read⟩ := writeEntries_inverted (by simp) inverted
      refine ⟨'{' :: ([','].intercalate texts ++ ['}']), .object jsons, ?_, ?_, read.object⟩
      · rw [write, written]
        rfl
      · rw [toNode, DataNode.toValue, means]
        dsimp only
        rw [Entries.ofPairs_eq_self distinct]

private theorem inverted (value : Value) (plain : value.Plain) (distinct : value.DistinctKeys) :
    Inverted value := by
  refine plain.induction ?null ?bool ?integer ?string ?vector ?object distinct
  case null => exact ⟨_, _, rfl, rfl, readAs_null⟩
  case bool => exact fun flag => ⟨_, _, rfl, rfl, readAs_bool flag⟩
  case integer => exact fun number => ⟨_, _, rfl, toValue_ofInteger number, readAs_integer number⟩
  case string => exact fun text => ⟨_, _, rfl, rfl, readAs_string text⟩
  case vector => exact fun _ => inverted_vector
  case object => exact fun _ => inverted_object

end HostValue.Json

namespace HostValue.Value

/-- Plain data is written as a JSON text from which it is decoded again, with every integer an
integer, every text the same and all keys in their order, if at most 127 of its collections enclose
one another; the text of deeper data is refused. -/
theorem ofJson?_toJson {value : Value} (plain : value.Plain) (distinct : value.DistinctKeys) :
    ∃ text, value.toJson = .ok text ∧
      ofJson? text = if value.depth ≤ 127 then some value else none := by
  obtain ⟨text, json, written, means, read⟩ := Json.inverted value plain distinct
  refine ⟨String.ofList text, ?_, ?_⟩
  · rw [toJson, written]
  · have whole := read.read (Nat.le_add_right _ 2) Json.maxDepth (Text.endsRun_nil _)
    rw [List.append_nil, Json.maxDepth] at whole
    rw [ofJson?, Json.parse?, String.toList_ofList, Json.maxDepth, whole]
    by_cases shallow : value.depth ≤ 127
    · rw [if_pos shallow, if_pos shallow]
      have blank : Json.skipBlanks [] = [] := rfl
      simp only [blank, List.isEmpty_nil, means, ↓reduceIte]
    · rw [if_neg shallow, if_neg shallow]

/-- The integers at both ends of their range, a text and keys with all kinds of escapes, and empty
collections. -/
theorem ofJson?_toJson_extremes :
    ofJson? ("\x7b\"k\\u0001\\\"\":[-9223372036854775808,9223372036854775807,null,true," ++
        "\x7b\x7d],\"\":\"\\\\\\n/é\"\x7d") =
      some (.object
        [("k\x01\"", .vector [.integer Int64.minValue, .integer Int64.maxValue, .null, .bool true,
          .object []]), ("", .string "\\\n/é")]) := by
  have plain : Plain (.object
      [("k\x01\"", .vector [.integer Int64.minValue, .integer Int64.maxValue, .null, .bool true,
        .object []]), ("", .string "\\\n/é")]) := by decide
  obtain ⟨text, written, decoded⟩ := ofJson?_toJson plain (by decide)
  cases written
  exact decoded

end HostValue.Value
