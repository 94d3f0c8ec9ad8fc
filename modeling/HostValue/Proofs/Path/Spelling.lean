import HostValue.Path.Basic
import HostValue.Proofs.Text.Run

/-!
# Paths through their texts

Which texts spell a path: keys in which no point and no opening bracket stands, positions between
brackets, and points before, between and behind these. The reader accepts the texts that spell a path
of at most a hundred segments. What it reads is found again in the text that it is rendered as.
-/

namespace HostValue.Path

open Text

/-! ### Spelled paths -/

/-- A key that ends where a point or an opening bracket follows it: it is not empty and has neither of
them. -/
def NormalKey (name : String) : Prop :=
  name ≠ "" ∧ '.' ∉ name.toList ∧ '[' ∉ name.toList

/-- A path whose text leads back to it: of at most a hundred segments, and with normal keys. -/
structure Normal (path : Path) : Prop where
  short : path.length ≤ 100
  keys : ∀ name, .key name ∈ path → NormalKey name

instance (name : String) : Decidable (NormalKey name) :=
  inferInstanceAs (Decidable (_ ∧ _))

/-- The text between two brackets gives a position: the digits of a number of sixty-four bits, which
may stand behind a plus sign and between blanks. -/
def GivesPosition (body : List Char) (position : UInt64) : Prop :=
  ∃ before sign digits after, (∀ c ∈ before, isBlank c = true) ∧ (∀ c ∈ after, isBlank c = true) ∧
    (sign = [] ∨ sign = ['+']) ∧ isNumeral digits = true ∧ digitsValue digits = position.toNat ∧
    body = before ++ (sign ++ digits) ++ after

def isKeyChar (c : Char) : Bool :=
  c != '.' && c != '['

/-- What a text spells. A key goes on to the next point, to the next opening bracket or to the end. -/
inductive Spells : List Char → Path → Prop where
  | nil : Spells [] []
  | point {text : List Char} {path : Path} (spells : Spells text path) : Spells ('.' :: text) path
  | index {body text : List Char} {position : UInt64} {path : Path} (inside : ']' ∉ body)
      (gives : GivesPosition body position) (spells : Spells text path) :
      Spells ('[' :: (body ++ ']' :: text)) (.index position :: path)
  | key {name : String} {text : List Char} {path : Path} (normal : NormalKey name)
      (ends : EndsRun isKeyChar text) (spells : Spells text path) :
      Spells (name.toList ++ text) (.key name :: path)

/-- Every opening bracket has a closing one, with a position between the two. -/
inductive Bracketed : List Char → Prop where
  | nil : Bracketed []
  | other {c : Char} {text : List Char} (noBracket : c ≠ '[') (bracketed : Bracketed text) :
      Bracketed (c :: text)
  | group {body text : List Char} {position : UInt64} (inside : ']' ∉ body)
      (gives : GivesPosition body position) (bracketed : Bracketed text) :
      Bracketed ('[' :: (body ++ ']' :: text))

/-! ### Positions -/

private theorem fitting_eq_some_iff {digits : List Char} {position : UInt64} :
    (if isNumeral digits ∧ digitsValue digits < UInt64.size then
        some (digitsValue digits).toUInt64 else none) = some position ↔
      isNumeral digits = true ∧ digitsValue digits = position.toNat := by
  constructor
  · intro read
    split at read
    case isTrue both =>
        cases read
        exact ⟨both.1, (UInt64.toNat_ofNat_of_lt' both.2).symm⟩
    case isFalse => cases read
  · rintro ⟨numeral, value⟩
    have small : digitsValue digits < UInt64.size := value ▸ position.toNat_lt_size
    rw [if_pos ⟨numeral, small⟩, value]
    exact congrArg some UInt64.ofNat_toNat

private theorem parseUnsigned?_unsigned {text : List Char} (unsigned : text.head? ≠ some '+') :
    parseUnsigned? text =
      if isNumeral text ∧ digitsValue text < UInt64.size then
        some (digitsValue text).toUInt64 else none := by
  cases text with
  | nil => rfl
  | cons c rest =>
      have different : c ≠ '+' := fun same => unsigned (congrArg some same)
      simp [parseUnsigned?, different]

private theorem parseUnsigned?_eq_some_iff {text : List Char} {position : UInt64} :
    parseUnsigned? text = some position ↔
      ∃ sign digits, (sign = [] ∨ sign = ['+']) ∧ isNumeral digits = true ∧
        digitsValue digits = position.toNat ∧ text = sign ++ digits := by
  constructor
  · intro read
    by_cases plus : text.head? = some '+'
    · obtain ⟨rest, rfl⟩ := List.head?_eq_some_iff.mp plus
      obtain ⟨numeral, value⟩ := fitting_eq_some_iff.mp read
      exact ⟨['+'], rest, .inr rfl, numeral, value, rfl⟩
    · rw [parseUnsigned?_unsigned plus] at read
      obtain ⟨numeral, value⟩ := fitting_eq_some_iff.mp read
      exact ⟨[], text, .inl rfl, numeral, value, rfl⟩
  · rintro ⟨sign, digits, isSign, numeral, value, rfl⟩
    rcases isSign with rfl | rfl
    · have unsigned : digits.head? ≠ some '+' := by
        intro first
        have digit := ((isNumeral_iff digits).mp numeral).2 '+' (List.mem_of_head? first)
        revert digit
        decide
      rw [List.nil_append, parseUnsigned?_unsigned unsigned]
      exact fitting_eq_some_iff.mpr ⟨numeral, value⟩
    · exact fitting_eq_some_iff.mpr ⟨numeral, value⟩

theorem position_iff {body : List Char} {position : UInt64} :
    parseUnsigned? (trim body) = some position ↔ GivesPosition body position := by
  rw [parseUnsigned?_eq_some_iff]
  constructor
  · rintro ⟨sign, digits, isSign, numeral, value, trimmed⟩
    obtain ⟨before, after, beforeBlank, afterBlank, whole⟩ := exists_trim body
    rw [trimmed] at whole
    exact ⟨before, sign, digits, after, beforeBlank, afterBlank, isSign, numeral, value, whole⟩
  · rintro ⟨before, sign, digits, after, beforeBlank, afterBlank, isSign, numeral, value, rfl⟩
    have visible : ∀ c ∈ sign ++ digits, isBlank c = false := by
      intro c member
      rcases List.mem_append.mp member with inSign | inDigits
      · rcases isSign with rfl | rfl
        · cases inSign
        · rw [List.mem_singleton.mp inSign]
          rfl
      · exact visible_numeral numeral c inDigits
    have nonempty : sign ++ digits ≠ [] := by
      intro empty
      exact ((isNumeral_iff digits).mp numeral).1 (List.append_eq_nil_iff.mp empty).2
    refine ⟨sign, digits, isSign, numeral, value, ?_⟩
    exact trim_surrounded beforeBlank afterBlank nonempty visible

/-! ### Reading -/

def within (room : Nat) (path : Path) : Except ValueError Path :=
  if path.length ≤ room then .ok path
  else .error (.limitExceeded "path segments" maxSegments (maxSegments + 1))

private theorem emit_within (room : Nat) (segment : Segment) (path : Path) :
    emit room segment (fun room => within room path) = within room (segment :: path) := by
  cases room with
  | zero => rfl
  | succ room =>
      rw [emit, within, within, List.length_cons]
      by_cases short : path.length ≤ room
      · rw [if_pos short, if_pos (Nat.succ_le_succ short)]
      · rw [if_neg short, if_neg (fun bound => short (Nat.le_of_succ_le_succ bound))]

theorem isKeyChar_iff {c : Char} : isKeyChar c = true ↔ c ≠ '.' ∧ c ≠ '[' := by
  rw [isKeyChar, Bool.and_eq_true, bne_iff_ne, bne_iff_ne]

theorem normalKey_ofList {name : List Char} (nonempty : name ≠ [])
    (belong : ∀ c ∈ name, isKeyChar c = true) : NormalKey (String.ofList name) := by
  refine ⟨?_, ?_, ?_⟩
  · exact fun empty => nonempty (String.ofList_eq_empty_iff.mp empty)
  · rw [String.toList_ofList]
    exact fun member => (isKeyChar_iff.mp (belong _ member)).1 rfl
  · rw [String.toList_ofList]
    exact fun member => (isKeyChar_iff.mp (belong _ member)).2 rfl

section Reading

variable (whole : String)

theorem readSegments_keyChar {c : Char} (belongs : isKeyChar c = true) (room : Nat)
    (name rest : List Char) :
    readSegments whole room (.key name) (c :: rest) =
      readSegments whole room (.key (name ++ [c])) rest := by
  obtain ⟨noPoint, noBracket⟩ := isKeyChar_iff.mp belongs
  rw [readSegments, if_neg noPoint, if_neg noBracket]

private theorem readSegments_keyChars {others : List Char}
    (belong : ∀ c ∈ others, isKeyChar c = true)
    (room : Nat) (name rest : List Char) :
    readSegments whole room (.key name) (others ++ rest) =
      readSegments whole room (.key (name ++ others)) rest := by
  induction others generalizing name with
  | nil => rw [List.nil_append, List.append_nil]
  | cons c others ih =>
      obtain ⟨first, more⟩ := List.forall_mem_cons.mp belong
      rw [List.cons_append, readSegments_keyChar whole first, ih more, List.append_assoc,
        List.singleton_append]

theorem readSegments_keyEnd {text : List Char} (ends : EndsRun isKeyChar text) (room : Nat)
    (name : List Char) :
    readSegments whole room (.key name) text =
      emitKey room name (fun room => readSegments whole room (.key []) text) := by
  cases text with
  | nil => rfl
  | cons c rest =>
      have noKeyChar : ¬(c ≠ '.' ∧ c ≠ '[') := by
        rw [← isKeyChar_iff, ends c rfl]
        decide
      by_cases point : c = '.'
      · subst point
        rfl
      · have bracket : c = '[' := Classical.not_not.mp fun different => noKeyChar ⟨point, different⟩
        subst bracket
        rfl

private theorem readSegments_body {body : List Char} (inside : ']' ∉ body) (room : Nat)
    (front rest : List Char) :
    readSegments whole room (.index front) (body ++ ']' :: rest) =
      readSegments whole room (.index (front ++ body)) (']' :: rest) := by
  induction body generalizing front with
  | nil => rw [List.nil_append, List.append_nil]
  | cons c body ih =>
      obtain ⟨different, insideRest⟩ := List.ne_and_not_mem_of_not_mem_cons inside
      rw [List.cons_append, readSegments, if_neg (Ne.symm different), ih insideRest,
        List.append_assoc, List.singleton_append]

private theorem readSegments_position {body : List Char} {position : UInt64}
    (gives : GivesPosition body position) (room : Nat) (rest : List Char) :
    readSegments whole room (.index body) (']' :: rest) =
      emit room (.index position) (fun room => readSegments whole room (.key []) rest) := by
  rw [readSegments, if_pos rfl, position_iff.mpr gives]

theorem NormalKey.belong {name : String} (normal : NormalKey name) :
    ∀ c ∈ name.toList, isKeyChar c = true := by
  intro c member
  refine isKeyChar_iff.mpr ⟨?_, ?_⟩
  · rintro rfl
    exact normal.2.1 member
  · rintro rfl
    exact normal.2.2 member

theorem readSegments_spelled {text : List Char} {path : Path} (spells : Spells text path)
    (room : Nat) : readSegments whole room (.key []) text = within room path := by
  induction spells generalizing room with
  | nil => rfl
  | point _ ih => exact ih room
  | @index body text position path inside gives _ ih =>
      change readSegments whole room (.index []) (body ++ ']' :: text) = _
      rw [readSegments_body whole inside, List.nil_append, readSegments_position whole gives,
        funext ih, emit_within]
  | @key name text path normal ends _ ih =>
      have nonempty : name.toList.isEmpty = false := by
        rw [List.isEmpty_eq_false_iff]
        exact fun empty => normal.1 (String.toList_eq_nil_iff.mp empty)
      rw [readSegments_keyChars whole normal.belong, List.nil_append,
        readSegments_keyEnd whole ends, emitKey, nonempty, String.ofList_toList, funext ih]
      exact emit_within room (.key name) path

theorem emit_eq_ok {room : Nat} {segment : Segment} {rest : Nat → Except ValueError Path}
    {path : Path} (read : emit room segment rest = .ok path) :
    ∃ room others, rest room = .ok others ∧ path = segment :: others := by
  unfold emit at read
  split at read
  · cases read
  · split at read
    case h_1 room _ others below =>
        cases read
        exact ⟨room, others, below, rfl⟩
    case h_2 => cases read

private theorem spells_of_emitKey {room : Nat} {name text : List Char}
    {rest : Nat → Except ValueError Path}
    {path : Path} (belong : ∀ c ∈ name, isKeyChar c = true) (ends : EndsRun isKeyChar text)
    (below : ∀ room others, rest room = .ok others → Spells text others)
    (read : emitKey room name rest = .ok path) : Spells (name ++ text) path := by
  rw [emitKey] at read
  split at read
  case isTrue empty =>
      rw [List.isEmpty_iff.mp empty, List.nil_append]
      exact below room path read
  case isFalse nonempty =>
      obtain ⟨_, others, restRead, rfl⟩ := emit_eq_ok read
      have normal : NormalKey (String.ofList name) :=
        normalKey_ofList (fun empty => nonempty (List.isEmpty_iff.mpr empty)) belong
      have spells := Spells.key normal ends (below _ _ restRead)
      rwa [String.toList_ofList] at spells

private theorem spells_of_readSegments (text : List Char) :
    (∀ room name path, (∀ c ∈ name, isKeyChar c = true) →
        readSegments whole room (.key name) text = .ok path → Spells (name ++ text) path) ∧
      ∀ room body path, ']' ∉ body → readSegments whole room (.index body) text = .ok path →
        Spells ('[' :: (body ++ text)) path := by
  induction text with
  | nil =>
      refine ⟨fun room name path belong read => ?_, fun room body path _ read => ?_⟩
      · refine spells_of_emitKey belong (endsRun_nil _) ?_ read
        rintro _ _ ⟨⟩
        exact .nil
      · cases read
  | cons c rest ih =>
      obtain ⟨ihKey, ihIndex⟩ := ih
      refine ⟨fun room name path belong read => ?_, fun room body path inside read => ?_⟩
      · by_cases keyChar : isKeyChar c = true
        · rw [readSegments_keyChar whole keyChar] at read
          have longer : ∀ d ∈ name ++ [c], isKeyChar d = true :=
            List.forall_mem_append.mpr ⟨belong, List.forall_mem_singleton.mpr keyChar⟩
          have spells := ihKey room (name ++ [c]) path longer read
          rwa [List.append_assoc, List.singleton_append] at spells
        · have ends : EndsRun isKeyChar (c :: rest) :=
            endsRun_cons (Bool.eq_false_iff.mpr keyChar) rest
          rw [readSegments_keyEnd whole ends] at read
          refine spells_of_emitKey belong ends (fun room others below => ?_) read
          rw [isKeyChar_iff] at keyChar
          by_cases point : c = '.'
          · subst point
            exact .point (ihKey room [] others (by simp) below)
          · have bracket : c = '[' :=
              Classical.not_not.mp fun different => keyChar ⟨point, different⟩
            subst bracket
            exact ihIndex room [] others (by simp) below
      · by_cases closing : c = ']'
        · subst closing
          rw [readSegments, if_pos rfl] at read
          split at read
          case h_1 position gives =>
              obtain ⟨room, others, below, rfl⟩ := emit_eq_ok read
              exact .index inside (position_iff.mp gives) (ihKey room [] others (by simp) below)
          case h_2 => cases read
        · rw [readSegments, if_neg closing] at read
          have longer : ']' ∉ body ++ [c] :=
            List.not_mem_append inside (mt List.mem_singleton.mp (Ne.symm closing))
          have spells := ihIndex room (body ++ [c]) path longer read
          rwa [List.append_assoc, List.singleton_append] at spells

end Reading

theorem parse_spelled {text : String} {path : Path} (spells : Spells text.toList path) :
    parse text = within maxSegments path :=
  readSegments_spelled text spells maxSegments

theorem parse_eq_ok_iff {text : String} {path : Path} :
    parse text = .ok path ↔ Spells text.toList path ∧ path.length ≤ maxSegments := by
  constructor
  · intro read
    have spells := (spells_of_readSegments text text.toList).1 maxSegments [] path (by simp) read
    rw [List.nil_append] at spells
    rw [parse_spelled spells, within] at read
    split at read
    case isTrue short => exact ⟨spells, short⟩
    case isFalse => cases read
  · rintro ⟨spells, short⟩
    rw [parse_spelled spells, within, if_pos short]

/-! ### Texts that spell a path -/

private theorem Spells.unique {text : List Char} {path other : Path} (spells : Spells text path)
    (spellsOther : Spells text other) : path = other := by
  have same : within (path.length + other.length) path = within (path.length + other.length) other :=
    (readSegments_spelled "" spells _).symm.trans (readSegments_spelled "" spellsOther _)
  rw [within, within, if_pos (by omega), if_pos (by omega)] at same
  exact Except.ok.inj same

private theorem Spells.normalKeys {text : List Char} {path : Path} (spells : Spells text path) :
    ∀ name, .key name ∈ path → NormalKey name := by
  induction spells with
  | nil => simp
  | point _ ih => exact ih
  | index _ _ _ ih =>
      intro name member
      rcases List.mem_cons.mp member with same | member
      · cases same
      · exact ih name member
  | key normal _ _ ih =>
      intro name member
      rcases List.mem_cons.mp member with same | member
      · cases same
        exact normal
      · exact ih name member

private theorem givesPosition_render (position : UInt64) :
    GivesPosition (Nat.toDigits 10 position.toNat) position :=
  ⟨[], [], _, [], by simp, by simp, .inl rfl, isNumeral_toDigits _, digitsValue_toDigits _, by simp⟩

private theorem closing_not_mem_toDigits (n : Nat) : ']' ∉ Nat.toDigits 10 n := by
  intro member
  have digit := isDigit_of_mem_toDigits member
  revert digit
  decide

theorem render_cons_toList (segment : Segment) (path : Path) :
    (render (segment :: path)).toList = (renderSegment segment).toList ++ (render path).toList := by
  rw [render, List.map_cons, String.join_cons, String.toList_append]
  rfl

private theorem endsRun_render (path : Path) : EndsRun isKeyChar (render path).toList := by
  cases path with
  | nil => exact endsRun_nil _
  | cons segment path =>
      rw [render_cons_toList]
      cases segment with
      | key name =>
          rw [renderSegment, String.toList_append]
          exact endsRun_cons rfl _
      | index position =>
          rw [renderSegment, String.toList_append, String.toList_append]
          exact endsRun_cons rfl _

theorem spells_render {path : Path} (keys : ∀ name, .key name ∈ path → NormalKey name) :
    Spells (render path).toList path := by
  induction path with
  | nil => exact .nil
  | cons segment path ih =>
      have below := ih fun name member => keys name (List.mem_cons_of_mem _ member)
      rw [render_cons_toList]
      cases segment with
      | key name =>
          rw [renderSegment, String.toList_append, List.append_assoc]
          exact .point (.key (keys name List.mem_cons_self) (endsRun_render path) below)
      | index position =>
          have digits : (renderNat position.toNat).toList = Nat.toDigits 10 position.toNat :=
            String.toList_ofList
          rw [renderSegment, String.toList_append, String.toList_append, digits, List.append_assoc,
            List.append_assoc]
          exact .index (closing_not_mem_toDigits _) (givesPosition_render position) below

private theorem Spells.cons_keyChar {c : Char} (belongs : isKeyChar c = true) {text : List Char}
    {path : Path} (spells : Spells text path) : ∃ longer, Spells (c :: text) longer := by
  by_cases ends : EndsRun isKeyChar text
  · have alone : NormalKey (String.ofList [c]) := normalKey_ofList (by simp) (by simpa using belongs)
    have behind := Spells.key alone ends spells
    rw [String.toList_ofList] at behind
    exact ⟨_, behind⟩
  · cases spells with
    | nil => exact absurd (endsRun_nil _) ends
    | point => exact absurd (endsRun_cons rfl _) ends
    | index => exact absurd (endsRun_cons rfl _) ends
    | @key name text path normal endsKey below =>
        have longer : NormalKey (String.ofList (c :: name.toList)) := by
          refine normalKey_ofList (by simp) fun d member => ?_
          rcases List.mem_cons.mp member with rfl | member
          · exact belongs
          · exact normal.belong d member
        have spells := Spells.key longer endsKey below
        rw [String.toList_ofList] at spells
        exact ⟨_, spells⟩

private theorem exists_spells_of_bracketed {text : List Char} (bracketed : Bracketed text) :
    ∃ path, Spells text path := by
  induction bracketed with
  | nil => exact ⟨[], .nil⟩
  | @other c text noBracket _ ih =>
      obtain ⟨path, spells⟩ := ih
      by_cases point : c = '.'
      · subst point
        exact ⟨path, .point spells⟩
      · exact spells.cons_keyChar (isKeyChar_iff.mpr ⟨point, noBracket⟩)
  | group inside gives _ ih =>
      obtain ⟨path, spells⟩ := ih
      exact ⟨_, .index inside gives spells⟩

private theorem Bracketed.append {name text : List Char} (noBracket : '[' ∉ name)
    (bracketed : Bracketed text) : Bracketed (name ++ text) := by
  induction name with
  | nil => exact bracketed
  | cons c name ih =>
      obtain ⟨different, others⟩ := List.ne_and_not_mem_of_not_mem_cons noBracket
      exact .other (Ne.symm different) (ih others)

theorem bracketed_iff {text : List Char} : Bracketed text ↔ ∃ path, Spells text path := by
  constructor
  · exact exists_spells_of_bracketed
  · rintro ⟨path, spells⟩
    induction spells with
    | nil => exact .nil
    | point _ ih => exact .other (by decide) ih
    | index inside gives _ ih => exact .group inside gives ih
    | key normal _ _ ih => exact ih.append normal.2.2

/-! ### Main statement -/

/-- A normal path is read from its text; whatever is read is normal, so that its text is read as the
same path again; and a text whose brackets all enclose positions spells one path, which is read unless
it has more than a hundred segments. -/
theorem parse_inverts_render :
    (∀ path : Path, path.Normal → parse (render path) = .ok path) ∧
      (∀ text path, parse text = .ok path → path.Normal ∧ parse (render path) = .ok path) ∧
      ∀ text : String, Bracketed text.toList →
        ∃ path, Spells text.toList path ∧
          ((∃ error, parse text = .error error) ↔ 100 < path.length) ∧
          (path.length ≤ 100 → parse text = .ok path) ∧
          (100 < path.length → parse text = .error (.limitExceeded "path segments" 100 101)) := by
  have inverts (path : Path) (normal : path.Normal) : parse (render path) = .ok path :=
    parse_eq_ok_iff.mpr ⟨spells_render normal.keys, normal.short⟩
  refine ⟨inverts, fun text path read => ?_, fun text bracketed => ?_⟩
  · obtain ⟨spells, short⟩ := parse_eq_ok_iff.mp read
    have normal : path.Normal := ⟨short, spells.normalKeys⟩
    exact ⟨normal, inverts path normal⟩
  · obtain ⟨path, spells⟩ := bracketed_iff.mp bracketed
    have read := parse_spelled spells
    rw [within] at read
    by_cases short : path.length ≤ maxSegments
    · rw [if_pos short] at read
      rw [maxSegments] at short
      refine ⟨path, spells, ?_, fun _ => read, fun long => absurd long (by omega)⟩
      rw [read]
      constructor
      · rintro ⟨_, ⟨⟩⟩
      · exact fun long => absurd long (by omega)
    · rw [if_neg short] at read
      rw [maxSegments] at short
      refine ⟨path, spells, ?_, fun bound => absurd bound (by omega), fun _ => read⟩
      exact ⟨fun _ => by omega, fun _ => ⟨_, read⟩⟩

/-- A closing bracket in a key, the greatest position, a needless point and a plus sign between
blanks, and one segment too many. -/
theorem parse_inverts_render_at_limits :
    parse ".a][18446744073709551615]. " =
        .ok [.key "a]", .index 18446744073709551615, .key " "] ∧
      parse "a.[ +07\t]b" = .ok [.key "a", .index 7, .key "b"] ∧
      parse ".a[7].b" = .ok [.key "a", .index 7, .key "b"] ∧
      parse (render (List.replicate 101 (.index 0))) =
        .error (.limitExceeded "path segments" 100 101) := by
  obtain ⟨inverts, again, limit⟩ := parse_inverts_render
  have read : parse "a.[ +07\t]b" = .ok [.key "a", .index 7, .key "b"] := rfl
  have normal : Path.Normal [.key "a]", .index 18446744073709551615, .key " "] :=
    ⟨by decide, by simp +decide⟩
  have spells : Spells (render (List.replicate 101 (.index 0))).toList
      (List.replicate 101 (.index 0)) :=
    spells_render fun name member => by cases (List.mem_replicate.mp member).2
  obtain ⟨path, spellsPath, -, -, refused⟩ := limit _ (bracketed_iff.mpr ⟨_, spells⟩)
  have long : 100 < path.length := by
    rw [spellsPath.unique spells, List.length_replicate]
    decide
  exact ⟨inverts _ normal, read, (again _ _ read).2, refused long⟩

end HostValue.Path
