import HostValue.Text.Quoted

/-!
# Sets of strings

A set of strings is the strictly increasing list of its members, so two sets with the same members
are equal. Strings are ordered by their characters, which is the order of their UTF-8 bytes. The
statements on membership say what each operation does to the members.
-/

namespace HostValue

@[ext] structure StringSet where
  members : List String
  increasing : members.Pairwise (· < ·)
  deriving DecidableEq

namespace StringSet

/-! ### Sorted lists -/

def insertMember (item : String) : List String → List String
  | [] => [item]
  | member :: rest =>
    if item < member then item :: member :: rest
    else if item = member then member :: rest
    else member :: insertMember item rest

def mergeMembers : List String → List String → List String
  | [], right => right
  | left, [] => left
  | x :: left, y :: right =>
    if x < y then x :: mergeMembers left (y :: right)
    else if x = y then x :: mergeMembers left right
    else y :: mergeMembers (x :: left) right
termination_by left right => left.length + right.length

def mergeUnshared : List String → List String → List String
  | [], right => right
  | left, [] => left
  | x :: left, y :: right =>
    if x < y then x :: mergeUnshared left (y :: right)
    else if x = y then mergeUnshared left right
    else y :: mergeUnshared (x :: left) right
termination_by left right => left.length + right.length

theorem lt_of_not_lt_of_ne {x y : String} (notLess : ¬x < y) (different : x ≠ y) : y < x := by
  rcases Decidable.em (y < x) with less | notGreater
  · exact less
  · exact absurd (String.le_antisymm (String.not_lt.mp notGreater) (String.not_lt.mp notLess)) different

theorem lt_all_of_lt {least head : String} {rest : List String} (less : least < head)
    (increasing : (head :: rest).Pairwise (· < ·)) : ∀ member ∈ head :: rest, least < member := by
  intro member present
  rcases List.mem_cons.mp present with rfl | present
  · exact less
  · exact String.lt_trans less ((List.pairwise_cons.mp increasing).1 member present)

theorem mem_insertMember {item member : String} {members : List String} :
    member ∈ insertMember item members ↔ member = item ∨ member ∈ members := by
  induction members with
  | nil => simp [insertMember]
  | cons head rest ih =>
    unfold insertMember
    split
    · simp
    · split
      · next same => simp [same]
      · simp only [List.mem_cons, ih]
        grind

private theorem insertMember_increasing {item : String} {members : List String}
    (increasing : members.Pairwise (· < ·)) : (insertMember item members).Pairwise (· < ·) := by
  induction members with
  | nil => simp [insertMember]
  | cons head rest ih =>
    obtain ⟨above, restIncreasing⟩ := List.pairwise_cons.mp increasing
    unfold insertMember
    split
    · next less => exact List.pairwise_cons.mpr ⟨lt_all_of_lt less increasing, increasing⟩
    · next notLess =>
      split
      · exact increasing
      · next different =>
        refine List.pairwise_cons.mpr ⟨?_, ih restIncreasing⟩
        intro member present
        rcases mem_insertMember.mp present with rfl | present
        · exact lt_of_not_lt_of_ne notLess different
        · exact above member present

theorem mem_mergeMembers {member : String} {left right : List String} :
    member ∈ mergeMembers left right ↔ member ∈ left ∨ member ∈ right := by
  fun_induction mergeMembers left right with
  | case1 => simp
  | case2 => simp
  | case3 x left y right less ih => simp only [List.mem_cons, ih]; grind
  | case4 left y right irreflexive ih => simp only [List.mem_cons, ih]; grind
  | case5 x left y right notLess different ih => simp only [List.mem_cons, ih]; grind

private theorem mergeMembers_increasing {left right : List String}
    (leftIncreasing : left.Pairwise (· < ·))
    (rightIncreasing : right.Pairwise (· < ·)) : (mergeMembers left right).Pairwise (· < ·) := by
  fun_induction mergeMembers left right with
  | case1 => exact rightIncreasing
  | case2 => exact leftIncreasing
  | case3 x left y right less ih =>
    obtain ⟨above, rest⟩ := List.pairwise_cons.mp leftIncreasing
    refine List.pairwise_cons.mpr ⟨?_, ih rest rightIncreasing⟩
    intro member present
    rcases mem_mergeMembers.mp present with present | present
    · exact above member present
    · exact lt_all_of_lt less rightIncreasing member present
  | case4 left y right irreflexive ih =>
    obtain ⟨above, rest⟩ := List.pairwise_cons.mp leftIncreasing
    obtain ⟨aboveRight, restRight⟩ := List.pairwise_cons.mp rightIncreasing
    refine List.pairwise_cons.mpr ⟨?_, ih rest restRight⟩
    intro member present
    rcases mem_mergeMembers.mp present with present | present
    · exact above member present
    · exact aboveRight member present
  | case5 x left y right notLess different ih =>
    obtain ⟨aboveRight, restRight⟩ := List.pairwise_cons.mp rightIncreasing
    have less := lt_of_not_lt_of_ne notLess different
    refine List.pairwise_cons.mpr ⟨?_, ih leftIncreasing restRight⟩
    intro member present
    rcases mem_mergeMembers.mp present with present | present
    · exact lt_all_of_lt less leftIncreasing member present
    · exact aboveRight member present

private theorem mem_of_mem_mergeUnshared {member : String} {left right : List String}
    (present : member ∈ mergeUnshared left right) : member ∈ left ∨ member ∈ right := by
  fun_induction mergeUnshared left right with
  | case1 => exact Or.inr present
  | case2 => exact Or.inl present
  | case3 x left y right less ih => grind
  | case4 left y right irreflexive ih => grind
  | case5 x left y right notLess different ih => grind

private theorem mergeUnshared_increasing {left right : List String}
    (leftIncreasing : left.Pairwise (· < ·))
    (rightIncreasing : right.Pairwise (· < ·)) : (mergeUnshared left right).Pairwise (· < ·) := by
  fun_induction mergeUnshared left right with
  | case1 => exact rightIncreasing
  | case2 => exact leftIncreasing
  | case3 x left y right less ih =>
    obtain ⟨above, rest⟩ := List.pairwise_cons.mp leftIncreasing
    refine List.pairwise_cons.mpr ⟨?_, ih rest rightIncreasing⟩
    intro member present
    rcases mem_of_mem_mergeUnshared present with present | present
    · exact above member present
    · exact lt_all_of_lt less rightIncreasing member present
  | case4 left y right irreflexive ih =>
    exact ih (List.pairwise_cons.mp leftIncreasing).2 (List.pairwise_cons.mp rightIncreasing).2
  | case5 x left y right notLess different ih =>
    obtain ⟨aboveRight, restRight⟩ := List.pairwise_cons.mp rightIncreasing
    have less := lt_of_not_lt_of_ne notLess different
    refine List.pairwise_cons.mpr ⟨?_, ih leftIncreasing restRight⟩
    intro member present
    rcases mem_of_mem_mergeUnshared present with present | present
    · exact lt_all_of_lt less leftIncreasing member present
    · exact aboveRight member present

/-! ### Sets -/

instance : Membership String StringSet where
  mem set item := item ∈ set.members

instance (item : String) (set : StringSet) : Decidable (item ∈ set) :=
  inferInstanceAs (Decidable (item ∈ set.members))

def empty : StringSet :=
  ⟨[], List.Pairwise.nil⟩

def toList (set : StringSet) : List String :=
  set.members

def size (set : StringSet) : Nat :=
  set.members.length

def insert (set : StringSet) (item : String) : StringSet :=
  ⟨insertMember item set.members, insertMember_increasing set.increasing⟩

def insertAll (set : StringSet) (items : List String) : StringSet :=
  items.foldl insert set

def filter (set : StringSet) (test : String → Bool) : StringSet :=
  ⟨set.members.filter test, set.increasing.filter test⟩

def erase (set : StringSet) (item : String) : StringSet :=
  set.filter (· != item)

def eraseAll (set : StringSet) (items : List String) : StringSet :=
  items.foldl erase set

def ofList (items : List String) : StringSet :=
  empty.insertAll items

def union (left right : StringSet) : StringSet :=
  ⟨mergeMembers left.members right.members, mergeMembers_increasing left.increasing right.increasing⟩

def intersection (left right : StringSet) : StringSet :=
  left.filter (· ∈ right)

def difference (left right : StringSet) : StringSet :=
  left.filter (· ∉ right)

def symmetricDifference (left right : StringSet) : StringSet :=
  ⟨mergeUnshared left.members right.members,
    mergeUnshared_increasing left.increasing right.increasing⟩

def isSuperset (left right : StringSet) : Bool :=
  right.members.all (· ∈ left)

def hasAll (set : StringSet) (items : List String) : Bool :=
  items.all (· ∈ set)

def hasAny (set : StringSet) (items : List String) : Bool :=
  items.any (· ∈ set)

/-- The order of string lists: the first difference decides, and a list stands below its
extensions. -/
def orderMembers : List String → List String → Ordering
  | [], [] => .eq
  | [], _ :: _ => .lt
  | _ :: _, [] => .gt
  | x :: left, y :: right => (compare x y).then (orderMembers left right)

def order (left right : StringSet) : Ordering :=
  orderMembers left.members right.members

def render (set : StringSet) : String :=
  "\x7b" ++ " ".intercalate (set.members.map Text.quoted) ++ "\x7d"

end StringSet

end HostValue
